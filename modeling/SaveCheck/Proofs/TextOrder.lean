import Mathlib.Data.List.Basic
import SaveCheck.Text

/-!
Texts in dictionary order: the order is that of the lists of their code points. So it is linear, and it tells any
two texts apart.
-/

namespace SaveCheck.Text
open Std

theorem order_eq_compare (a b : Text) : order a b = compare (a.map Char.toNat) (b.map Char.toNat) := by
  induction a generalizing b with
  | nil => cases b <;> rfl
  | cons c a ih =>
    cases b with
    | nil => rfl
    | cons d b => rw [List.map_cons, List.map_cons, List.compare_cons_cons, order, ih]

theorem order_eq_compareOn : order = compareOn (List.map Char.toNat) :=
  funext fun a => funext (order_eq_compare a)

theorem codes_injective : Function.Injective (List.map Char.toNat) :=
  List.map_injective_iff.mpr fun _ _ h => Char.toNat_inj.mp h

instance : TransCmp order := by
  rw [order_eq_compareOn]; infer_instance

instance : LawfulEqCmp order where
  eq_of_compare := by
    intro a b h
    rw [order_eq_compare, Std.compare_eq_iff_eq] at h
    exact codes_injective h

end SaveCheck.Text
