import SaveCheck.Editor.Message

/-!
Which files show marks because of which saved document. A check of one document can report issues in
other files, so a file is cleared only once no document claims it any more.

    record "a" ["x", "y"]   a claims x, y
    record "b" ["y"]        a claims x, y    b claims y
    record "a" []           b claims y       x is stale, y is not
-/

namespace SaveCheck.Editor

/-- The claims of the documents saved so far: each document once, with the files of its last check. -/
structure Published where
  claims : List (Text × List Text) := []
  deriving DecidableEq, Repr

namespace Published

/-- Put a text where it belongs in an ascending list, once. -/
def insert (t : Text) : List Text → List Text
  | [] => [t]
  | s :: rest =>
    match Text.order t s with
    | .lt => t :: s :: rest
    | .eq => s :: rest
    | .gt => s :: insert t rest

/-- The members of a list, once each and in ascending order. -/
def sorted (ts : List Text) : List Text := ts.foldr insert []

/-- The files that a document claims. -/
def claimsOf (p : Published) (saved : Text) : List Text := (p.claims.lookup saved).getD []

/-- Whether some document claims a file. -/
def isClaimed (p : Published) (file : Text) : Bool := p.claims.any (·.2.contains file)

/-- The claims once `saved` claims the files of `current` and no others. -/
def claim (p : Published) (saved : Text) (current : List Text) : Published :=
  ⟨(saved, current) :: p.claims.filter (·.1 ≠ saved)⟩

/-- Record the files that a check of `saved` reported on. The second part lists the files that no
document claims any more, in ascending order. -/
def record (p : Published) (saved : Text) (current : List Text) : Published × List Text :=
  let p' := p.claim saved current
  (p', sorted ((p.claimsOf saved).filter (! p'.isClaimed ·)))

/-- Publish the marks that a check of `saved` found in each file, and clear the files that no document
claims any more. -/
def publish (p : Published) (saved : Text) (marks : List (Text × List Marker)) : Published × List Sent :=
  let (p', stale) := p.record saved (marks.map (·.1))
  (p', marks.map (fun (url, found) => .published url found) ++ stale.map (.published · []))

end Published

end SaveCheck.Editor
