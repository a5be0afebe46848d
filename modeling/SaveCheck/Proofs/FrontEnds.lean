import SaveCheck.Proofs.ExitStatus
import SaveCheck.Proofs.FailedSaves
import SaveCheck.Proofs.FileUrl
import SaveCheck.Proofs.Rooted

/-!
The command line and the editor come to the same about a file.

    check /proj/a.go                prints what the check finds
    save  file:///proj/a.go         publishes what the check finds, a message for each of its files

Both take the settings from the same places and check with the same tools. A session that has heard of no
settings and has published nothing adds nothing of its own.
-/

namespace SaveCheck

/-! ### The file that a URL stands for -/

/-- No name that is text is strange. -/
theorem Disk.strangePlace?_encode (d : Disk) : ∀ (names : List Text) (here : Place),
    d.strangePlace? here (names.map Utf8.encode) = none
  | [], _ => rfl
  | name :: names, here => by
    rw [List.map_cons, strangePlace?, Utf8.decode?_encode]
    dsimp only
    cases d.step here name with
    | ok there => exact strangePlace?_encode d names there
    | error fault => rfl

namespace Editor.Session

theorem seemingPlace?_of_text {u : Url} {file : Path} (hfile : u.fileBytes? = some (Utf8.encode file))
    (d : Disk) : seemingPlace? d u = none := by
  have hcells : Text.cells (· = 0x2f) (Utf8.encode file) = (Path.pieces file).map Utf8.encode :=
    @Utf8.cells_encode '/' (by decide) file
  rw [seemingPlace?, hfile, Option.bind_some, hcells, Disk.strangePlace?_encode]

theorem goFile?_of_text {u : Url} {file : Path} (hfile : u.fileBytes? = some (Utf8.encode file))
    (hgo : Path.extension? file = some goExtension) : goFile? u = some file := by
  rw [goFile?, Url.filePath?, hfile, Option.map_some, Utf8.decodeLossy_encode]
  exact if_pos hgo

end Editor.Session

/-! ### The front ends -/

namespace Editor

/-- Where a command line with no overrides is good, so is that of a session with the same options, and the
settings for every file are the same. -/
theorem exists_serve {h : Host} {d : Disk} {options : CommandLine} (level : Text) {format : Format}
    {file : Path} {cli : Config}
    (hcli : Config.ofCommandLine h d { options with command := .check file format {} } = .ok cli) :
    ∃ lsp, Config.ofCommandLine h d { options with command := .serve, logLevel := level } = .ok lsp ∧
      ∀ p, lsp.settingsFor h d p = cli.settingsFor h d p := by
  rw [Config.ofCommandLine] at hcli ⊢
  dsimp only at hcli ⊢
  split at hcli
  · next p hp =>
    split at hcli
    · next hfound =>
      obtain rfl := Except.ok.inj hcli
      rw [hp]
      exact ⟨_, if_pos hfound, fun _ => rfl⟩
    · cases hcli
  · next hnone =>
    obtain rfl := Except.ok.inj hcli
    rw [hnone]
    exact ⟨_, rfl, fun _ => rfl⟩

/-- What is sent about diagnostics that were found: one message for each of their files under its own URL. If none
were found because of a failure no file has a message, and the user is told one error. -/
structure Publishes (found : Option (List Diagnostic)) (sent : List Sent) : Prop where
  files : ∀ ds, found = some ds → List.Forall₂ Session.UnderUrl (groupByFile ds) (publications sent) ∧
    ((publications sent).map (·.1)).Nodup
  failure : found = none → publications sent = [] ∧ ∃ message, errors sent = [message]

namespace Session

variable {s : Session} {c : Config} {h : Host} {d : Disk} {m : Message} {u : Url} {file : Path} {cycle : Cycle}
  {settings : Except ConfigError Settings}

/-- As long as nothing is published a session publishes just what a cycle has found. -/
theorem publishes_conclude (hpublished : s.published = {}) (hcycle : Cycle.Of h d file settings cycle) (saved : Url) :
    Publishes cycle.found? (s.conclude d saved cycle).sent := by
  constructor
  · intro ds hds
    obtain ⟨settings, scene, rfl⟩ := Cycle.found?_eq_some_iff.mp hds
    have hrooted : ∀ x ∈ ds, x.Rooted := (Cycle.Of.checked_iff.mp hcycle).2.rooted ds rfl
    rw [conclude, publications_append, publications_account, List.nil_append, sent_publish hpublished,
      publications_marks]
    exact ⟨marksByUrl_complete hrooted, nodup_marksByUrl ds⟩
  · intro hnone
    obtain ⟨message, hfailure⟩ := Cycle.exists_failure hnone
    obtain ⟨hpublications, herrors, -⟩ := conclude_of_failure (s := s) hfailure d saved
    exact ⟨hpublications, message, herrors⟩

/-- The command line tells of the same failure, perhaps with fewer words. -/
theorem complaint_of_failure {message : Text} (hfailure : cycle.failure? = some message) (limit : Text)
    (format : Format) : ∃ told, (Program.conclude limit format cycle).complaint = "Error: ".toList ++ told ++ ['\n'] ∧
      told <:+ message := by
  rcases cycle with e | ⟨settings, e | ds, scene⟩
  · obtain rfl := Option.some.inj hfailure
    exact ⟨_, rfl, List.suffix_refl _⟩
  · obtain rfl := Option.some.inj hfailure
    exact ⟨_, rfl, List.suffix_append ..⟩
  · cases hfailure

/-- The save of a Go file comes to what its cycle can come to. -/
theorem handles_iff (hchecks : s.checks? m = some (u, file)) {t : Turn} : s.Handles c h d m t ↔ ∃ cycle,
    Cycle.Of h (diskFor d u) file (s.settingsFor c h (diskFor d u) file) cycle ∧ t = s.conclude d u cycle := by
  constructor
  · intro ht
    cases ht with
    | cycle hchecks' hcycle =>
      obtain ⟨rfl, rfl⟩ := Prod.mk.inj (Option.some.inj (hchecks.symm.trans hchecks'))
      exact ⟨_, hcycle, rfl⟩
    | plain hnone =>
      rw [hchecks] at hnone
      cases hnone
  · rintro ⟨cycle, hcycle, rfl⟩
    exact .cycle hchecks hcycle

/-- A session that has heard of no settings and has published nothing goes through the same cycles about a Go file
that is saved as the command line with the same options. Where the two come to the same cycle, and so where their
checks take their steps in the same order, the save publishes just what was found, one message for each file under
the file's own URL, or else publishes nothing and tells of the same failure. Where the checks are independent that
holds of every two orders, but that another of the failures may be told. -/
theorem save_agrees (options : CommandLine) (level : Text) (format : Format) {cli : Config}
    (hcli : Config.ofCommandLine h d { options with command := .check file format {} } = .ok cli)
    (hurl : u.fileBytes? = some (Utf8.encode file)) (hgo : Path.extension? file = some goExtension)
    (hready : s.phase = .ready) (hsaved : m.saved? = some u) (hsettings : s.settings = none)
    (hpublished : s.published = {}) :
    ∃ lsp, Config.ofCommandLine h d { options with command := .serve, logLevel := level } = .ok lsp ∧
      (∀ t, s.Handles lsp h d m t ↔
        ∃ cycle, Cycle.Of h d file (cli.settingsFor h d file) cycle ∧ t = s.conclude d u cycle) ∧
      (∃ cycle, Cycle.Of h d file (cli.settingsFor h d file) cycle ∧
        Program.check cli h d file format = Program.conclude cli.logLevel format cycle ∧
        s.handle lsp h d m = s.conclude d u cycle) ∧
      (∀ cycle, Cycle.Of h d file (cli.settingsFor h d file) cycle →
        Publishes cycle.found? (s.conclude d u cycle).sent ∧
        ∀ message, cycle.failure? = some message → errors (s.conclude d u cycle).sent = [message] ∧
          ∃ told, (Program.conclude cli.logLevel format cycle).complaint = "Error: ".toList ++ told ++ ['\n'] ∧
            told <:+ message) ∧
      (Cycle.Independent h d file (cli.settingsFor h d file) →
        ∀ cycle t, Cycle.Of h d file (cli.settingsFor h d file) cycle → s.Handles lsp h d m t →
          Publishes cycle.found? t.sent) := by
  obtain ⟨lsp, hlsp, hsame⟩ := exists_serve level hcli
  have hfile : goFile? u = some file := goFile?_of_text hurl hgo
  have hdisk : diskFor d u = d := by rw [diskFor, seemingPlace?_of_text hurl]
  have hlayers : s.settingsFor lsp h d file = cli.settingsFor h d file := by
    rw [settingsFor, hsettings]
    exact hsame file
  have hhandles : ∀ t, s.Handles lsp h d m t ↔
      ∃ cycle, Cycle.Of h d file (cli.settingsFor h d file) cycle ∧ t = s.conclude d u cycle := by
    intro t
    rw [handles_iff (checks?_eq_some_iff.mpr ⟨hready, hsaved, hfile⟩), hdisk, hlayers]
  refine ⟨lsp, hlsp, hhandles, ⟨_, Cycle.of_inTurn .., Program.check_eq_conclude cli, ?_⟩, fun cycle hcycle => ?_, ?_⟩
  · rw [handle_of_saved hready hsaved, save_eq_conclude hfile, hdisk, hlayers]
  · refine ⟨publishes_conclude hpublished hcycle u, fun message hfailure => ⟨?_, complaint_of_failure hfailure _ _⟩⟩
    exact (conclude_of_failure hfailure d u).2.1
  · rintro hind cycle t hcycle ht
    obtain ⟨cycle', hcycle', rfl⟩ := (hhandles t).mp ht
    rw [hcycle.found?_eq hind hcycle']
    exact publishes_conclude hpublished hcycle' u

/-- The checks of the workshop that are enabled by default change nothing. -/
theorem independent_workshop : Cycle.Independent Checker.workshop Checker.workshopDisk "/p/a.go".toList (.ok {}) := by
  intro s go p dir hs hgo htarget
  obtain rfl := Except.ok.inj hs
  obtain rfl := Option.some.inj ((by decide +kernel :
    (Checker.ofHost Checker.workshop {} Checker.workshopDisk).toolchain.go = some "/b/go".toList).symm.trans hgo)
  obtain ⟨rfl, rfl⟩ := Prod.mk.inj (Except.ok.inj htarget)
  refine Checker.independent_of_unchanged fun k d₁ hk hdoes => ?_
  cases k with
  | build =>
    obtain ⟨content, hread, rfl⟩ := hdoes
    obtain rfl := Except.ok.inj hread
    rfl
  | lint | vet =>
    obtain rfl := hdoes
    rfl
  | cover => cases hk

/-- In the workshop, in whatever order the checks take their steps, the save of a source publishes under its URL what
the command line finds in it. -/
theorem save_agrees_workshop :
    ∃ cli lsp, Config.ofCommandLine Checker.workshop Checker.workshopDisk
        ⟨"info".toList, none, none, .check "/p/a.go".toList .text {}⟩ = .ok cli ∧
      Config.ofCommandLine Checker.workshop Checker.workshopDisk ⟨"warn".toList, none, none, .serve⟩ = .ok lsp ∧
      (Program.check cli Checker.workshop Checker.workshopDisk "/p/a.go".toList .text).out =
        "/p/a.go:1:1: error: odd\n/p/a.go:1:1: warning: odd\n".toList ∧
      ∀ t, ({ phase := .ready } : Session).Handles lsp Checker.workshop Checker.workshopDisk
          (saveMessage "file:///p/a.go".toList) t →
        publications t.sent = [("file:///p/a.go".toList,
          [⟨⟨0, 0⟩, ⟨0, 4294967295⟩, 1, "go-check".toList, "odd".toList⟩,
            ⟨⟨0, 0⟩, ⟨0, 4294967295⟩, 2, "go-check".toList, "odd".toList⟩])] := by
  let options : CommandLine := ⟨"info".toList, none, none, .serve⟩
  let cli : Config := ⟨none, none, {}, "info".toList⟩
  have hcli : Config.ofCommandLine Checker.workshop Checker.workshopDisk
      { options with command := .check "/p/a.go".toList .text {} } = .ok cli := rfl
  obtain ⟨u, hu⟩ : ∃ u, Url.ofPath? "/p/a.go".toList = some u := Url.exists_ofPath? rfl
  have hwrite : u.write = "file:///p/a.go".toList := by
    have hpath : (Url.ofPath? "/p/a.go".toList).map Url.write = some "file:///p/a.go".toList := by decide +kernel
    rw [hu] at hpath
    exact Option.some.inj hpath
  have hsaved : (saveMessage "file:///p/a.go".toList).saved? = some u := by
    have hparse : Url.parse? "file:///p/a.go".toList = Url.ofPath? "/p/a.go".toList := by decide +kernel
    exact saveMessage_saved? (hparse.trans hu)
  have hsettings : cli.settingsFor Checker.workshop Checker.workshopDisk "/p/a.go".toList = .ok {} := by
    decide +kernel
  obtain ⟨lsp, hlsp, -, -, -, hall⟩ := save_agrees (s := { phase := .ready }) options "warn".toList .text hcli
    (Url.fileBytes?_ofPath?_of_names hu (by decide)) (by decide) rfl hsaved rfl rfl
  refine ⟨cli, lsp, hcli, hlsp, by decide +kernel, fun t ht => ?_⟩
  rw [hsettings] at hall
  obtain ⟨hfiles, -⟩ := hall independent_workshop _ t (Cycle.of_inTurn ..) ht
  have hfound : (Cycle.inTurn Checker.workshop Checker.workshopDisk "/p/a.go".toList (.ok {})).found? =
      some [Checker.workshopFault .error, Checker.workshopFault .warning] := by decide +kernel
  have hgroups : groupByFile [Checker.workshopFault .error, Checker.workshopFault .warning] =
      [("/p/a.go".toList, [⟨⟨0, 0⟩, ⟨0, 4294967295⟩, 1, "go-check".toList, "odd".toList⟩,
        ⟨⟨0, 0⟩, ⟨0, 4294967295⟩, 2, "go-check".toList, "odd".toList⟩])] := by decide
  obtain ⟨hmarks, -⟩ := hfiles _ hfound
  rw [hgroups] at hmarks
  obtain ⟨message, rest, ⟨v, hv, rfl⟩, hrest, hpubs⟩ := List.forall₂_cons_left_iff.mp hmarks
  obtain rfl := Option.some.inj (hu.symm.trans hv)
  rw [hpubs, List.forall₂_nil_left_iff.mp hrest, hwrite]

end Session

end Editor

end SaveCheck
