import BodyDigest.Proofs.Arrival
import BodyDigest.Proofs.Comparison
import BodyDigest.Proofs.Encoding
import BodyDigest.Proofs.Project.Survey

/-!
A module that has been written is up to date until the project changes, and from then on a check
reports what has changed since. Writing it into the project makes no difference to the project, as
long as the way to it leads through neither of the two files that a survey reads by name.
-/
namespace BodyDigest

/-- A proper tree, and an absolute path at which relative ones are read. -/
structure Workspace.IsProper (w : Workspace) : Prop where
  tree : w.tree.isProper
  here : w.here.isAbsolute

namespace Command

/-- What holds after a run has written the module of a project, or found it written: the registry is
loaded from it, a check finds no difference, another run finds the module written and changes
nothing, and a check of any later tree with the same module and the same settings reports how the
registry of that tree differs from the one of the run. -/
structure Stable (w : Workspace) (r : Request) (root : Path) (g : Generated) : Prop where
  loads : ∃ s, registryAt g.tree g.target = .ok s ∧ s.agrees g.outcome.registry
  clean : ∀ elapsed, (check ⟨g.tree, w.here⟩ elapsed r).result = .ok ⟨[], [], []⟩
  again : ∀ elapsed isDryRun, (generate ⟨g.tree, w.here⟩ elapsed isDryRun r).result =
    .ok ⟨g.target, g.outcome, false, isDryRun, g.tree⟩
  later : ∀ tree elapsed d, tree.look g.target = g.tree.look g.target →
    tree.look (root.child Settings.fileName) = g.tree.look (root.child Settings.fileName) →
    (check ⟨tree, w.here⟩ elapsed r).result = .ok d →
    ∃ now, (generate ⟨tree, w.here⟩ elapsed true r).result = .ok now ∧
      d = Diff.between g.outcome.registry now.outcome.registry

variable {w : Workspace} {r : Request} {s : Settings} {root target : Path} {t u : Tree}
variable {o : Outcome} {g : Generated} {old : Option Text} {isDryRun : Bool} {cs : List Char}

/-! ### The module that is left -/

theorem textAt_of_chars (h : t.charsAt target = .ok cs) :
    textAt t target = .ok (some (Text.ofChars cs)) := by
  rw [textAt, if_pos (Tree.holds_of_chars h), h]
  rfl

theorem chars_of_textAt {text : Text} (h : textAt t target = .ok (some text)) :
    t.charsAt target = .ok text.chars := by
  rw [textAt] at h
  split at h
  · cases read : t.charsAt target with
    | error e =>
      rw [read] at h
      cases h
    | ok cs =>
      rw [read] at h
      cases h
      rw [Text.chars_ofChars]
  · cases h

theorem top_of_directory {names : List Text} {es : List (Text × Tree)}
    (h : t.get names = .ok (.directory es)) : ∃ fs, t = .directory fs := by
  have reached : t.get ([] ++ names) = .ok (.directory es) := h
  by_cases bare : names = []
  · subst bare
    rw [Tree.get_nil] at h
    exact ⟨es, Except.ok.inj h⟩
  · obtain ⟨fs, top⟩ := Tree.directory_of_below reached bare
    rw [Tree.get_nil] at top
    exact ⟨fs, Except.ok.inj top⟩

/-- What a run leaves: its own module at the target, and the rest as it was. -/
structure Leaves (w : Workspace) (target : Path) (o : Outcome) (g : Generated) : Prop where
  place : g.target = target
  outcome : g.outcome = o
  chars : g.tree.charsAt target = .ok o.artifacts.module.chars
  kept : w.tree.Kept target.Passes (Path.settle [] target.parts) g.tree

theorem Finishes.leaves (tidy : o.artifacts.module.IsTidy) (top : ∃ es, w.tree = .directory es)
    (read : textAt w.tree target = .ok old) (h : Finishes w isDryRun target o old g)
    (real : g.isDryRun = false) : Leaves w target o g := by
  cases h with
  | identical => exact ⟨rfl, rfl, chars_of_textAt read, Tree.Kept.refl _ _ _⟩
  | dry differs asked => cases real
  | written differs asked ok =>
    rename_i tree
    rw [writeText, Utf8.encodeText_plain tidy.plain] at ok
    have written : w.tree.write target (Utf8.encode o.artifacts.module.chars) = .ok tree :=
      except_mapError_ok_iff.mp ok
    obtain ⟨found, kept⟩ := Tree.write_kept top written
    have held : tree.octetsAt target = .ok (Utf8.encode o.artifacts.module.chars) := by
      rw [Tree.octetsAt_eq, found]
      rfl
    exact ⟨rfl, rfl, tidy.charsAt held, kept⟩

theorem Surveys.emitted (h : Surveys w r root s o) (built_in : s.templates = none) :
    Emit.emit [] s.rootClass o.registry = .ok o.artifacts := by
  obtain ⟨ds, _, ran⟩ := h.outcome
  rw [optionsOf, built_in] at ran
  exact (run_ok_iff.mp ran).2.2.1

/-! ### The survey after the run -/

theorem Surveys.after (proper : w.IsProper) (read : r.settings = none)
    (built_in : s.templates = none) (h : Surveys w r root s o)
    (apart : ∀ name ∈ [Scan.ignoreFileName, Settings.fileName],
      ¬ (targetOf w r s).Passes (root.parts ++ [name]))
    (kept : w.tree.Kept (targetOf w r s).Passes (Path.settle [] (targetOf w r s).parts) u) :
    Surveys ⟨u, w.here⟩ r root s o := by
  obtain ⟨place, led⟩ := h.led
  have absolute := targetOf_isAbsolute h read proper.here
  have parts : place.parts = Path.settle [] (targetOf w r s).parts := by
    rw [Path.settled_ok led, Path.join_absolute absolute]
  have passed : (targetOf w r s).Passes place.parts := by
    refine ⟨(targetOf w r s).parts.length, ?_⟩
    rw [List.take_length, parts]
  rw [← parts] at kept
  have same (name : Text) (named : name ∈ [Scan.ignoreFileName, Settings.fileName]) :
      w.tree.ReadsSame u (root.child name) := by
    have no_step : name ≠ Path.upwards := by
      rintro rfl
      revert named
      decide
    apply kept.readsSame (h.settled.child no_step).plain
    · intro at_place
      rw [← at_place] at passed
      exact apart name named passed
    · exact apart name named
  exact h.kept read built_in proper.tree led kept (same _ (by simp)) (same _ (by simp))

/-- The settings stay while their file does, and with them the target. -/
theorem Surveys.same_settings {v : Workspace} {root' : Path} {s' : Settings} {o' : Outcome}
    (read : r.settings = none) (before : Surveys w r root s o) (after : Surveys v r root' s' o')
    (here : v.here = w.here) (same : w.tree.ReadsSame v.tree (root.child Settings.fileName)) :
    root' = root ∧ s' = s := by
  have settled : v.settle r.place = w.settle r.place := by
    rw [Workspace.settle, Workspace.settle, here]
  obtain rfl : root' = root :=
    Except.ok.inj (after.place.symm.trans (settled.trans before.place))
  have loaded := before.settings
  have loaded' := after.settings
  rw [settingsFor, read] at loaded loaded'
  have one : Settings.load v root' = Settings.load w root' :=
    Settings.load_congr before.settled here before.holdsDirectory after.holdsDirectory same
  exact ⟨rfl, Except.ok.inj (loaded'.symm.trans (one.trans loaded))⟩

theorem previousAt_of_chars {registry : Registry} (h : t.charsAt target = .ok cs)
    (found : Indented.registryOfModule cs = .ok registry) :
    registryAt t target = .ok registry ∧ previousAt t target = .ok registry := by
  have loaded : registryAt t target = .ok registry := by
    rw [registryAt, h]
    change (Indented.registryOfModule cs).mapError _ = _
    rw [found]
    rfl
  refine ⟨loaded, ?_⟩
  rw [previousAt, if_pos (Tree.holds_of_chars h), loaded]

theorem Surveys.dry_run (h : Surveys w r root s o) (text : textAt w.tree (targetOf w r s) = .ok old)
    (elapsed : Text) : ∃ g, (generate w elapsed true r).result = .ok g ∧ g.outcome = o := by
  by_cases identical : old = some o.artifacts.module
  · subst identical
    exact ⟨_, generate_ok_iff.mpr ⟨root, s, o, _, h, text, .identical⟩, rfl⟩
  · exact ⟨_, generate_ok_iff.mpr ⟨root, s, o, old, h, text, .dry identical rfl⟩, rfl⟩

/-- As long as the module and the settings stay, a check compares the registry in the module with
the one that a dry run finds. -/
theorem Surveys.check_later {v : Workspace} {registry : Registry} {elapsed : Text} {d : Diff}
    (read : r.settings = none) (h : Surveys w r root s o)
    (chars : w.tree.charsAt (targetOf w r s) = .ok cs)
    (found : Indented.registryOfModule cs = .ok registry) (here : v.here = w.here)
    (same_target : w.tree.ReadsSame v.tree (targetOf w r s))
    (same_settings : w.tree.ReadsSame v.tree (root.child Settings.fileName))
    (checked : (check v elapsed r).result = .ok d) :
    ∃ now, (generate v elapsed true r).result = .ok now ∧
      d = Diff.between registry now.outcome.registry := by
  obtain ⟨root', s', o', previous, surveyed, loaded, rfl⟩ := check_ok_iff.mp checked
  obtain ⟨rfl, rfl⟩ := h.same_settings read surveyed here same_settings
  have target : targetOf v r s' = targetOf w r s' := by
    rw [targetOf, targetOf, here]
  have chars_now : v.tree.charsAt (targetOf v r s') = .ok cs := by
    rw [target, same_target.chars (Tree.holds_of_chars chars), chars]
  obtain ⟨_, held⟩ := previousAt_of_chars chars_now found
  obtain rfl : registry = previous := Except.ok.inj (held.symm.trans loaded)
  obtain ⟨now, ran, rfl⟩ := surveyed.dry_run (textAt_of_chars chars_now) elapsed
  exact ⟨now, ran, rfl⟩

/-- A run with built-in templates is stable, unless the way to its target leads through the file of
the ignore rules or that of the settings. -/
theorem generate_is_stable {elapsed : Text} (proper : w.IsProper) (read : r.settings = none)
    (place : w.settle r.place = .ok root) (loaded : Settings.load w root = .ok s)
    (built_in : s.templates = none)
    (apart : ∀ name ∈ [Scan.ignoreFileName, Settings.fileName],
      ¬ g.target.Passes (root.parts ++ [name]))
    (ok : (generate w elapsed isDryRun r).result = .ok g) (real : g.isDryRun = false) :
    Stable w r root g := by
  obtain ⟨root', s', o, old, surveyed, text, finishes⟩ := generate_ok_iff.mp ok
  obtain rfl : root = root' := Except.ok.inj (place.symm.trans surveyed.place)
  have settings := surveyed.settings
  rw [settingsFor, read] at settings
  obtain rfl : s = s' := Except.ok.inj (loaded.symm.trans settings)
  obtain ⟨tidy, registry, found, agrees⟩ := Emit.emit_read (surveyed.emitted built_in)
  obtain ⟨es, top⟩ := surveyed.directory
  obtain ⟨target, outcome, chars, kept⟩ := finishes.leaves tidy (top_of_directory top) text real
  rw [target] at apart
  have after := surveyed.after proper read built_in apart kept
  obtain ⟨held, previous⟩ := previousAt_of_chars chars found
  constructor
  · rw [target, outcome]
    exact ⟨registry, held, agrees⟩
  · intro elapsed
    exact check_ok_iff.mpr ⟨root, s, o, registry, after, previous, Diff.between_of_agrees agrees⟩
  · intro elapsed isDryRun
    have written := textAt_of_chars chars
    rw [Text.ofChars_chars tidy.plain] at written
    rw [target, outcome]
    exact generate_ok_iff.mpr ⟨root, s, o, _, after, written, .identical⟩
  · intro tree elapsed d same_target same_settings checked
    rw [target] at same_target
    obtain ⟨now, ran, rfl⟩ := @Surveys.check_later ⟨g.tree, w.here⟩ r s root o _ ⟨tree, w.here⟩
      registry elapsed d read after chars found rfl (Tree.readsSame_of_look same_target)
      (Tree.readsSame_of_look same_settings) checked
    have same_current : now.outcome.registry.agrees now.outcome.registry :=
      Registry.agrees_iff_perm.mpr (List.Perm.refl _)
    rw [outcome]
    exact ⟨now, ran, Diff.between_eq_of_agrees agrees same_current⟩

/-! ### A project of one file -/

def home : Path := ⟨.top, ["project"]⟩

/-- A project with one file of one member. -/
def project : Workspace where
  tree := .directory [("project", .directory [
    ("a.py", .file (Utf8.encode "class A:\n    def f(self): return 1\n".toList))])]
  here := home

def request (output : Option Path) : Request := { place := ⟨.relative, []⟩, output := output }

def projectSettings : Settings := { root := home }

def projectMember : Descriptor where
  scope := some "a"
  type := some "A"
  member := "f"
  signature := "f()"
  body := some ⟨.statements, ["                 return 1"], "python"⟩
  location := some ⟨"a.py", 2⟩

theorem project_isProper : project.IsProper := ⟨by decide, by decide⟩

theorem project_settings : Settings.load project home = .ok projectSettings := by rfl

/-- An output below a file of ignore rules that is not there. -/
def belowRules : Path := ⟨.relative, [".gitignore", "x.py"]⟩

theorem project_computed :
    ((registryOf [projectMember]).map Diff.keys = .ok [⟨"a", "A", "f"⟩]) ∧
      ∀ output ∈ [none, some belowRules], (collect project (request output) projectSettings home
        (targetOf project (request output) projectSettings)).result = .ok [projectMember] := by
  decide +kernel

theorem projectMember_runs : ∃ o, run {} [projectMember] = .ok o :=
  run_built_in project_computed.1 (by decide)

/-- A run of the project writes its module where nothing stands. -/
theorem generate_project {output : Option Path} {after : List UInt8 → Tree}
    (collected : (collect project (request output) projectSettings home
      (targetOf project (request output) projectSettings)).result = .ok [projectMember])
    (absent : textAt project.tree (targetOf project (request output) projectSettings) = .ok none)
    (writes : ∀ octets, project.tree.write (targetOf project (request output) projectSettings) octets =
      .ok (after octets)) :
    ∃ g octets, (generate project "0" false (request output)).result = .ok g ∧
      g.isDryRun = false ∧ g.target = targetOf project (request output) projectSettings ∧
        g.tree = after octets ∧ g.isWritten := by
  obtain ⟨o, ran⟩ := projectMember_runs
  have surveyed : Surveys project (request output) home projectSettings o :=
    ⟨by rfl, project_settings, _, collected, ran⟩
  have tidy := (Emit.emit_read (surveyed.emitted rfl)).1
  have written : writeText project.tree (targetOf project (request output) projectSettings)
      o.artifacts.module = .ok (after (Utf8.encode o.artifacts.module.chars)) := by
    rw [writeText, Utf8.encodeText_plain tidy.plain]
    exact congrArg (Except.mapError _) (writes _)
  have finishes := @Finishes.written project false _ o none _ (by simp) rfl written
  exact ⟨_, _, generate_ok_iff.mpr ⟨home, projectSettings, o, none, surveyed, absent, finishes⟩,
    rfl, rfl, rfl, rfl⟩

theorem project_is_stable : ∃ g, (generate project "0" false (request none)).result = .ok g ∧
    g.isDryRun = false ∧ Stable project (request none) home g := by
  obtain ⟨g, octets, ok, real, target, _⟩ := @generate_project none _
    (project_computed.2 _ (by simp)) (by rfl) (fun octets => by rfl)
  refine ⟨g, ok, real, generate_is_stable project_isProper rfl (by rfl) project_settings rfl ?_ ok real⟩
  rw [target]
  decide

/-- An output below a file of ignore rules is written, in a directory that is made in the place of
that file. No check returns after that. -/
theorem output_below_rules_is_not_stable : ∃ r g, project.IsProper ∧ r.settings = none ∧
    r.sources = none ∧ Settings.load project home = .ok projectSettings ∧
    projectSettings.templates = none ∧ project.settle r.place = .ok home ∧
    (∀ name ∈ [Scan.ignoreFileName, Settings.fileName],
      Path.settle [] g.target.parts ≠ home.parts ++ [name]) ∧
    (generate project "0" false r).result = .ok g ∧ g.isDryRun = false ∧
    ∀ elapsed d, (check ⟨g.tree, project.here⟩ elapsed r).result ≠ .ok d := by
  obtain ⟨g, octets, ok, real, target, tree, _⟩ :=
    @generate_project (some belowRules) _ (project_computed.2 _ (by simp)) (by rfl)
      (fun octets => by rfl)
  refine ⟨_, g, project_isProper, rfl, rfl, project_settings, rfl, rfl, ?_, ok, real, ?_⟩
  · rw [target]
    decide
  · intro elapsed d checked
    obtain ⟨root, s, o, previous, surveyed, _⟩ := check_ok_iff.mp checked
    obtain rfl : home = root := Except.ok.inj surveyed.place
    obtain ⟨ds, collected, _⟩ := surveyed.outcome
    obtain ⟨_, _, _, _, _, _, scanned, _⟩ := collect_ok_iff.mp collected
    obtain ⟨_, stated, _, read, _⟩ := Scan.files_ok_iff.mp scanned
    rw [tree] at read
    cases read

end Command

end BodyDigest
