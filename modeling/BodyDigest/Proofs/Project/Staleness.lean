import BodyDigest.Proofs.Project.Stability

/-!
When a module is up to date. A check compares digests, and a run for the module compares texts; the
two agree but for signatures, of which the module keeps a copy.
-/
namespace BodyDigest.Command

variable {v w : Workspace} {r : Request} {s s' : Settings} {root root' : Path} {o o' : Outcome}
variable {before now : Generated} {old : Option Text} {isDryRun : Bool}

/-- Two commands on one workspace find the same. -/
theorem Surveys.unique (h : Surveys w r root s o) (h' : Surveys w r root' s' o') :
    root = root' ∧ s = s' ∧ o = o' := by
  obtain rfl : root = root' := Except.ok.inj (h.place.symm.trans h'.place)
  obtain rfl : s = s' := Except.ok.inj (h.settings.symm.trans h'.settings)
  obtain ⟨ds, collected, ran⟩ := h.outcome
  obtain ⟨ds', collected', ran'⟩ := h'.outcome
  obtain rfl : ds = ds' := Except.ok.inj (collected.symm.trans collected')
  exact ⟨rfl, rfl, Except.ok.inj (ran.symm.trans ran')⟩

/-- A run that is no dry one writes nothing exactly when it finds its module. -/
theorem Finishes.isWritten_iff {target : Path} (h : Finishes w false target o old now) :
    now.isWritten = false ↔ old = some o.artifacts.module := by
  cases h with
  | identical => simp
  | dry differs asked => cases asked
  | written differs asked ok => simp [differs]

theorem Finishes.outcome_eq {target : Path} (h : Finishes w isDryRun target o old now) :
    now.outcome = o := by
  cases h <;> rfl

/-- What a run has left is found again at its target: its text, and a registry that agrees with
that of the run. -/
theorem Leaves.found {target : Path} (left : Leaves v target o before)
    (emitted : Emit.emit [] s.rootClass o.registry = .ok o.artifacts)
    (same : w.tree.look target = before.tree.look target) :
    textAt w.tree target = .ok (some o.artifacts.module) ∧
      ∃ registry, previousAt w.tree target = .ok registry ∧ registry.agrees o.registry := by
  obtain ⟨tidy, registry, found, agrees⟩ := Emit.emit_read emitted
  have chars : w.tree.charsAt target = .ok o.artifacts.module.chars := by
    rw [(Tree.readsSame_of_look same).chars (Tree.holds_of_chars left.chars), left.chars]
  have text := textAt_of_chars chars
  rw [Text.ofChars_chars tidy.plain] at text
  exact ⟨text, registry, (previousAt_of_chars chars found).2, agrees⟩

/-- Emitted modules are the same where digests and signatures are. -/
theorem modules_eq_iff {rootClass : Text} {p q : Registry} {a b : Emit.Artifacts}
    (first : Emit.emit [] rootClass p = .ok a) (second : Emit.emit [] rootClass q = .ok b) :
    a.module = b.module ↔ (∀ k, Diff.digest? p k = Diff.digest? q k) ∧
      ∀ k, (p.find? k).map (·.signature) = (q.find? k).map (·.signature) := by
  rw [← Diff.agrees_iff]
  constructor
  · intro same
    exact (emit_encodes first).agrees (same ▸ emit_encodes second)
  · intro agrees
    rw [emit_eq_of_agrees agrees first second]

/-- A later workspace with the same settings, none of them templates, in which the module that an
earlier run has left still stands. -/
structure Follows (v w : Workspace) (r : Request) (before : Generated) : Prop where
  here : w.here = v.here
  settings : ∃ root s, v.settle r.place = .ok root ∧ settingsFor v r root = .ok s ∧
    settingsFor w r root = .ok s ∧ s.templates = none
  run : ∃ elapsed isDryRun, (generate v elapsed isDryRun r).result = .ok before
  real : before.isDryRun = false
  target : w.tree.look before.target = before.tree.look before.target

/-- Over the module of an earlier run, a check is empty exactly when all keys have the digests that
they had then. Another run finds that module as it is exactly when, besides, no signature has
changed. -/
theorem commands_agree_but_for_signatures {elapsed elapsed' : Text} {d : Diff}
    (follows : Follows v w r before) (checked : (check w elapsed r).result = .ok d)
    (again : (generate w elapsed' false r).result = .ok now) :
    (d.isEmpty ↔ ∀ k, Diff.digest? before.outcome.registry k =
      Diff.digest? now.outcome.registry k) ∧
    (now.isWritten = false ↔ d.isEmpty ∧ ∀ k,
      (before.outcome.registry.find? k).map (·.signature) =
        (now.outcome.registry.find? k).map (·.signature)) := by
  obtain ⟨here, ⟨root, s, place, settings, same_settings, built_in⟩, ⟨_, _, generated⟩, real,
    same_target⟩ := follows
  obtain ⟨root₀, s₀, o₀, old₀, surveyed₀, text₀, finishes₀⟩ := generate_ok_iff.mp generated
  obtain rfl : root = root₀ := Except.ok.inj (place.symm.trans surveyed₀.place)
  obtain rfl : s = s₀ := Except.ok.inj (settings.symm.trans surveyed₀.settings)
  obtain ⟨root₁, s₁, o₁, previous, surveyed₁, loaded, rfl⟩ := check_ok_iff.mp checked
  obtain ⟨root₂, s₂, o₂, old, surveyed₂, text, finishes⟩ := generate_ok_iff.mp again
  obtain ⟨rfl, rfl, rfl⟩ := surveyed₁.unique surveyed₂
  have place' : w.settle r.place = .ok root := by
    rw [Workspace.settle, here]
    exact place
  obtain rfl : root = root₁ := Except.ok.inj (place'.symm.trans surveyed₁.place)
  obtain rfl : s = s₁ := Except.ok.inj (same_settings.symm.trans surveyed₁.settings)
  have target : targetOf w r s = targetOf v r s := by
    rw [targetOf, targetOf, here]
  have emitted := surveyed₀.emitted built_in
  obtain ⟨es, top⟩ := surveyed₀.directory
  have left := finishes₀.leaves (Emit.emit_read emitted).1 (top_of_directory top) text₀ real
  rw [left.place] at same_target
  obtain ⟨found, registry, held, agrees⟩ := left.found emitted same_target
  rw [target] at loaded text
  obtain rfl : registry = previous := Except.ok.inj (held.symm.trans loaded)
  obtain rfl : some o₀.artifacts.module = old := Except.ok.inj (found.symm.trans text)
  have current : o₁.registry.agrees o₁.registry := Registry.agrees_iff_perm.mpr (List.Perm.refl _)
  have modules := modules_eq_iff emitted (surveyed₁.emitted built_in)
  rw [Diff.between_eq_of_agrees agrees current, Diff.isEmpty_between_iff, finishes.isWritten_iff,
    Option.some.injEq, modules, left.outcome, finishes.outcome_eq]
  exact ⟨Iff.rfl, Iff.rfl⟩

/-! ### A parameter that is added -/

def reworkedMember : Descriptor :=
  { projectMember with
    signature := "f(Any)", body := some ⟨.statements, ["                    return 1"], "python"⟩ }

/-- The file of the project with another parameter of its member. -/
def reworkedText : List Char := "class A:\n    def f(self, x): return 1\n".toList

def reworked : Workspace where
  tree := .directory [("project", .directory [("a.py", .file (Utf8.encode reworkedText))])]
  here := home

/-- A file of the project beside the octets of its module. -/
def beside (text : List Char) (octets : List UInt8) : Workspace where
  tree := .directory [("project", .directory [
    ("a.py", .file (Utf8.encode text)), ("hashstamps.py", .file octets)])]
  here := home

theorem targetOf_default (w : Workspace) :
    targetOf w (request none) projectSettings = projectSettings.outputPath := rfl

theorem project_written (octets : List UInt8) :
    project.tree.write projectSettings.outputPath octets =
      .ok (beside "class A:\n    def f(self): return 1\n".toList octets).tree := by
  rfl

theorem reworked_written (octets : List UInt8) :
    reworked.tree.write projectSettings.outputPath octets =
      .ok (beside reworkedText octets).tree := by
  rfl

theorem reworked_computed : (collect reworked (request none) projectSettings home
      projectSettings.outputPath).result = .ok [reworkedMember] ∧
    ((registryOf [reworkedMember]).map Diff.keys = .ok [⟨"a", "A", "f"⟩]) ∧
    (((registryOf [projectMember]).map fun r => r.entries.map fun e => (e.key, e.stamp.digest)) =
      (registryOf [reworkedMember]).map fun r =>
        r.entries.map fun e => (e.key, e.stamp.digest)) ∧
    (((registryOf [projectMember]).map fun r => r.entries.map (·.stamp.signature)) =
      .ok ["f()"]) ∧
    ((registryOf [reworkedMember]).map fun r => r.entries.map (·.stamp.signature)) =
      .ok ["f(Any)"] := by
  decide +kernel

theorem reworkedMember_runs : ∃ o, run {} [reworkedMember] = .ok o :=
  run_built_in reworked_computed.2.1 (by decide)

/-- The module does not hide the member from a survey. -/
theorem reworked_surveyed (octets : List UInt8) (ran : run {} [reworkedMember] = .ok o) :
    Surveys (beside reworkedText octets) (request none) home projectSettings o := by
  have surveyed : Surveys reworked (request none) home projectSettings o :=
    ⟨by rfl, by rfl, _, reworked_computed.1, ran⟩
  obtain ⟨_, kept⟩ := Tree.write_kept ⟨_, rfl⟩ (reworked_written octets)
  exact surveyed.after ⟨by decide, by decide⟩ rfl rfl (by decide) kept

/-- The two members have one digest and two signatures. -/
theorem members_compared {p q : Registry} (first : registryOf [projectMember] = .ok p)
    (second : registryOf [reworkedMember] = .ok q) :
    (Diff.between p q).isEmpty ∧ ¬ p.agrees q := by
  obtain ⟨-, -, digests, before, after⟩ := reworked_computed
  rw [first, second] at digests
  rw [first] at before
  rw [second] at after
  constructor
  · exact Diff.isEmpty_between_iff.mpr (Diff.digest?_eq_of_digests (Except.ok.inj digests))
  · intro agrees
    have same := (Registry.agrees_iff_perm.mp agrees).map (·.stamp.signature)
    have first : p.entries.map (·.stamp.signature) = [Text.ofString "f()"] := Except.ok.inj before
    have second : q.entries.map (·.stamp.signature) = [Text.ofString "f(Any)"] := Except.ok.inj after
    rw [first, second, List.singleton_perm_singleton] at same
    revert same
    decide

/-- A run of the project, and the reworked project with the module that it has left. -/
theorem reworked_follows : ∃ before octets o, run {} [projectMember] = .ok o ∧
    Leaves project projectSettings.outputPath o before ∧
      Follows project (beside reworkedText octets) (request none) before := by
  obtain ⟨before, octets, ok, real, place, tree, _⟩ := @generate_project none _
    (project_computed.2 _ (by simp)) (by rfl) project_written
  obtain ⟨root, s, o, old, surveyed, text, finishes⟩ := generate_ok_iff.mp ok
  obtain rfl : home = root := Except.ok.inj surveyed.place
  obtain rfl : projectSettings = s := Except.ok.inj surveyed.settings
  obtain ⟨ds, collected, ran⟩ := surveyed.outcome
  obtain rfl : [projectMember] = ds := Except.ok.inj ((project_computed.2 none (by simp)).symm.trans collected)
  have tidy := (Emit.emit_read (surveyed.emitted rfl)).1
  refine ⟨before, octets, o, ran, finishes.leaves tidy ⟨_, rfl⟩ text real, rfl,
    ⟨home, projectSettings, by rfl, by rfl, by rfl, rfl⟩, ⟨"0", false, ok⟩, real, ?_⟩
  rw [place, tree, targetOf_default, (Tree.write_kept ⟨_, rfl⟩ (reworked_written octets)).1,
    (Tree.write_kept ⟨_, rfl⟩ (project_written octets)).1]

/-- Both commands return on the reworked project, with an empty difference and a module that is
written again. -/
theorem reworked_runs : ∃ w before d now, Follows project w (request none) before ∧
    (check w "0" (request none)).result = .ok d ∧
      (generate w "0" false (request none)).result = .ok now ∧ d.isEmpty ∧ now.isWritten := by
  obtain ⟨before, octets, o, ran, left, follows⟩ := reworked_follows
  obtain ⟨o', ran'⟩ := reworkedMember_runs
  have surveyed := reworked_surveyed octets ran'
  have emitted' := surveyed.emitted rfl
  have emitted : Emit.emit [] projectSettings.rootClass o.registry = .ok o.artifacts :=
    (run_ok_iff.mp ran).2.2.1
  have same_target := follows.target
  rw [left.place] at same_target
  obtain ⟨found, registry, held, agrees⟩ := left.found emitted same_target
  obtain ⟨empty, apart⟩ := members_compared (run_ok_iff.mp ran).2.1 (run_ok_iff.mp ran').2.1
  have differs : some o.artifacts.module ≠ some o'.artifacts.module := by
    rw [Ne, Option.some.injEq, modules_eq_iff emitted emitted', ← Diff.agrees_iff]
    exact apart
  have tidy' := (Emit.emit_read emitted').1
  have written : writeText (beside reworkedText octets).tree projectSettings.outputPath
      o'.artifacts.module =
        .ok (beside reworkedText (Utf8.encode o'.artifacts.module.chars)).tree := by
    rw [writeText, Utf8.encodeText_plain tidy'.plain]
    rfl
  have checked : (check (beside reworkedText octets) "0" (request none)).result =
      .ok (Diff.between registry o'.registry) :=
    check_ok_iff.mpr ⟨home, projectSettings, o', registry, surveyed, held, rfl⟩
  have again : (generate (beside reworkedText octets) "0" false (request none)).result =
      .ok ⟨projectSettings.outputPath, o', true, false, _⟩ :=
    generate_ok_iff.mpr ⟨home, projectSettings, o', _, surveyed, found,
      .written differs rfl written⟩
  have current : o'.registry.agrees o'.registry := Registry.agrees_iff_perm.mpr (List.Perm.refl _)
  refine ⟨_, before, _, _, follows, checked, again, ?_, rfl⟩
  rw [Diff.between_eq_of_agrees agrees current]
  exact empty

theorem reworked_project_commands_agree : ∃ w before d now, Follows project w (request none) before ∧
    (check w "0" (request none)).result = .ok d ∧
      (generate w "0" false (request none)).result = .ok now ∧
      (∀ k, Diff.digest? before.outcome.registry k = Diff.digest? now.outcome.registry k) ∧
      ¬ ∀ k, (before.outcome.registry.find? k).map (·.signature) =
        (now.outcome.registry.find? k).map (·.signature) := by
  obtain ⟨w, before, d, now, follows, checked, again, empty, written⟩ := reworked_runs
  obtain ⟨digests, signatures⟩ := commands_agree_but_for_signatures follows checked again
  refine ⟨w, before, d, now, follows, checked, again, digests.mp empty, ?_⟩
  intro same
  rw [signatures.mpr ⟨empty, same⟩] at written
  cases written

/-- An empty difference does not mean that a run finds its module as it is. -/
theorem added_parameter_is_seen_by_one_command : ¬ ∀ v w r before d now elapsed elapsed',
    Follows v w r before → (check w elapsed r).result = .ok d →
      (generate w elapsed' false r).result = .ok now → (d.isEmpty ↔ now.isWritten = false) := by
  intro agree
  obtain ⟨w, before, d, now, follows, checked, again, empty, written⟩ := reworked_runs
  have unwritten := (agree project w _ before d now "0" "0" follows checked again).mp empty
  rw [unwritten] at written
  cases written

end BodyDigest.Command
