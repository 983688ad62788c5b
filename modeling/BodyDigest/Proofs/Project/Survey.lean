import BodyDigest.Project.Command
import BodyDigest.Proofs.Emit.Acceptance
import BodyDigest.Proofs.Files.Listing
import BodyDigest.Proofs.Files.Writing

/-!
What a command reads of a project before it compares or writes: the settings, the rules that hide
files, and the files that are shown. A tree that is kept but for the output is surveyed alike.
-/
namespace BodyDigest

/-! ### Results -/

namespace Traced

variable {α β ε : Type}

theorem result_bind (x : Traced α) (f : α → Traced β) :
    (x >>= f).result = x.result.bind fun a => (f a).result := by
  obtain ⟨log, change, result⟩ := x
  cases result <;> rfl

theorem bind_ok_iff {x : Traced α} {f : α → Traced β} {b : β} :
    (x >>= f).result = .ok b ↔ ∃ a, x.result = .ok a ∧ (f a).result = .ok b := by
  rw [result_bind]
  cases x.result <;> simp [Except.bind]

theorem lift_ok_iff {cause : ε → CommandError} {e : Except ε α} {a : α} :
    (lift cause e).result = .ok a ↔ e = .ok a := by
  cases e <;> simp [lift, Except.mapError]

theorem store_ok_iff {e : Except (CommandError × Tree) Tree} {t : Tree} :
    (store e).result = .ok t ↔ e = .ok t := by
  cases e <;> simp [store]

@[simp] theorem pure_ok_iff {a b : α} : (pure a : Traced α).result = .ok b ↔ a = b := by
  change Except.ok a = Except.ok b ↔ _
  rw [Except.ok.injEq]

@[simp] theorem say_ok_iff {severity : Severity} {t : Text} {u : Unit} :
    (say severity t).result = .ok u ↔ True := by
  simp [say]

theorem mapM_congr {f g : α → Traced β} {xs : List α} (h : ∀ x ∈ xs, f x = g x) :
    xs.mapM f = xs.mapM g := by
  have loops (done : List β) : List.mapM.loop f xs done = List.mapM.loop g xs done := by
    induction xs generalizing done with
    | nil => rfl
    | cons x xs ih =>
      rw [List.mapM.loop, List.mapM.loop, h x List.mem_cons_self]
      congr 1
      funext y
      exact ih (fun x member => h x (List.mem_cons_of_mem _ member)) (y :: done)
  exact loops []

end Traced

/-! ### Settings -/

namespace Settings

variable {w v : Workspace} {root f : Path} {s : Settings}

theorem ofMapping_root {l : Yaml.Loaded} {entries : Entries} (h : ofMapping l entries root = .ok s) :
    s.root = root := by
  simp only [ofMapping, except_bind_ok_iff] at h
  obtain ⟨_, _, _, _, _, _, _, _, _, _, _, _, _, _, _, _, h⟩ := h
  cases h
  rfl

theorem ofChars_root {cs : List Char} (h : ofChars cs root = .ok s) : s.root = root := by
  rw [ofChars] at h
  split at h
  · cases h
    rfl
  · split at h
    · cases h
    · cases h
    · simp only at h
      split at h
      · exact ofMapping_root h
      · split at h
        · cases h
          rfl
        · cases h

theorem load_isSettled (h : load w root = .ok s) : s.root.IsSettled := by
  rw [load, except_bind_ok_iff] at h
  obtain ⟨f, found, h⟩ := h
  have settled : f.parent.IsSettled := by
    have parent_settled {q : Path} (h : w.settle q = .ok f) : f.parent.IsSettled := by
      have whole := Path.isSettled_of_settled h
      exact ⟨whole.anchor, fun member => whole.plain (List.dropLast_subset _ member)⟩
    have found := except_mapError_ok_iff.mp found
    rw [file] at found
    split at found
    · exact parent_settled found
    · split at found
      · exact parent_settled found
      · exact parent_settled found
  split at h
  · obtain ⟨cs, _, h⟩ := except_bind_ok_iff.mp h
    rw [ofChars_root h]
    exact settled
  · cases h
    exact settled

/-- The settings of a directory depend on its own file alone. -/
theorem load_congr (settled : root.IsSettled) (here : v.here = w.here)
    (before : w.tree.holdsDirectory root) (after : v.tree.holdsDirectory root)
    (same : w.tree.ReadsSame v.tree (root.child fileName)) : load v root = load w root := by
  have at_root (x : Workspace) : x.here.join root = root := Path.join_absolute settled.isAbsolute
  have one_file : file v root = file w root := by
    rw [file, file, at_root, at_root, if_pos before, if_pos after, Workspace.settle,
      Workspace.settle, here]
  rw [load, load, one_file]
  cases found : file w root with
  | error e => rfl
  | ok f =>
    obtain rfl : f = root.child fileName := by
      rw [file, at_root, if_pos before] at found
      exact (settled.child (by decide)).eq_of_settled found
    simp only [Except.mapError, bind, Except.bind, same.holds]
    split
    · rename_i held
      rw [same.chars held]
    · rfl

end Settings

namespace Command

open Traced (bind_ok_iff lift_ok_iff store_ok_iff)

variable {w : Workspace} {r : Request} {s : Settings} {root output : Path} {t u : Tree}
variable {ds : List Descriptor}

theorem found_congr {p : Path} (same : u.charsAt p = t.charsAt p) (source : Source) :
    source.found u root p = source.found t root p := by
  cases source with
  | indented ignoreDocumentation =>
    simp only [Source.found, Source.indentedMembers, same]
  | braced defaultScope isActive =>
    simp only [Source.found, Source.bracedMembers, same]
  | plugin => rfl

theorem describeFile_congr {parts : List Text}
    (same : u.charsAt (below root parts) = t.charsAt (below root parts)) (source : Source) :
    describeFile u root parts source = describeFile t root parts source := by
  simp only [describeFile, found_congr same]

theorem collect_ok_iff : (collect w r s root output).result = .ok ds ↔
    ∃ sources place files found, sourcesOf r s = .ok sources ∧ w.settle output = .ok place ∧
      Scan.files w.tree root root s.excludes = .ok files ∧
      ((files.filter fun parts => below root parts ≠ place).mapM fun parts =>
        sources.mapM (describeFile w.tree root parts)).result = .ok found ∧
      found.flatten.flatten = ds := by
  rw [collect]
  simp only [bind_ok_iff, lift_ok_iff, Traced.say_ok_iff, Traced.pure_ok_iff, true_and, exists_const]
  constructor
  · rintro ⟨sources, known, place, led, files, shown, found, described, same⟩
    exact ⟨sources, place, files, found, known, led, shown, described, same⟩
  · rintro ⟨sources, place, files, found, known, led, shown, described, same⟩
    exact ⟨sources, known, place, led, files, shown, found, described, same⟩

/-- A shown file other than the one at `place` is read alike after a change there. -/
theorem charsAt_below {touched : List Text → Prop} {es : List (Text × Tree)} {parts : List Text}
    {rules : List IgnoreRule} {place : Path} (kept : w.tree.Kept touched place.parts u)
    (settled : root.IsSettled) (proper : w.tree.isProper)
    (found : w.tree.get root.parts = .ok (.directory es))
    (shown : parts ∈ Scan.shownIn rules [] es) (other : root.parts ++ parts ≠ place.parts) :
    u.charsAt (below root parts) = w.tree.charsAt (below root parts) := by
  have entries_proper := Tree.isProper_get proper found
  rw [Tree.isProper] at entries_proper
  obtain ⟨rest, octets, same, plain, reached⟩ :=
    Scan.isFileAt_of_shownIn es [] entries_proper shown
  rw [List.nil_append] at same
  subst same
  have all_plain : Path.upwards ∉ (below root parts).parts := by
    intro member
    rcases List.mem_append.mp member with above | inside
    · exact settled.plain above
    · exact plain inside
  apply kept.charsAt_file all_plain other
  rw [below, Tree.get_append, found]
  exact reached

/-- The same descriptors are collected after a change of the output alone. -/
theorem collect_kept {touched : List Text → Prop} {place : Path}
    (kept : w.tree.Kept touched place.parts u) (settled : root.IsSettled)
    (proper : w.tree.isProper) (led : w.settle output = .ok place)
    (same : w.tree.ReadsSame u (root.child Scan.ignoreFileName))
    (collected : (collect w r s root output).result = .ok ds) :
    (collect ⟨u, w.here⟩ r s root output).result = .ok ds := by
  obtain ⟨sources, place', files, found, known, led', scanned, described, flat⟩ :=
    collect_ok_iff.mp collected
  obtain rfl : place = place' := Except.ok.inj (led.symm.trans led')
  obtain ⟨es, stated, top, read, rfl⟩ := Scan.files_ok_iff.mp scanned
  rw [Tree.look_plain settled.plain] at top
  obtain ⟨fs, stays, shown_same⟩ := kept.directory _ _ top
  have apart (parts : List Text) : below root parts ≠ place ↔ root.parts ++ parts ≠ place.parts := by
    have anchor := (Path.isSettled_of_settled led).anchor
    obtain ⟨_, _⟩ := place
    simp only at anchor
    simp [below, settled.anchor, anchor]
  apply collect_ok_iff.mpr
  refine ⟨sources, place, _, found, known, led,
    Scan.files_ok_iff.mpr ⟨fs, stated, ?_, (Scan.statedRules_congr same).trans read, rfl⟩, ?_, flat⟩
  · rw [Tree.look_plain settled.plain, stays]
  · simp only [apart, Scan.filter_mergeSort, shown_same] at described ⊢
    rw [← described]
    congr 1
    apply Traced.mapM_congr
    intro parts member
    apply Traced.mapM_congr
    intro source _
    apply describeFile_congr
    have inside := List.mem_filter.mp (List.mem_mergeSort.mp member)
    exact charsAt_below kept settled proper top inside.1 (of_decide_eq_true inside.2)

/-! ### Surveys -/

/-- What a command finds of the project in a workspace: its directory, its settings, and the outcome
of the run over its descriptors. -/
structure Surveys (w : Workspace) (r : Request) (root : Path) (s : Settings) (o : Outcome) : Prop where
  place : w.settle r.place = .ok root
  settings : settingsFor w r root = .ok s
  outcome : ∃ ds, (collect w r s root (targetOf w r s)).result = .ok ds ∧
    run (optionsOf w.tree s) ds = .ok o

variable {o o' : Outcome} {root' : Path} {s' : Settings}

theorem Surveys.settled (h : Surveys w r root s o) : root.IsSettled :=
  Path.isSettled_of_settled h.place

theorem Surveys.directory (h : Surveys w r root s o) :
    ∃ es, w.tree.get root.parts = .ok (.directory es) := by
  obtain ⟨ds, collected, _⟩ := h.outcome
  obtain ⟨_, _, _, _, _, _, scanned, _⟩ := collect_ok_iff.mp collected
  obtain ⟨es, _, top, _⟩ := Scan.files_ok_iff.mp scanned
  exact ⟨es, (Tree.look_plain h.settled.plain w.tree) ▸ top⟩

theorem Surveys.holdsDirectory (h : Surveys w r root s o) : w.tree.holdsDirectory root := by
  obtain ⟨es, top⟩ := h.directory
  rw [Tree.holdsDirectory, Tree.look_plain h.settled.plain, top]
  rfl

/-- A target that is asked for or read from the settings is absolute, and so is settled as it is. -/
theorem targetOf_isAbsolute (h : Surveys w r root s o) (read : r.settings = none)
    (here : w.here.isAbsolute) : (targetOf w r s).isAbsolute := by
  rw [targetOf]
  split
  · exact Path.join_isAbsolute here _
  · have loaded := h.settings
    rw [settingsFor, read] at loaded
    exact Path.join_isAbsolute (Settings.load_isSettled loaded).isAbsolute _

theorem Surveys.led (h : Surveys w r root s o) :
    ∃ place, w.settle (targetOf w r s) = .ok place := by
  obtain ⟨ds, collected, _⟩ := h.outcome
  obtain ⟨_, place, _, _, _, led, _⟩ := collect_ok_iff.mp collected
  exact ⟨place, led⟩

/-- A change of the output alone is not noticed. -/
theorem Surveys.kept {touched : List Text → Prop} {place : Path} (h : Surveys w r root s o)
    (read : r.settings = none) (built_in : s.templates = none) (proper : w.tree.isProper)
    (led : w.settle (targetOf w r s) = .ok place) (kept : w.tree.Kept touched place.parts u)
    (ignored : w.tree.ReadsSame u (root.child Scan.ignoreFileName))
    (stated : w.tree.ReadsSame u (root.child Settings.fileName)) :
    Surveys ⟨u, w.here⟩ r root s o where
  place := h.place
  settings := by
    obtain ⟨es, top⟩ := h.directory
    obtain ⟨fs, stays, _⟩ := kept.directory _ _ top
    have after : u.holdsDirectory root := by
      rw [Tree.holdsDirectory, Tree.look_plain h.settled.plain, stays]
      rfl
    have loaded := h.settings
    rw [settingsFor, read] at loaded ⊢
    have same : Settings.load ⟨u, w.here⟩ root = Settings.load w root :=
      Settings.load_congr h.settled rfl h.holdsDirectory after stated
    exact same.trans loaded
  outcome := by
    obtain ⟨ds, collected, ran⟩ := h.outcome
    refine ⟨ds, collect_kept kept h.settled proper led ignored collected, ?_⟩
    rw [optionsOf, built_in] at ran ⊢
    exact ran

/-! ### Commands -/

theorem runOn_ok_iff {elapsed : Text} : (runOn t s elapsed ds).result = .ok o ↔
    run (optionsOf t s) ds = .ok o := by
  rw [runOn]
  simp only [bind_ok_iff, lift_ok_iff, Traced.pure_ok_iff]
  constructor
  · rintro ⟨_, ran, _, _, rfl⟩
    exact ran
  · intro ran
    exact ⟨o, ran, (), trivial, rfl⟩

theorem check_ok_iff {elapsed : Text} {d : Diff} : (check w elapsed r).result = .ok d ↔
    ∃ root s o previous, Surveys w r root s o ∧
      previousAt w.tree (targetOf w r s) = .ok previous ∧
      Diff.between previous o.registry = d := by
  have said {c : Bool} {a b : Text} {changes : Diff} :
      (if c then do Traced.say .info a; return changes
        else do Traced.say .info b; return changes : Traced Diff).result = .ok d ↔ changes = d := by
    cases c <;> simp [bind_ok_iff]
  rw [check]
  simp only [bind_ok_iff, lift_ok_iff, runOn_ok_iff, said]
  constructor
  · rintro ⟨root, place, s, settings, previous, found, ds, collected, o, ran, same⟩
    exact ⟨root, s, o, previous, ⟨place, settings, ds, collected, ran⟩, found, same⟩
  · rintro ⟨root, s, o, previous, ⟨place, settings, ds, collected, ran⟩, found, same⟩
    exact ⟨root, place, s, settings, previous, found, ds, collected, o, ran, same⟩

/-- What a run for the module does once its text is known. -/
inductive Finishes (w : Workspace) (isDryRun : Bool) (target : Path) (o : Outcome) :
    Option Text → Generated → Prop
  | identical : Finishes w isDryRun target o (some o.artifacts.module)
      ⟨target, o, false, isDryRun, w.tree⟩
  | dry {old : Option Text} (differs : old ≠ some o.artifacts.module) (asked : isDryRun) :
      Finishes w isDryRun target o old ⟨target, o, false, true, w.tree⟩
  | written {old : Option Text} {tree : Tree} (differs : old ≠ some o.artifacts.module)
      (asked : isDryRun = false) (ok : writeText w.tree target o.artifacts.module = .ok tree) :
      Finishes w isDryRun target o old ⟨target, o, true, false, tree⟩

theorem generate_ok_iff {elapsed : Text} {isDryRun : Bool} {g : Generated} :
    (generate w elapsed isDryRun r).result = .ok g ↔
      ∃ root s o old, Surveys w r root s o ∧ textAt w.tree (targetOf w r s) = .ok old ∧
        Finishes w isDryRun (targetOf w r s) o old g := by
  rw [generate]
  simp only [bind_ok_iff, lift_ok_iff, runOn_ok_iff, Traced.say_ok_iff, true_and, exists_const]
  constructor
  · rintro ⟨root, place, s, settings, ds, collected, o, ran, old, read, h⟩
    refine ⟨root, s, o, old, ⟨place, settings, ds, collected, ran⟩, read, ?_⟩
    split at h
    · rename_i same
      subst same
      simp only [bind_ok_iff, Traced.pure_ok_iff] at h
      obtain ⟨_, _, rfl⟩ := h
      exact .identical
    · rename_i differs
      split at h
      · rename_i asked
        simp only [bind_ok_iff, Traced.pure_ok_iff] at h
        obtain ⟨_, _, rfl⟩ := h
        exact .dry differs asked
      · rename_i asked
        simp only [bind_ok_iff, store_ok_iff, Traced.pure_ok_iff] at h
        obtain ⟨tree, ok, _, _, rfl⟩ := h
        exact .written differs (by simpa using asked) ok
  · rintro ⟨root, s, o, old, ⟨place, settings, ds, collected, ran⟩, read, h⟩
    refine ⟨root, place, s, settings, ds, collected, o, ran, old, read, ?_⟩
    cases h with
    | identical =>
      rw [if_pos rfl]
      simp only [bind_ok_iff, Traced.pure_ok_iff]
      exact ⟨(), rfl, trivial⟩
    | dry differs asked =>
      rw [if_neg differs, if_pos asked]
      simp only [bind_ok_iff, Traced.pure_ok_iff]
      exact ⟨(), rfl, trivial⟩
    | written differs asked ok =>
      rw [if_neg differs, if_neg (by simp [asked])]
      simp only [bind_ok_iff, store_ok_iff, Traced.pure_ok_iff]
      exact ⟨_, ok, (), rfl, rfl⟩

end Command

end BodyDigest
