import BodyDigest.Proofs.Files.Standing
import BodyDigest.Proofs.Project.Stability

/-!
What a run for the module does to the tree: all that can fail comes before the one change, which
concerns the target alone.
-/
namespace BodyDigest

/-! ### Steps that change nothing -/

namespace Traced

variable {α β ε : Type}

instance : LawfulMonad Traced := by
  refine .mk' _ ?_ ?_ ?_
  · rintro α ⟨log, change, _ | a⟩
    · rfl
    · change (⟨log ++ [], none.or change, .ok a⟩ : Traced α) = _
      rw [List.append_nil, Option.none_or]
  · intro α β a f
    change (⟨[] ++ (f a).log, (f a).change.or none, (f a).result⟩ : Traced β) = f a
    rw [List.nil_append, Option.or_none]
  · rintro α β γ ⟨log, change, _ | a⟩ f g
    · rfl
    · cases first : (f a).result with
      | error e => simp [bind, first]
      | ok b => simp [bind, first, Option.or_assoc]

/-- Nothing has been changed. -/
def IsQuiet (x : Traced α) : Prop := x.change = none

theorem isQuiet_lift (cause : ε → CommandError) (e : Except ε α) : (lift cause e).IsQuiet := rfl

theorem isQuiet_say (severity : Severity) (t : Text) : (say severity t).IsQuiet := rfl

/-- What holds of a quiet failure, and of the rest of a command after a quiet step that succeeds,
holds of the command. -/
theorem of_quiet_bind {P : Option Tree → Except CommandError β → Prop} {x : Traced α}
    {f : α → Traced β} (quiet : x.IsQuiet) (fails : ∀ e, P none (.error e))
    (goes : ∀ a, x.result = .ok a → P (f a).change (f a).result) :
    P (x >>= f).change (x >>= f).result := by
  obtain ⟨log, change, result⟩ := x
  obtain rfl : change = none := quiet
  cases result with
  | error e => exact fails e
  | ok a =>
    have rest := goes a rfl
    change P ((f a).change.or none) (f a).result
    rwa [Option.or_none]

theorem IsQuiet.bind {x : Traced α} {f : α → Traced β} (quiet : x.IsQuiet)
    (rest : ∀ a, (f a).IsQuiet) : (x >>= f).IsQuiet :=
  of_quiet_bind (P := fun change _ => change = none) quiet (fun _ => rfl) fun a _ => rest a

theorem IsQuiet.mapM {f : α → Traced β} (each : ∀ a, (f a).IsQuiet) (xs : List α) :
    (xs.mapM f).IsQuiet := by
  induction xs with
  | nil => rfl
  | cons x xs ih =>
    rw [List.mapM_cons]
    exact (each x).bind fun _ => ih.bind fun _ => rfl

end Traced

namespace Command

open Traced (IsQuiet isQuiet_lift isQuiet_say of_quiet_bind)

variable {w : Workspace} {r : Request} {s : Settings} {root target : Path} {t u : Tree}
variable {o : Outcome} {old : Option Text} {isDryRun : Bool} {elapsed : Text}

theorem describeFile_isQuiet (t : Tree) (root : Path) (parts : List Text) (s : Source) :
    (describeFile t root parts s).IsQuiet := by
  rw [describeFile]
  split
  · rfl
  · split
    · rfl
    · exact (isQuiet_say _ _).bind fun _ => rfl
    · split
      · exact (isQuiet_say _ _).bind fun _ => rfl
      · rfl

theorem collect_isQuiet (w : Workspace) (r : Request) (s : Settings) (root output : Path) :
    (collect w r s root output).IsQuiet := by
  refine (isQuiet_lift _ _).bind fun sources => (isQuiet_lift _ _).bind fun place =>
    (isQuiet_lift _ _).bind fun files => (isQuiet_say _ _).bind fun _ => IsQuiet.bind ?_ fun _ => rfl
  exact .mapM (fun parts => .mapM (describeFile_isQuiet w.tree root parts) sources) _

theorem runOn_isQuiet (t : Tree) (s : Settings) (elapsed : Text) (ds : List Descriptor) :
    (runOn t s elapsed ds).IsQuiet :=
  (isQuiet_lift _ _).bind fun _ => IsQuiet.bind rfl fun _ => rfl

/-! ### The one change -/

/-- A target that is absent or holds a text is no directory. -/
theorem standing_of_textAt (plain : Path.upwards ∉ target.parts) (read : textAt t target = .ok old) :
    t.standing target.parts ≠ .directory := by
  intro directory
  obtain ⟨es, found⟩ := Tree.standing_directory_iff.mp directory
  rw [← Tree.look_plain plain] at found
  rw [textAt, Tree.holds, found] at read
  simp only [Except.isOk, Except.toBool, if_true, Tree.charsAt, Tree.octetsAt_eq, found] at read
  cases read

/-- What a run for the module makes of the tree `t`: nothing when it fails, writes no module or is a
dry one, and otherwise a tree that has the module at the target. -/
def IsConfined (t : Tree) (isDryRun : Bool) (change : Option Tree) :
    Except CommandError Generated → Prop
  | .error _ => change.getD t = t
  | .ok g => change.getD t = g.tree ∧ (g.isWritten = false ∨ isDryRun → g.tree = t) ∧
      (g.isWritten → ∃ octets, Utf8.encodeText g.outcome.artifacts.module = .ok octets ∧
        t.Replaces g.tree g.target.parts octets)

/-- The file is written at once or not at all. -/
theorem store_isConfined {cs : List Char} (plain : Path.upwards ∉ target.parts)
    (top : ∃ es, t = .directory es) (free : t.standing target.parts ≠ .directory)
    (encodable : Utf8.encodeText o.artifacts.module = .ok (Utf8.encode cs)) (text : Text) :
    let x : Traced Generated := do
      let tree ← Traced.store (writeText t target o.artifacts.module)
      Traced.say .info text
      return ⟨target, o, true, false, tree⟩
    IsConfined t false x.change x.result := by
  obtain ⟨es, top⟩ := top
  obtain ⟨u, written, replaces⟩ | ⟨e, failed, left⟩ :=
    @Tree.write_plain t es (Utf8.encode cs) target plain top free
  · have stored : writeText t target o.artifacts.module = .ok u := by
      rw [writeText, encodable]
      exact congrArg (Except.mapError _) written
    rw [stored]
    exact ⟨rfl, by simp, fun _ => ⟨_, encodable, replaces⟩⟩
  · have stored : writeText t target o.artifacts.module = .error (.write e.error e.path, t) := by
      rw [writeText, encodable]
      exact (congrArg (Except.mapError _) failed).trans (by rw [← left]; rfl)
    rw [stored]
    rfl

/-- A run for the module with built-in templates, whose target is reached without a step upwards,
changes nothing unless it succeeds, and then at most its target and what is missing above it. -/
theorem generate_changes_only_target
    (built_in : ∀ root s, w.settle r.place = .ok root → settingsFor w r root = .ok s →
      s.templates = none ∧ Path.upwards ∉ (targetOf w r s).parts) :
    let x := generate w elapsed isDryRun r
    IsConfined w.tree isDryRun x.change x.result ∧
      ∀ g, x.result = .ok g → ∃ root s, w.settle r.place = .ok root ∧
        settingsFor w r root = .ok s ∧ g.target = targetOf w r s := by
  constructor
  · rw [generate]
    refine of_quiet_bind (isQuiet_lift _ _) (fun _ => rfl) fun root place => ?_
    refine of_quiet_bind (isQuiet_say _ _) (fun _ => rfl) fun _ _ => ?_
    refine of_quiet_bind (isQuiet_lift _ _) (fun _ => rfl) fun s settings => ?_
    refine of_quiet_bind (collect_isQuiet _ _ _ _ _) (fun _ => rfl) fun ds collected => ?_
    refine of_quiet_bind (runOn_isQuiet _ _ _ _) (fun _ => rfl) fun o ran => ?_
    refine of_quiet_bind (isQuiet_lift _ _) (fun _ => rfl) fun old read => ?_
    have place := Traced.lift_ok_iff.mp place
    have settings := Traced.lift_ok_iff.mp settings
    have read := Traced.lift_ok_iff.mp read
    obtain ⟨own, plain⟩ := built_in root s place settings
    have surveyed : Surveys w r root s o := ⟨place, settings, ds, collected, runOn_ok_iff.mp ran⟩
    split
    · exact ⟨rfl, fun _ => rfl, by simp⟩
    · split
      · exact ⟨rfl, fun _ => rfl, by simp⟩
      · rename_i real
        rw [Bool.not_eq_true] at real
        subst real
        have tidy := (Emit.emit_read (surveyed.emitted own)).1
        obtain ⟨es, top⟩ := surveyed.directory
        exact store_isConfined plain (top_of_directory top) (standing_of_textAt plain read)
          (Utf8.encodeText_plain tidy.plain) _
  · intro g ok
    obtain ⟨root, s, o, old, surveyed, _, finishes⟩ := generate_ok_iff.mp ok
    refine ⟨root, s, surveyed.place, surveyed.settings, ?_⟩
    cases finishes <;> rfl

theorem project_built_in (root : Path) (s : Settings)
    (place : project.settle (request none).place = .ok root)
    (settings : settingsFor project (request none) root = .ok s) :
    s.templates = none ∧ Path.upwards ∉ (targetOf project (request none) s).parts := by
  obtain rfl : home = root := Except.ok.inj place
  obtain rfl : projectSettings = s := Except.ok.inj (project_settings.symm.trans settings)
  exact ⟨rfl, by decide⟩

theorem project_gains_its_module :
    ∃ g octets, (generate project "0" false (request none)).result = .ok g ∧
      project.tree.Replaces g.tree g.target.parts octets := by
  obtain ⟨g, _, ok, _, _, _, written⟩ := @generate_project none _
    (project_computed.2 _ (by simp)) (by rfl) (fun octets => by rfl)
  have confined := (@generate_changes_only_target project (request none) false "0"
    project_built_in).1
  rw [ok] at confined
  obtain ⟨octets, _, replaces⟩ := confined.2.2 written
  exact ⟨g, octets, ok, replaces⟩

end Command

end BodyDigest
