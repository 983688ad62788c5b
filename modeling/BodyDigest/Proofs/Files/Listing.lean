import BodyDigest.Proofs.Files.Writing
import BodyDigest.Proofs.Results

/-!
When a scan succeeds, and what it lists then: the sorted places of all files, but for those that are
not visible under the rules of the directory and the excluding ones behind them.
-/
namespace BodyDigest.Scan

variable {t u : Tree} {root asked : Path} {excludes : List Text} {stated : List IgnoreRule}
variable {es : List (Text × Tree)}

theorem files_ok_iff {found : List (List Text)} :
    files t root asked excludes = .ok found ↔
      ∃ es stated, t.look root = .ok (.directory es) ∧ statedRules t root = .ok stated ∧
        found = (shownIn (stated ++ excludes.filterMap (IgnoreRule.ofText false)) [] es).mergeSort
          Path.partsLe := by
  rw [files]
  cases t.look root with
  | error e => simp
  | ok v =>
    cases v with
    | file octets => simp
    | directory es =>
      simp only [except_bind_ok_iff, except_mapError_ok_iff, Except.ok.injEq, Tree.directory.injEq]
      constructor
      · rintro ⟨stated, read, same⟩
        exact ⟨es, stated, rfl, read, (Except.ok.inj same).symm⟩
      · rintro ⟨_, stated, rfl, read, rfl⟩
        exact ⟨stated, read, rfl⟩

theorem statedRules_congr (same : t.ReadsSame u (root.child ignoreFileName)) :
    statedRules u root = statedRules t root := by
  rw [statedRules, statedRules, same.holds]
  split
  · rename_i held
    rw [same.chars held]
  · rfl

/-- The rules of a scan: those that the directory states, and behind them the excluding ones. -/
def rulesOf (stated : List IgnoreRule) (excludes : List Text) : List IgnoreRule :=
  stated ++ excludes.filterMap (IgnoreRule.ofText false)

theorem files_eq_filter (there : t.look root = .ok (.directory es))
    (read : statedRules t root = .ok stated) (asked : Path) (excludes : List Text) :
    files t root asked excludes = .ok
      (((placesIn [] es).mergeSort Path.partsLe).filter (Visible (rulesOf stated excludes) 1 ·)) := by
  refine files_ok_iff.mpr ⟨es, stated, there, read, ?_⟩
  rw [filter_mergeSort, shownIn_eq_filter]
  rfl

/-- Whether a scan succeeds is settled by the directory and its rules, and not by what it excludes. -/
theorem files_cases (t : Tree) (root asked : Path) :
    (∃ es stated, t.look root = .ok (.directory es) ∧ statedRules t root = .ok stated) ∨
      ∃ e, ∀ excludes, files t root asked excludes = .error e := by
  cases there : t.look root with
  | error e => exact .inr ⟨.noSuchPath asked, fun _ => by rw [files, there]⟩
  | ok v =>
    cases v with
    | file octets => exact .inr ⟨.notDirectory asked, fun _ => by rw [files, there]⟩
    | directory es =>
      cases read : statedRules t root with
      | ok stated => exact .inl ⟨es, stated, rfl, rfl⟩
      | error e =>
        refine .inr ⟨.ignoreFile e, fun _ => ?_⟩
        rw [files, there]
        simp only [read]
        rfl

end BodyDigest.Scan
