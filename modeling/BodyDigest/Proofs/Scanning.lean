import Mathlib.Data.List.Induction
import BodyDigest.Proofs.Files.Exchange

/-!
What a scan lists, told without the walk: the files that are not ignored, in order, unless a directory
on the way to them is ignored or never entered. Patterns that exclude only take files away, each for
itself, whatever the rules of the directory say about the same paths.
-/
namespace BodyDigest

namespace IgnoreRule

variable {rules extra : List IgnoreRule} {path : Text} {isDirectory : Bool}

/-! ### The last rule that speaks of a path -/

/-- Of the rules that speak of a path the last one is there and is not negated. -/
def Ignored (rules : List IgnoreRule) (path : Text) (isDirectory : Bool) : Prop :=
  ∃ before r after, rules = before ++ r :: after ∧ r.accepts path isDirectory ∧
    r.negated = false ∧ ∀ s ∈ after, s.accepts path isDirectory = false

theorem hides_concat (rules : List IgnoreRule) (r : IgnoreRule) :
    hides (rules ++ [r]) path isDirectory =
      if r.accepts path isDirectory then !r.negated else hides rules path isDirectory := by
  rw [hides, List.foldl_append]
  rfl

theorem ignored_concat_iff (rules : List IgnoreRule) (r : IgnoreRule) :
    Ignored (rules ++ [r]) path isDirectory ↔
      if r.accepts path isDirectory then r.negated = false else Ignored rules path isDirectory := by
  constructor
  · rintro ⟨before, s, after, whole, speaks, positive, silent⟩
    rcases List.eq_nil_or_concat after with rfl | ⟨more, last, rfl⟩
    · obtain ⟨-, same⟩ := List.append_inj' whole rfl
      cases same
      rw [if_pos speaks]
      exact positive
    · rw [List.concat_eq_append, ← List.cons_append, ← List.append_assoc] at whole
      obtain ⟨front, same⟩ := List.append_inj' whole rfl
      cases same
      rw [if_neg (by simp [silent r])]
      exact ⟨before, s, more, front, speaks, positive, fun t member => silent t (by simp [member])⟩
  · intro last
    by_cases speaks : r.accepts path isDirectory
    · rw [if_pos speaks] at last
      exact ⟨rules, r, [], rfl, speaks, last, by simp⟩
    · rw [if_neg speaks] at last
      obtain ⟨before, s, after, rfl, here, positive, silent⟩ := last
      refine ⟨before, s, after ++ [r], by simp, here, positive, fun t member => ?_⟩
      rcases List.mem_append.mp member with inside | last
      · exact silent t inside
      · rw [List.mem_singleton.mp last]
        exact Bool.eq_false_iff.mpr speaks

theorem hides_iff_ignored : hides rules path isDirectory ↔ Ignored rules path isDirectory := by
  induction rules using List.reverseRecOn with
  | nil =>
    constructor
    · intro hidden
      cases hidden
    · rintro ⟨before, r, after, whole, -⟩
      simp at whole
  | append_singleton rules r ih =>
    rw [hides_concat, ignored_concat_iff]
    split
    · rw [Bool.not_eq_true']
    · exact ih

/-! ### Rules that only exclude -/

/-- Behind any rules, each rule that is not negated hides what it speaks of. -/
theorem hides_append (excluding : ∀ r ∈ extra, r.negated = false) (rules : List IgnoreRule) :
    hides (rules ++ extra) path isDirectory =
      (hides rules path isDirectory || extra.any (·.accepts path isDirectory)) := by
  induction extra using List.reverseRecOn with
  | nil => simp
  | append_singleton extra r ih =>
    have last : r.negated = false := excluding r (by simp)
    rw [← List.append_assoc, hides_concat, List.any_append, ← Bool.or_assoc,
      ← ih fun s member => excluding s (by simp [member])]
    cases speaks : r.accepts path isDirectory <;> simp [speaks, last]

theorem negated_ofText {negated : Bool} {t : Text} {r : IgnoreRule}
    (h : ofText negated t = some r) : r.negated = negated := by
  simp only [ofText] at h
  split at h
  · cases h
  · cases h
    rfl

end IgnoreRule

namespace Scan

open BodyDigest.Tree

open IgnoreRule (Ignored)

variable {t : Tree} {root asked : Path} {rules stated : List IgnoreRule} {q : List Text}
variable {es : List (Text × Tree)} {excludes others : List Text}

/-! ### What is listed -/

/-- Neither the file itself is ignored nor any directory on the way to it, and none of these has a name
that is never entered. -/
structure IsShown (rules : List IgnoreRule) (q : List Text) : Prop where
  entered : ∀ a, a <+: q → a ≠ [] → a ≠ q → ¬ isSkipped a ∧ ¬ Ignored rules (Path.spelled a) true
  kept : ¬ Ignored rules (Path.spelled q) false

theorem isEntered_iff {parts : List Text} : isEntered rules parts ↔
    ¬ isSkipped parts ∧ ¬ Ignored rules (Path.spelled parts) true := by
  rw [isEntered, Bool.not_eq_true', Bool.or_eq_false_iff, ← IgnoreRule.hides_iff_ignored,
    Bool.not_eq_true, Bool.not_eq_true]

theorem visible_iff_isShown : Visible rules 1 q ↔ IsShown rules q := by
  constructor
  · rintro ⟨ancestors, shown⟩
    refine ⟨fun a above some_parts proper => ?_, ?_⟩
    · have shorter : a.length < q.length :=
        Nat.lt_of_le_of_ne above.length_le fun same => proper (above.eq_of_length same)
      have here := ancestors a.length shorter (List.length_pos_iff.mpr some_parts)
      rw [← List.prefix_iff_eq_take.mp above] at here
      exact isEntered_iff.mp here
    · rw [← IgnoreRule.hides_iff_ignored, shown]
      exact Bool.false_ne_true
  · rintro ⟨entered, kept⟩
    refine ⟨fun i inside deep => isEntered_iff.mpr (entered _ (List.take_prefix i q) ?_ ?_), ?_⟩
    · intro empty
      have length := congrArg List.length empty
      simp only [List.length_take, List.length_nil] at length
      omega
    · intro whole
      have length := congrArg List.length whole
      rw [List.length_take] at length
      omega
    · rwa [← IgnoreRule.hides_iff_ignored, Bool.not_eq_true] at kept

theorem placesIn_increasing (proper : areProper es) :
    ((placesIn [] es).mergeSort Path.partsLe).Pairwise fun p q => Path.compareParts p q = .lt := by
  have distinct : ((placesIn [] es).mergeSort Path.partsLe).Nodup :=
    (List.mergeSort_perm _ _).nodup_iff.mpr (placesIn_nodup es [] proper)
  have sorted : ((placesIn [] es).mergeSort Path.partsLe).Pairwise
      fun p q => (Path.compareParts p q != .gt) = true := mergeSort_sorted _
  refine sorted.imp₂ ?_ distinct
  intro p q ordered different
  cases compared : Path.compareParts p q with
  | lt => rfl
  | eq => exact absurd (Std.LawfulEqCmp.eq_of_compare compared) different
  | gt => simp [compared] at ordered

/-- A scan lists exactly the files that are shown, each once and in order. What a rule says about a
file does not count below a directory that is ignored, nor does the order in which directories list
their entries. -/
theorem scan_lists_shown_files (proper : t.isProper) (there : t.look root = .ok (.directory es))
    (read : statedRules t root = .ok stated) (asked : Path) (excludes : List Text) :
    ∃ found, files t root asked excludes = .ok found ∧
      found.Pairwise (fun p q => Path.compareParts p q = .lt) ∧
      (∀ q, q ∈ found ↔ (∃ octets, (Tree.directory es).get q = .ok (.file octets)) ∧
        IsShown (rulesOf stated excludes) q) ∧
      (∀ a b, a ≠ [] → b ≠ [] → Ignored (rulesOf stated excludes) (Path.spelled a) true →
        a ++ b ∉ found) ∧
      ∀ u, Reordered t u → files u root asked excludes = .ok found := by
  have entries_proper : areProper es := by
    rw [look] at there
    obtain ⟨names, -, found⟩ := except_bind_ok_iff.mp there
    have inside := isProper_get proper found
    rwa [Tree.isProper] at inside
  have listed := files_eq_filter there read asked excludes
  have mem_iff (q : List Text) :
      q ∈ ((placesIn [] es).mergeSort Path.partsLe).filter (Visible (rulesOf stated excludes) 1 ·) ↔
        (∃ octets, (Tree.directory es).get q = .ok (.file octets)) ∧
          IsShown (rulesOf stated excludes) q := by
    have listed_iff : [] ++ q ∈ placesIn [] es ↔ _ := mem_placesIn_iff entries_proper
    rw [List.mem_filter, List.mem_mergeSort, decide_eq_true_eq, visible_iff_isShown, ← listed_iff,
      List.nil_append]
  refine ⟨_, listed, (placesIn_increasing entries_proper).filter _, mem_iff, ?_, ?_⟩
  · intro a b some_a some_b ignored member
    have shown := ((mem_iff (a ++ b)).mp member).2
    exact (shown.entered a (List.prefix_append a b) some_a (by simpa using Ne.symm some_b)).2 ignored
  · intro u reordered
    rw [← files_of_reordered reordered proper, listed]

/-- A directory of three files, in one of which rules stand, and of two directories with a file. -/
def yardEntries : List (Text × Tree) := [
  (".gitignore", .file (Utf8.encode "*.txt\n!notes.txt\nbuild/\n!build/keep.txt\n".toList)),
  ("build", .directory [("keep.txt", .file [])]),
  ("bin", .directory [("notes.txt", .file [])]),
  ("notes.txt", .file []),
  ("other.txt", .file [])]

def yard : Tree := .directory yardEntries

def yardRules : List IgnoreRule := [
  ⟨"*.txt", false, false, false⟩, ⟨"notes.txt", false, false, true⟩, ⟨"build", true, false, false⟩,
  ⟨"build/keep.txt", false, false, true⟩]

def top : Path := ⟨.top, []⟩

theorem statedRules_yard : statedRules yard top = .ok yardRules := by decide +kernel

theorem look_yard : yard.look top = .ok (.directory yardEntries) := by rfl

theorem rulesOf_yard : rulesOf yardRules [] = yardRules := List.append_nil _

def notes : List Text := ["notes.txt"]

def binNotes : List Text := ["bin", "notes.txt"]

def keptBuild : List Text := ["build", "keep.txt"]

theorem negated_rule_brings_nothing_back : ∃ found, files yard top top [] = .ok found ∧
    notes ∈ found ∧ binNotes ∉ found ∧ keptBuild ∉ found ∧
    ¬ Ignored yardRules (Path.spelled keptBuild) false ∧
    files (.directory (yardEntries.take 1 ++ yardEntries[2] :: yardEntries[1] ::
      yardEntries.drop 3)) top top [] = .ok found := by
  obtain ⟨found, listed, -, mem_iff, below, reordered⟩ :=
    scan_lists_shown_files (t := yard) (by decide) look_yard statedRules_yard top []
  rw [rulesOf_yard] at mem_iff below
  have shown : Visible yardRules 1 notes := by decide +kernel
  have skipped : ¬ Visible yardRules 1 binNotes := by decide +kernel
  have shown_again : ¬ IgnoreRule.hides yardRules (Path.spelled keptBuild) false := by
    decide +kernel
  have ignored : IgnoreRule.hides yardRules (Path.spelled ["build"]) true := by decide +kernel
  refine ⟨found, listed, (mem_iff _).mpr ⟨⟨[], rfl⟩, visible_iff_isShown.mp shown⟩, ?_, ?_, ?_, ?_⟩
  · exact fun member => skipped (visible_iff_isShown.mpr ((mem_iff _).mp member).2)
  · exact below ["build"] ["keep.txt"] (by simp) (by simp) (IgnoreRule.hides_iff_ignored.mp ignored)
  · rwa [← IgnoreRule.hides_iff_ignored]
  · exact reordered _ (.single (.first (yardEntries.take 1) (yardEntries.drop 3) _ _))

/-! ### Exclusions -/

/-- Whether one of the excluding patterns speaks of a path. -/
def isExcluded (excludes : List Text) (path : Text) (isDirectory : Bool) : Bool :=
  (excludes.filterMap (IgnoreRule.ofText false)).any (·.accepts path isDirectory)

theorem hides_rulesOf {path : Text} {isDirectory : Bool} :
    IgnoreRule.hides (rulesOf stated excludes) path isDirectory =
      (IgnoreRule.hides stated path isDirectory || isExcluded excludes path isDirectory) := by
  refine IgnoreRule.hides_append (fun r member => ?_) stated
  obtain ⟨t, -, made⟩ := List.mem_filterMap.mp member
  exact IgnoreRule.negated_ofText made

/-- No excluding pattern speaks of the file, or of a directory on the way to it. -/
def Untouched (excludes : List Text) (q : List Text) : Prop :=
  (∀ i < q.length, 1 ≤ i → isExcluded excludes (Path.spelled (q.take i)) true = false) ∧
    isExcluded excludes (Path.spelled q) false = false

/-- What excludes and what the directory states act apart from one another. -/
theorem visible_rulesOf_iff :
    Visible (rulesOf stated excludes) 1 q ↔ Visible stated 1 q ∧ Untouched excludes q := by
  simp only [Visible, Untouched, isEntered, hides_rulesOf, Bool.not_eq_true', Bool.or_eq_false_iff,
    forall_and]
  tauto

theorem visible_append_iff : Visible (rulesOf stated (excludes ++ others)) 1 q ↔
    Visible (rulesOf stated excludes) 1 q ∧ Visible (rulesOf stated others) 1 q := by
  have both : Untouched (excludes ++ others) q ↔ Untouched excludes q ∧ Untouched others q := by
    simp only [Untouched, isExcluded, List.filterMap_append, List.any_append,
      Bool.or_eq_false_iff, forall_and]
    tauto
  rw [visible_rulesOf_iff, visible_rulesOf_iff, visible_rulesOf_iff, both]
  tauto

theorem isExcluded_of_subset {path : Text} {isDirectory : Bool} (more : excludes ⊆ others)
    (silent : isExcluded others path isDirectory = false) :
    isExcluded excludes path isDirectory = false := by
  rw [isExcluded, List.any_eq_false] at silent ⊢
  intro r member
  obtain ⟨t, inside, made⟩ := List.mem_filterMap.mp member
  exact silent r (List.mem_filterMap.mpr ⟨t, more inside, made⟩)

theorem untouched_of_subset (more : excludes ⊆ others) (h : Untouched others q) :
    Untouched excludes q :=
  ⟨fun i inside deep => isExcluded_of_subset more (h.1 i inside deep), isExcluded_of_subset more h.2⟩

theorem visible_of_subset (more : excludes ⊆ others) (h : Visible (rulesOf stated others) 1 q) :
    Visible (rulesOf stated excludes) 1 q := by
  rw [visible_rulesOf_iff] at h ⊢
  exact ⟨h.1, untouched_of_subset more h.2⟩

/-- Two lists of patterns together leave what each of them leaves. So a pattern more lists no file
more, and neither the order of the patterns nor their repetition counts. -/
theorem exclusions_combine (t : Tree) (root asked : Path) :
    (∀ excludes others, files t root asked (excludes ++ others) = do
      let left ← files t root asked excludes
      let right ← files t root asked others
      return left.filter (· ∈ right)) ∧
    (∀ excludes others, excludes ⊆ others → ∀ found, files t root asked excludes = .ok found →
      ∃ fewer, files t root asked others = .ok fewer ∧ fewer.Sublist found) ∧
    ∀ excludes others, (∀ pattern, pattern ∈ excludes ↔ pattern ∈ others) →
      files t root asked excludes = files t root asked others := by
  rcases files_cases t root asked with ⟨es, stated, there, read⟩ | ⟨e, fails⟩
  · have listed := files_eq_filter there read asked
    refine ⟨fun excludes others => ?_, fun excludes others more found shown => ?_,
      fun excludes others same => ?_⟩
    · rw [listed, listed, listed]
      change _ = Except.ok (List.filter _ (List.filter _ _))
      rw [List.filter_filter]
      refine congrArg Except.ok (List.filter_congr fun q member => ?_)
      rw [← Bool.decide_and, decide_eq_decide, visible_append_iff, List.mem_filter,
        decide_eq_true_eq, and_iff_right member, and_comm]
    · cases (listed excludes).symm.trans shown
      refine ⟨_, listed others, List.monotone_filter_right _ fun q visible => ?_⟩
      rw [decide_eq_true_eq] at visible ⊢
      exact visible_of_subset more visible
    · rw [listed, listed]
      refine congrArg Except.ok (List.filter_congr fun q _ => ?_)
      rw [decide_eq_decide]
      exact ⟨visible_of_subset fun pattern => (same pattern).mpr,
        visible_of_subset fun pattern => (same pattern).mp⟩
  · refine ⟨fun excludes others => ?_, fun excludes others _ found shown => ?_, fun _ _ _ => ?_⟩
    · rw [fails, fails]
      rfl
    · rw [fails] at shown
      cases shown
    · rw [fails, fails]

def noNotes : List Text := ["notes.txt", "*.c"]

/-- The directory shows its notes again, but a pattern takes them away. -/
theorem notes_are_excluded : ∃ found fewer, files yard top top [] = .ok found ∧
    files yard top top noNotes = .ok fewer ∧ notes ∉ fewer ∧ fewer.Sublist found ∧
    files yard top top noNotes.reverse = .ok fewer := by
  obtain ⟨-, less, same⟩ := exclusions_combine yard top top
  have listed := files_eq_filter look_yard statedRules_yard top []
  have hidden : ¬ Visible (rulesOf yardRules noNotes) 1 notes := by decide +kernel
  obtain ⟨fewer, listed_fewer, sublist⟩ := less [] noNotes (List.nil_subset _) _ listed
  refine ⟨_, fewer, listed, listed_fewer, ?_, sublist, ?_⟩
  · intro member
    cases listed_fewer.symm.trans (files_eq_filter look_yard statedRules_yard top noNotes)
    exact hidden (of_decide_eq_true (List.mem_filter.mp member).2)
  · rw [same _ _ fun _ => List.mem_reverse, listed_fewer]

end Scan

end BodyDigest
