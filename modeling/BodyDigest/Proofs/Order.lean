import BodyDigest.Registry
import BodyDigest.Files.Path

/-!
The orders of texts, keys and paths are linear, so that a sorted list depends on its elements
alone and not on the order in which they came.
-/
namespace BodyDigest

theorem Text.compare_cons (a b : CodePoint) (r s : Text) :
    Text.compare (a :: r) (b :: s) = (Ord.compare a.val b.val).then (Text.compare r s) := by
  rw [Text.compare]
  rcases Nat.lt_trichotomy a.val b.val with lt | eq | gt
  · simp [lt, Nat.compare_eq_lt.mpr lt]
  · simp [eq]
  · have not_lt : ¬ a.val < b.val := by omega
    simp [gt, not_lt, Nat.compare_eq_gt.mpr gt]

theorem Text.compare_swap (a b : Text) : Text.compare a b = (Text.compare b a).swap := by
  induction a generalizing b with
  | nil => cases b <;> rfl
  | cons c r ih =>
    cases b with
    | nil => rfl
    | cons d s =>
      rw [Text.compare_cons, Text.compare_cons, ih s, Ordering.swap_then,
        Std.OrientedOrd.eq_swap (a := c.val)]

theorem Text.eq_of_compare {a b : Text} (h : Text.compare a b = .eq) : a = b := by
  induction a generalizing b with
  | nil => cases b <;> simp [Text.compare] at h ⊢
  | cons c r ih =>
    cases b with
    | nil => simp [Text.compare] at h
    | cons d s =>
      rw [Text.compare_cons, Ordering.then_eq_eq] at h
      rw [CodePoint.val_injective (Nat.compare_eq_eq.mp h.1), ih h.2]

theorem Text.compare_self (a : Text) : Text.compare a a = .eq := by
  induction a with
  | nil => rfl
  | cons c r ih => rw [Text.compare_cons, ih, Nat.compare_eq_eq.mpr rfl]; rfl

/-- A first comparison that is transitive, refined by a second one, is transitive. -/
theorem then_isLE_trans {ab bc ac ab' bc' ac' : Ordering}
    (lt_le : ab = .lt → bc.isLE → ac = .lt) (le_lt : ab.isLE → bc = .lt → ac = .lt)
    (eq_eq : ab = .eq → bc = .eq → ac = .eq) (later : ab'.isLE → bc'.isLE → ac'.isLE)
    (hab : (ab.then ab').isLE) (hbc : (bc.then bc').isLE) : (ac.then ac').isLE := by
  cases ab with
  | lt =>
    cases bc <;> simp_all
  | eq =>
    cases bc <;> simp_all
  | gt => simp at hab

theorem compare_nat_cases (a b c : Nat) :
    (Ord.compare a b = .lt → (Ord.compare b c).isLE → Ord.compare a c = .lt) ∧
      ((Ord.compare a b).isLE → Ord.compare b c = .lt → Ord.compare a c = .lt) ∧
        (Ord.compare a b = .eq → Ord.compare b c = .eq → Ord.compare a c = .eq) := by
  simp only [Nat.compare_eq_lt, Nat.compare_eq_eq, Nat.isLE_compare]
  omega

theorem Text.compare_isLE_trans {a b c : Text} (hab : (Text.compare a b).isLE)
    (hbc : (Text.compare b c).isLE) : (Text.compare a c).isLE := by
  induction a generalizing b c with
  | nil => cases c <;> rfl
  | cons x r ih =>
    cases b with
    | nil => simp [Text.compare] at hab
    | cons y s =>
      cases c with
      | nil => simp [Text.compare] at hbc
      | cons z t =>
        rw [Text.compare_cons] at hab hbc ⊢
        obtain ⟨lt_le, le_lt, eq_eq⟩ := compare_nat_cases x.val y.val z.val
        exact then_isLE_trans lt_le le_lt eq_eq ih hab hbc

instance : Std.TransCmp Text.compare where
  eq_swap := Text.compare_swap _ _
  isLE_trans := Text.compare_isLE_trans

instance : Std.LawfulEqCmp Text.compare where
  compare_self := Text.compare_self _
  eq_of_compare := Text.eq_of_compare

instance : Std.TransCmp Key.compare where
  eq_swap := by
    intro a b
    simp only [Key.compare, Ordering.swap_then]
    rw [Text.compare_swap a.scope, Text.compare_swap a.type, Text.compare_swap a.member]
  isLE_trans := by
    intro a b c hab hbc
    refine then_isLE_trans ?_ ?_ ?_ (then_isLE_trans ?_ ?_ ?_ Text.compare_isLE_trans) hab hbc
    · exact Std.TransCmp.lt_of_lt_of_isLE
    · exact Std.TransCmp.lt_of_isLE_of_lt
    · exact Std.TransCmp.eq_trans
    · exact Std.TransCmp.lt_of_lt_of_isLE
    · exact Std.TransCmp.lt_of_isLE_of_lt
    · exact Std.TransCmp.eq_trans

instance : Std.LawfulEqCmp Key.compare where
  compare_self := by
    intro a
    simp [Key.compare, Text.compare_self]
  eq_of_compare := by
    intro a b h
    simp only [Key.compare, Ordering.then_eq_eq] at h
    obtain ⟨scope, type, member⟩ := h
    cases a
    cases b
    simp_all

instance : Std.TransCmp Path.compareParts where
  eq_swap := by
    intro a b
    induction a generalizing b with
    | nil => cases b <;> rfl
    | cons x r ih =>
      cases b with
      | nil => rfl
      | cons y s =>
        rw [Path.compareParts, Path.compareParts, Ordering.swap_then, ← ih, Text.compare_swap x y]
  isLE_trans := by
    intro a b c hab hbc
    induction a generalizing b c with
    | nil => cases c <;> rfl
    | cons x r ih =>
      cases b with
      | nil => simp [Path.compareParts] at hab
      | cons y s =>
        cases c with
        | nil => simp [Path.compareParts] at hbc
        | cons z t =>
          exact then_isLE_trans Std.TransCmp.lt_of_lt_of_isLE Std.TransCmp.lt_of_isLE_of_lt
            Std.TransCmp.eq_trans ih hab hbc

instance : Std.LawfulEqCmp Path.compareParts where
  compare_self := by
    intro a
    induction a with
    | nil => rfl
    | cons x r ih => simp [Path.compareParts, Text.compare_self, ih]
  eq_of_compare := by
    intro a b h
    induction a generalizing b with
    | nil => cases b <;> simp [Path.compareParts] at h ⊢
    | cons x r ih =>
      cases b with
      | nil => simp [Path.compareParts] at h
      | cons y s =>
        rw [Path.compareParts, Ordering.then_eq_eq] at h
        rw [Text.eq_of_compare h.1, ih h.2]

/-! ### Sorted lists -/

variable {α : Type} {cmp : α → α → Ordering} [Std.TransCmp cmp]

theorem ne_gt_iff_isLE {o : Ordering} : (o != .gt) = true ↔ o.isLE := by
  cases o <;> simp

theorem mergeSort_sorted (xs : List α) :
    (xs.mergeSort fun a b => cmp a b != .gt).Pairwise fun a b => (cmp a b != .gt) = true := by
  apply List.pairwise_mergeSort
  · intro a b c hab hbc
    exact ne_gt_iff_isLE.mpr
      (Std.TransCmp.isLE_trans (ne_gt_iff_isLE.mp hab) (ne_gt_iff_isLE.mp hbc))
  · intro a b
    have swapped : cmp a b = (cmp b a).swap := Std.OrientedCmp.eq_swap
    cases h : cmp b a <;> simp [swapped, h]

/-- Elements that differ from one another increase strictly where they are sorted. -/
theorem mergeSort_increasing [Std.LawfulEqCmp cmp] {xs : List α} (nodup : xs.Nodup) :
    (xs.mergeSort fun a b => cmp a b != .gt).Pairwise fun a b => cmp a b = .lt := by
  have apart := (List.mergeSort_perm xs fun a b => cmp a b != .gt).nodup_iff.mpr nodup
  refine ((mergeSort_sorted xs).and apart).imp ?_
  rintro a b ⟨le, ne⟩
  cases compared : cmp a b with
  | lt => rfl
  | eq => exact absurd (Std.LawfulEqCmp.eq_of_compare compared) ne
  | gt => simp [compared] at le

/-- Sorting forgets the order in which the elements came. -/
theorem mergeSort_eq_of_perm [Std.LawfulEqCmp cmp] {xs ys : List α} (h : xs.Perm ys) :
    (xs.mergeSort fun a b => cmp a b != .gt) = ys.mergeSort fun a b => cmp a b != .gt := by
  apply List.Perm.eq_of_pairwise ?_ (mergeSort_sorted xs) (mergeSort_sorted ys)
  · exact (List.mergeSort_perm xs _).trans (h.trans (List.mergeSort_perm ys _).symm)
  · intro a b _ _ hab hba
    exact Std.LawfulEqCmp.eq_of_compare
      (Std.OrientedCmp.isLE_antisymm (ne_gt_iff_isLE.mp hab) (ne_gt_iff_isLE.mp hba))

end BodyDigest
