import Mathlib.Data.List.Perm.Basic
import BodyDigest.Resolve
import BodyDigest.Proofs.Results

/-!
Lists cut into groups by a key. Nothing is lost and nothing is doubled: the groups of a list are
together a permutation of it, in whatever order the keys are taken.
-/
namespace BodyDigest

variable {α β : Type}

theorem mem_distinct [DecidableEq α] {a : α} {xs : List α} : a ∈ distinct xs ↔ a ∈ xs := by
  induction xs with
  | nil => simp [distinct]
  | cons x rest ih =>
    by_cases same : a = x <;> simp [distinct, ih, same]

theorem distinct_nodup [DecidableEq α] (xs : List α) : (distinct xs).Nodup := by
  induction xs with
  | nil => simp [distinct]
  | cons x rest ih =>
    rw [distinct, List.nodup_cons]
    exact ⟨by simp, ih.filter _⟩

theorem distinct_of_nodup [DecidableEq α] {xs : List α} (h : xs.Nodup) : distinct xs = xs := by
  induction xs with
  | nil => rfl
  | cons x rest ih =>
    obtain ⟨fresh, tail⟩ := List.nodup_cons.mp h
    rw [distinct, ih tail, List.filter_eq_self.mpr]
    intro y member
    have differs : y ≠ x := fun same => fresh (same ▸ member)
    simpa using differs

theorem distinct_concat [DecidableEq α] (xs : List α) (a : α) :
    distinct (xs ++ [a]) = if a ∈ xs then distinct xs else distinct xs ++ [a] := by
  induction xs with
  | nil => rfl
  | cons x rest ih =>
    rw [List.cons_append, distinct, ih, distinct]
    by_cases same : a = x
    · subst same
      split <;> simp
    · by_cases member : a ∈ rest <;> simp [member, same]

theorem distinct_perm [DecidableEq α] {xs ys : List α} (h : xs.Perm ys) :
    (distinct xs).Perm (distinct ys) := by
  rw [List.perm_ext_iff_of_nodup (distinct_nodup xs) (distinct_nodup ys)]
  intro a
  rw [mem_distinct, mem_distinct]
  exact h.mem_iff

/-- What is grouped by keys that differ from one another and cover the list is the list again. -/
theorem grouped_perm [DecidableEq β] (f : α → β) {keys : List β} {xs : List α}
    (nodup : keys.Nodup) (covered : ∀ x ∈ xs, f x ∈ keys) :
    (keys.flatMap fun k => xs.filter fun x => f x = k).Perm xs := by
  induction keys generalizing xs with
  | nil =>
    have none : xs = [] := List.eq_nil_iff_forall_not_mem.mpr fun x hx => by
      simpa using covered x hx
    simp [none]
  | cons k rest ih =>
    obtain ⟨fresh, tail⟩ := List.nodup_cons.mp nodup
    let others := xs.filter fun x => !decide (f x = k)
    have remaining : ∀ x ∈ others, f x ∈ rest := by
      intro x hx
      obtain ⟨member, differs⟩ := List.mem_filter.mp hx
      rcases List.mem_cons.mp (covered x member) with same | later
      · simp [same] at differs
      · exact later
    -- The first key takes nothing from the groups of the other keys.
    have untouched : (rest.flatMap fun k' => xs.filter fun x => f x = k') =
        rest.flatMap fun k' => others.filter fun x => f x = k' := by
      apply List.flatMap_congr
      intro k' member
      rw [List.filter_filter]
      apply List.filter_congr
      intro x _
      by_cases same : f x = k'
      · subst same
        have differs : f x ≠ k := fun e => fresh (e ▸ member)
        simp [differs]
      · simp [same]
    rw [List.flatMap_cons, untouched]
    exact ((ih tail remaining).append_left _).trans (List.filter_append_perm _ xs)

theorem grouped_by_distinct_perm [DecidableEq β] (f : α → β) (xs : List α) :
    ((distinct (xs.map f)).flatMap fun k => xs.filter fun x => f x = k).Perm xs := by
  apply grouped_perm f (distinct_nodup _)
  intro x member
  exact mem_distinct.mpr (List.mem_map_of_mem member)

theorem filter_eq_find_toList [DecidableEq β] {f : α → β} {xs : List α}
    (nodup : (xs.map f).Nodup) (k : β) :
    xs.filter (fun x => f x = k) = (xs.find? fun x => f x = k).toList := by
  induction xs with
  | nil => rfl
  | cons x rest ih =>
    rw [List.map_cons, List.nodup_cons] at nodup
    by_cases same : f x = k
    · have none : rest.filter (fun x => f x = k) = [] := by
        rw [List.filter_eq_nil_iff]
        intro y member
        have differs : f y ≠ k := fun e => nodup.1 (same ▸ e ▸ List.mem_map_of_mem member)
        simpa using differs
      simp [same, none]
    · simp [same, ih nodup.2]

/-- The first element of a kind is found as well where later repetitions are left out. -/
theorem find?_distinct [DecidableEq α] (p : α → Bool) (xs : List α) :
    (distinct xs).find? p = xs.find? p := by
  induction xs with
  | nil => rfl
  | cons x rest ih =>
    rw [distinct, List.find?_cons, List.find?_cons]
    cases found : p x with
    | true => rfl
    | false =>
      rw [← ih, List.find?_filter]
      apply congrArg fun q => (distinct rest).find? q
      funext y
      by_cases same : y = x
      · subst same
        simp [found]
      · simp [same]

/-- Where `p` holds for all that looks like the first element with `p`, nothing before it does. -/
theorem head?_of_find? [DecidableEq β] {f : α → β} {xs : List α} {x : α} {p : α → Bool}
    (first : xs.find? p = some x) (alike : ∀ y ∈ xs, f y = f x → p y) :
    (xs.filter fun y => f y = f x).head? = some x := by
  rw [List.head?_filter]
  rw [List.find?_eq_some_iff_append] at first ⊢
  obtain ⟨holds, before, after, rfl, none⟩ := first
  refine ⟨by simp, before, after, rfl, ?_⟩
  intro y member
  have other : f y ≠ f x := by
    intro same
    have fails := none y member
    rw [alike y (List.mem_append_left _ member) same] at fails
    cases fails
  simpa using other

/-- A block of one key in front shows that key first. -/
theorem distinct_block [DecidableEq β] {k : β} {xs ys : List β} (filled : xs ≠ [])
    (keyed : ∀ x ∈ xs, x = k) (fresh : k ∉ ys) : distinct (xs ++ ys) = k :: distinct ys := by
  have kept : (distinct ys).filter (· ≠ k) = distinct ys := by
    rw [List.filter_eq_self]
    intro y member
    have other : y ≠ k := fun same => fresh (same ▸ mem_distinct.mp member)
    simpa using other
  induction xs with
  | nil => exact absurd rfl filled
  | cons x rest ih =>
    obtain rfl := keyed x List.mem_cons_self
    rw [List.cons_append, distinct]
    by_cases last : rest = []
    · rw [last, List.nil_append, kept]
    · rw [ih last fun y member => keyed y (List.mem_cons_of_mem _ member), List.filter_cons_of_neg
        (by simp), kept]

/-- Blocks of keys that differ from one another show the keys in their order. -/
theorem distinct_blocks [DecidableEq β] {f : α → β} {block : β → List α} {ks : List β}
    (nodup : ks.Nodup) (filled : ∀ k ∈ ks, block k ≠ []) (keyed : ∀ k ∈ ks, ∀ x ∈ block k, f x = k) :
    distinct ((ks.flatMap block).map f) = ks := by
  induction ks with
  | nil => rfl
  | cons k rest ih =>
    obtain ⟨fresh, tail⟩ := List.nodup_cons.mp nodup
    have later := ih tail (fun k' member => filled k' (List.mem_cons_of_mem _ member))
      fun k' member => keyed k' (List.mem_cons_of_mem _ member)
    rw [List.flatMap_cons, List.map_append, distinct_block ?_ ?_ ?_, later]
    · simpa using filled k List.mem_cons_self
    · intro y member
      obtain ⟨x, inside, rfl⟩ := List.mem_map.mp member
      exact keyed k List.mem_cons_self x inside
    · rwa [← mem_distinct, later]

/-- Of lists for different keys only that of one key is filled. -/
theorem flatMap_of_single {f : β → List α} {ks : List β} {k : β} (nodup : ks.Nodup)
    (other : ∀ k' ∈ ks, k' ≠ k → f k' = []) (absent : k ∉ ks → f k = []) : ks.flatMap f = f k := by
  induction ks with
  | nil => exact (absent List.not_mem_nil).symm
  | cons k' rest ih =>
    obtain ⟨fresh, tail⟩ := List.nodup_cons.mp nodup
    rw [List.flatMap_cons]
    by_cases same : k' = k
    · subst same
      have none : rest.flatMap f = [] := by
        rw [List.flatMap_eq_nil_iff]
        intro k member
        exact other k (List.mem_cons_of_mem _ member) fun same => fresh (same ▸ member)
      rw [none, List.append_nil]
    · rw [other k' List.mem_cons_self same, List.nil_append]
      apply ih tail fun k member => other k (List.mem_cons_of_mem _ member)
      intro outside
      exact absent fun member => (List.mem_cons.mp member).elim (fun e => same e.symm) outside

/-- One element of a list satisfies `p` alone exactly when no other one does. -/
theorem filter_length_one_iff {p : α → Bool} {xs : List α} {i : Nat} (hi : i < xs.length)
    (holds : p xs[i]) :
    (xs.filter p).length = 1 ↔ ∀ j, (hj : j < xs.length) → j ≠ i → ¬ p xs[j] := by
  induction xs generalizing i with
  | nil => simp at hi
  | cons x rest ih =>
    cases i with
    | zero =>
      have first : p x := holds
      simp only [List.filter_cons, first, ↓reduceIte, List.length_cons, Nat.add_eq_right,
        List.length_eq_zero_iff, List.filter_eq_nil_iff]
      constructor
      · intro none j hj differs
        cases j with
        | zero => exact absurd rfl differs
        | succ j => exact none _ (List.getElem_mem _)
      · intro alone y member
        obtain ⟨j, hj, rfl⟩ := List.getElem_of_mem member
        exact alone (j + 1) (by simpa using hj) (by omega)
    | succ i =>
      have inside : i < rest.length := by simpa using hi
      have later : p rest[i] := holds
      have some_later : 0 < (rest.filter p).length :=
        List.length_pos_of_mem (List.mem_filter.mpr ⟨List.getElem_mem inside, later⟩)
      by_cases first : p x
      · simp only [List.filter_cons, first, ↓reduceIte, List.length_cons]
        constructor
        · intro one; omega
        · intro alone
          exact absurd first (alone 0 (by simp) (by omega))
      · rw [List.filter_cons_of_neg first, ih inside later]
        constructor
        · intro alone j hj differs
          cases j with
          | zero => exact first
          | succ j => exact alone j (by simpa using hj) (by omega)
        · intro alone j hj differs
          exact alone (j + 1) (by simpa using hj) (by omega)

end BodyDigest
