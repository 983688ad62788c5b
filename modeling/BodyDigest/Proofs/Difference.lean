import BodyDigest.Proofs.Comparison

/-!
A difference is exact. It names the keys that came, went or got another digest, each list in
strictly increasing order; what it names turns the older digests into the newer ones.
-/
namespace BodyDigest.Diff

variable {a b : Registry} {k : Key}

/-! ### Sorted keys -/

theorem mem_sorted {keys : List Key} : k ∈ sorted keys ↔ k ∈ keys :=
  (List.mergeSort_perm keys Key.le).mem_iff

def Increasing (keys : List Key) : Prop := keys.Pairwise fun j k => Key.compare j k = .lt

theorem sorted_increasing {keys : List Key} (nodup : keys.Nodup) : Increasing (sorted keys) :=
  mergeSort_increasing nodup

/-! ### What each list names -/

theorem contains_iff {r : Registry} : r.contains k = true ↔ k ∈ keys r := by
  rw [Registry.contains, Registry.find?_isSome_iff, keys]

theorem digest?_isSome {r : Registry} : (digest? r k).isSome ↔ k ∈ keys r := by
  rw [digest?, Option.isSome_map, ← Registry.contains, contains_iff]

theorem digest?_eq_none {r : Registry} : digest? r k = none ↔ k ∉ keys r := by
  rw [← digest?_isSome, Option.not_isSome_iff_eq_none]

theorem mem_added : k ∈ (between a b).added ↔ k ∈ keys b ∧ k ∉ keys a := by
  rw [between, mem_sorted, List.mem_filter, Bool.not_eq_true', ← Bool.not_eq_true, contains_iff]

theorem mem_removed : k ∈ (between a b).removed ↔ k ∈ keys a ∧ k ∉ keys b := by
  rw [between, mem_sorted, List.mem_filter, Bool.not_eq_true', ← Bool.not_eq_true, contains_iff]

theorem mem_changed :
    k ∈ (between a b).changed ↔ k ∈ keys a ∧ k ∈ keys b ∧ digest? a k ≠ digest? b k := by
  rw [between, mem_sorted, List.mem_filter, Bool.and_eq_true, contains_iff, bne_iff_ne]
  exact and_left_comm

/-- Seen from the other side, what was added is removed and the other way round. -/
theorem between_swap : between b a =
    ⟨(between a b).removed, (between a b).added, (between a b).changed⟩ := by
  have common : ((keys a).filter fun k => b.contains k && digest? b k != digest? a k).Perm
      ((keys b).filter fun k => a.contains k && digest? a k != digest? b k) := by
    apply (List.perm_ext_iff_of_nodup (a.nodup.filter _) (b.nodup.filter _)).mpr
    intro k
    change k ∈ (keys a).filter _ ↔ k ∈ (keys b).filter _
    rw [List.mem_filter, List.mem_filter, Bool.and_eq_true, Bool.and_eq_true, contains_iff,
      contains_iff, bne_iff_ne, bne_iff_ne, and_left_comm, ne_comm]
  rw [between, between, sorted_eq_of_perm common]

/-! ### Changes taken over -/

/-- The digests after those of `newer` are taken over as a difference says. -/
def patched (d : Diff) (older newer : Key → Option Text) (k : Key) : Option Text :=
  if k ∈ d.removed then none
  else if k ∈ d.added ∨ k ∈ d.changed then newer k
  else older k

theorem patched_between : patched (between a b) (digest? a) (digest? b) k = digest? b k := by
  simp only [patched, mem_removed, mem_added, mem_changed]
  by_cases before : k ∈ keys a <;> by_cases after : k ∈ keys b
  · by_cases same : digest? a k = digest? b k <;> simp [before, after, same]
  · simp [before, after, digest?_eq_none.mpr after]
  · simp [before, after]
  · simp [before, after, digest?_eq_none.mpr before, digest?_eq_none.mpr after]

/-- What `d` says of two registries is right, complete and in order. -/
structure IsExact (d : Diff) (a b : Registry) : Prop where
  added : ∀ k, k ∈ d.added ↔ k ∈ keys b ∧ k ∉ keys a
  removed : ∀ k, k ∈ d.removed ↔ k ∈ keys a ∧ k ∉ keys b
  changed : ∀ k, k ∈ d.changed ↔ k ∈ keys a ∧ k ∈ keys b ∧ digest? a k ≠ digest? b k
  increasing : Increasing d.added ∧ Increasing d.removed ∧ Increasing d.changed
  apart : d.added.Disjoint d.removed ∧ d.added.Disjoint d.changed ∧ d.removed.Disjoint d.changed
  patch : ∀ k, d.patched (digest? a) (digest? b) k = digest? b k

theorem isExact_between (a b : Registry) : (between a b).IsExact a b where
  added _ := mem_added
  removed _ := mem_removed
  changed _ := mem_changed
  increasing := by
    refine ⟨?_, ?_, ?_⟩ <;> apply sorted_increasing
    · exact b.nodup.filter _
    · exact a.nodup.filter _
    · exact b.nodup.filter _
  apart := by
    refine ⟨?_, ?_, ?_⟩ <;> intro k one other
    · exact (mem_added.mp one).2 (mem_removed.mp other).1
    · exact (mem_added.mp one).2 (mem_changed.mp other).1
    · exact (mem_removed.mp one).2 (mem_changed.mp other).2.1
  patch _ := patched_between

/-- Whether nothing differs between two registries. -/
def Unchanged (a b : Registry) : Prop := (between a b).isEmpty = true

theorem unchanged_iff : Unchanged a b ↔
    (∀ k, k ∈ keys a ↔ k ∈ keys b) ∧ ∀ k ∈ keys a, digest? a k = digest? b k := by
  rw [Unchanged, isEmpty_between_iff]
  constructor
  · intro same
    exact ⟨fun k => by rw [← digest?_isSome, same, digest?_isSome], fun k _ => same k⟩
  · rintro ⟨held, same⟩ k
    by_cases member : k ∈ keys a
    · exact same k member
    · rw [digest?_eq_none.mpr member, digest?_eq_none.mpr (mt (held k).mpr member)]

theorem unchanged_equivalence : Equivalence Unchanged := by
  constructor
  · intro a
    exact isEmpty_between_iff.mpr fun k => rfl
  · intro a b same
    exact isEmpty_between_iff.mpr fun k => (isEmpty_between_iff.mp same k).symm
  · intro a b c first second
    exact isEmpty_between_iff.mpr fun k =>
      (isEmpty_between_iff.mp first k).trans (isEmpty_between_iff.mp second k)

/-- Differences are exact, are exchanged with the two registries, are empty exactly where the same
keys have the same digests, and depend on no order of entries. -/
theorem differences_are_exact (a b : Registry) :
    (between a b).IsExact a b ∧
    between b a = ⟨(between a b).removed, (between a b).added, (between a b).changed⟩ ∧
    ((between a b).isEmpty = true ↔
      (∀ k, k ∈ keys a ↔ k ∈ keys b) ∧ ∀ k ∈ keys a, digest? a k = digest? b k) ∧
    Equivalence Unchanged ∧
    ∀ a' b', a.entries.Perm a'.entries → b.entries.Perm b'.entries →
      between a' b' = between a b := by
  refine ⟨isExact_between a b, between_swap, unchanged_iff, unchanged_equivalence, ?_⟩
  intro a' b' older newer
  exact between_eq_of_agrees (Registry.agrees_iff_perm.mpr older.symm)
    (Registry.agrees_iff_perm.mpr newer.symm)

end BodyDigest.Diff
