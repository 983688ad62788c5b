import BodyDigest.Proofs.Order
import BodyDigest.Proofs.Registration

/-! The difference of two registries depends on their entries alone. -/
namespace BodyDigest.Diff

variable {p q r s : Registry}

theorem sorted_eq_of_perm {keys others : List Key} (h : keys.Perm others) :
    sorted keys = sorted others :=
  mergeSort_eq_of_perm h

theorem contains_eq_of_perm (h : p.entries.Perm q.entries) (k : Key) :
    p.contains k = q.contains k := by
  rw [Registry.contains, Registry.contains, Registry.find?_eq_of_perm h]

theorem digest?_eq_of_perm (h : p.entries.Perm q.entries) (k : Key) :
    digest? p k = digest? q k := by
  rw [digest?, digest?, Registry.find?_eq_of_perm h]

theorem between_eq_of_agrees (previous : p.agrees q) (current : r.agrees s) :
    between p r = between q s := by
  have before := Registry.agrees_iff_perm.mp previous
  have after := Registry.agrees_iff_perm.mp current
  have keys_before : (keys p).Perm (keys q) := before.map _
  have keys_after : (keys r).Perm (keys s) := after.map _
  simp only [between, contains_eq_of_perm before, contains_eq_of_perm after,
    digest?_eq_of_perm before, digest?_eq_of_perm after, sorted_eq_of_perm (keys_after.filter _),
    sorted_eq_of_perm (keys_before.filter _)]

theorem contains_of_mem {k : Key} (h : k ∈ keys r) : r.contains k := by
  rw [Registry.contains, Registry.find?_isSome_iff]
  exact h

/-- Nothing has changed where the entries are the same. -/
theorem between_of_agrees (h : p.agrees q) : between p q = ⟨[], [], []⟩ := by
  have perm := Registry.agrees_iff_perm.mp h
  have same : between p q = between q q :=
    between_eq_of_agrees h (Registry.agrees_iff_perm.mpr (List.Perm.refl _))
  have held : ∀ k ∈ keys q, ¬ (!q.contains k) = true := by
    intro k member
    simp [contains_of_mem member]
  rw [same, between, List.filter_eq_nil_iff.mpr held]
  simp [sorted]

theorem sorted_isEmpty {ks : List Key} {p : Key → Bool} :
    (sorted (ks.filter p)).isEmpty ↔ ∀ k ∈ ks, p k = false := by
  rw [List.isEmpty_iff, ← List.length_eq_zero_iff, sorted, List.length_mergeSort,
    List.length_eq_zero_iff, List.filter_eq_nil_iff]
  simp only [Bool.not_eq_true]

/-- A difference is empty exactly when the same keys have the same digests. -/
theorem isEmpty_between_iff :
    (between p q).isEmpty ↔ ∀ k, digest? p k = digest? q k := by
  have found (r : Registry) (k : Key) : k ∈ keys r ↔ r.contains k := by
    rw [Registry.contains, Registry.find?_isSome_iff, keys]
  have held (r : Registry) (k : Key) : r.contains k = (digest? r k).isSome := by
    rw [digest?, Option.isSome_map, Registry.contains]
  simp only [isEmpty, between, Bool.and_eq_true, sorted_isEmpty, found, held, Bool.not_eq_false']
  constructor
  · rintro ⟨⟨added, removed⟩, changed⟩ k
    have added := added k
    have removed := removed k
    have changed := changed k
    cases before : digest? p k with
    | none => cases after : digest? q k <;> simp_all
    | some x => cases after : digest? q k <;> simp_all
  · intro same
    refine ⟨⟨?_, ?_⟩, ?_⟩ <;> intro k <;> simp [same k]

theorem digest?_eq_of_digests
    (same : p.entries.map (fun e => (e.key, e.stamp.digest)) =
      q.entries.map fun e => (e.key, e.stamp.digest)) (k : Key) : digest? p k = digest? q k := by
  have looked_up (r : Registry) : digest? r k =
      ((r.entries.map fun e => (e.key, e.stamp.digest)).find? fun x => x.1 = k).map (·.2) := by
    rw [digest?, Registry.find?, List.find?_map, Option.map_map, Option.map_map]
    rfl
  rw [looked_up, looked_up, same]

/-- Stamps are the same where digests and signatures are. -/
theorem agrees_iff : p.agrees q ↔ (∀ k, digest? p k = digest? q k) ∧
    ∀ k, (p.find? k).map (·.signature) = (q.find? k).map (·.signature) := by
  rw [Registry.agrees_iff_perm, Registry.perm_iff_find?, ← forall_and]
  refine forall_congr' fun k => ?_
  rw [digest?, digest?]
  cases p.find? k with
  | none => cases q.find? k <;> simp
  | some x =>
    cases q.find? k with
    | none => simp
    | some y =>
      cases x
      cases y
      simp

end BodyDigest.Diff
