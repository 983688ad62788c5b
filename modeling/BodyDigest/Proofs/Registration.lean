import BodyDigest.Proofs.Naming

/-!
The registry as a finite map: what is found under a key, which entries can be registered, and
that the order of entries shows in no look-up.
-/
namespace BodyDigest.Registry

theorem find?_eq_some_iff {r : Registry} {k : Key} {s : Stamp} :
    r.find? k = some s ↔ ⟨k, s⟩ ∈ r.entries := by
  rw [find?, Option.map_eq_some_iff]
  constructor
  · rintro ⟨e, found, rfl⟩
    have same : e.key = k := by simpa using List.find?_some found
    exact same ▸ List.mem_of_find?_eq_some found
  · intro member
    cases found : r.entries.find? fun e => e.key = k with
    | none =>
      rw [List.find?_eq_none] at found
      exact absurd (found _ member) (by simp)
    | some e =>
      have same : e.key = k := by simpa using List.find?_some found
      have inside := List.mem_of_find?_eq_some found
      have one := List.inj_on_of_nodup_map r.nodup inside member same
      exact ⟨e, rfl, by rw [one]⟩

theorem find?_isSome_iff {r : Registry} {k : Key} :
    (r.find? k).isSome ↔ k ∈ r.entries.map (·.key) := by
  rw [Option.isSome_iff_exists, List.mem_map]
  constructor
  · rintro ⟨s, found⟩
    exact ⟨_, find?_eq_some_iff.mp found, rfl⟩
  · rintro ⟨e, member, rfl⟩
    exact ⟨e.stamp, find?_eq_some_iff.mpr member⟩

theorem add_fresh {r : Registry} {e : Entry} (fresh : e.key ∉ r.entries.map (·.key)) :
    ∃ s, r.add e = .ok s ∧ s.entries = r.entries ++ [e] := by
  have absent : r.find? e.key = none := by
    rw [← Option.not_isSome_iff_eq_none, find?_isSome_iff]
    exact fresh
  unfold add
  split
  · rename_i old found
    rw [absent] at found
    cases found
  · exact ⟨_, rfl, rfl⟩

theorem add_ok {r s : Registry} {e : Entry} (h : r.add e = .ok s) :
    s.entries = r.entries ++ [e] := by
  unfold add at h
  split at h
  · cases h
  · cases h
    rfl

theorem foldlM_add_nodup {entries : List Entry} {r : Registry}
    (nodup : ((r.entries ++ entries).map (·.key)).Nodup) :
    ∃ s, entries.foldlM add r = .ok s ∧ s.entries = r.entries ++ entries := by
  induction entries generalizing r with
  | nil => exact ⟨r, rfl, by simp⟩
  | cons e rest ih =>
    have fresh : e.key ∉ r.entries.map (·.key) := by
      intro member
      rw [List.map_append, List.map_cons] at nodup
      exact (List.nodup_append.mp nodup).2.2 _ member _ (List.mem_cons_self ..) rfl
    obtain ⟨s, added, grown⟩ := add_fresh fresh
    have later : ((s.entries ++ rest).map (·.key)).Nodup := by
      rw [grown, List.append_assoc]
      exact nodup
    obtain ⟨t, run, total⟩ := ih later
    refine ⟨t, ?_, by rw [total, grown, List.append_assoc]; rfl⟩
    rw [List.foldlM_cons, added]
    exact run

theorem foldlM_add_ok {entries : List Entry} {r s : Registry}
    (h : entries.foldlM add r = .ok s) : s.entries = r.entries ++ entries := by
  induction entries generalizing r with
  | nil =>
    cases h
    simp
  | cons e rest ih =>
    rw [List.foldlM_cons] at h
    cases added : r.add e with
    | error c => simp [added, bind, Except.bind] at h
    | ok t =>
      rw [added] at h
      rw [ih h, add_ok added, List.append_assoc]
      rfl

/-- Entries under different keys can all be registered, and stay in their order. -/
theorem ofEntries_nodup {entries : List Entry} (nodup : (entries.map (·.key)).Nodup) :
    ofEntries entries = .ok ⟨entries, nodup⟩ := by
  obtain ⟨s, run, same⟩ := foldlM_add_nodup (r := empty) (by simpa [empty] using nodup)
  have entries_eq : s.entries = entries := by simpa [empty] using same
  rw [ofEntries, run]
  cases s
  cases entries_eq
  rfl

theorem ofEntries_ok {entries : List Entry} {r : Registry} (h : ofEntries entries = .ok r) :
    r.entries = entries := by
  simpa [empty] using foldlM_add_ok h

/-- Unique names in every group are what registration needs: it never fails after resolution. -/
theorem build_of_resolve {records resolved : List Record} (h : resolve records = .ok resolved) :
    ∃ r, build resolved = .ok r ∧ r.entries = resolved.map Record.entry := by
  have nodup := resolved_keys_nodup h
  rw [← Function.comp_def Entry.key, ← List.map_map] at nodup
  exact ⟨_, ofEntries_nodup nodup, rfl⟩

/-! ### Equal contents -/

theorem find?_eq_of_perm {r s : Registry} (h : r.entries.Perm s.entries) (k : Key) :
    r.find? k = s.find? k := by
  apply Option.ext
  intro stamp
  rw [find?_eq_some_iff, find?_eq_some_iff]
  exact h.mem_iff

theorem entries_nodup (r : Registry) : r.entries.Nodup := r.nodup.of_map _

/-- Registries with the same stamps under the same keys have the same entries. -/
theorem perm_iff_find? {r s : Registry} :
    r.entries.Perm s.entries ↔ ∀ k, r.find? k = s.find? k := by
  constructor
  · exact find?_eq_of_perm
  · intro same
    rw [List.perm_ext_iff_of_nodup (entries_nodup r) (entries_nodup s)]
    intro e
    have held (t : Registry) : e ∈ t.entries ↔ t.find? e.key = some e.stamp :=
      find?_eq_some_iff.symm
    rw [held, held, same]

/-- Two registries agree exactly when their entries are the same up to order. -/
theorem agrees_iff_perm {r s : Registry} : r.agrees s = true ↔ r.entries.Perm s.entries := by
  have inclusion : (r.entries.all fun e => s.find? e.key = some e.stamp) = true ↔
      r.entries ⊆ s.entries := by
    rw [List.all_eq_true]
    constructor
    · intro all e member
      exact find?_eq_some_iff.mp (of_decide_eq_true (all e member))
    · intro subset e member
      exact decide_eq_true (find?_eq_some_iff.mpr (subset member))
  rw [agrees, Bool.and_eq_true, decide_eq_true_eq, inclusion]
  constructor
  · rintro ⟨size, subset⟩
    have sub := List.subperm_of_subset (entries_nodup r) subset
    exact sub.perm_of_length_le (Nat.le_of_eq size.symm)
  · intro perm
    exact ⟨perm.length_eq, perm.subset⟩

end BodyDigest.Registry
