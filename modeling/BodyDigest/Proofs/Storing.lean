import BodyDigest.Proofs.Nesting

/-!
The registry as a keyed store. Records are registered unless two of them share a key, and then the
first such pair is named. What is registered is enumerated in order of first appearance in every
level, all look-ups and counts tell what the enumeration tells, and neither writing the registry
out nor comparing it depends on more than that.
-/
namespace BodyDigest.Registry

/-! ### Entries that clash -/

theorem add_clash {r : Registry} {a b : Entry} (held : a ∈ r.entries) (same : a.key = b.key) :
    r.add b = .error ⟨b.key.scope, b.key.type, [a.stamp.signature, b.stamp.signature]⟩ := by
  have found : r.find? b.key = some a.stamp := find?_eq_some_iff.mpr (same ▸ held)
  unfold add
  split
  · rename_i old known
    rw [found] at known
    cases known
    rfl
  · rename_i unknown
    rw [found] at unknown
    cases unknown

/-- Adding fails at the first entry under a key that is already there. -/
theorem foldlM_add_error_iff {entries : List Entry} {r : Registry} {c : Collision} :
    entries.foldlM add r = .error c ↔
      ∃ before b after, entries = before ++ b :: after ∧
        ((r.entries ++ before).map (·.key)).Nodup ∧
        ∃ a ∈ r.entries ++ before, a.key = b.key ∧
          c = ⟨b.key.scope, b.key.type, [a.stamp.signature, b.stamp.signature]⟩ := by
  induction entries generalizing r with
  | nil =>
    constructor
    · intro failed
      cases failed
    · rintro ⟨before, b, after, split, -⟩
      simp at split
  | cons e rest ih =>
    rw [List.foldlM_cons]
    by_cases known : e.key ∈ r.entries.map (·.key)
    · obtain ⟨old, held, same⟩ := List.mem_map.mp known
      rw [add_clash held same]
      constructor
      · intro failed
        cases failed
        exact ⟨[], e, rest, rfl, by simpa using r.nodup, old, by simpa using held, same, rfl⟩
      · rintro ⟨before, b, after, split, nodup, a, listed, alike, rfl⟩
        cases before with
        | nil =>
          cases split
          have one := List.inj_on_of_nodup_map r.nodup held (by simpa using listed)
            (same.trans alike.symm)
          rw [one]
          rfl
        | cons first before =>
          -- The key of the first entry cannot stand twice before the clash.
          cases split
          rw [List.map_append, List.map_cons] at nodup
          exact absurd rfl ((List.nodup_append.mp nodup).2.2 _ known _ (List.mem_cons_self ..))
    · obtain ⟨s, added, grown⟩ := add_fresh known
      rw [added]
      refine (ih (r := s)).trans ?_
      rw [grown]
      constructor
      · rintro ⟨before, b, after, rfl, nodup, clash⟩
        rw [List.append_assoc] at nodup clash
        exact ⟨e :: before, b, after, rfl, nodup, clash⟩
      · rintro ⟨before, b, after, split, nodup, a, listed, alike, rfl⟩
        cases before with
        | nil =>
          cases split
          have held : a ∈ r.entries := by simpa using listed
          exact absurd (alike ▸ List.mem_map_of_mem held) known
        | cons first before =>
          cases split
          refine ⟨before, b, after, rfl, ?_, a, ?_, alike, rfl⟩
          · rw [List.append_assoc]
            exact nodup
          · rw [List.append_assoc]
            exact listed

/-- The first record under a key that an earlier one has, and that earlier one. -/
def FirstClash (records : List Record) (c : Collision) : Prop :=
  ∃ before a between b after, records = before ++ a :: between ++ b :: after ∧
    (Record.entry a).key = (Record.entry b).key ∧ ((before ++ a :: between).map fun r => (Record.entry r).key).Nodup ∧
    c = ⟨b.scope, b.type, [a.signature, b.signature]⟩

theorem build_error_iff {records : List Record} {c : Collision} :
    build records = .error c ↔ FirstClash records c := by
  rw [build, ofEntries, foldlM_add_error_iff]
  simp only [empty, List.nil_append]
  constructor
  · rintro ⟨before, b, after, split, nodup, a, listed, same, rfl⟩
    obtain ⟨earlier, later, rfl, rfl, tail⟩ := List.map_eq_append_iff.mp split
    obtain ⟨y, others, rfl, rfl, rfl⟩ := List.map_eq_cons_iff.mp tail
    obtain ⟨x, member, rfl⟩ := List.mem_map.mp listed
    obtain ⟨front, back, rfl⟩ := List.append_of_mem member
    rw [List.map_map] at nodup
    exact ⟨front, x, back, y, others, rfl, same, nodup, rfl⟩
  · rintro ⟨before, a, between, b, after, rfl, same, nodup, rfl⟩
    refine ⟨(before ++ a :: between).map Record.entry, Record.entry b, after.map Record.entry, ?_, ?_,
      Record.entry a, ?_, same, rfl⟩
    · rw [List.map_append, List.map_cons]
    · rw [List.map_map]
      exact nodup
    · exact List.mem_map_of_mem (by simp)

theorem build_fails_iff {records : List Record} :
    (∃ c, build records = .error c) ↔
      ∃ a b, [a, b].Sublist records ∧ (Record.entry a).key = (Record.entry b).key := by
  constructor
  · rintro ⟨c, failed⟩
    obtain ⟨before, a, between, b, after, rfl, same, -⟩ := build_error_iff.mp failed
    refine ⟨a, b, ?_, same⟩
    have first : [a].Sublist (before ++ a :: between) :=
      List.singleton_sublist.mpr (by simp)
    exact first.append (List.singleton_sublist.mpr (List.mem_cons_self ..))
  · rintro ⟨a, b, sublist, same⟩
    cases built : build records with
    | error c => exact ⟨c, rfl⟩
    | ok r =>
      have entries := ofEntries_ok built
      have nodup := r.nodup
      rw [entries, List.map_map, List.Nodup, List.pairwise_map] at nodup
      exact absurd same (List.pairwise_iff_forall_sublist.mp nodup sublist)

/-! ### The levels of a registry -/

theorem toNested_eq (r : Registry) : r.toNested = Nested.ofEntries r.entries := by
  have perm : (Nested.ofEntries r.entries).members.Perm r.entries := Nested.members_perm r.entries
  have nodup : (r.members.map fun e => e.key).Nodup := by
    rw [members, ← Nested.members_ofEntries]
    exact (perm.map _).nodup_iff.mpr r.nodup
  have filled : r.members.foldl Nested.put (Nested.ofEntries []) = Nested.ofEntries r.members :=
    Nested.foldl_put nodup
  change r.members.foldl Nested.put (Nested.ofEntries []) = _
  rw [filled, members, ← Nested.members_ofEntries, Nested.ofEntries_members]

theorem members_toNested (r : Registry) : r.toNested.members = r.members := by
  rw [toNested_eq, Nested.members_ofEntries]
  rfl

theorem members_perm (r : Registry) : r.members.Perm r.entries := by
  rw [← members_toNested, toNested_eq]
  exact Nested.members_perm r.entries

theorem lookup_toNested (r : Registry) (k : Key) : r.toNested.lookup k = r.lookup k := by
  rw [toNested_eq, Nested.lookup_ofEntries]

theorem toNested_tidy (r : Registry) : r.toNested.IsTidy := by
  rw [toNested_eq]
  exact Nested.ofEntries_tidy r.nodup

/-- Adding to the levels is adding to the registry, also where it fails. -/
theorem add_toNested (r : Registry) (e : Entry) :
    r.toNested.add e = (r.add e).map toNested := by
  rw [Nested.add, lookup_toNested, lookup]
  cases found : r.find? e.key with
  | some old =>
    rw [add_clash (b := e) (find?_eq_some_iff.mp found) rfl]
    rfl
  | none =>
    have new := find?_eq_none found
    obtain ⟨s, added, grown⟩ := add_fresh new
    rw [added, toNested_eq, ← Nested.ofEntries_concat new, ← grown, ← toNested_eq]
    rfl

theorem foldlM_add_toNested (entries : List Entry) (r : Registry) :
    entries.foldlM Nested.add r.toNested = (entries.foldlM add r).map toNested := by
  induction entries generalizing r with
  | nil => rfl
  | cons e rest ih =>
    rw [List.foldlM_cons, List.foldlM_cons, add_toNested]
    cases r.add e with
    | error c => rfl
    | ok s => exact ih s

/-- What a registry makes of the entries that it was given, and what it tells of them. -/
structure IsStoreOf (entries : List Entry) (r : Registry) : Prop where
  /-- Names differ in every level, and no namespace and no type is empty. -/
  tidy : r.toNested.IsTidy
  scopes_order : r.toNested.names = distinct (entries.map (·.key.scope))
  types_order : ∀ s ∈ r.toNested,
    s.2.names = distinct ((entries.filter fun e => e.key.scope = s.1).map (·.key.type))
  members_order : ∀ s ∈ r.toNested, ∀ t ∈ s.2,
    t.2 = (entries.filter fun e => e.key.scope = s.1 ∧ e.key.type = t.1).map fun e =>
      (e.key.member, e.stamp)
  /-- The enumeration goes through the levels and meets every entry once. -/
  enumerated : r.members = r.toNested.members
  conserved : r.members.Perm entries
  /-- Every look-up goes through the levels and finds what the enumeration lists. -/
  looked_up : ∀ k, r.lookup k = r.toNested.lookup k
  lookup_iff : ∀ k s, r.lookup k = .ok s ↔ ⟨k, s⟩ ∈ r.members
  find_iff : ∀ k s, r.find? k = some s ↔ ⟨k, s⟩ ∈ r.members
  contains_iff : ∀ k, r.contains k = true ↔ k ∈ r.members.map (·.key)
  sized : r.size = r.members.length
  scopes_counted : r.scopes.length = r.toNested.scopeCount ∧
    r.toNested.scopeCount = (distinct (r.members.map (·.key.scope))).length
  types_counted : r.types.length = r.toNested.typeCount ∧
    r.toNested.typeCount = (distinct (r.members.map fun e => (e.key.scope, e.key.type))).length

theorem lookup_ok_iff {r : Registry} {k : Key} {s : Stamp} :
    r.lookup k = .ok s ↔ r.find? k = some s := by
  rw [lookup]
  cases r.find? k <;> simp

theorem isStoreOf_entries (r : Registry) : IsStoreOf r.entries r := by
  have find_iff (k : Key) (s : Stamp) : r.find? k = some s ↔ ⟨k, s⟩ ∈ r.members := by
    rw [find?_eq_some_iff, (members_perm r).mem_iff]
  have group_of_mem {s : Text × Named (Named Stamp)} (member : s ∈ r.toNested) :
      s.2 = Named.group (·.key.type) Nested.leaves (r.entries.filter fun e => e.key.scope = s.1) := by
    rw [toNested_eq] at member
    obtain ⟨scope, -, rfl⟩ := List.mem_map.mp member
    rfl
  refine {
    tidy := toNested_tidy r
    scopes_order := by rw [toNested_eq]; exact Named.names_group
    types_order := fun s member => by rw [group_of_mem member]; exact Named.names_group
    members_order := ?_
    enumerated := (members_toNested r).symm
    conserved := members_perm r
    looked_up := fun k => (lookup_toNested r k).symm
    lookup_iff := fun k s => lookup_ok_iff.trans (find_iff k s)
    find_iff
    contains_iff := ?_
    sized := (members_perm r).length_eq.symm
    scopes_counted := ?_
    types_counted := ?_ }
  · intro s member t inside
    rw [group_of_mem member] at inside
    obtain ⟨type, -, rfl⟩ := List.mem_map.mp inside
    rw [Nested.leaves, List.filter_filter]
    refine congrArg (List.map _) (List.filter_congr fun e _ => ?_)
    rw [Bool.and_comm, Bool.decide_and]
  · intro k
    rw [contains, find?_isSome_iff, ((members_perm r).map _).mem_iff]
  · rw [toNested_eq, Nested.scopeCount_ofEntries]
    exact ⟨rfl, (distinct_perm ((members_perm r).map _)).length_eq.symm⟩
  · rw [toNested_eq, Nested.typeCount_ofEntries]
    exact ⟨rfl, (distinct_perm ((members_perm r).map _)).length_eq.symm⟩

/-- A registry that is written out and read back has the same enumeration. -/
theorem registryOfValue_toNested (r : Registry) :
    ∃ s, Indented.registryOfValue r.toNested.toValue = .ok s ∧ s.members = r.members := by
  have nodup : (r.members.map (·.key)).Nodup := ((members_perm r).map _).nodup_iff.mpr r.nodup
  have built := ofEntries_nodup nodup
  refine ⟨⟨r.members, nodup⟩, ?_, ?_⟩
  · rw [ofEntries] at built
    rw [Nested.registryOfValue_toValue (toNested_tidy r), members_toNested, Emit.foldlM_register,
      built]
    rfl
  · have again : Nested.ofEntries r.members = r.toNested := by
      rw [← members_toNested, toNested_eq, Nested.ofEntries_members]
    have same : toNested ⟨r.members, nodup⟩ = r.toNested := (toNested_eq _).trans again
    rw [← members_toNested, same, members_toNested]

theorem equals_iff (r s : Registry) : r.equals s = true ↔ ∀ k, r.find? k = s.find? k := by
  have found (r : Registry) (k : Key) : (r.toNested.lookup k).toOption = r.find? k := by
    rw [lookup_toNested, lookup]
    cases r.find? k <;> rfl
  rw [equals, Nested.same_iff_lookup (toNested_tidy r) (toNested_tidy s)]
  simp only [found]

/-- Records are registered unless two share a key, and then the first such pair is named. What is
registered is a store of one entry for each record, which is written out without loss, and which
equals another one exactly when both hold the same stamps under the same keys. -/
theorem registry_is_keyed_store :
    (∀ records : List Record,
      ((∃ c, build records = .error c) ↔
        ∃ a b, [a, b].Sublist records ∧ (Record.entry a).key = (Record.entry b).key) ∧
      (∀ c, build records = .error c ↔ FirstClash records c) ∧
      (records.map Record.entry).foldlM Nested.add [] = (build records).map toNested ∧
      ∀ r, build records = .ok r → IsStoreOf (records.map Record.entry) r) ∧
    (∀ r : Registry, IsStoreOf r.entries r ∧
      ∃ s, Indented.registryOfValue r.toNested.toValue = .ok s ∧ s.members = r.members) ∧
    ∀ r s : Registry, r.equals s = true ↔ ∀ k, r.find? k = s.find? k := by
  refine ⟨fun records => ⟨build_fails_iff, fun c => build_error_iff, ?_, ?_⟩,
    fun r => ⟨isStoreOf_entries r, registryOfValue_toNested r⟩, equals_iff⟩
  · exact foldlM_add_toNested _ empty
  · intro r built
    rw [← ofEntries_ok built]
    exact isStoreOf_entries r

end BodyDigest.Registry
