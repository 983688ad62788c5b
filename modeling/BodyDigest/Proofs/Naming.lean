import Mathlib.Data.List.Nodup
import BodyDigest.Registry
import BodyDigest.Proofs.Grouping

/-!
What resolution guarantees, and what the registry needs: names that are unique in every group are
keys that are unique in the registry, so that resolved records can always be registered.
-/
namespace BodyDigest

/-- A record under the name that its group gives it. -/
def Record.named (group : List Record) (r : Record) : Record :=
  { r with resolved := resolvedName group r }

/-- The records that share a record's namespace and type. -/
def groupOf (records : List Record) (r : Record) : List Record :=
  records.filter (·.group = r.group)

/-- Holders of one name are at most one each exactly when the names differ from one another. -/
theorem holders_single_iff_nodup (rs : List Record) :
    (∀ n ∈ distinct (rs.map (·.resolved)), (rs.filter (·.resolved = n)).length ≤ 1) ↔
      (rs.map (·.resolved)).Nodup := by
  rw [List.nodup_iff_count_le_one]
  have counted (n : Text) : (rs.map (·.resolved)).count n = (rs.filter (·.resolved = n)).length := by
    rw [List.count, List.countP_map, List.countP_eq_length_filter]
    congr 1
    exact List.filter_congr fun r _ => Bool.eq_iff_iff.mpr (by simp)
  constructor
  · intro single n
    by_cases member : n ∈ rs.map (·.resolved)
    · rw [counted]
      exact single n (mem_distinct.mpr member)
    · rw [List.count_eq_zero.mpr member]
      omega
  · intro once n _
    rw [← counted]
    exact once n

theorem resolveGroup_ok_iff {group resolved : List Record} :
    resolveGroup group = .ok resolved ↔
      resolved = group.map (Record.named group) ∧ (resolved.map (·.resolved)).Nodup := by
  unfold resolveGroup
  extract_lets all names holders
  have crowded_iff : (holders.find? fun h => 1 < h.length) = none ↔
      (all.map (·.resolved)).Nodup := by
    rw [← holders_single_iff_nodup, List.find?_eq_none]
    simp [holders, names]
  cases found : holders.find? fun h => 1 < h.length with
  | none =>
    have nodup := crowded_iff.mp found
    constructor
    · intro ok
      have same : all = resolved := Except.ok.inj ok
      exact ⟨same.symm, same ▸ nodup⟩
    · rintro ⟨rfl, _⟩
      rfl
  | some crowd =>
    have large : 1 < crowd.length := by simpa using List.find?_some found
    have double : ¬ (all.map (·.resolved)).Nodup := fun nodup => by
      rw [crowded_iff.mpr nodup] at found
      cases found
    cases crowd with
    | nil => simp at large
    | cons first rest =>
      simp only [reduceCtorEq, false_iff, not_and]
      rintro rfl
      exact double

theorem resolve_ok_iff {records resolved : List Record} :
    resolve records = .ok resolved ↔
      resolved = (groups records).flatMap (fun g => g.map (Record.named g)) ∧
        ∀ g ∈ groups records, (g.map (resolvedName g)).Nodup := by
  have names (g : List Record) : (g.map (Record.named g)).map (·.resolved) = g.map (resolvedName g) := by
    simp [Record.named, Function.comp_def]
  constructor
  · intro ok
    simp only [resolve, bind, Except.bind, pure, Except.pure] at ok
    cases run : (groups records).mapM resolveGroup with
    | error c => simp [run] at ok
    | ok results =>
      rw [run] at ok
      have spec : ∀ g ∈ groups records, ∀ r, resolveGroup g = .ok r →
          r = g.map (Record.named g) ∧ (g.map (resolvedName g)).Nodup := by
        intro g _ r h
        obtain ⟨rfl, nodup⟩ := resolveGroup_ok_iff.mp h
        exact ⟨rfl, names g ▸ nodup⟩
      have found := mapM_ok_exists_iff.mp ⟨results, run⟩
      have all_named : ∀ g ∈ groups records, resolveGroup g = .ok (g.map (Record.named g)) := by
        intro g member
        obtain ⟨r, h⟩ := found g member
        rw [h, (spec g member r h).1]
      have same := run.symm.trans (mapM_eq_ok_map all_named)
      cases same
      cases ok
      refine ⟨by rw [List.flatMap_def], ?_⟩
      intro g member
      obtain ⟨r, h⟩ := found g member
      exact (spec g member r h).2
  · rintro ⟨rfl, nodup⟩
    have each : ∀ g ∈ groups records, resolveGroup g = .ok (g.map (Record.named g)) := by
      intro g member
      exact resolveGroup_ok_iff.mpr ⟨rfl, names g ▸ nodup g member⟩
    simp [resolve, mapM_eq_ok_map each, bind, Except.bind, pure, Except.pure, List.flatMap_def]

theorem mem_groups {records g : List Record} (h : g ∈ groups records) :
    ∃ r ∈ records, g = groupOf records r := by
  obtain ⟨key, member, rfl⟩ := List.mem_map.mp h
  obtain ⟨r, inside, rfl⟩ := List.mem_map.mp (mem_distinct.mp member)
  exact ⟨r, inside, rfl⟩

theorem groups_flatten_perm (records : List Record) : (groups records).flatten.Perm records := by
  rw [groups, ← List.flatMap_def]
  exact grouped_by_distinct_perm Record.group records

/-- Inside its own group a record is named as in the whole list. -/
theorem named_in_group {records g : List Record} {r : Record} (hg : g ∈ groups records)
    (hr : r ∈ g) : Record.named g r = Record.named (groupOf records r) r := by
  obtain ⟨s, _, rfl⟩ := mem_groups hg
  have same : r.group = s.group := by simpa using (List.mem_filter.mp hr).2
  rw [groupOf, groupOf, same]

/-- Resolution neither loses nor doubles a record, and changes nothing but its name. -/
theorem resolved_perm {records resolved : List Record} (h : resolve records = .ok resolved) :
    resolved.Perm (records.map fun r => r.named (groupOf records r)) := by
  obtain ⟨rfl, _⟩ := resolve_ok_iff.mp h
  have global : (groups records).flatMap (fun g => g.map (Record.named g)) =
      (groups records).flatten.map fun r => r.named (groupOf records r) := by
    rw [List.map_flatten, List.flatMap_def]
    congr 1
    apply List.map_congr_left
    intro g hg
    exact List.map_congr_left fun r hr => named_in_group hg hr
  rw [global]
  exact (groups_flatten_perm records).map _

/-- Records of different groups have different keys whatever their names are. -/
theorem resolved_keys_nodup {records resolved : List Record} (h : resolve records = .ok resolved) :
    (resolved.map fun r => (Registry.Record.entry r).key).Nodup := by
  obtain ⟨rfl, nodup⟩ := resolve_ok_iff.mp h
  have keys_of_group : ∀ g ∈ groups records,
      ((g.map (Record.named g)).map fun r => (Registry.Record.entry r).key).Nodup := by
    intro g hg
    have apart := nodup g hg
    rw [List.map_map]
    rw [List.Nodup, List.pairwise_map] at apart ⊢
    exact apart.imp fun {a b} differs same => differs (congrArg Key.member same)
  rw [List.map_flatMap, List.flatMap_def, List.nodup_flatten]
  constructor
  · intro keys member
    obtain ⟨g, hg, rfl⟩ := List.mem_map.mp member
    exact keys_of_group g hg
  · rw [List.pairwise_map, groups, List.pairwise_map]
    apply (distinct_nodup (records.map Record.group)).imp
    intro a b differs k inside elsewhere
    obtain ⟨r, hr, rfl⟩ := List.mem_map.mp inside
    obtain ⟨s, hs, same⟩ := List.mem_map.mp elsewhere
    obtain ⟨r', hr', rfl⟩ := List.mem_map.mp hr
    obtain ⟨s', hs', rfl⟩ := List.mem_map.mp hs
    have ga : r'.group = a := by simpa using (List.mem_filter.mp hr').2
    have gb : s'.group = b := by simpa using (List.mem_filter.mp hs').2
    apply differs
    rw [← ga, ← gb]
    exact Prod.ext (congrArg Key.scope same).symm (congrArg Key.type same).symm

end BodyDigest
