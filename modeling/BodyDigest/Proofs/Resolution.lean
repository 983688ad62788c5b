import BodyDigest.Proofs.Naming

/-!
What resolution answers for every list of records: each record under the name that is due to it, or
the first collision. Both are said here of the list as a whole, without the walk from group to group.
-/
namespace BodyDigest

/-! ### Due names -/

/-- The records of a namespace and type, in the order of the list. -/
def groupAt (records : List Record) (g : Text × Text) : List Record := records.filter (·.group = g)

/-- A member name that occurs once in its namespace and type stays; one that occurs more often gives
way to the signature. -/
def dueName (records : List Record) (r : Record) : Text :=
  if 1 < records.countP (fun s => s.group = r.group && s.member = r.member) then
    identifierSafe r.signature
  else r.member

/-- A record under the name that is due to it. -/
def Record.due (records : List Record) (r : Record) : Record :=
  { r with resolved := dueName records r }

/-- The records of its namespace and type to which a record's name is due as well. -/
def sharers (records : List Record) (r : Record) : List Record :=
  (groupAt records r.group).filter fun s => dueName records s = dueName records r

def isShared (records : List Record) (r : Record) : Bool := 1 < (sharers records r).length

/-- In every namespace and type the due names differ from one another. -/
def AllApart (records : List Record) : Prop :=
  ∀ g, ((groupAt records g).map (dueName records)).Nodup

/-- The record whose shared name is reported: of the groups in order of appearance the first one
counts that shares a name, and in it the first record with such a name. -/
def firstShared? (records : List Record) : Option Record :=
  (distinct (records.map Record.group)).findSome? fun g =>
    (groupAt records g).find? (isShared records)

/-- What is reported of a record with a shared name. -/
def collisionAt (records : List Record) (r : Record) : Collision :=
  ⟨r.scope, r.type, (sharers records r).map (·.signature)⟩

variable {records : List Record} {r s : Record} {g : Text × Text}

/-- The due name depends on the group of the record alone. -/
theorem dueName_eq (records : List Record) (r : Record) : dueName records r =
    if 1 < (groupAt records r.group).countP (·.member = r.member) then identifierSafe r.signature
    else r.member := by
  rw [dueName, groupAt, List.countP_filter]
  simp only [Bool.and_comm]

theorem groupAt_self (records : List Record) (g : Text × Text) :
    groupAt (groupAt records g) g = groupAt records g := by
  simp [groupAt]

theorem mem_groupAt : s ∈ groupAt records g ↔ s ∈ records ∧ s.group = g := by
  simp [groupAt]

/-- The walk through a group finds the name that is due in the list. -/
theorem resolvedName_eq_dueName (member : r ∈ groupAt records g) :
    resolvedName (groupAt records g) r = dueName records r := by
  obtain ⟨listed, rfl⟩ := mem_groupAt.mp member
  have itself : 0 < (groupAt records r.group).countP (·.member = r.member) :=
    List.countP_pos_iff.mpr ⟨r, member, by simp⟩
  rw [resolvedName, dueName_eq, ← List.countP_eq_length_filter]
  by_cases once : (groupAt records r.group).countP (·.member = r.member) = 1
  · rw [if_pos once, if_neg (by omega)]
  · rw [if_neg once, if_pos (by omega)]

/-! ### One group -/

theorem map_resolvedName (records : List Record) (g : Text × Text) :
    (groupAt records g).map (fun r => { r with resolved := resolvedName (groupAt records g) r }) =
      (groupAt records g).map (Record.due records) := by
  apply List.map_congr_left
  intro r member
  rw [Record.due, resolvedName_eq_dueName member]

theorem sharers_eq (member : r ∈ groupAt records g) :
    ((groupAt records g).map (Record.due records)).filter (·.resolved = dueName records r) =
      (sharers records r).map (Record.due records) := by
  rw [sharers, (mem_groupAt.mp member).2, List.filter_map]
  rfl

theorem isShared_of_sharer (member : r ∈ groupAt records g) (inside : s ∈ groupAt records g)
    (same : dueName records s = dueName records r) : isShared records r = isShared records s := by
  rw [isShared, isShared, sharers, sharers, (mem_groupAt.mp member).2, (mem_groupAt.mp inside).2, same]

/-- What a group answers on its own: its records under their names, or its first collision. -/
theorem resolveGroup_eq (records : List Record) (g : Text × Text) :
    resolveGroup (groupAt records g) =
      match (groupAt records g).find? (isShared records) with
      | some r => .error (collisionAt records r)
      | none => .ok ((groupAt records g).map (Record.due records)) := by
  unfold resolveGroup
  rw [map_resolvedName]
  extract_lets resolved names holders
  have crowded : (groupAt records g).find? (fun r =>
      1 < (resolved.filter (·.resolved = dueName records r)).length) =
        (groupAt records g).find? (isShared records) := by
    rw [← List.head?_filter, ← List.head?_filter]
    apply congrArg List.head?
    apply List.filter_congr
    intro r member
    rw [sharers_eq member, List.length_map, isShared]
  have crowd : (holders.find? fun h => 1 < h.length) =
      ((groupAt records g).find? (isShared records)).map fun r =>
        resolved.filter (·.resolved = dueName records r) := by
    rw [← crowded]
    simp only [holders, names, find?_distinct, List.find?_map]
    simp only [resolved, List.find?_map, Option.map_map]
    rfl
  rw [crowd]
  cases found : (groupAt records g).find? (isShared records) with
  | none => rfl
  | some r =>
    have member := List.mem_of_find?_eq_some found
    have first : (sharers records r).head? = some r := by
      rw [sharers, (mem_groupAt.mp member).2]
      apply head?_of_find? found
      intro s inside same
      rw [← isShared_of_sharer member inside same]
      exact List.find?_some found
    rw [Option.map_some, sharers_eq member]
    cases sharing : sharers records r with
    | nil =>
      rw [sharing] at first
      cases first
    | cons s rest =>
      rw [sharing] at first
      cases first
      simp only [List.map_cons, List.map_map, collisionAt, sharing]
      rfl

/-! ### All groups -/

theorem groups_eq (records : List Record) :
    groups records = (distinct (records.map Record.group)).map (groupAt records) := rfl

/-- The walk from group to group answers the first collision, or what is due. -/
theorem resolve_eq (records : List Record) :
    resolve records = ((firstShared? records).map (collisionAt records)).elim
      (.ok ((groups records).flatMap fun g => g.map (Record.due records))) .error := by
  have each (group : List Record) (member : group ∈ groups records) : resolveGroup group =
      ((group.find? (isShared records)).map (collisionAt records)).elim
        (.ok (group.map (Record.due records))) .error := by
    obtain ⟨g, _, rfl⟩ := List.mem_map.mp member
    change resolveGroup (groupAt records g) =
      Option.elim (Option.map _ ((groupAt records g).find? _)) (.ok ((groupAt records g).map _)) _
    rw [resolveGroup_eq]
    cases (groupAt records g).find? (isShared records) <;> rfl
  have first : (groups records).findSome? (fun group =>
      (group.find? (isShared records)).map (collisionAt records)) =
        (firstShared? records).map (collisionAt records) := by
    rw [groups_eq, List.findSome?_map, firstShared?, List.map_findSome?]
    rfl
  rw [resolve, mapM_eq_of_faults each, first]
  cases firstShared? records with
  | some r => rfl
  | none =>
    rw [List.flatMap_def]
    rfl

/-- A group without the rest of the list is resolved as it is in the list. -/
theorem resolve_groupAt (records : List Record) (g : Text × Text) :
    resolve (groupAt records g) = resolveGroup (groupAt records g) := by
  cases found : groupAt records g with
  | nil => rfl
  | cons r rest =>
    have same : ∀ s ∈ r :: rest, s.group = g := fun s member => (mem_groupAt.mp (found ▸ member)).2
    have keys : distinct ((r :: rest).map Record.group) = [g] := by
      rw [List.map_cons, distinct, same r List.mem_cons_self]
      have none : (distinct (rest.map Record.group)).filter (· ≠ g) = [] := by
        rw [List.filter_eq_nil_iff]
        intro k member
        obtain ⟨s, inside, rfl⟩ := List.mem_map.mp (mem_distinct.mp member)
        simp [same s (List.mem_cons_of_mem _ inside)]
      rw [none]
    have whole : groupAt (r :: rest) g = r :: rest := by
      rw [← found, groupAt_self]
    rw [resolve, groups_eq, keys, List.map_singleton, whole, List.mapM_cons, List.mapM_nil]
    cases resolveGroup (r :: rest) with
    | error c => rfl
    | ok resolved => exact congrArg Except.ok (List.append_nil _)

/-! ### Which names are shared -/

/-- No group that appears before that of the record shares a name, and no record before it in its
group has a name that is shared. -/
structure IsFirstShared (records : List Record) (r : Record) : Prop where
  shared : isShared records r
  within : ∃ before after, groupAt records r.group = before ++ r :: after ∧
    ∀ s ∈ before, isShared records s = false
  groups : ∃ before after, distinct (records.map Record.group) = before ++ r.group :: after ∧
    ∀ g ∈ before, ∀ s ∈ groupAt records g, isShared records s = false

theorem firstShared?_eq_some_iff : firstShared? records = some r ↔ IsFirstShared records r := by
  rw [firstShared?, List.findSome?_eq_some_iff]
  simp only [List.find?_eq_none, Bool.not_eq_true]
  constructor
  · rintro ⟨before, g, after, split, found, quiet⟩
    obtain ⟨shared, first, rest, within, apart⟩ := List.find?_eq_some_iff_append.mp found
    obtain rfl := (mem_groupAt.mp (List.mem_of_find?_eq_some found)).2
    exact ⟨shared, ⟨first, rest, within, by simpa using apart⟩, before, after, split, quiet⟩
  · rintro ⟨shared, ⟨first, rest, within, apart⟩, before, after, split, quiet⟩
    refine ⟨before, r.group, after, split, ?_, quiet⟩
    exact List.find?_eq_some_iff_append.mpr ⟨shared, first, rest, within, by simpa using apart⟩

/-- Names differ in a group exactly when none of them is shared. -/
theorem dueNames_nodup_iff (records : List Record) (g : Text × Text) :
    ((groupAt records g).map (dueName records)).Nodup ↔
      ∀ r ∈ groupAt records g, isShared records r = false := by
  have names : ((groupAt records g).map (Record.due records)).map (·.resolved) =
      (groupAt records g).map (dueName records) := by
    rw [List.map_map]
    rfl
  rw [← names, ← holders_single_iff_nodup, names]
  constructor
  · intro single r member
    have few := single _ (mem_distinct.mpr (List.mem_map_of_mem member))
    rw [sharers_eq member, List.length_map] at few
    simpa [isShared] using few
  · intro alone n listed
    obtain ⟨r, member, rfl⟩ := List.mem_map.mp (mem_distinct.mp listed)
    rw [sharers_eq member, List.length_map]
    simpa [isShared] using alone r member

theorem firstShared?_eq_none_iff : firstShared? records = none ↔ AllApart records := by
  rw [firstShared?, List.findSome?_eq_none_iff, AllApart]
  simp only [List.find?_eq_none, Bool.not_eq_true, dueNames_nodup_iff]
  constructor
  · intro quiet g r member
    obtain ⟨listed, rfl⟩ := mem_groupAt.mp member
    exact quiet _ (mem_distinct.mpr (List.mem_map_of_mem listed)) r member
  · intro quiet g _
    exact quiet g

/-! ### Resolving again -/

/-- All records under their due names, groups in order of first appearance. -/
def inGroups (records : List Record) : List Record :=
  (distinct (records.map Record.group)).flatMap fun g => (groupAt records g).map (Record.due records)

theorem flatMap_groups (records : List Record) :
    (groups records).flatMap (fun group => group.map (Record.due records)) = inGroups records := by
  rw [groups_eq, List.flatMap_map]
  rfl

theorem groupAt_inGroups (records : List Record) (g : Text × Text) :
    groupAt (inGroups records) g = (groupAt records g).map (Record.due records) := by
  have kept (k : Text × Text) : ((groupAt records k).map (Record.due records)).filter (·.group = g) =
      ((groupAt records k).filter (·.group = g)).map (Record.due records) := by
    rw [List.filter_map]
    rfl
  have own : (groupAt records g).filter (·.group = g) = groupAt records g := groupAt_self records g
  rw [groupAt, inGroups, List.filter_flatMap]
  simp only [kept]
  rw [flatMap_of_single (k := g) (distinct_nodup _) ?_ ?_, own]
  · intro k _ other
    rw [List.map_eq_nil_iff, List.filter_eq_nil_iff]
    intro r member
    simpa [(mem_groupAt.mp member).2] using other
  · intro outside
    rw [List.map_eq_nil_iff, own, groupAt, List.filter_eq_nil_iff]
    intro r member same
    apply outside
    rw [mem_distinct, ← of_decide_eq_true same]
    exact List.mem_map_of_mem member

theorem dueName_inGroups (records : List Record) (r : Record) :
    dueName (inGroups records) (r.due records) = dueName records r := by
  rw [dueName_eq, dueName_eq]
  change (if 1 < (groupAt (inGroups records) r.group).countP (·.member = r.member) then _ else _) = _
  rw [groupAt_inGroups, List.countP_map]
  rfl

theorem inGroups_inGroups (records : List Record) :
    inGroups (inGroups records) = inGroups records := by
  have keys : distinct ((inGroups records).map Record.group) = distinct (records.map Record.group) := by
    apply distinct_blocks (distinct_nodup _)
    · intro g member
      obtain ⟨r, listed, rfl⟩ := List.mem_map.mp (mem_distinct.mp member)
      exact List.ne_nil_of_mem (List.mem_map_of_mem (mem_groupAt.mpr ⟨listed, rfl⟩))
    · intro g _ r member
      obtain ⟨s, inside, rfl⟩ := List.mem_map.mp member
      exact (mem_groupAt.mp inside).2
  have again (r : Record) : (r.due records).due (inGroups records) = r.due records := by
    rw [Record.due, dueName_inGroups]
    rfl
  change ((distinct ((inGroups records).map Record.group)).flatMap fun g =>
    (groupAt (inGroups records) g).map (Record.due (inGroups records))) = inGroups records
  rw [keys, inGroups]
  apply List.flatMap_congr
  intro g _
  rw [← inGroups, groupAt_inGroups, List.map_map]
  exact List.map_congr_left fun r _ => again r

theorem allApart_inGroups (apart : AllApart records) : AllApart (inGroups records) := by
  intro g
  have names : dueName (inGroups records) ∘ Record.due records = dueName records :=
    funext (dueName_inGroups records)
  rw [groupAt_inGroups, List.map_map, names]
  exact apart g

theorem inGroups_perm (records : List Record) :
    (inGroups records).Perm (records.map (Record.due records)) := by
  rw [inGroups, ← List.map_flatMap]
  exact (grouped_by_distinct_perm Record.group records).map _

theorem resolve_ok_iff_apart {resolved : List Record} :
    resolve records = .ok resolved ↔ AllApart records ∧ resolved = inGroups records := by
  rw [resolve_eq, ← firstShared?_eq_none_iff, flatMap_groups]
  cases firstShared? records with
  | some r => simp
  | none => simp [eq_comm]

theorem resolve_error_iff {c : Collision} :
    resolve records = .error c ↔ ∃ r, IsFirstShared records r ∧ c = collisionAt records r := by
  simp only [resolve_eq, ← firstShared?_eq_some_iff]
  cases firstShared? records with
  | some r => simp [eq_comm]
  | none => simp

/-- Where the due names differ in every namespace and type, each record comes back under its due
name, groups in order of first appearance and the records of a group in their order; elsewhere the
first collision is answered, with the signatures of all that share the name. What is resolved stays
so, and each group is answered as it is without the others. -/
theorem resolve_gives_due_names (records : List Record) :
    (∀ resolved, resolve records = .ok resolved ↔
      AllApart records ∧ resolved = inGroups records) ∧
    (∀ c, resolve records = .error c ↔
      ∃ r, IsFirstShared records r ∧ c = collisionAt records r) ∧
    (inGroups records).Perm (records.map (Record.due records)) ∧
    (∀ resolved, resolve records = .ok resolved → resolve resolved = .ok resolved ∧
      ∀ g, resolve (groupAt records g) = .ok (groupAt resolved g)) ∧
    ∀ c, resolve records = .error c → resolve (groupAt records (c.scope, c.type)) = .error c := by
  refine ⟨fun _ => resolve_ok_iff_apart, fun _ => resolve_error_iff, inGroups_perm records, ?_, ?_⟩
  · intro resolved ok
    obtain ⟨apart, rfl⟩ := resolve_ok_iff_apart.mp ok
    constructor
    · exact resolve_ok_iff_apart.mpr ⟨allApart_inGroups apart, (inGroups_inGroups records).symm⟩
    · intro g
      have quiet := (dueNames_nodup_iff records g).mp (apart g)
      rw [resolve_groupAt, resolveGroup_eq, groupAt_inGroups,
        List.find?_eq_none.mpr fun r member => by simp [quiet r member]]
  · intro c failed
    obtain ⟨r, first, rfl⟩ := resolve_error_iff.mp failed
    obtain ⟨before, after, split, quiet⟩ := first.within
    have found : (groupAt records r.group).find? (isShared records) = some r :=
      List.find?_eq_some_iff_append.mpr ⟨first.shared, before, after, split, by simpa using quiet⟩
    change resolve (groupAt records r.group) = _
    rw [resolve_groupAt, resolveGroup_eq, found]

end BodyDigest
