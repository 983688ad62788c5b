import BodyDigest.Emit.Basic
import BodyDigest.Proofs.Order
import BodyDigest.Proofs.Registration

/-!
The views of a registry. Each level claims its attributes one after the other; stated once for all
three levels, this tells when views exist, that they list every entry once, and that they depend
on the entries alone and not on the order in which they were added.
-/
namespace BodyDigest.Emit

/-! ### One level -/

/-- Attributes for keys that are identifiers, not yet taken, and different from one another. -/
def Free (name : Text → Text) (taken keys : List Text) : Prop :=
  (∀ k ∈ keys, (name k).isIdentifier) ∧ (∀ k ∈ keys, name k ∉ taken) ∧ (keys.map name).Nodup

theorem free_cons {name : Text → Text} {taken keys : List Text} {k : Text} :
    Free name taken (k :: keys) ↔
      ((name k).isIdentifier ∧ name k ∉ taken) ∧ Free name (name k :: taken) keys := by
  simp only [Free, List.forall_mem_cons, List.map_cons, List.nodup_cons]
  simp only [List.mem_cons, not_or]
  constructor
  · rintro ⟨⟨ident, idents⟩, ⟨free, frees⟩, fresh, nodup⟩
    refine ⟨⟨ident, free⟩, idents, ?_, nodup⟩
    intro j member
    exact ⟨fun same => fresh (same ▸ List.mem_map_of_mem member), frees j member⟩
  · rintro ⟨⟨ident, free⟩, idents, frees, nodup⟩
    refine ⟨⟨ident, idents⟩, ⟨free, fun j member => (frees j member).2⟩, ?_, nodup⟩
    intro taken_later
    obtain ⟨j, member, same⟩ := List.mem_map.mp taken_later
    exact (frees j member).1 same

theorem claim_ok_iff {subject : Subject} {name : Text} {taken : List (Text × Text)} :
    claim subject name taken = .ok () ↔ name.isIdentifier ∧ name ∉ taken.map (·.1) := by
  have looked_up : taken.lookup name = none ↔ name ∉ taken.map (·.1) := by
    rw [List.lookup_eq_none_iff, List.mem_map, not_exists]
    constructor
    · rintro none p ⟨member, rfl⟩
      simpa using none p member
    · intro absent p member
      simpa using fun same : name = p.1 => absent p ⟨member, same.symm⟩
  unfold claim
  cases ident : name.isIdentifier with
  | false => simp
  | true =>
    rw [← looked_up]
    cases taken.lookup name <;> simp

/-- Claims the attributes of all keys in order and makes a view for each. -/
def claimAll {α : Type} (subject : Text → Subject) (name : Text → Text)
    (make : Text → Except EmissionError α) (taken : List (Text × Text)) :
    List Text → Except EmissionError (List α)
  | [] => .ok []
  | key :: rest => do
    claim (subject key) (name key) taken
    let view ← make key
    return view :: (← claimAll subject name make ((name key, key) :: taken) rest)

theorem claimAll_ok_iff {α : Type} {subject : Text → Subject} {name : Text → Text}
    {make : Text → Except EmissionError α} {taken : List (Text × Text)} {keys : List Text}
    {vs : List α} :
    claimAll subject name make taken keys = .ok vs ↔
      Free name (taken.map (·.1)) keys ∧ keys.map make = vs.map .ok := by
  induction keys generalizing taken vs with
  | nil => cases vs <;> simp [claimAll, Free]
  | cons key rest ih =>
    have claimed : claim (subject key) (name key) taken = .ok () ↔ _ := claim_ok_iff
    rw [free_cons, ← claimed, claimAll]
    cases accepted : claim (subject key) (name key) taken with
    | error e => simp [bind, Except.bind]
    | ok u =>
      cases made : make key with
      | error e => cases vs <;> simp [bind, Except.bind, made]
      | ok v =>
        cases later : claimAll subject name make ((name key, key) :: taken) rest with
        | error e =>
          have fails (ws : List α) :
              ¬ (Free name (name key :: taken.map (·.1)) rest ∧ rest.map make = ws.map .ok) := by
            intro ok
            have run : claimAll subject name make ((name key, key) :: taken) rest = .ok ws :=
              ih.mpr ok
            rw [run] at later
            cases later
          cases vs with
          | nil => simp [bind, Except.bind]
          | cons w ws =>
            simp only [bind, Except.bind, reduceCtorEq, true_and, List.map_cons, false_iff]
            rintro ⟨free, same⟩
            exact fails ws ⟨free, (List.cons.inj same).2⟩
        | ok ws =>
          obtain ⟨free, same⟩ := ih.mp later
          have injective : Function.Injective (Except.ok : α → Except EmissionError α) :=
            fun a b eq => Except.ok.inj eq
          cases vs with
          | nil => simp [bind, Except.bind, pure, Except.pure]
          | cons w ws' =>
            have free' : Free name (name key :: taken.map (·.1)) rest := free
            simp [bind, Except.bind, pure, Except.pure, made, same, free',
              (List.map_injective_iff.mpr injective).eq_iff]

/-- Views that show what was grouped under their keys show it all. -/
theorem flatMap_perm_of_made {α : Type} {make : Text → Except EmissionError α}
    {keys : List Text} {vs : List α} (shown : α → List Entry) (group : Text → List Entry)
    (made : keys.map make = vs.map .ok)
    (each : ∀ k v, make k = .ok v → (shown v).Perm (group k)) :
    (vs.flatMap shown).Perm (keys.flatMap group) := by
  induction keys generalizing vs with
  | nil =>
    cases vs with
    | nil => exact List.Perm.refl _
    | cons v rest => simp at made
  | cons key rest ih =>
    cases vs with
    | nil => simp at made
    | cons v vs =>
      obtain ⟨first, later⟩ := List.cons.inj made
      rw [List.flatMap_cons, List.flatMap_cons]
      exact (each key v first).append (ih later)

/-! ### Sorted keys -/

theorem sortedKeys_perm (keys : List Text) : (sortedKeys keys).Perm (distinct keys) :=
  List.mergeSort_perm _ _

theorem sortedKeys_nodup (keys : List Text) : (sortedKeys keys).Nodup :=
  (sortedKeys_perm keys).nodup_iff.mpr (distinct_nodup keys)

theorem mem_sortedKeys {k : Text} {keys : List Text} : k ∈ sortedKeys keys ↔ k ∈ keys :=
  (sortedKeys_perm keys).mem_iff.trans mem_distinct

theorem sortedKeys_eq_of_perm {a b : List Text} (h : a.Perm b) : sortedKeys a = sortedKeys b :=
  mergeSort_eq_of_perm (distinct_perm h)

/-- Sorted keys cut a list into groups of which nothing is lost. -/
theorem sorted_groups_perm {α : Type} (f : α → Text) (xs : List α) :
    ((sortedKeys (xs.map f)).flatMap fun k => xs.filter fun x => f x = k).Perm xs := by
  apply grouped_perm f (sortedKeys_nodup _)
  intro x member
  exact mem_sortedKeys.mpr (List.mem_map_of_mem member)

theorem free_sortedKeys_iff {name : Text → Text} {keys : List Text} :
    Free name [] (sortedKeys keys) ↔
      (∀ k ∈ keys, (name k).isIdentifier) ∧
        ∀ j ∈ keys, ∀ k ∈ keys, name j = name k → j = k := by
  simp only [Free, mem_sortedKeys, List.not_mem_nil, not_false_eq_true, implies_true, true_and]
  apply and_congr_right
  intro _
  rw [List.nodup_map_iff_inj_on (sortedKeys_nodup keys)]
  simp only [mem_sortedKeys]

/-! ### The three levels -/

def MemberView.entry (scope type : Text) (m : MemberView) : Entry := ⟨⟨scope, type, m.key⟩, m.stamp⟩

def TypeView.entries (scope : Text) (t : TypeView) : List Entry :=
  t.members.map (MemberView.entry scope t.key)

def ContainerView.entries (c : ContainerView) : List Entry :=
  c.types.flatMap (TypeView.entries c.key)

/-- The entries that views show. -/
def listed (containers : List ContainerView) : List Entry :=
  containers.flatMap ContainerView.entries

/-- Entries of one type, whose keys therefore differ in their last part. -/
structure OfType (scope type : Text) (entries : List Entry) : Prop where
  scope_eq : ∀ e ∈ entries, e.key.scope = scope
  type_eq : ∀ e ∈ entries, e.key.type = type
  nodup : (entries.map (·.key)).Nodup

theorem OfType.members_nodup {scope type : Text} {entries : List Entry}
    (h : OfType scope type entries) : (entries.map (·.key.member)).Nodup := by
  apply List.Nodup.map_on
  · intro a ha b hb same
    have key : a.key = b.key := by
      have hs := (h.scope_eq a ha).trans (h.scope_eq b hb).symm
      have ht := (h.type_eq a ha).trans (h.type_eq b hb).symm
      cases ka : a.key
      cases kb : b.key
      simp_all
    exact List.inj_on_of_nodup_map h.nodup ha hb key
  · exact h.nodup.of_map _

theorem OfType.filter {scope : Text} {entries : List Entry}
    (scope_eq : ∀ e ∈ entries, e.key.scope = scope) (nodup : (entries.map (·.key)).Nodup)
    (type : Text) : OfType scope type (entries.filter fun e => e.key.type = type) := by
  refine ⟨?_, ?_, nodup.sublist (List.filter_sublist.map _)⟩
  · intro e member
    exact scope_eq e (List.mem_of_mem_filter member)
  · intro e member
    simpa using (List.mem_filter.mp member).2

/-- The view of a member; every key that is asked for belongs to an entry. -/
def makeMember (entries : List Entry) (key : Text) : Except EmissionError MemberView :=
  match entries.find? fun e => e.key.member = key with
  | some e => .ok ⟨staticName key, key, e.stamp⟩
  | none => .error (.badRoot key)

def makeType (scope : Text) (entries : List Entry) (key : Text) : Except EmissionError TypeView := do
  let mine := entries.filter fun e => e.key.type = key
  return ⟨staticName key, key, ← memberViews scope key mine [] (sortedKeys (mine.map (·.key.member)))⟩

def makeContainer (entries : List Entry) (key : Text) : Except EmissionError ContainerView := do
  let mine := entries.filter fun e => e.key.scope = key
  return ⟨containerName key, key, ← typeViews key mine [] (sortedKeys (mine.map (·.key.type)))⟩

theorem find_of_present {entries : List Entry} {k : Text}
    (h : k ∈ entries.map (·.key.member)) :
    ∃ e, (entries.find? fun e => e.key.member = k) = some e := by
  obtain ⟨e, member, same⟩ := List.mem_map.mp h
  exact Option.isSome_iff_exists.mp (List.find?_isSome.mpr ⟨e, member, by simpa using same⟩)

theorem memberViews_eq_claimAll {scope type : Text} {entries : List Entry}
    {done : List MemberView} {keys : List Text}
    (present : ∀ k ∈ keys, k ∈ entries.map (·.key.member)) :
    memberViews scope type entries done keys =
      claimAll (.member scope type) staticName (makeMember entries)
        (done.map fun v => (v.name, v.key)) keys := by
  induction keys generalizing done with
  | nil => rfl
  | cons key rest ih =>
    obtain ⟨e, found⟩ := find_of_present (present key (List.mem_cons_self ..))
    have later : ∀ k ∈ rest, k ∈ entries.map (·.key.member) :=
      fun k member => present k (List.mem_cons_of_mem _ member)
    simp only [memberViews, claimAll, makeMember, found, ih later, List.map_cons]
    rfl

theorem typeViews_eq_claimAll {scope : Text} {entries : List Entry} {done : List TypeView}
    {keys : List Text} :
    typeViews scope entries done keys =
      claimAll (.type scope) staticName (makeType scope entries)
        (done.map fun v => (v.name, v.key)) keys := by
  induction keys generalizing done with
  | nil => rfl
  | cons key rest ih =>
    simp only [typeViews, claimAll, makeType, ih, List.map_cons, bind_assoc, pure_bind]

theorem containerViews_eq_claimAll {entries : List Entry} {done : List ContainerView}
    {keys : List Text} :
    containerViews entries done keys =
      claimAll .scope containerName (makeContainer entries)
        (done.map fun v => (v.name, v.key)) keys := by
  induction keys generalizing done with
  | nil => rfl
  | cons key rest ih =>
    simp only [containerViews, claimAll, makeContainer, ih, List.map_cons, bind_assoc, pure_bind]

/-- The views of one type, of one namespace, and of a registry as levels of their own. -/
theorem makeType_eq {scope : Text} {entries : List Entry} {key : Text} :
    makeType scope entries key =
      (claimAll (.member scope key) staticName
        (makeMember (entries.filter fun e => e.key.type = key)) []
        (sortedKeys ((entries.filter fun e => e.key.type = key).map (·.key.member)))).map
          (TypeView.mk (staticName key) key) := by
  rw [makeType, memberViews_eq_claimAll fun k member => mem_sortedKeys.mp member]
  rfl

theorem makeContainer_eq {entries : List Entry} {key : Text} :
    makeContainer entries key =
      (claimAll (.type key) staticName
        (makeType key (entries.filter fun e => e.key.scope = key)) []
        (sortedKeys ((entries.filter fun e => e.key.scope = key).map (·.key.type)))).map
          (ContainerView.mk (containerName key) key) := by
  rw [makeContainer, typeViews_eq_claimAll]
  rfl

theorem views_eq_claimAll (r : Registry) :
    views r = claimAll .scope containerName (makeContainer r.entries) []
      (sortedKeys (r.entries.map (·.key.scope))) :=
  containerViews_eq_claimAll

end BodyDigest.Emit
