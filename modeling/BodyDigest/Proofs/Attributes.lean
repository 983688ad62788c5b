import Mathlib.Data.List.TakeWhile
import BodyDigest.Proofs.Mirroring

/-!
Reading emitted constants as attributes. Keywords, private names and most names that a class takes
for itself are escaped; the names that are not are the only obstacle to reading a digest back.
-/
namespace BodyDigest.Emit

open Indented

/-! ### Names that are escaped -/

/-- Names that a class or its metaclass intercepts although they are not escaped. -/
def overlookedNames : List Text :=
  ["__debug__", "__classcell__", "__name__", "__bases__", "__base__", "__mro__", "__basicsize__",
    "__itemsize__", "__flags__", "__dictoffset__", "__weakrefoffset__", "__text_signature__"]

theorem overlookedNames_eq : overlookedNames =
    (claimedNames ++ answeredNames).filter fun name => !classNames.contains name := by
  decide

theorem special_startsPrivate : ∀ name ∈ claimedNames ++ answeredNames, startsPrivate name := by
  decide

theorem marked_keyword_start :
    ∀ k ∈ keywords, startsPrivate (Text.ofString k ++ [underscore]) = false := by
  decide

theorem class_name_end : ∀ name ∈ classNames, ("__" : Text).isSuffixOf name := by
  decide

theorem special_end : ∀ name ∈ claimedNames ++ answeredNames,
    ("___" : Text).isSuffixOf name = false := by
  decide

/-- A name of the class is marked by a third underscore at its end, which no special name has. -/
theorem marked_class_name {name : Text} (member : name ∈ classNames) :
    endsPrivate (name ++ [underscore]) ∧ name ++ [underscore] ∉ claimedNames ++ answeredNames := by
  obtain ⟨front, split⟩ := List.isSuffixOf_iff_suffix.mp (class_name_end name member)
  have marked : name ++ [underscore] = front ++ ("___" : Text) := by
    rw [← split, List.append_assoc]
    rfl
  rw [marked]
  constructor
  · exact List.isSuffixOf_iff_suffix.mpr ⟨front ++ [underscore], by rw [List.append_assoc]; rfl⟩
  · intro special
    have other := special_end _ special
    rw [List.isSuffixOf_iff_suffix.mpr (List.suffix_append ..)] at other
    cases other

theorem isIntercepted_iff {name : Text} (keyword : isKeyword name = false) :
    isIntercepted name ↔ isPrivate name ∨ name ∈ claimedNames ++ answeredNames := by
  simp [isIntercepted, keyword, or_assoc]

/-- Special names that are no class names are the overlooked ones. -/
theorem mem_overlookedNames_iff {name : Text} :
    name ∈ overlookedNames ↔ name ∈ claimedNames ++ answeredNames ∧ name ∉ classNames := by
  rw [overlookedNames_eq, List.mem_filter, Bool.not_eq_true', List.contains_eq_mem,
    decide_eq_false_iff_not]

/-- A private name is not made of underscores alone. -/
theorem bare_of_private {name : Text} (opens : startsPrivate name) (open_end : ¬ endsPrivate name) :
    ∃ c rest, name.dropWhile (· = underscore) = c :: rest ∧ c ≠ underscore := by
  cases bare : name.dropWhile (· = underscore) with
  | nil =>
    exfalso
    apply open_end
    have all_underscores : ∀ c ∈ name, c = underscore := by
      simpa [List.dropWhile_eq_nil_iff] using bare
    obtain ⟨rest, split⟩ := List.isPrefixOf_iff_prefix.mp opens
    have marks : rest = List.replicate rest.length underscore :=
      List.eq_replicate_of_mem fun c member =>
        all_underscores c (split ▸ List.mem_append_right _ member)
    have two : ("__" : Text) = List.replicate 2 underscore := rfl
    rw [endsPrivate, List.isSuffixOf_iff_suffix]
    refine ⟨rest, ?_⟩
    rw [← split, marks, two, List.replicate_append_replicate, List.replicate_append_replicate,
      Nat.add_comm]
  | cons c rest =>
    refine ⟨c, rest, rfl, ?_⟩
    have stops := List.head?_dropWhile_not (· = underscore) name
    rw [bare] at stops
    simpa using stops

/-- What escaping makes of a name. -/
theorem staticName_cases (name : Text) :
    (∃ c rest, c ≠ underscore ∧ staticName name = c :: rest ++ [underscore]) ∨
    (∃ k ∈ keywords, staticName name = Text.ofString k ++ [underscore]) ∨
    (∃ special ∈ classNames, staticName name = special ++ [underscore]) ∨
    (staticName name = name ∧ isPrivate name = false ∧ name ∉ classNames) := by
  unfold staticName
  split
  · rename_i hidden
    rw [Bool.and_eq_true, Bool.not_eq_true'] at hidden
    obtain ⟨c, rest, bare, other⟩ := bare_of_private hidden.1 (by simp [hidden.2])
    exact .inl ⟨c, rest, other, by rw [bare]⟩
  · rename_i visible
    split
    · rename_i taken
      rw [Bool.or_eq_true] at taken
      rcases taken with reserved | special
      · obtain ⟨k, member, rfl⟩ : ∃ k ∈ keywords, Text.ofString k = name := by
          simpa [isKeyword] using reserved
        exact .inr (.inl ⟨k, member, rfl⟩)
      · exact .inr (.inr (.inl ⟨name, by simpa using special, rfl⟩))
    · rename_i plain
      have free : name ∉ classNames := by
        intro special
        simp [special] at plain
      exact .inr (.inr (.inr ⟨rfl, by simpa [isPrivate] using visible, free⟩))

/-- No special name has another start than two underscores. -/
theorem not_intercepted_of_start {name : Text} (keyword : isKeyword name = false)
    (start : startsPrivate name = false) : ¬ isIntercepted name := by
  rw [isIntercepted_iff keyword, not_or]
  constructor
  · simp [isPrivate, start]
  · intro special
    rw [special_startsPrivate name special] at start
    cases start

/-- An attribute is intercepted exactly when it was overlooked. -/
theorem isIntercepted_staticName_iff (name : Text) :
    isIntercepted (staticName name) ↔ staticName name ∈ overlookedNames := by
  have keyword := staticName_not_keyword name
  constructor
  · intro intercepted
    rcases staticName_cases name with
      ⟨c, rest, other, form⟩ | ⟨k, member, form⟩ | ⟨special, member, form⟩ | ⟨form, visible, free⟩
    · have start : startsPrivate (staticName name) = false := by
        rw [form]
        change (underscore == c && _) = false
        simp [other.symm]
      exact absurd intercepted (not_intercepted_of_start keyword start)
    · have start : startsPrivate (staticName name) = false := form ▸ marked_keyword_start k member
      exact absurd intercepted (not_intercepted_of_start keyword start)
    · obtain ⟨ends, free⟩ := marked_class_name member
      rw [isIntercepted_iff keyword, form] at intercepted
      simp [isPrivate, ends, free] at intercepted
    · rw [isIntercepted_iff keyword, form, visible] at intercepted
      rw [form, mem_overlookedNames_iff]
      exact ⟨intercepted.resolve_left Bool.false_ne_true, free⟩
  · intro overlooked
    rw [isIntercepted_iff keyword]
    exact .inr (mem_overlookedNames_iff.mp overlooked).1

/-- The attributes of a key are escaped names. -/
theorem escaped_of_mem {k : Key} {name : Text} (member : name ∈ attributePath k) :
    ∃ plain, staticName plain = name := by
  simp only [attributePath, containerName, List.mem_cons, List.not_mem_nil, or_false] at member
  rcases member with rfl | rfl | rfl <;> exact ⟨_, rfl⟩

/-! ### Classes that are created -/

section

variable {owner name : Text} {members created : List (Text × Held)}

theorem createdIn?_cons_iff {h : Held} : createdIn? owner ((name, h) :: members) = some created ↔
    name ∉ claimedNames ∧ ∃ inner rest, h.created? name = some inner ∧
      createdIn? owner members = some rest ∧ (mangled owner name, inner) :: rest = created := by
  rw [createdIn?]
  by_cases claimed : name ∈ claimedNames
  · simp [claimed]
  · simp [claimed, Option.bind_eq_some_iff]

/-- A class that is created has no claimed name, nor has any class inside it. -/
theorem createdIn?_some (made : createdIn? owner members = some created) :
    ∀ m ∈ members, m.1 ∉ claimedNames ∧ ∃ inner, m.2.created? m.1 = some inner := by
  induction members generalizing created with
  | nil => simp
  | cons first members ih =>
    obtain ⟨free, inner, rest, here, later, _⟩ := createdIn?_cons_iff.mp made
    rw [List.forall_mem_cons]
    exact ⟨⟨free, inner, here⟩, ih later⟩

/-- Classes are created as they are written where no name is claimed or changed. -/
theorem createdIn?_self (each : ∀ m ∈ members, ¬ isIntercepted m.1 ∧ m.2.created? m.1 = some m.2) :
    createdIn? owner members = some members := by
  induction members with
  | nil => rfl
  | cons m members ih =>
    rw [List.forall_mem_cons] at each
    obtain ⟨⟨free, inner⟩, others⟩ := each
    simp only [isIntercepted, Bool.or_eq_true, not_or, List.contains_iff_mem] at free
    have kept : mangled owner m.1 = m.1 := by simp [mangled, free.1.1.2]
    exact createdIn?_cons_iff.mpr ⟨free.1.2, _, _, inner, ih others, by rw [kept]⟩

theorem created?_class_iff {h : Held} : (Held.class members).created? owner = some h ↔
    ∃ created, createdIn? owner members = some created ∧ .class created = h := by
  rw [Held.created?, Option.map_eq_some_iff]

end

section

variable {cs : List ContainerView}

/-- The names that the classes bind. -/
def Names (p : Text → Prop) (cs : List ContainerView) : Prop :=
  ∀ c ∈ cs, p c.name.composed ∧ ∀ t ∈ c.types, p t.name.composed ∧
    ∀ m ∈ t.members, p m.name.composed

theorem names_iff {r : Registry} (shown : views r = .ok cs) {p : Text → Prop} :
    Names p cs ↔ ∀ k ∈ Diff.keys r, ∀ name ∈ composedPath k, p name := by
  have path {c : ContainerView} (hc : c ∈ cs) {t : TypeView} (ht : t ∈ c.types) {m : MemberView}
      (hm : m ∈ t.members) : (∀ name ∈ composedPath ⟨c.key, t.key, m.key⟩, p name) ↔
        p c.name.composed ∧ p t.name.composed ∧ p m.name.composed := by
    rw [composedPath_view (views_attributes shown c hc) ht hm]
    simp
  constructor
  · intro each k hk
    obtain ⟨c, hc, t, ht, m, hm, rfl⟩ := (mem_keys_iff shown).mp hk
    obtain ⟨container, types⟩ := each c hc
    exact (path hc ht hm).mpr ⟨container, (types t ht).1, (types t ht).2 m hm⟩
  · intro each c hc
    have named := (views_shape shown).1 c hc
    have parts {t : TypeView} (ht : t ∈ c.types) {m : MemberView} (hm : m ∈ t.members) :=
      (path hc ht hm).mp (each _ ((mem_keys_iff shown).mpr ⟨c, hc, t, ht, m, hm, rfl⟩))
    have some_member {t : TypeView} (ht : t ∈ c.types) : ∃ m, m ∈ t.members :=
      List.exists_mem_of_ne_nil _ (named.types t ht).inhabited
    constructor
    · obtain ⟨t, ht⟩ := List.exists_mem_of_ne_nil _ named.inhabited
      obtain ⟨m, hm⟩ := some_member ht
      exact (parts ht hm).1
    · intro t ht
      obtain ⟨m, hm⟩ := some_member ht
      exact ⟨(parts ht hm).2.1, fun m hm => (parts ht hm).2.2⟩

theorem tree_created (free : Names (fun name => ¬ isIntercepted name) cs) (root : Text) :
    (tree cs).created? root = some (tree cs) := by
  refine created?_class_iff.mpr ⟨_, createdIn?_self ?_, rfl⟩
  refine List.forall_mem_map.mpr fun c hc => ⟨(free c hc).1, ?_⟩
  refine created?_class_iff.mpr ⟨_, createdIn?_self ?_, rfl⟩
  refine List.forall_mem_map.mpr fun t ht => ⟨((free c hc).2 t ht).1, ?_⟩
  refine created?_class_iff.mpr ⟨_, createdIn?_self ?_, rfl⟩
  exact List.forall_mem_map.mpr fun m hm => ⟨((free c hc).2 t ht).2 m hm, rfl⟩

theorem names_of_created {root : Text} {h : Held} (made : (tree cs).created? root = some h) :
    Names (· ∉ claimedNames) cs := by
  obtain ⟨_, containers, _⟩ := created?_class_iff.mp made
  intro c hc
  obtain ⟨free, inner, of_container⟩ := createdIn?_some containers _ (List.mem_map_of_mem hc)
  obtain ⟨_, types, _⟩ := created?_class_iff.mp of_container
  refine ⟨free, fun t ht => ?_⟩
  obtain ⟨free, inner, of_type⟩ := createdIn?_some types _ (List.mem_map_of_mem ht)
  obtain ⟨_, members, _⟩ := created?_class_iff.mp of_type
  exact ⟨free, fun m hm => (createdIn?_some members _ (List.mem_map_of_mem hm)).1⟩

end

/-! ### Digests that are read back -/

/-- The classes can be created, and attributes lead to the digest of every key. -/
def ReadsBack (root : Text) (members : Held) (path : Key → List Text) (r : Registry) : Prop :=
  ∃ created, members.created? root.composed = some created ∧
    ∀ e ∈ r.entries, created.attributeAt? (path e.key) = some e.stamp.digest

variable {root : Text} {r : Registry} {cs : List ContainerView}

theorem reads_back (shown : views r = .ok cs) (kept : KeptApart (Diff.keys r))
    (free : ∀ k ∈ Diff.keys r, ∀ name ∈ composedPath k, ¬ isIntercepted name) :
    ReadsBack root (tree cs) composedPath r := by
  refine ⟨tree cs, tree_created ((names_iff shown).mpr free) _, ?_⟩
  intro e member
  have inside : (composedPath e.key, e.stamp.digest) ∈ (tree cs).places := by
    rw [places_tree (views_attributes shown)]
    exact List.mem_map_of_mem ((views_listed_perm shown).mem_iff.mpr member)
  obtain ⟨found, _⟩ := (tree_isFaithful_iff shown).mpr kept _ inside
  have unanswered : (composedPath e.key).any answeredNames.contains = false := by
    rw [List.any_eq_false]
    intro name of_path answered
    apply free e.key (List.mem_map_of_mem member) name of_path
    rw [isIntercepted, answered, Bool.or_true]
  rw [Held.attributeAt?, unanswered]
  exact found

/-- A registry whose constants are read back has no attribute that was overlooked. -/
theorem not_overlooked_of_reads_back (shown : views r = .ok cs)
    (read : ReadsBack root (tree cs) composedPath r) :
    ∀ k ∈ Diff.keys r, ∀ name ∈ composedPath k, name ∉ overlookedNames := by
  obtain ⟨created, made, values⟩ := read
  have unclaimed := (names_iff shown).mp (names_of_created made)
  intro k hk name member overlooked
  obtain ⟨e, inside, rfl⟩ := List.mem_map.mp hk
  rcases List.mem_append.mp (mem_overlookedNames_iff.mp overlooked).1 with claimed | answered
  · exact unclaimed _ hk name member claimed
  · have value := values e inside
    rw [Held.attributeAt?, if_pos] at value
    · cases value
    · exact List.any_eq_true.mpr ⟨name, member, by simpa using answered⟩

/-- Attributes that are composed names stay apart, as all attributes do. -/
theorem keptApart_of_composed (shown : views r = .ok cs)
    (composed : ∀ k ∈ Diff.keys r, composedPath k = attributePath k) : KeptApart (Diff.keys r) := by
  have nameable := (views_ok_iff r).mp ⟨cs, shown⟩
  have parts (k : Key) (hk : k ∈ Diff.keys r) :
      (containerName k.scope).composed = containerName k.scope ∧
        (staticName k.type).composed = staticName k.type ∧
          (staticName k.member).composed = staticName k.member := by
    simpa [composedPath, attributePath] using composed k hk
  intro j hj k hk
  obtain ⟨scope_j, type_j, member_j⟩ := parts j hj
  obtain ⟨scope_k, type_k, member_k⟩ := parts k hk
  rw [scope_j, type_j, member_j, scope_k, type_k, member_k]
  exact ⟨nameable.scopes_apart j hj k hk, nameable.types_apart j hj k hk,
    nameable.members_apart j hj k hk⟩

/-- Of the attributes of an emitted registry only the overlooked ones are intercepted. Digests are
read back from the classes at composed names that stay apart and are not intercepted; where all
attributes are composed names, they are read back along these exactly when none was overlooked. -/
theorem constants_read_back {a : Artifacts} (emitted : emit [] root r = .ok a) :
    (∀ k ∈ Diff.keys r, ∀ name ∈ attributePath k,
      isIntercepted name ↔ name ∈ overlookedNames) ∧
    ∃ ss members, Indented.moduleOf a.module.chars = .ok ss ∧
      ss.filterMap documentedClass? = [(root.composed, members)] ∧
      (KeptApart (Diff.keys r) →
        (∀ k ∈ Diff.keys r, ∀ name ∈ composedPath k, ¬ isIntercepted name) →
          ReadsBack root members composedPath r) ∧
      ((∀ k ∈ Diff.keys r, composedPath k = attributePath k) →
        (ReadsBack root members attributePath r ↔
          ∀ k ∈ Diff.keys r, ∀ name ∈ attributePath k, name ∉ overlookedNames)) := by
  have escaped (k : Key) (name : Text) (member : name ∈ attributePath k) :
      isIntercepted name ↔ name ∈ overlookedNames := by
    obtain ⟨plain, rfl⟩ := escaped_of_mem member
    exact isIntercepted_staticName_iff plain
  obtain ⟨root_ok, cs, shown, rfl⟩ := emit_built_in_iff.mp emitted
  obtain ⟨ss, read, said⟩ := moduleOf_pages (checkRoot_ok root_ok) (views_shape shown).1 r.size
  refine ⟨fun k _ => escaped k, ss, tree cs, read, documentedClasses said, reads_back shown, ?_⟩
  intro composed
  have along_keys : ∀ e ∈ r.entries, composedPath e.key = attributePath e.key :=
    fun e member => composed e.key (List.mem_map_of_mem member)
  have same : ReadsBack root (tree cs) attributePath r ↔
      ReadsBack root (tree cs) composedPath r := by
    refine exists_congr fun created => and_congr_right fun _ => ?_
    exact forall₂_congr fun e member => by rw [along_keys e member]
  rw [same]
  constructor
  · intro back k hk
    rw [← composed k hk]
    exact not_overlooked_of_reads_back shown back k hk
  · intro free
    apply reads_back shown (keptApart_of_composed shown composed)
    intro k hk name member
    rw [composed k hk] at member
    rw [escaped k name member]
    exact free k hk name member

/-- A private name, a keyword, and names that a class assigns or its metaclass answers. -/
def specialEntries : List Entry := [
  ⟨⟨"N.if", "__T", "__f"⟩, ⟨"1", "f()"⟩⟩,
  ⟨⟨"N.if", "__T", "None"⟩, ⟨"2", "None()"⟩⟩,
  ⟨⟨"N.if", "__T", "__init__"⟩, ⟨"3", "__init__()"⟩⟩,
  ⟨⟨"__dict__", "__qualname__", "__slots__"⟩, ⟨"4", "__slots__()"⟩⟩]

theorem special_entries_read_back : ∃ (r : Registry) (a : Artifacts) (ss : List (Stmt Place))
    (members : Held), r.entries = specialEntries ∧ emit [] "HashStamps" r = .ok a ∧
      Indented.moduleOf a.module.chars = .ok ss ∧ ReadsBack "HashStamps" members attributePath r := by
  let r : Registry := ⟨specialEntries, by decide⟩
  obtain ⟨a, emitted⟩ : ∃ a, emit [] "HashStamps" r = .ok a :=
    emit_of_nameable (by decide) (by decide)
  obtain ⟨_, ss, members, read, _, _, back⟩ := constants_read_back emitted
  refine ⟨r, a, ss, members, rfl, emitted, read, (back ?_).mpr ?_⟩
  · decide
  · decide

/-- A member whose name the metaclass answers. -/
def namedEntry : List Entry := [⟨⟨"N", "T", "__name__"⟩, ⟨"1", "__name__()"⟩⟩]

theorem name_of_class_is_not_read_back : ∃ (r : Registry) (a : Artifacts) (ss : List (Stmt Place))
    (members : Held), r.entries = namedEntry ∧ emit [] "HashStamps" r = .ok a ∧
      Indented.moduleOf a.module.chars = .ok ss ∧
        ss.filterMap documentedClass? = [(Text.ofString "HashStamps", members)] ∧
          ¬ ReadsBack "HashStamps" members attributePath r := by
  let r : Registry := ⟨namedEntry, by decide⟩
  have root_ok : checkRoot "HashStamps" = .ok () := by decide
  obtain ⟨cs, shown⟩ := (views_ok_iff r).mpr (by decide)
  have emitted := emit_built_in_iff.mpr ⟨root_ok, cs, shown, rfl⟩
  obtain ⟨ss, read, said⟩ := moduleOf_pages (checkRoot_ok root_ok) (views_shape shown).1 r.size
  have composed : Text.composed "HashStamps" = Text.ofString "HashStamps" := by decide
  refine ⟨r, _, ss, tree cs, rfl, emitted, read, composed ▸ documentedClasses said, ?_⟩
  rintro ⟨created, _, values⟩
  have answered : (attributePath ⟨"N", "T", "__name__"⟩).any answeredNames.contains := by
    decide
  have value := values ⟨⟨"N", "T", "__name__"⟩, ⟨"1", "__name__()"⟩⟩ (List.mem_singleton_self _)
  rw [Held.attributeAt?, if_pos answered] at value
  cases value

end BodyDigest.Emit
