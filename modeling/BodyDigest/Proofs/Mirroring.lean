import BodyDigest.Proofs.Encoding
import BodyDigest.Proofs.Indented.Classes

/-!
The classes of an emitted module mirror its registry: they hold its digests and nothing else, and
every digest is found at its attributes as long as no two names have one composed form.
-/
namespace BodyDigest.Emit

open Indented

/-! ### Attributes of views -/

/-- Views whose attributes are those of their keys. -/
structure ContainerView.Follows (c : ContainerView) : Prop where
  name : c.name = containerName c.key
  types : ∀ t ∈ c.types, t.name = staticName t.key
  members : ∀ t ∈ c.types, ∀ m ∈ t.members, m.name = staticName m.key

theorem makeType_attributes {scope key : Text} {entries : List Entry} {t : TypeView}
    (h : makeType scope entries key = .ok t) :
    t.name = staticName t.key ∧ ∀ m ∈ t.members, m.name = staticName m.key := by
  rw [makeType_eq, map_ok_iff] at h
  obtain ⟨ms, run, rfl⟩ := h
  refine ⟨rfl, ?_⟩
  intro m member
  obtain ⟨k, _, made⟩ := made_of_mem (claimAll_ok_iff.mp run).2 member
  obtain ⟨name, key⟩ := makeMember_shape made
  rw [name, key]

theorem makeContainer_attributes {key : Text} {entries : List Entry} {c : ContainerView}
    (h : makeContainer entries key = .ok c) : c.Follows := by
  rw [makeContainer_eq, map_ok_iff] at h
  obtain ⟨ts, run, rfl⟩ := h
  have each : ∀ t ∈ ts, t.name = staticName t.key ∧ ∀ m ∈ t.members, m.name = staticName m.key := by
    intro t member
    obtain ⟨k, _, made⟩ := made_of_mem (claimAll_ok_iff.mp run).2 member
    exact makeType_attributes made
  exact ⟨rfl, fun t member => (each t member).1, fun t member => (each t member).2⟩

theorem views_attributes {r : Registry} {cs : List ContainerView} (shown : views r = .ok cs) :
    ∀ c ∈ cs, c.Follows := by
  intro c member
  rw [views_eq_claimAll] at shown
  obtain ⟨k, _, made⟩ := made_of_mem (claimAll_ok_iff.mp shown).2 member
  exact makeContainer_attributes made

/-! ### The classes -/

def memberHeld (m : MemberView) : Text × Held := (m.name.composed, .constant m.stamp.digest)

def typeHeld (t : TypeView) : Text × Held := (t.name.composed, .class (t.members.map memberHeld))

def containerHeld (c : ContainerView) : Text × Held :=
  (c.name.composed, .class (c.types.map typeHeld))

/-- What the root class holds. -/
def tree (cs : List ContainerView) : Held := .class (cs.map containerHeld)

theorem held?_typeShape (t : TypeView) : held? (typeShape t) = some (typeHeld t) := by
  have members : heldIn? (t.members.map constantShape) = some (t.members.map memberHeld) :=
    heldIn?_map fun m _ => rfl
  rw [typeShape, classShape, held?, members]
  rfl

theorem held?_containerShape (c : ContainerView) :
    held? (containerShape c) = some (containerHeld c) := by
  have types : heldIn? (c.types.map typeShape) = some (c.types.map typeHeld) :=
    heldIn?_map fun t _ => held?_typeShape t
  rw [containerShape, classShape, held?, types]
  rfl

theorem documentedClass?_rootShape (root : Text) (cs : List ContainerView) :
    documentedClass? (rootShape root cs) = some (root.composed, tree cs) := by
  have containers : heldIn? (cs.map containerShape) = some (cs.map containerHeld) :=
    heldIn?_map fun c _ => held?_containerShape c
  rw [rootShape, classShape, documentedClass?, containers]
  rfl

/-- The root class is the only class that an emitted module documents. -/
theorem documentedClasses {P : Type} {root : Text} {cs : List ContainerView} {ss : List (Stmt P)}
    (said : shapes ss = moduleShape root cs) :
    ss.filterMap documentedClass? = [(root.composed, tree cs)] := by
  have of_shapes : ss.filterMap documentedClass? = (shapes ss).filterMap documentedClass? := by
    rw [shapes_eq_map, List.filterMap_map]
    exact List.filterMap_congr fun s _ => (documentedClass?_shape s).symm
  rw [of_shapes, said, moduleShape, List.filterMap_cons_none rfl, List.filterMap_cons_none rfl,
    List.filterMap_cons_some (documentedClass?_rootShape root cs), List.filterMap_cons_none rfl,
    List.filterMap_nil]

/-! ### The names of the module -/

theorem bindsNothing_pairs {α : Type} {xs : List α} {key value : α → Expr}
    (each : ∀ x ∈ xs, bindsNothing (key x) ∧ bindsNothing (value x)) :
    itemsBindNothing (xs.map fun x => .pair (key x) (value x)) := by
  induction xs with
  | nil => rfl
  | cons x xs ih =>
    have first := each x (by simp)
    have others := ih fun y member => each y (List.mem_cons_of_mem x member)
    rw [List.map_cons, itemsBindNothing, first.1, first.2, others]
    rfl

theorem bindsNothing_mapping (cs : List ContainerView) : bindsNothing (mappingExpr cs) := by
  have type (t : TypeView) : bindsNothing (typeExpr t) :=
    bindsNothing_pairs fun m _ => ⟨rfl, rfl⟩
  have container (c : ContainerView) : bindsNothing (containerExpr c) :=
    bindsNothing_pairs fun t _ => ⟨rfl, type t⟩
  exact bindsNothing_pairs fun c _ => ⟨rfl, container c⟩

/-- The names that an emitted module binds besides its root class. -/
def otherNames : List Text := ["Registry", "REGISTRY", "__all__"]

theorem boundIn?_module {P : Type} {root : Text} {cs : List ContainerView} {ss : List (Stmt P)}
    (said : shapes ss = moduleShape root cs) :
    ∃ names, boundIn? ss = some names ∧ names.Perm (root.composed :: otherNames) := by
  have registered : boundBy? (registryShape cs) = some ([Text.ofString "REGISTRY"]) := by
    have silent : bindsNothing (.call (.attribute (.name "Registry") "from_mapping")
        [mappingExpr cs] []) := by
      simp [bindsNothing, allBindNothing, bindsNothing_mapping]
    exact if_pos silent
  have bound : boundIn? ss = some
      ((["Registry", "REGISTRY"] : List Text) ++ root.composed :: ["__all__"]) := by
    rw [← boundIn?_shapes, said, moduleShape, boundIn?, boundIn?, registered]
    rfl
  exact ⟨_, bound, List.perm_middle⟩

/-- The names that a module is to bind once: its registry, its root class, and the names that it
exports. -/
def BindsOnce {P : Type} (root : Text) (ss : List (Stmt P)) : Prop :=
  ∃ names, boundIn? ss = some names ∧
    ∀ name ∈ (["REGISTRY", root.composed, "__all__"] : List Text), names.count name = 1

theorem bindsOnce_iff {P : Type} {root : Text} {cs : List ContainerView} {ss : List (Stmt P)}
    (said : shapes ss = moduleShape root cs) : BindsOnce root ss ↔ root.composed ∉ otherNames := by
  obtain ⟨names, bound, perm⟩ := boundIn?_module said
  have once : BindsOnce root ss ↔ ∀ name ∈ (["REGISTRY", root.composed, "__all__"] : List Text),
      (root.composed :: otherNames).count name = 1 := by
    simp only [BindsOnce, bound, Option.some.injEq, exists_eq_left', perm.count_eq]
  rw [once]
  constructor
  · intro each taken
    have count := each root.composed (by simp)
    have again := List.count_pos_iff.mpr taken
    rw [List.count_cons_self] at count
    omega
  · intro free name member
    have nodup : (root.composed :: otherNames).Nodup := List.nodup_cons.mpr ⟨free, by decide⟩
    apply List.count_eq_one_of_mem nodup
    simp only [List.mem_cons, List.not_mem_nil, or_false] at member
    rcases member with rfl | rfl | rfl
    · exact List.mem_cons_of_mem _ (List.mem_cons_of_mem _ (List.mem_cons_self ..))
    · exact List.mem_cons_self ..
    · exact List.mem_cons_of_mem _ (List.mem_of_getLast? rfl)

/-! ### The places of digests -/

/-- The names that are bound where the attributes of a key are written. -/
def composedPath (k : Key) : List Text := (attributePath k).map Text.composed

theorem composedPath_view {c : ContainerView} (attributes : c.Follows) {t : TypeView}
    (of_container : t ∈ c.types) {m : MemberView} (of_type : m ∈ t.members) :
    composedPath ⟨c.key, t.key, m.key⟩ = [c.name.composed, t.name.composed, m.name.composed] := by
  rw [attributes.name, attributes.types t of_container, attributes.members t of_container m of_type]
  rfl

theorem places_map {α : Type} (xs : List α) (member : α → Text × Held) :
    (Held.class (xs.map member)).places =
      xs.flatMap fun x => (member x).2.places.map (Held.under (member x).1) := by
  induction xs with
  | nil => rfl
  | cons x xs ih =>
    have split : member x = ((member x).1, (member x).2) := rfl
    rw [List.map_cons, split, Held.places_cons, ih, List.flatMap_cons]

theorem places_tree {cs : List ContainerView} (attributes : ∀ c ∈ cs, c.Follows) :
    (tree cs).places = (listed cs).map fun e => (composedPath e.key, e.stamp.digest) := by
  rw [tree, places_map, listed, List.map_flatMap]
  refine List.flatMap_congr fun c inside => ?_
  simp only [containerHeld, places_map, ContainerView.entries, List.map_flatMap]
  refine List.flatMap_congr fun t of_container => ?_
  simp only [typeHeld, places_map, TypeView.entries, List.map_flatMap, List.map_map]
  rw [List.map_eq_flatMap]
  refine List.flatMap_congr fun m of_type => ?_
  simp [memberHeld, Held.places, Held.under, MemberView.entry,
    composedPath_view (attributes c inside) of_container of_type]

/-! ### Names that stay apart -/

/-- Different siblings have attributes of different composed forms. -/
def KeptApart (keys : List Key) : Prop :=
  ∀ j ∈ keys, ∀ k ∈ keys,
    ((containerName j.scope).composed = (containerName k.scope).composed → j.scope = k.scope) ∧
    (j.scope = k.scope → (staticName j.type).composed = (staticName k.type).composed →
      j.type = k.type) ∧
    (j.scope = k.scope → j.type = k.type →
      (staticName j.member).composed = (staticName k.member).composed → j.member = k.member)

instance (keys : List Key) : Decidable (KeptApart keys) :=
  inferInstanceAs (Decidable (∀ j ∈ keys, ∀ k ∈ keys, _ ∧ _ ∧ _))

theorem inhabited_type {t : TypeView} (named : t.IsNamed) : (typeHeld t).2.places ≠ [] := by
  obtain ⟨m, member⟩ := List.exists_mem_of_ne_nil _ named.inhabited
  refine Held.places_ne_nil (List.mem_map_of_mem member) ?_
  simp [memberHeld, Held.places]

theorem inhabited_container {c : ContainerView} (named : c.IsNamed) :
    (containerHeld c).2.places ≠ [] := by
  obtain ⟨t, member⟩ := List.exists_mem_of_ne_nil _ named.inhabited
  exact Held.places_ne_nil (List.mem_map_of_mem member) (inhabited_type (named.types t member))

theorem isFaithful_type {t : TypeView} :
    (typeHeld t).2.IsFaithful ↔ (t.members.map fun m => m.name.composed).Nodup := by
  have constants : ∀ m ∈ t.members.map memberHeld, m.2.places ≠ [] ∧ m.2.IsFaithful := by
    intro m member
    obtain ⟨view, _, rfl⟩ := List.mem_map.mp member
    simp [memberHeld, Held.places, Held.IsFaithful, Held.IsFound, Held.at?]
  rw [typeHeld, Held.isFaithful_class_iff fun m member => (constants m member).1, List.map_map]
  exact and_iff_left fun m member => (constants m member).2

theorem isFaithful_container {c : ContainerView} (named : c.IsNamed) :
    (containerHeld c).2.IsFaithful ↔ (c.types.map fun t => t.name.composed).Nodup ∧
      ∀ t ∈ c.types, (t.members.map fun m => m.name.composed).Nodup := by
  have inhabited : ∀ m ∈ c.types.map typeHeld, m.2.places ≠ [] :=
    List.forall_mem_map.mpr fun t member => inhabited_type (named.types t member)
  rw [containerHeld, Held.isFaithful_class_iff inhabited, List.map_map, List.forall_mem_map]
  simp only [isFaithful_type]
  rfl

theorem isFaithful_tree {cs : List ContainerView} (named : ∀ c ∈ cs, c.IsNamed) :
    (tree cs).IsFaithful ↔ (cs.map fun c => c.name.composed).Nodup ∧
      ∀ c ∈ cs, (containerHeld c).2.IsFaithful := by
  have inhabited : ∀ m ∈ cs.map containerHeld, m.2.places ≠ [] :=
    List.forall_mem_map.mpr fun c member => inhabited_container (named c member)
  rw [tree, Held.isFaithful_class_iff inhabited, List.map_map, List.forall_mem_map]
  rfl

/-- Composed forms of attributes that follow from different keys. -/
theorem composed_nodup_iff {α : Type} {xs : List α} {name key : α → Text} {rendered : Text → Text}
    (keys : (xs.map key).Nodup) (follows : ∀ x ∈ xs, name x = rendered (key x)) :
    (xs.map fun x => (name x).composed).Nodup ↔ ∀ x ∈ xs, ∀ y ∈ xs,
      (rendered (key x)).composed = (rendered (key y)).composed → key x = key y := by
  rw [List.nodup_map_iff_inj_on keys.of_map]
  constructor
  · intro apart x hx y hy same
    exact congrArg key (apart x hx y hy (by rw [follows x hx, follows y hy, same]))
  · intro apart x hx y hy same
    apply List.inj_on_of_nodup_map keys hx hy
    exact apart x hx y hy (by rw [← follows x hx, ← follows y hy, same])

theorem mem_keys_iff {r : Registry} {cs : List ContainerView} (shown : views r = .ok cs) {k : Key} :
    k ∈ Diff.keys r ↔ ∃ c ∈ cs, ∃ t ∈ c.types, ∃ m ∈ t.members, ⟨c.key, t.key, m.key⟩ = k := by
  have perm := (views_listed_perm shown).map (·.key)
  have form : (listed cs).map (·.key) = cs.flatMap fun c => c.types.flatMap fun t =>
      t.members.map fun m => ⟨c.key, t.key, m.key⟩ := by
    simp [listed, ContainerView.entries, TypeView.entries, MemberView.entry, List.map_flatMap,
      Function.comp_def]
  rw [Diff.keys, ← perm.mem_iff, form]
  simp only [List.mem_flatMap, List.mem_map]

theorem tree_isFaithful_iff {r : Registry} {cs : List ContainerView} (shown : views r = .ok cs) :
    (tree cs).IsFaithful ↔ KeptApart (Diff.keys r) := by
  obtain ⟨named, apart, scopes⟩ := views_shape shown
  have attributes := views_attributes shown
  rw [isFaithful_tree named, composed_nodup_iff scopes fun c member => (attributes c member).name]
  have types (c : ContainerView) (member : c ∈ cs) :=
    composed_nodup_iff (apart c member).types (attributes c member).types
  have members (c : ContainerView) (member : c ∈ cs) (t : TypeView) (inside : t ∈ c.types) :=
    composed_nodup_iff ((apart c member).members t inside) ((attributes c member).members t inside)
  constructor
  · rintro ⟨between_scopes, within⟩ j hj k hk
    obtain ⟨c, hc, t, ht, m, hm, rfl⟩ := (mem_keys_iff shown).mp hj
    obtain ⟨d, hd, u, hu, n, hn, rfl⟩ := (mem_keys_iff shown).mp hk
    obtain ⟨between_types, between_members⟩ :=
      (isFaithful_container (named c hc)).mp (within c hc)
    refine ⟨between_scopes c hc d hd, ?_, ?_⟩
    · intro same_scope
      obtain rfl : c = d := List.inj_on_of_nodup_map scopes hc hd same_scope
      exact (types c hc).mp between_types t ht u hu
    · intro same_scope same_type
      obtain rfl : c = d := List.inj_on_of_nodup_map scopes hc hd same_scope
      obtain rfl : t = u := List.inj_on_of_nodup_map (apart c hc).types ht hu same_type
      exact (members c hc t ht).mp (between_members t ht) m hm n hn
  · intro kept
    have inside {c : ContainerView} (hc : c ∈ cs) {t : TypeView} (ht : t ∈ c.types)
        {m : MemberView} (hm : m ∈ t.members) : (⟨c.key, t.key, m.key⟩ : Key) ∈ Diff.keys r :=
      (mem_keys_iff shown).mpr ⟨c, hc, t, ht, m, hm, rfl⟩
    have some_type {c : ContainerView} (hc : c ∈ cs) : ∃ t ∈ c.types, ∃ m, m ∈ t.members := by
      obtain ⟨t, ht⟩ := List.exists_mem_of_ne_nil _ (named c hc).inhabited
      obtain ⟨m, hm⟩ := List.exists_mem_of_ne_nil _ ((named c hc).types t ht).inhabited
      exact ⟨t, ht, m, hm⟩
    constructor
    · intro c hc d hd
      obtain ⟨t, ht, m, hm⟩ := some_type hc
      obtain ⟨u, hu, n, hn⟩ := some_type hd
      exact (kept _ (inside hc ht hm) _ (inside hd hu hn)).1
    · intro c hc
      rw [isFaithful_container (named c hc), types c hc]
      constructor
      · intro t ht u hu
        obtain ⟨m, hm⟩ := List.exists_mem_of_ne_nil _ ((named c hc).types t ht).inhabited
        obtain ⟨n, hn⟩ := List.exists_mem_of_ne_nil _ ((named c hc).types u hu).inhabited
        exact (kept _ (inside hc ht hm) _ (inside hc hu hn)).2.1 rfl
      · intro t ht
        rw [members c hc t ht]
        intro m hm n hn
        exact (kept _ (inside hc ht hm) _ (inside hc ht hn)).2.2 rfl rfl

/-! ### Registries and their classes -/

/-- An emitted module is read as statements of which one is the root class. It holds the digests of
the registry, each at the composed names of its attributes, and nothing else. Names are bound once
and lead to the digests of their keys exactly when their composed forms stay apart. -/
theorem classes_mirror_registry {root : Text} {r : Registry} {a : Artifacts}
    (emitted : emit [] root r = .ok a) :
    ∃ ss members, Indented.moduleOf a.module.chars = .ok ss ∧
      ss.filterMap documentedClass? = [(root.composed, members)] ∧
      members.places.Perm (r.entries.map fun e => (composedPath e.key, e.stamp.digest)) ∧
      (BindsOnce root ss ∧ members.IsFaithful ↔
        root.composed ∉ otherNames ∧ KeptApart (Diff.keys r)) := by
  obtain ⟨root_ok, cs, shown, rfl⟩ := emit_built_in_iff.mp emitted
  obtain ⟨ss, read, said⟩ := moduleOf_pages (checkRoot_ok root_ok) (views_shape shown).1 r.size
  refine ⟨ss, tree cs, read, documentedClasses said, ?_, ?_⟩
  · rw [places_tree (views_attributes shown)]
    exact (views_listed_perm shown).map _
  · rw [bindsOnce_iff said, tree_isFaithful_iff shown]

/-- A private name, a keyword, and a ligature beside other letters. -/
def unusualEntries : List Entry := [
  ⟨⟨"N.M", "T", "__f"⟩, ⟨"1", "f()"⟩⟩,
  ⟨⟨"N.M", "T", "if"⟩, ⟨"2", "if()"⟩⟩,
  ⟨⟨"N.M", "T", "ﬁ"⟩, ⟨"3", "ﬁ()"⟩⟩]

def unusualPlaces : List (List Text × Text) :=
  [(["N_M", "T", "f_"], "1"), (["N_M", "T", "if_"], "2"), (["N_M", "T", "fi"], "3")]

theorem unusual_entries_mirrored : ∃ (r : Registry) (a : Artifacts) (ss : List (Stmt Place))
    (members : Held), r.entries = unusualEntries ∧ emit [] "HashStamps" r = .ok a ∧
      Indented.moduleOf a.module.chars = .ok ss ∧ members.places.Perm unusualPlaces ∧
        BindsOnce "HashStamps" ss ∧ members.IsFaithful := by
  let r : Registry := ⟨unusualEntries, by decide⟩
  obtain ⟨a, emitted⟩ : ∃ a, emit [] "HashStamps" r = .ok a :=
    emit_of_nameable (by decide +kernel) (by decide +kernel)
  obtain ⟨ss, members, read, _, places, once⟩ := classes_mirror_registry emitted
  have digests : r.entries.map (fun e => (composedPath e.key, e.stamp.digest)) = unusualPlaces := by
    decide +kernel
  exact ⟨r, a, ss, members, rfl, emitted, read, digests ▸ places, once.mpr (by decide +kernel)⟩

/-- Two members that are accepted although their names have one composed form. -/
def ligatures : List Entry := [
  ⟨⟨"N", "T", "fi"⟩, ⟨"1", "fi()"⟩⟩, ⟨⟨"N", "T", "ﬁ"⟩, ⟨"2", "ﬁ()"⟩⟩]

theorem ligature_takes_place_of_letters : ∃ (r : Registry) (a : Artifacts)
    (ss : List (Stmt Place)) (members : Held), r.entries = ligatures ∧
      emit [] "HashStamps" r = .ok a ∧ Indented.moduleOf a.module.chars = .ok ss ∧
        ss.filterMap documentedClass? = [(Text.ofString "HashStamps", members)] ∧
          ¬ members.IsFaithful := by
  let r : Registry := ⟨ligatures, by decide⟩
  have root_ok : checkRoot "HashStamps" = .ok () := by decide
  obtain ⟨cs, shown⟩ := (views_ok_iff r).mpr (by decide +kernel)
  have emitted := emit_built_in_iff.mpr ⟨root_ok, cs, shown, rfl⟩
  obtain ⟨ss, read, said⟩ := moduleOf_pages (checkRoot_ok root_ok) (views_shape shown).1 r.size
  have composed : Text.composed "HashStamps" = Text.ofString "HashStamps" := by decide
  refine ⟨r, _, ss, tree cs, rfl, emitted, read, composed ▸ documentedClasses said, ?_⟩
  rw [tree_isFaithful_iff shown]
  decide +kernel

end BodyDigest.Emit
