import BodyDigest.Proofs.Emit.Program

/-!
The registry that is read from an emitted module has the entries that the views list: keys differ
at every level, so that no entry of the mapping replaces another one.
-/
namespace BodyDigest.Emit

open Indented Indented.Grammar

/-! ### Keys and attributes of views -/

theorem keys_of_made {α : Type} {make : Text → Except EmissionError α} {key_of : α → Text}
    {keys : List Text} {vs : List α} (made : keys.map make = vs.map .ok)
    (shows : ∀ k v, make k = .ok v → key_of v = k) : vs.map key_of = keys := by
  induction keys generalizing vs with
  | nil =>
    cases vs with
    | nil => rfl
    | cons v vs => simp at made
  | cons k keys ih =>
    cases vs with
    | nil => simp at made
    | cons v vs =>
      obtain ⟨first, later⟩ := List.cons.inj made
      rw [List.map_cons, shows k v first, ih later]

theorem made_of_mem {α : Type} {make : Text → Except EmissionError α} {keys : List Text}
    {vs : List α} (made : keys.map make = vs.map .ok) {v : α} (member : v ∈ vs) :
    ∃ k ∈ keys, make k = .ok v := by
  have inside : Except.ok v ∈ keys.map make := made ▸ List.mem_map_of_mem member
  exact List.mem_map.mp inside

/-- Keys that differ in every type of a container. -/
structure ContainerView.IsApart (c : ContainerView) : Prop where
  types : (c.types.map (·.key)).Nodup
  members : ∀ t ∈ c.types, (t.members.map (·.key)).Nodup

theorem isName_staticName {key : Text} (identifier : (staticName key).isIdentifier) :
    IsName (staticName key) := ⟨identifier, staticName_not_keyword key⟩

theorem makeMember_shape {entries : List Entry} {key : Text} {m : MemberView}
    (h : makeMember entries key = .ok m) : m.name = staticName key ∧ m.key = key := by
  unfold makeMember at h
  split at h
  · cases h
    exact ⟨rfl, rfl⟩
  · cases h

theorem sortedKeys_ne_nil {k : Text} {keys : List Text} (h : k ∈ keys) : sortedKeys keys ≠ [] :=
  List.ne_nil_of_mem (mem_sortedKeys.mpr h)

theorem ne_nil_of_map_eq {α : Type} {key_of : α → Text} {keys : List Text} {vs : List α}
    (same : vs.map key_of = keys) (some_key : keys ≠ []) : vs ≠ [] := by
  rintro rfl
  exact some_key same.symm

theorem makeType_shape {scope key : Text} {entries : List Entry} {t : TypeView}
    (h : makeType scope entries key = .ok t) (present : key ∈ entries.map (·.key.type))
    (identifier : (staticName key).isIdentifier) :
    t.key = key ∧ t.IsNamed ∧ (t.members.map (·.key)).Nodup := by
  rw [makeType_eq, map_ok_iff] at h
  obtain ⟨ms, run, rfl⟩ := h
  obtain ⟨free, made⟩ := claimAll_ok_iff.mp run
  have keys : ms.map (·.key) = _ := keys_of_made made fun k m made => (makeMember_shape made).2
  obtain ⟨e, member, same⟩ := List.mem_map.mp present
  have some_member : ms ≠ [] := by
    refine ne_nil_of_map_eq keys (sortedKeys_ne_nil (k := e.key.member) ?_)
    exact List.mem_map_of_mem (List.mem_filter.mpr ⟨member, by simpa using same⟩)
  refine ⟨rfl, ⟨isName_staticName identifier, some_member, ?_⟩, keys ▸ sortedKeys_nodup _⟩
  intro m inside
  obtain ⟨k, listed, made_m⟩ := made_of_mem made inside
  rw [(makeMember_shape made_m).1]
  exact isName_staticName (free.1 k listed)

theorem makeContainer_shape {key : Text} {entries : List Entry} {c : ContainerView}
    (h : makeContainer entries key = .ok c) (present : key ∈ entries.map (·.key.scope))
    (identifier : (containerName key).isIdentifier) : c.key = key ∧ c.IsNamed ∧ c.IsApart := by
  rw [makeContainer_eq, map_ok_iff] at h
  obtain ⟨ts, run, rfl⟩ := h
  obtain ⟨free, made⟩ := claimAll_ok_iff.mp run
  have each : ∀ t ∈ ts, ∃ k, makeType key (entries.filter fun e => e.key.scope = key) k = .ok t ∧
      t.key = k ∧ t.IsNamed ∧ (t.members.map (·.key)).Nodup := by
    intro t member
    obtain ⟨k, listed, made_t⟩ := made_of_mem made member
    exact ⟨k, made_t, makeType_shape made_t (mem_sortedKeys.mp listed) (free.1 k listed)⟩
  have keys : ts.map (·.key) = _ := keys_of_made made fun k t made => by
    rw [makeType_eq, map_ok_iff] at made
    obtain ⟨ms, _, rfl⟩ := made
    rfl
  obtain ⟨e, member, same⟩ := List.mem_map.mp present
  have some_type : ts ≠ [] := by
    refine ne_nil_of_map_eq keys (sortedKeys_ne_nil (k := e.key.type) ?_)
    exact List.mem_map_of_mem (List.mem_filter.mpr ⟨member, by simpa using same⟩)
  refine ⟨rfl, ⟨isName_staticName identifier, some_type, ?_⟩, ⟨keys ▸ sortedKeys_nodup _, ?_⟩⟩
  · intro t inside
    obtain ⟨k, _, _, named, _⟩ := each t inside
    exact named
  · intro t inside
    obtain ⟨k, _, _, _, apart⟩ := each t inside
    exact apart

theorem views_shape {r : Registry} {cs : List ContainerView} (h : views r = .ok cs) :
    (∀ c ∈ cs, c.IsNamed) ∧ (∀ c ∈ cs, c.IsApart) ∧ (cs.map (·.key)).Nodup := by
  rw [views_eq_claimAll] at h
  obtain ⟨free, made⟩ := claimAll_ok_iff.mp h
  have each : ∀ c ∈ cs, c.IsNamed ∧ c.IsApart := by
    intro c member
    obtain ⟨k, listed, made_c⟩ := made_of_mem made member
    exact (makeContainer_shape made_c (mem_sortedKeys.mp listed) (free.1 k listed)).2
  have keys : cs.map (·.key) = _ := keys_of_made made fun k c made => by
    rw [makeContainer_eq, map_ok_iff] at made
    obtain ⟨ts, _, rfl⟩ := made
    rfl
  exact ⟨fun c member => (each c member).1, fun c member => (each c member).2,
    keys ▸ sortedKeys_nodup _⟩

/-! ### The mapping that is read -/

def stampRead (m : MemberView) : Value := .tuple [.text m.stamp.digest, .text m.stamp.signature]

def typeRead (t : TypeView) : Value := .dict (t.members.map fun m => (.text m.key, stampRead m))

def containerRead (c : ContainerView) : Value :=
  .dict (c.types.map fun t => (.text t.key, typeRead t))

def mappingRead (cs : List ContainerView) : Value :=
  .dict (cs.map fun c => (.text c.key, containerRead c))

theorem find?_of_nodup {pairs : List (Text × Value)} (nodup : (pairs.map (·.1)).Nodup)
    {p : Text × Value} (member : p ∈ pairs) : (pairs.find? fun q => q.1 = p.1) = some p := by
  cases found : pairs.find? fun q => q.1 = p.1 with
  | none =>
    rw [List.find?_eq_none] at found
    exact absurd (found p member) (by simp)
  | some q =>
    have same : q.1 = p.1 := by simpa using List.find?_some found
    rw [List.inj_on_of_nodup_map nodup (List.mem_of_find?_eq_some found) member same]

section

variable {α : Type} {xs : List α} {key : α → Text} {expr : α → Expr} {value : α → Value}

theorem valueOf_dict (each : ∀ x ∈ xs, valueOf (expr x) = .ok (value x)) :
    valueOf (.dict (xs.map fun x => .pair (textExpr (key x)) (expr x))) =
      .ok (.dict (xs.map fun x => (.text (key x), value x))) := by
  have entries : entriesOf (xs.map fun x => .pair (textExpr (key x)) (expr x)) =
      .ok (xs.map fun x => (.text (key x), value x)) := by
    induction xs with
    | nil => rfl
    | cons x xs ih =>
      have first : valueOf (textExpr (key x)) = .ok (.text (key x)) := rfl
      have others := ih fun y member => each y (List.mem_cons_of_mem x member)
      rw [List.map_cons, entriesOf, first, each x (by simp), others]
      rfl
  rw [valueOf, entries]
  rfl

/-- No entry replaces another one where all keys differ. -/
theorem textEntries_dict (nodup : (xs.map key).Nodup) :
    (Value.dict (xs.map fun x => (.text (key x), value x))).textEntries =
      .ok (xs.map fun x => (key x, value x)) := by
  let pairs := xs.map fun x => (key x, value x)
  have keys : pairs.map (·.1) = xs.map key := by simp [pairs, Function.comp_def]
  have texts : (xs.map fun x => (Value.text (key x), value x)).mapM
      (fun p => return (← p.1.asText, p.2) : Value × Value → Except MappingError (Text × Value)) =
        .ok pairs := by
    clear nodup keys
    induction xs with
    | nil => rfl
    | cons x xs ih =>
      rw [List.map_cons, List.mapM_cons, ih]
      rfl
  have found : ∀ x ∈ xs, (pairs.reverse.find? fun p => p.1 = key x) = some (key x, value x) := by
    intro x member
    have reversed : (pairs.reverse.map (·.1)).Nodup := by
      rw [List.map_reverse, List.nodup_reverse, keys]
      exact nodup
    exact find?_of_nodup reversed (List.mem_reverse.mpr (List.mem_map_of_mem member))
  have picked : (xs.map key).filterMap
      (fun k => (pairs.reverse.find? fun p => p.1 = k).map fun p => (k, p.2)) = pairs := by
    rw [List.filterMap_map]
    have each : ∀ x ∈ xs, ((fun k => (pairs.reverse.find? fun p => p.1 = k).map
        fun p => (k, p.2)) ∘ key) x = some (key x, value x) := by
      intro x member
      rw [Function.comp_apply, found x member]
      rfl
    rw [List.filterMap_congr each]
    exact congrFun List.filterMap_eq_map' xs
  have run : (Value.dict (xs.map fun x => (Value.text (key x), value x))).textEntries =
      (xs.map fun x => (Value.text (key x), value x)).mapM
        (fun p => return (← p.1.asText, p.2)) >>= fun pairs =>
          .ok ((distinct (pairs.map (·.1))).filterMap
            fun k => (pairs.reverse.find? fun p => p.1 = k).map fun p => (k, p.2)) := rfl
  rw [run, texts]
  change Except.ok ((distinct (pairs.map (·.1))).filterMap _) = _
  rw [keys, distinct_of_nodup nodup, picked]

end

theorem valueOf_mapping (cs : List ContainerView) : valueOf (mappingExpr cs) = .ok (mappingRead cs) :=
  valueOf_dict fun _ _ => valueOf_dict fun _ _ => valueOf_dict fun _ _ => rfl

/-! ### The registry -/

/-- Adds an entry that was read. -/
def register (r : Registry) (e : Entry) : Except MappingError Registry :=
  (r.add e).mapError .collision

theorem register_members (scope type : Text) (ms : List MemberView) (r : Registry) :
    (ms.map fun m => (m.key, stampRead m)).foldlM (addLeaf scope type) r =
      (ms.map (MemberView.entry scope type)).foldlM register r := by
  rw [List.foldlM_map, List.foldlM_map]
  rfl

/-- A fold over pieces that each fold over their entries is a fold over all entries. -/
theorem foldlM_pieces {α β : Type} {xs : List α} {piece : α → β}
    {step : Registry → β → Except MappingError Registry} {entries : α → List Entry}
    (each : ∀ x ∈ xs, ∀ r, step r (piece x) = (entries x).foldlM register r) (r : Registry) :
    (xs.map piece).foldlM step r = (xs.flatMap entries).foldlM register r := by
  induction xs generalizing r with
  | nil => rfl
  | cons x xs ih =>
    rw [List.map_cons, List.foldlM_cons, each x (by simp), List.flatMap_cons, List.foldlM_append]
    congr 1
    funext s
    exact ih (fun y member => each y (List.mem_cons_of_mem x member)) s

theorem registryOfValue_mapping {cs : List ContainerView} (apart : ∀ c ∈ cs, c.IsApart)
    (nodup : (cs.map (·.key)).Nodup) :
    registryOfValue (mappingRead cs) = (listed cs).foldlM register Registry.empty := by
  have type_step (scope : Text) (t : TypeView) (distinct_keys : (t.members.map (·.key)).Nodup)
      (r : Registry) : (do (← (typeRead t).textEntries).foldlM (addLeaf scope t.key) r) =
        (t.entries scope).foldlM register r := by
    rw [typeRead, textEntries_dict distinct_keys]
    exact register_members scope t.key t.members r
  have container_step (c : ContainerView) (member : c ∈ cs) (r : Registry) :
      (do (← (containerRead c).textEntries).foldlM (fun r types => do
        (← types.2.textEntries).foldlM (addLeaf c.key types.1) r) r) =
          c.entries.foldlM register r := by
    rw [containerRead, textEntries_dict (apart c member).types]
    exact foldlM_pieces (fun t inside r => type_step c.key t ((apart c member).members t inside) r) r
  rw [registryOfValue, mappingRead, textEntries_dict nodup]
  exact foldlM_pieces (fun c member r => container_step c member r) Registry.empty

theorem foldlM_register (entries : List Entry) (r : Registry) :
    entries.foldlM register r = (entries.foldlM Registry.add r).mapError .collision := by
  induction entries generalizing r with
  | nil => rfl
  | cons e entries ih =>
    rw [List.foldlM_cons, List.foldlM_cons, register]
    cases r.add e with
    | error c => rfl
    | ok s => exact ih s

/-- What is read from the mapping of views are the entries that they list. -/
theorem registry_of_views {r : Registry} {cs : List ContainerView} (shown : views r = .ok cs) :
    ∃ s, registryOfValue (mappingRead cs) = .ok s ∧ s.agrees r := by
  obtain ⟨_, apart, nodup⟩ := views_shape shown
  have perm := views_listed_perm shown
  have keys : ((listed cs).map (·.key)).Nodup := (perm.map (·.key)).nodup_iff.mpr r.nodup
  have built := Registry.ofEntries_nodup keys
  refine ⟨⟨listed cs, keys⟩, ?_, Registry.agrees_iff_perm.mpr perm⟩
  rw [Registry.ofEntries] at built
  rw [registryOfValue_mapping apart nodup, foldlM_register, built]
  rfl

end BodyDigest.Emit
