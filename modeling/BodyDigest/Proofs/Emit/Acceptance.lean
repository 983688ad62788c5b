import BodyDigest.Proofs.Emit.Views

/-!
What views show and when they exist. They list every entry of the registry once; they exist when
every attribute is an identifier and siblings get different ones. Neither depends on the order of
the entries.
-/
namespace BodyDigest.Emit

theorem map_ok_iff {α β ε : Type} {f : α → β} {x : Except ε α} {b : β} :
    x.map f = .ok b ↔ ∃ a, x = .ok a ∧ f a = b := by
  cases x <;> simp [Except.map]

/-! ### Every entry is listed once -/

theorem makeMember_entry {scope type key : Text} {entries : List Entry} {m : MemberView}
    (ours : OfType scope type entries) (h : makeMember entries key = .ok m) :
    entries.filter (fun e => e.key.member = key) = [m.entry scope type] := by
  rw [filter_eq_find_toList ours.members_nodup]
  unfold makeMember at h
  split at h
  · rename_i e found
    cases h
    have key_eq : e.key.member = key := by simpa using List.find?_some found
    have inside := List.mem_of_find?_eq_some found
    have hs := ours.scope_eq e inside
    have ht := ours.type_eq e inside
    rw [found, Option.toList_some, MemberView.entry]
    cases e with
    | mk k s =>
      cases k
      simp_all
  · cases h

theorem makeType_listed {scope key : Text} {entries : List Entry} {t : TypeView}
    (scope_eq : ∀ e ∈ entries, e.key.scope = scope) (nodup : (entries.map (·.key)).Nodup)
    (h : makeType scope entries key = .ok t) :
    (t.entries scope).Perm (entries.filter fun e => e.key.type = key) := by
  rw [makeType_eq, map_ok_iff] at h
  obtain ⟨ms, run, rfl⟩ := h
  have ours := OfType.filter scope_eq nodup key
  have all := flatMap_perm_of_made (fun m => [m.entry scope key])
    (fun k => (entries.filter fun e => e.key.type = key).filter fun e => e.key.member = k)
    (claimAll_ok_iff.mp run).2 (fun k m made => by rw [makeMember_entry ours made])
  rw [← List.map_eq_flatMap] at all
  exact all.trans (sorted_groups_perm (fun e : Entry => e.key.member) _)

theorem makeContainer_listed {key : Text} {entries : List Entry} {c : ContainerView}
    (nodup : (entries.map (·.key)).Nodup) (h : makeContainer entries key = .ok c) :
    c.entries.Perm (entries.filter fun e => e.key.scope = key) := by
  rw [makeContainer_eq, map_ok_iff] at h
  obtain ⟨ts, run, rfl⟩ := h
  let mine := entries.filter fun e => e.key.scope = key
  have scope_eq : ∀ e ∈ mine, e.key.scope = key := by
    intro e member
    simpa using (List.mem_filter.mp member).2
  have mine_nodup : (mine.map (·.key)).Nodup := nodup.sublist (List.filter_sublist.map _)
  have all := flatMap_perm_of_made (TypeView.entries key)
    (fun k => mine.filter fun e => e.key.type = k)
    (claimAll_ok_iff.mp run).2 (fun k t made => makeType_listed scope_eq mine_nodup made)
  exact all.trans (sorted_groups_perm (fun e : Entry => e.key.type) mine)

theorem views_listed_perm {r : Registry} {cs : List ContainerView} (h : views r = .ok cs) :
    (listed cs).Perm r.entries := by
  rw [views_eq_claimAll] at h
  have all := flatMap_perm_of_made ContainerView.entries
    (fun k => r.entries.filter fun e => e.key.scope = k)
    (claimAll_ok_iff.mp h).2 (fun k c made => makeContainer_listed r.nodup made)
  exact all.trans (sorted_groups_perm (fun e : Entry => e.key.scope) r.entries)

theorem constants_eq_listed (cs : List ContainerView) :
    constants cs = (listed cs).map fun e => (e.key, e.stamp.digest) := by
  simp [constants, listed, ContainerView.entries, TypeView.entries, MemberView.entry,
    List.map_flatMap, Function.comp_def]

/-! ### The order of entries does not show -/

theorem makeMember_eq_of_perm {scope type : Text} {a b : List Entry} (ours : OfType scope type a)
    (h : a.Perm b) : makeMember a = makeMember b := by
  funext k
  have theirs : (b.map (·.key.member)).Nodup := (h.map _).nodup_iff.mp ours.members_nodup
  have perm := h.filter fun e => e.key.member = k
  rw [filter_eq_find_toList ours.members_nodup, filter_eq_find_toList theirs] at perm
  unfold makeMember
  cases fa : a.find? (fun e => e.key.member = k) <;>
    cases fb : b.find? (fun e => e.key.member = k) <;> simp_all

theorem makeType_eq_of_perm {scope : Text} {a b : List Entry}
    (scope_eq : ∀ e ∈ a, e.key.scope = scope) (nodup : (a.map (·.key)).Nodup) (h : a.Perm b) :
    makeType scope a = makeType scope b := by
  funext key
  have mine := h.filter fun e => e.key.type = key
  rw [makeType_eq, makeType_eq, sortedKeys_eq_of_perm (mine.map (·.key.member)),
    makeMember_eq_of_perm (OfType.filter scope_eq nodup key) mine]

theorem makeContainer_eq_of_perm {a b : List Entry} (nodup : (a.map (·.key)).Nodup)
    (h : a.Perm b) : makeContainer a = makeContainer b := by
  funext key
  have mine := h.filter fun e => e.key.scope = key
  have scope_eq : ∀ e ∈ a.filter (fun e => e.key.scope = key), e.key.scope = key := by
    intro e member
    simpa using (List.mem_filter.mp member).2
  rw [makeContainer_eq, makeContainer_eq, sortedKeys_eq_of_perm (mine.map (·.key.type)),
    makeType_eq_of_perm scope_eq (nodup.sublist (List.filter_sublist.map _)) mine]

theorem views_eq_of_perm {r s : Registry} (h : r.entries.Perm s.entries) : views r = views s := by
  rw [views_eq_claimAll, views_eq_claimAll, sortedKeys_eq_of_perm (h.map (·.key.scope)),
    makeContainer_eq_of_perm r.nodup h]

/-! ### When views exist -/

/-- Every attribute is an identifier, and different siblings get different attributes. -/
structure Nameable (keys : List Key) : Prop where
  scope : ∀ k ∈ keys, (containerName k.scope).isIdentifier
  type : ∀ k ∈ keys, (staticName k.type).isIdentifier
  member : ∀ k ∈ keys, (staticName k.member).isIdentifier
  scopes_apart : ∀ j ∈ keys, ∀ k ∈ keys,
    containerName j.scope = containerName k.scope → j.scope = k.scope
  types_apart : ∀ j ∈ keys, ∀ k ∈ keys, j.scope = k.scope →
    staticName j.type = staticName k.type → j.type = k.type
  members_apart : ∀ j ∈ keys, ∀ k ∈ keys, j.scope = k.scope → j.type = k.type →
    staticName j.member = staticName k.member → j.member = k.member

theorem nameable_iff {keys : List Key} :
    Nameable keys ↔
      (∀ k ∈ keys, (containerName k.scope).isIdentifier ∧ (staticName k.type).isIdentifier ∧
        (staticName k.member).isIdentifier) ∧
      ∀ j ∈ keys, ∀ k ∈ keys,
        (containerName j.scope = containerName k.scope → j.scope = k.scope) ∧
        (j.scope = k.scope → staticName j.type = staticName k.type → j.type = k.type) ∧
        (j.scope = k.scope → j.type = k.type → staticName j.member = staticName k.member →
          j.member = k.member) := by
  constructor
  · intro h
    refine ⟨fun k hk => ⟨h.scope k hk, h.type k hk, h.member k hk⟩, fun j hj k hk => ?_⟩
    exact ⟨h.scopes_apart j hj k hk, h.types_apart j hj k hk, h.members_apart j hj k hk⟩
  · rintro ⟨idents, apart⟩
    exact ⟨fun k hk => (idents k hk).1, fun k hk => (idents k hk).2.1,
      fun k hk => (idents k hk).2.2, fun j hj k hk => (apart j hj k hk).1,
      fun j hj k hk => (apart j hj k hk).2.1, fun j hj k hk => (apart j hj k hk).2.2⟩

instance (keys : List Key) : Decidable (Nameable keys) := decidable_of_iff' _ nameable_iff

theorem claimAll_exists_iff {α : Type} {subject : Text → Subject} {name : Text → Text}
    {make : Text → Except EmissionError α} {keys : List Text} :
    (∃ vs, claimAll subject name make [] keys = .ok vs) ↔
      Free name [] keys ∧ ∀ k ∈ keys, ∃ v, make k = .ok v := by
  constructor
  · rintro ⟨vs, run⟩
    obtain ⟨free, made⟩ := claimAll_ok_iff.mp run
    exact ⟨free, mapM_ok_exists_iff.mp ⟨vs, mapM_eq_ok_iff.mpr made⟩⟩
  · rintro ⟨free, makes⟩
    obtain ⟨vs, made⟩ := mapM_ok_exists_iff.mpr makes
    exact ⟨vs, claimAll_ok_iff.mpr ⟨free, mapM_eq_ok_iff.mp made⟩⟩

theorem makeMember_exists {entries : List Entry} {k : Text} (h : k ∈ entries.map (·.key.member)) :
    ∃ m, makeMember entries k = .ok m := by
  obtain ⟨e, found⟩ := find_of_present h
  exact ⟨_, by rw [makeMember, found]⟩

theorem makeType_exists_iff {scope key : Text} {entries : List Entry} :
    (∃ t, makeType scope entries key = .ok t) ↔
      Free staticName []
        (sortedKeys ((entries.filter fun e => e.key.type = key).map (·.key.member))) := by
  simp only [makeType_eq, map_ok_iff]
  constructor
  · rintro ⟨t, ms, run, _⟩
    exact (claimAll_exists_iff.mp ⟨ms, run⟩).1
  · intro free
    obtain ⟨ms, run⟩ := claimAll_exists_iff.mpr
      ⟨free, fun k member => makeMember_exists (mem_sortedKeys.mp member)⟩
    exact ⟨_, ms, run, rfl⟩

theorem makeContainer_exists_iff {key : Text} {entries : List Entry} :
    (∃ c, makeContainer entries key = .ok c) ↔
      Free staticName []
          (sortedKeys ((entries.filter fun e => e.key.scope = key).map (·.key.type))) ∧
        ∀ k ∈ sortedKeys ((entries.filter fun e => e.key.scope = key).map (·.key.type)),
          ∃ t, makeType key (entries.filter fun e => e.key.scope = key) k = .ok t := by
  simp only [makeContainer_eq, map_ok_iff]
  constructor
  · rintro ⟨c, ts, run, _⟩
    exact claimAll_exists_iff.mp ⟨ts, run⟩
  · intro ok
    obtain ⟨ts, run⟩ := claimAll_exists_iff.mpr ok
    exact ⟨_, ts, run, rfl⟩

theorem views_ok_iff (r : Registry) : (∃ cs, views r = .ok cs) ↔ Nameable (Diff.keys r) := by
  rw [views_eq_claimAll, claimAll_exists_iff]
  simp only [makeContainer_exists_iff, makeType_exists_iff, free_sortedKeys_iff, mem_sortedKeys,
    List.forall_mem_map, List.mem_filter, decide_eq_true_eq, and_imp, nameable_iff, Diff.keys]
  constructor
  · rintro ⟨⟨scope, scopes_apart⟩, inner⟩
    constructor
    · intro e he
      exact ⟨scope e he, (inner e he).1.1 e he rfl, ((inner e he).2 e he rfl).1 e he rfl rfl⟩
    · intro e he f hf
      refine ⟨scopes_apart e he f hf, ?_, ?_⟩
      · intro scope_eq
        exact (inner e he).1.2 e he rfl f hf scope_eq.symm
      · intro scope_eq type_eq
        exact ((inner e he).2 e he rfl).2 e he rfl rfl f hf scope_eq.symm type_eq.symm
  · rintro ⟨idents, apart⟩
    refine ⟨⟨fun e he => (idents e he).1, fun e he f hf => (apart e he f hf).1⟩, ?_⟩
    intro e _
    refine ⟨⟨fun f hf _ => (idents f hf).2.1, ?_⟩, ?_⟩
    · intro f hf same_f g hg same_g
      exact (apart f hf g hg).2.1 (same_f.trans same_g.symm)
    · intro t _ _
      refine ⟨fun f hf _ _ => (idents f hf).2.2, ?_⟩
      intro f hf scope_f type_f g hg scope_g type_g
      exact (apart f hf g hg).2.2 (scope_f.trans scope_g.symm) (type_f.trans type_g.symm)

end BodyDigest.Emit
