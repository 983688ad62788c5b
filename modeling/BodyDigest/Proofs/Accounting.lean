import BodyDigest.Run
import BodyDigest.Proofs.Emit.Pages

/-!
A run neither loses, merges nor invents a unit: descriptors without a place are dropped in order,
and every other one owns one key of the registry and one emitted constant.
-/
namespace BodyDigest

/-- Two descriptors that name one member of one type. -/
def SameMember (d e : Descriptor) : Prop :=
  d.scope = e.scope ∧ d.type = e.type ∧ d.member = e.member

/-- The registry holds the kept descriptor at `i` under `k`. Its own name serves when no other kept
descriptor names the same member, its signature otherwise. -/
structure Holds (r : Registry) (kept : List Descriptor) (i : Fin kept.length) (k : Key) : Prop where
  scope : kept[i].scope = some k.scope
  type : kept[i].type = some k.type
  alone : (∀ j, j ≠ i → ¬ SameMember kept[j] kept[i]) → k.member = kept[i].member
  crowded : (∃ j, j ≠ i ∧ SameMember kept[j] kept[i]) →
    k.member = identifierSafe kept[i].signature
  stamp : ∃ text value, Canonical.text kept[i].body = .ok text ∧ digest text = .ok value ∧
    r.find? k = some ⟨value, kept[i].signature⟩

/-- What becomes of the descriptors of a run. -/
structure Accounts (ds : List Descriptor) (o : Outcome) : Prop where
  dropped : o.dropped = ds.filter fun d => !d.isPlaced
  count : o.registry.size + o.dropped.length = ds.length
  keys : ∃ key : Fin (ds.filter Descriptor.isPlaced).length → Key,
    Function.Injective key ∧ (∀ k, o.registry.contains k ↔ ∃ i, key i = k) ∧
      ∀ i, Holds o.registry (ds.filter Descriptor.isPlaced) i (key i)
  constants : ∃ cs, Emit.views o.registry = .ok cs ∧ ((Emit.constants cs).map (·.1)).Nodup ∧
    ∀ k v, (k, v) ∈ Emit.constants cs ↔ ∃ s, o.registry.find? k = some s ∧ s.digest = v

/-! ### Records of descriptors -/

/-- A record says of its descriptor what the registry needs. -/
structure Records (d : Descriptor) (r : Record) : Prop where
  scope : d.scope = some r.scope
  type : d.type = some r.type
  member : r.member = d.member
  signature : r.signature = d.signature
  value : ∃ text, Canonical.text d.body = .ok text ∧ digest text = .ok r.digest

theorem given_iff_some {t : Option Text} (h : isGiven t) : t = some (t.getD []) := by
  cases t with
  | none => simp [isGiven] at h
  | some t => rfl

theorem records_of_fingerprint {d : Descriptor} {r : Record} (h : fingerprint d = .ok r) :
    Records d r := by
  unfold fingerprint at h
  split at h
  · cases h
  · rename_i placed
    have placed : isGiven d.scope ∧ isGiven d.type ∧ d.member ≠ [] := by
      simpa [Descriptor.isPlaced, and_assoc] using placed
    split at h
    · cases h
    · rename_i text read
      split at h
      · cases h
      · rename_i value hashed
        cases h
        exact ⟨given_iff_some placed.1, given_iff_some placed.2.1, rfl, rfl, text, read, hashed⟩

theorem records_same_member {d e : Descriptor} {r s : Record} (hd : Records d r)
    (he : Records e s) : SameMember d e ↔ r.group = s.group ∧ r.member = s.member := by
  simp only [SameMember, hd.scope, he.scope, hd.type, he.type, ← hd.member, ← he.member,
    Record.group, Prod.mk.injEq, Option.some.injEq, and_assoc]

/-! ### The run -/

theorem run_ok_iff {options : RunOptions} {ds : List Descriptor} {o : Outcome} :
    run options ds = .ok o ↔
      ¬ options.workers.any (· < 1) ∧ registryOf ds = .ok o.registry ∧
        Emit.emit options.templates options.rootClass o.registry = .ok o.artifacts ∧
          o.dropped = ds.filter fun d => !d.isPlaced := by
  unfold run
  split
  · rename_i refused
    simp [refused]
  · rename_i accepted
    cases registered : registryOf ds with
    | error e => simp [bind, Except.bind]
    | ok r =>
      cases emitted : Emit.emit options.templates options.rootClass r with
      | error e =>
        simp only [bind, Except.bind, emitted, Except.mapError, reduceCtorEq, false_iff, not_and]
        rintro _ same
        cases same
        simp [emitted]
      | ok a =>
        simp only [bind, Except.bind, pure, Except.pure, emitted, Except.mapError, Except.ok.injEq]
        constructor
        · rintro rfl
          exact ⟨accepted, rfl, emitted, rfl⟩
        · rintro ⟨_, same, artifacts, dropped⟩
          cases same
          have same_artifacts := Except.ok.inj (emitted.symm.trans artifacts)
          cases o
          simp_all

/-- The entry of a record under the name that it has among `records`. -/
def Record.placed (records : List Record) (r : Record) : Entry :=
  Registry.Record.entry (r.named (groupOf records r))

theorem registryOf_ok {ds : List Descriptor} {r : Registry} (h : registryOf ds = .ok r) :
    ∃ records : List Record, (ds.filter Descriptor.isPlaced).map fingerprint = records.map .ok ∧
      r.entries.Perm (records.map (Record.placed records)) := by
  unfold registryOf resolvedRecords at h
  cases marked : (ds.filter Descriptor.isPlaced).mapM fingerprint with
  | error e => simp [marked, Except.mapError, bind, Except.bind] at h
  | ok records =>
    cases named : resolve records with
    | error c => simp [marked, named, Except.mapError, bind, Except.bind] at h
    | ok resolved =>
      obtain ⟨built, ok, entries⟩ := Registry.build_of_resolve named
      simp only [marked, named, ok, Except.mapError, bind, Except.bind, Except.ok.injEq] at h
      subst h
      refine ⟨records, mapM_eq_ok_iff.mp marked, ?_⟩
      rw [entries]
      have perm := (resolved_perm named).map Registry.Record.entry
      rwa [List.map_map] at perm

theorem fingerprint_at {kept : List Descriptor} {records : List Record}
    (each : kept.map fingerprint = records.map .ok) (i : Nat) (hk : i < kept.length)
    (hr : i < records.length) : Records kept[i] records[i] := by
  have at_i : (kept.map fingerprint)[i]? = (records.map Except.ok)[i]? := by rw [each]
  rw [List.getElem?_map, List.getElem?_map, List.getElem?_eq_getElem hk,
    List.getElem?_eq_getElem hr] at at_i
  exact records_of_fingerprint (Option.some.inj at_i)

/-- A record keeps its own name exactly when no other descriptor names the same member. -/
theorem resolvedName_at {kept : List Descriptor} {records : List Record}
    (each : kept.map fingerprint = records.map .ok) (i : Fin kept.length)
    (hi : i < records.length) :
    resolvedName (groupOf records records[i]) records[i] =
      if (records.filter fun s => s.member = records[i].member && s.group = records[i].group).length
        = 1 then kept[i].member else identifierSafe kept[i].signature := by
  have mine : Records kept[i] records[i] := fingerprint_at each i i.isLt hi
  rw [resolvedName, groupOf, List.filter_filter, mine.member, mine.signature]

theorem holds_of_records {kept : List Descriptor} {records : List Record} {r : Registry}
    (each : kept.map fingerprint = records.map .ok)
    (perm : r.entries.Perm (records.map (Record.placed records))) (i : Fin kept.length)
    (hi : i < records.length) : Holds r kept i (Record.placed records records[i]).key := by
  have length : kept.length = records.length := by simpa using congrArg List.length each
  have mine : Records kept[i] records[i] := fingerprint_at each i i.isLt hi
  let p : Record → Bool := fun s => s.member = records[i].member && s.group = records[i].group
  have shares (j : Fin kept.length) (hj : j < records.length) :
      SameMember kept[j] kept[i] ↔ p records[j] := by
    have theirs := fingerprint_at each j j.isLt hj
    have same := records_same_member theirs mine
    simpa [p, and_comm] using same
  have own_iff : (records.filter p).length = 1 ↔ ∀ j, j ≠ i → ¬ SameMember kept[j] kept[i] := by
    rw [filter_length_one_iff hi (by simp [p])]
    constructor
    · intro alone j differs same
      exact alone j (length ▸ j.isLt) (Fin.val_ne_of_ne differs) ((shares j (length ▸ j.isLt)).mp same)
    · intro alone j hj differs same
      exact alone ⟨j, length ▸ hj⟩ (fun e => differs (congrArg Fin.val e)) ((shares _ hj).mpr same)
  have named := resolvedName_at each i hi
  refine ⟨mine.scope, mine.type, ?_, ?_, ?_⟩
  · intro alone
    exact named.trans (if_pos (own_iff.mpr alone))
  · rintro ⟨j, differs, same⟩
    exact named.trans (if_neg fun one => own_iff.mp one j differs same)
  · obtain ⟨text, read, hashed⟩ := mine.value
    refine ⟨text, records[i].digest, read, hashed, ?_⟩
    rw [Registry.find?_eq_some_iff, perm.mem_iff, ← mine.signature]
    exact List.mem_map.mpr ⟨records[i], List.getElem_mem hi, rfl⟩

theorem keys_of_records {kept : List Descriptor} {records : List Record} {r : Registry}
    (each : kept.map fingerprint = records.map .ok)
    (perm : r.entries.Perm (records.map (Record.placed records))) :
    ∃ key : Fin kept.length → Key, Function.Injective key ∧
      (∀ k, r.contains k ↔ ∃ i, key i = k) ∧ ∀ i, Holds r kept i (key i) := by
  have length : kept.length = records.length := by simpa using congrArg List.length each
  let keys := records.map fun s => (Record.placed records s).key
  have keys_perm : (r.entries.map (·.key)).Perm keys := by
    have mapped := perm.map (·.key)
    rwa [List.map_map] at mapped
  have keys_nodup : keys.Nodup := keys_perm.nodup_iff.mp r.nodup
  have keys_length : keys.length = kept.length := by simp [keys, length]
  refine ⟨fun i => keys.get (i.cast keys_length.symm), ?_, ?_, ?_⟩
  · intro i j same
    exact Fin.ext (Fin.mk.inj (keys_nodup.injective_get same))
  · intro k
    rw [Registry.contains, Registry.find?_isSome_iff, keys_perm.mem_iff, List.mem_iff_get]
    constructor
    · rintro ⟨i, same⟩
      exact ⟨i.cast keys_length, same⟩
    · rintro ⟨i, same⟩
      exact ⟨i.cast keys_length.symm, same⟩
  · intro i
    have held := holds_of_records each perm i (length ▸ i.isLt)
    simpa [keys] using held

theorem constants_of_views {r : Registry} {cs : List Emit.ContainerView}
    (shown : Emit.views r = .ok cs) :
    ((Emit.constants cs).map (·.1)).Nodup ∧
      ∀ k v, (k, v) ∈ Emit.constants cs ↔ ∃ s, r.find? k = some s ∧ s.digest = v := by
  have perm := Emit.views_listed_perm shown
  rw [Emit.constants_eq_listed]
  constructor
  · rw [List.map_map]
    exact (perm.map (·.key)).nodup_iff.mpr r.nodup
  · intro k v
    simp only [List.mem_map, perm.mem_iff, Prod.mk.injEq, Registry.find?_eq_some_iff]
    constructor
    · rintro ⟨e, member, rfl, rfl⟩
      exact ⟨e.stamp, member, rfl⟩
    · rintro ⟨s, member, rfl⟩
      exact ⟨_, member, rfl, rfl⟩

/-- Every descriptor of a successful run is accounted for, and records that were resolved can
always be registered. -/
theorem run_accounts_for_every_descriptor :
    (∀ options ds o, run options ds = .ok o → Accounts ds o) ∧
      ∀ records resolved, resolve records = .ok resolved →
        ∃ r, Registry.build resolved = .ok r := by
  constructor
  · intro options ds o ok
    obtain ⟨_, registered, emitted, dropped⟩ := run_ok_iff.mp ok
    obtain ⟨records, each, perm⟩ := registryOf_ok registered
    obtain ⟨cs, shown⟩ := Emit.views_of_emit emitted
    refine ⟨dropped, ?_, keys_of_records each perm, cs, shown, constants_of_views shown⟩
    have kept : (ds.filter Descriptor.isPlaced).length = records.length := by
      simpa using congrArg List.length each
    have size : o.registry.size = records.length := by
      rw [Registry.size, perm.length_eq, List.length_map]
    rw [size, ← kept, dropped, ← List.length_append]
    exact (List.filter_append_perm Descriptor.isPlaced ds).length_eq
  · intro records resolved named
    obtain ⟨r, built, _⟩ := Registry.build_of_resolve named
    exact ⟨r, built⟩

/-- Descriptors whose keys can be named are run with the built-in templates. -/
theorem run_built_in {ds : List Descriptor} {keys : List Key}
    (registered : (registryOf ds).map Diff.keys = .ok keys) (nameable : Emit.Nameable keys) :
    ∃ o, run {} ds = .ok o := by
  obtain ⟨r, found, rfl⟩ := Emit.map_ok_iff.mp registered
  obtain ⟨cs, shown⟩ := (Emit.views_ok_iff r).mpr nameable
  have emitted : Emit.emit [] "HashStamps" r = .ok (Emit.pages "HashStamps" r.size cs) :=
    Emit.emit_built_in_iff.mpr ⟨by decide, cs, shown, rfl⟩
  exact ⟨⟨r, _, _⟩, run_ok_iff.mpr ⟨by decide, found, emitted, rfl⟩⟩

/-- Two overloads, a member of its own, and a member whose namespace is unknown. -/
def overloads : List Descriptor := [
  { scope := some "N", type := some "T", member := "f", signature := "f(int)",
    body := some ⟨.statements, ["return 1;"], "csharp"⟩ },
  { scope := some "N", type := some "T", member := "f", signature := "f(string)" },
  { scope := none, type := some "T", member := "g", signature := "g()" },
  { scope := some "N", type := some "T", member := "h", signature := "h()" }]

theorem overloads_run : ∃ o, run {} overloads = .ok o :=
  have registered : (registryOf overloads).map Diff.keys =
      .ok [⟨"N", "T", "f_int"⟩, ⟨"N", "T", "f_string"⟩, ⟨"N", "T", "h"⟩] := by decide +kernel
  run_built_in registered (by decide)

theorem overloads_accounted_for : ∃ o, run {} overloads = .ok o ∧ Accounts overloads o := by
  obtain ⟨o, ok⟩ := overloads_run
  exact ⟨o, ok, run_accounts_for_every_descriptor.1 _ _ _ ok⟩

end BodyDigest
