import BodyDigest.Proofs.Accounting

/-!
The order in which descriptors arrive does not show. It may decide which failure is reported, but
not whether a run fails, nor what is registered and emitted.
-/
namespace BodyDigest

theorem groupOf_perm {records others : List Record} (h : records.Perm others) (r : Record) :
    (groupOf records r).Perm (groupOf others r) :=
  h.filter _

/-- A name depends on how often each member's name occurs in the group, and on nothing else. -/
theorem resolvedName_congr {group other : List Record}
    (h : (group.map (·.member)).Perm (other.map (·.member))) (r : Record) :
    resolvedName group r = resolvedName other r := by
  have counted (g : List Record) :
      (g.filter (·.member = r.member)).length =
        ((g.map (·.member)).filter (· = r.member)).length := by
    rw [List.filter_map, List.length_map]
    rfl
  have same : (group.filter (·.member = r.member)).length =
      (other.filter (·.member = r.member)).length := by
    rw [counted, counted]
    exact (h.filter _).length_eq
  rw [resolvedName, resolvedName, same]

/-- The entry of a record depends on the members of its own group alone. -/
theorem placed_congr {records others : List Record} {r : Record}
    (h : ((groupOf records r).map (·.member)).Perm ((groupOf others r).map (·.member))) :
    Record.placed records r = Record.placed others r := by
  rw [Record.placed, Record.placed, Record.named, Record.named, resolvedName_congr h]

/-! ### Success -/

theorem groupOf_mem_groups {records : List Record} {r : Record} (h : r ∈ records) :
    groupOf records r ∈ groups records :=
  List.mem_map.mpr ⟨r.group, mem_distinct.mpr (List.mem_map_of_mem h), rfl⟩

/-- Resolution succeeds when names are unique among the records that share a record's group. -/
theorem resolve_exists_iff {records : List Record} :
    (∃ resolved, resolve records = .ok resolved) ↔
      ∀ r ∈ records, ((groupOf records r).map (resolvedName (groupOf records r))).Nodup := by
  constructor
  · rintro ⟨resolved, ok⟩ r member
    exact (resolve_ok_iff.mp ok).2 _ (groupOf_mem_groups member)
  · intro unique
    refine ⟨_, resolve_ok_iff.mpr ⟨rfl, ?_⟩⟩
    intro g hg
    obtain ⟨r, member, rfl⟩ := mem_groups hg
    exact unique r member

theorem resolve_exists_of_perm {records others : List Record} (h : records.Perm others)
    (ok : ∃ resolved, resolve records = .ok resolved) :
    ∃ resolved, resolve others = .ok resolved := by
  rw [resolve_exists_iff] at ok ⊢
  intro r member
  have group := groupOf_perm h r
  have names : resolvedName (groupOf records r) = resolvedName (groupOf others r) :=
    funext fun s => resolvedName_congr (group.map _) s
  rw [← names]
  exact (group.map _).nodup_iff.mp (ok r (h.mem_iff.mpr member))

theorem registryOf_ok_iff {ds : List Descriptor} {r : Registry} :
    registryOf ds = .ok r ↔
      ∃ records resolved, (ds.filter Descriptor.isPlaced).mapM fingerprint = .ok records ∧
        resolve records = .ok resolved ∧ Registry.build resolved = .ok r := by
  unfold registryOf resolvedRecords
  cases marked : (ds.filter Descriptor.isPlaced).mapM fingerprint with
  | error e => simp [Except.mapError, bind, Except.bind]
  | ok records =>
    cases named : resolve records with
    | error c => simp [named, Except.mapError, bind, Except.bind]
    | ok resolved =>
      cases built : Registry.build resolved <;>
        simp [named, built, Except.mapError, bind, Except.bind]

/-- Records of the same descriptors are the same records. -/
theorem records_perm {kept others : List Descriptor} {records : List Record}
    (h : kept.Perm others) (ok : kept.mapM fingerprint = .ok records) :
    ∃ those, others.mapM fingerprint = .ok those ∧ records.Perm those := by
  have each := mapM_ok_exists_iff.mp ⟨records, ok⟩
  obtain ⟨those, found⟩ := mapM_ok_exists_iff.mpr fun d member => each d (h.mem_iff.mpr member)
  refine ⟨those, found, ?_⟩
  have results : (records.map (@Except.ok FingerprintError Record)).Perm (those.map .ok) := by
    rw [← mapM_eq_ok_iff.mp ok, ← mapM_eq_ok_iff.mp found]
    exact h.map _
  exact (List.map_perm_map_iff fun _ _ same => Except.ok.inj same).mp results

theorem registryOf_perm {ds es : List Descriptor} (h : ds.Perm es) {r : Registry}
    (ok : registryOf ds = .ok r) :
    ∃ s, registryOf es = .ok s ∧ r.entries.Perm s.entries := by
  obtain ⟨records, resolved, marked, named, _⟩ := registryOf_ok_iff.mp ok
  obtain ⟨those, found, perm⟩ := records_perm (h.filter _) marked
  obtain ⟨resolved', named'⟩ := resolve_exists_of_perm perm ⟨resolved, named⟩
  obtain ⟨s, built, _⟩ := Registry.build_of_resolve named'
  have registered : registryOf es = .ok s :=
    registryOf_ok_iff.mpr ⟨those, resolved', found, named', built⟩
  refine ⟨s, registered, ?_⟩
  obtain ⟨_, each, entries⟩ := registryOf_ok ok
  obtain ⟨_, each', entries'⟩ := registryOf_ok registered
  obtain rfl := Except.ok.inj (marked.symm.trans (mapM_eq_ok_iff.mpr each))
  obtain rfl := Except.ok.inj (found.symm.trans (mapM_eq_ok_iff.mpr each'))
  have placed : Record.placed records = Record.placed those :=
    funext fun x => placed_congr ((groupOf_perm perm x).map _)
  rw [placed] at entries
  exact entries.trans ((perm.map _).trans entries'.symm)

/-- What is emitted depends on the entries alone, also by a user's templates. -/
theorem emit_eq_of_perm {r s : Registry} (h : r.entries.Perm s.entries)
    (templates : Emit.Templates) (root : Text) :
    Emit.emit templates root r = Emit.emit templates root s := by
  have size : r.size = s.size := h.length_eq
  rw [Emit.emit, Emit.emit, Emit.subjects, Emit.subjects, size, Emit.views_eq_of_perm h]

theorem run_of_perm {options : RunOptions} {ds es : List Descriptor} (h : ds.Perm es)
    {o : Outcome} (ok : run options ds = .ok o) :
    ∃ p, run options es = .ok p ∧ o.registry.entries.Perm p.registry.entries ∧
      o.artifacts = p.artifacts ∧ o.dropped.Perm p.dropped := by
  obtain ⟨accepted, registered, emitted, dropped⟩ := run_ok_iff.mp ok
  obtain ⟨s, registered', entries⟩ := registryOf_perm h registered
  rw [emit_eq_of_perm entries] at emitted
  refine ⟨⟨s, o.artifacts, es.filter fun d => !d.isPlaced⟩, ?_, entries, rfl, ?_⟩
  · exact run_ok_iff.mpr ⟨accepted, registered', emitted, rfl⟩
  · rw [dropped]
    exact h.filter _

/-- Descriptors in another order make the same run: it succeeds or fails as before, and gives a
registry with the same entries, the same texts, and the same dropped descriptors. -/
theorem run_ignores_arrival_order (options : RunOptions) {ds es : List Descriptor}
    (h : ds.Perm es) :
    ((∃ o, run options ds = .ok o) ↔ ∃ p, run options es = .ok p) ∧
      ∀ o p, run options ds = .ok o → run options es = .ok p →
        o.registry.agrees p.registry ∧ o.artifacts = p.artifacts ∧ o.dropped.Perm p.dropped := by
  refine ⟨⟨?_, ?_⟩, ?_⟩
  · rintro ⟨o, ok⟩
    obtain ⟨p, ok', _⟩ := run_of_perm h ok
    exact ⟨p, ok'⟩
  · rintro ⟨p, ok⟩
    obtain ⟨o, ok', _⟩ := run_of_perm h.symm ok
    exact ⟨o, ok'⟩
  · intro o p first second
    obtain ⟨q, found, entries, artifacts, dropped⟩ := run_of_perm h first
    obtain rfl := Except.ok.inj (found.symm.trans second)
    exact ⟨Registry.agrees_iff_perm.mpr entries, artifacts, dropped⟩

theorem overloads_in_any_order :
    overloads.Perm overloads.reverse ∧ ∃ o p, run {} overloads = .ok o ∧
      run {} overloads.reverse = .ok p ∧ o.registry.agrees p.registry ∧
        o.artifacts = p.artifacts ∧ o.dropped.Perm p.dropped := by
  have perm : overloads.Perm overloads.reverse := (List.reverse_perm _).symm
  obtain ⟨same_end, same_result⟩ := run_ignores_arrival_order {} perm
  obtain ⟨o, first⟩ := overloads_run
  obtain ⟨p, second⟩ := same_end.mp ⟨o, first⟩
  exact ⟨perm, o, p, first, second, same_result o p first second⟩

end BodyDigest
