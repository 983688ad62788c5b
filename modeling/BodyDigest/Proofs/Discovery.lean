import Mathlib.Data.List.Induction
import Mathlib.Tactic.Tauto
import BodyDigest.Project.Discovery
import BodyDigest.Proofs.Grouping
import BodyDigest.Proofs.Order

/-!
Which sources are discovered for a list of wanted names: one for each of them, of the first registration
under that name, in the order of the registrations. Discovery fails where such a registration has no
source, where a name has no registration, and where any entry point at all does not load.
-/
namespace BodyDigest

/-- The name that an entry point is known by. -/
def EntryPoint.key (e : EntryPoint) : Text := e.name.lower

namespace Loading

def source? : Loading → Option Source
  | .makes s => some s
  | .unfit | .failure _ => none

def isFailure : Loading → Bool
  | .failure _ => true
  | .makes _ | .unfit => false

end Loading

namespace Discovery

/-! ### Registrations -/

/-- All that register a source, in order: what is built in, then the entry points. -/
def registrations (ignoreDocumentation : Bool) (defaultScope : Text) (entries : List EntryPoint) :
    List EntryPoint :=
  (builtIn ignoreDocumentation defaultScope).map (fun s => ⟨s.1, .makes s.2⟩) ++ entries

def keysOf (regs : List EntryPoint) : List Text := regs.map EntryPoint.key

/-- The first registration under a name. -/
def winner? (regs : List EntryPoint) (k : Text) : Option EntryPoint := regs.find? (·.key = k)

/-- The source that the first registration under a name makes. -/
def sourceOf? (regs : List EntryPoint) (k : Text) : Option Source :=
  (winner? regs k).bind (·.loading.source?)

/-- The wanted names that are registered, in the order of their first registrations. -/
def chosen (wanted : List Text) (regs : List EntryPoint) : List Text :=
  (distinct (keysOf regs)).filter (· ∈ wanted)

/-- The wanted names that are not registered, in order. -/
def unregistered (wanted : List Text) (regs : List EntryPoint) : List Text :=
  ((distinct wanted).filter (· ∉ keysOf regs)).mergeSort Text.le

/-- Why a registration ends the discovery: it does not load, or it is the first one under a wanted name
and no source comes of it. -/
def disruption? (wanted : List Text) (regs : List EntryPoint) (r : EntryPoint) : Option Error :=
  match r.loading with
  | .failure reason => some (.notLoaded r.name reason)
  | .unfit => if r.key ∈ wanted ∧ winner? regs r.key = some r then some .unfit else none
  | .makes _ => none

variable {wanted : List Text} {regs : List EntryPoint} {r : EntryPoint} {k : Text}

theorem winner?_eq_none_iff : winner? regs k = none ↔ k ∉ keysOf regs := by
  simp [winner?, keysOf]

theorem key_of_winner (h : winner? regs k = some r) : r.key = k := by
  simpa using List.find?_some h

theorem winner_mem (h : winner? regs k = some r) : r ∈ regs := List.mem_of_find?_eq_some h

theorem winner?_concat (regs : List EntryPoint) (r : EntryPoint) (k : Text) :
    winner? (regs ++ [r]) k = (winner? regs k).or (if r.key = k then some r else none) := by
  simp [winner?, List.find?_append, List.find?_singleton]

theorem winner?_concat_of_mem (member : k ∈ keysOf regs) : winner? (regs ++ [r]) k = winner? regs k := by
  obtain ⟨w, won⟩ := Option.ne_none_iff_exists'.mp fun none => winner?_eq_none_iff.mp none member
  rw [winner?_concat, won, Option.some_or]

theorem sourceOf?_isSome_iff :
    (sourceOf? regs k).isSome ↔ ∃ r s, winner? regs k = some r ∧ r.loading = .makes s := by
  unfold sourceOf?
  cases winner? regs k with
  | none => simp
  | some r => cases loading : r.loading <;> simp [Loading.source?, loading]

theorem mem_chosen_iff : k ∈ chosen wanted regs ↔ k ∈ wanted ∧ k ∈ keysOf regs := by
  simp [chosen, mem_distinct, and_comm]

theorem chosen_nodup (wanted : List Text) (regs : List EntryPoint) : (chosen wanted regs).Nodup :=
  (distinct_nodup _).filter _

theorem chosen_concat (wanted : List Text) (regs : List EntryPoint) (r : EntryPoint) :
    chosen wanted (regs ++ [r]) =
      chosen wanted regs ++ if r.key ∈ wanted ∧ r.key ∉ keysOf regs then [r.key] else [] := by
  have keys : keysOf (regs ++ [r]) = keysOf regs ++ [r.key] := List.map_append
  rw [chosen, keys, distinct_concat]
  by_cases member : r.key ∈ keysOf regs
  · rw [if_pos member, if_neg fun h => h.2 member, List.append_nil]
    rfl
  · by_cases wanted_key : r.key ∈ wanted
    · rw [if_neg member, if_pos ⟨wanted_key, member⟩, List.filter_append]
      simp [wanted_key, chosen]
    · rw [if_neg member, if_neg fun h => wanted_key h.1, List.filter_append]
      simp [wanted_key, chosen]

/-! ### What is found -/

/-- The sources of the chosen names, each under its name. -/
def foundOf (wanted : List Text) (regs : List EntryPoint) : Found :=
  (chosen wanted regs).filterMap fun k => (sourceOf? regs k).map fun s => (k, s)

/-- Nothing ends the discovery. -/
def Undisturbed (wanted : List Text) (regs : List EntryPoint) : Prop :=
  ∀ r ∈ regs, disruption? wanted regs r = none

theorem undisturbed_iff : Undisturbed wanted regs ↔ (∀ r ∈ regs, ¬ r.loading.isFailure) ∧
    ∀ k ∈ wanted, ∀ r, winner? regs k = some r → ∃ s, r.loading = .makes s := by
  constructor
  · intro clear
    constructor
    · intro r member failing
      have none := clear r member
      cases loading : r.loading with
      | failure reason => simp [disruption?, loading] at none
      | _ => simp [loading, Loading.isFailure] at failing
    · intro k wanted_key r won
      have none := clear r (winner_mem won)
      obtain rfl := key_of_winner won
      cases loading : r.loading with
      | makes s => exact ⟨s, rfl⟩
      | unfit => simp [disruption?, loading, wanted_key, won] at none
      | failure reason => simp [disruption?, loading] at none
  · rintro ⟨loads, yields⟩ r member
    cases loading : r.loading with
    | makes s => simp [disruption?, loading]
    | unfit =>
      have beaten : ¬ (r.key ∈ wanted ∧ winner? regs r.key = some r) := by
        rintro ⟨wanted_key, won⟩
        obtain ⟨s, made⟩ := yields r.key wanted_key r won
        cases loading.symm.trans made
      simp only [disruption?, loading, if_neg beaten]
    | failure reason => exact absurd (loading ▸ rfl) (loads r member)

theorem sourceOf?_chosen (clear : Undisturbed wanted regs) (member : k ∈ chosen wanted regs) :
    ∃ s, sourceOf? regs k = some s := by
  obtain ⟨wanted_key, registered⟩ := mem_chosen_iff.mp member
  obtain ⟨w, won⟩ := Option.ne_none_iff_exists'.mp fun none => winner?_eq_none_iff.mp none registered
  obtain ⟨s, made⟩ := (undisturbed_iff.mp clear).2 k wanted_key w won
  exact ⟨s, by rw [sourceOf?, won, Option.bind_some, made]; rfl⟩

theorem foundOf_keys (clear : Undisturbed wanted regs) :
    (foundOf wanted regs).map (·.1) = chosen wanted regs := by
  have each : ∀ k ∈ chosen wanted regs, ((sourceOf? regs k).map fun s => (k, s)).map (·.1) = some k := by
    intro k member
    obtain ⟨s, made⟩ := sourceOf?_chosen clear member
    rw [made]
    rfl
  rw [foundOf, List.map_filterMap, List.filterMap_congr each, List.filterMap_some]

theorem foundOf_concat (wanted : List Text) (regs : List EntryPoint) (r : EntryPoint) :
    foundOf wanted (regs ++ [r]) = foundOf wanted regs ++
      if r.key ∈ wanted ∧ r.key ∉ keysOf regs then
        (r.loading.source?.map fun s => (r.key, s)).toList else [] := by
  have earlier : ∀ k ∈ chosen wanted regs, sourceOf? (regs ++ [r]) k = sourceOf? regs k := by
    intro k member
    rw [sourceOf?, winner?_concat_of_mem (mem_chosen_iff.mp member).2, ← sourceOf?]
  rw [foundOf, chosen_concat, List.filterMap_append]
  congr 1
  · exact List.filterMap_congr fun k member => by rw [earlier k member]
  · split
    · rename_i fresh
      have won : winner? (regs ++ [r]) r.key = some r := by
        rw [winner?_concat, winner?_eq_none_iff.mpr fresh.2, if_pos rfl]
        rfl
      rw [List.filterMap_cons, List.filterMap_nil, sourceOf?, won, Option.bind_some]
      cases r.loading.source? <;> rfl
    · rfl

theorem offer_foundOf (clear : Undisturbed wanted regs) (name : Text) (make : Except Error Source) :
    offer (some wanted) (foundOf wanted regs) name make =
      if name.lower ∈ wanted ∧ name.lower ∉ keysOf regs then
        make.map fun s => foundOf wanted regs ++ [(name.lower, s)]
      else .ok (foundOf wanted regs) := by
  have fresh_iff : name.lower ∈ wanted ∧ name.lower ∉ chosen wanted regs ↔
      name.lower ∈ wanted ∧ name.lower ∉ keysOf regs := by
    rw [mem_chosen_iff]
    tauto
  simp only [offer, foundOf_keys clear, Option.all_some, Bool.and_eq_true, List.contains_iff_mem,
    Bool.not_eq_true', ← Bool.not_eq_true, fresh_iff]

theorem disruption?_concat (clear : Undisturbed wanted regs) (unfit : r.loading = .unfit) :
    disruption? wanted (regs ++ [r]) r =
      if r.key ∈ wanted ∧ r.key ∉ keysOf regs then some .unfit else none := by
  have won_iff : r.key ∈ wanted ∧ winner? (regs ++ [r]) r.key = some r ↔
      r.key ∈ wanted ∧ r.key ∉ keysOf regs := by
    refine and_congr_right fun wanted_key => ?_
    constructor
    · -- An equal registration in front of this one would have ended the discovery.
      intro won member
      rw [winner?_concat_of_mem member] at won
      obtain ⟨s, made⟩ := (undisturbed_iff.mp clear).2 r.key wanted_key r won
      cases unfit.symm.trans made
    · intro fresh
      rw [winner?_concat, winner?_eq_none_iff.mpr fresh, if_pos rfl]
      rfl
  simp only [disruption?, unfit, won_iff]

/-- One more registration, behind others that do not end the discovery. -/
theorem offerEntry_foundOf (clear : Undisturbed wanted regs) (r : EntryPoint) :
    offerEntry (some wanted) (foundOf wanted regs) r =
      match disruption? wanted (regs ++ [r]) r with
      | some e => .error e
      | none => .ok (foundOf wanted (regs ++ [r])) := by
  have same_key : r.name.lower = r.key := rfl
  cases loading : r.loading with
  | failure reason => simp only [offerEntry, disruption?, loading]
  | unfit =>
    rw [disruption?_concat clear loading, foundOf_concat]
    simp only [offerEntry, loading, offer_foundOf clear, same_key]
    split
    · rfl
    · simp
  | makes s =>
    have undisturbed : disruption? wanted (regs ++ [r]) r = none := by simp only [disruption?, loading]
    rw [undisturbed, foundOf_concat]
    simp only [offerEntry, loading, offer_foundOf clear, same_key]
    split
    · rfl
    · simp

/-- A registration is not affected by those behind it. -/
theorem disruption?_append_of_mem (member : r ∈ regs) (s : EntryPoint) :
    disruption? wanted (regs ++ [s]) r = disruption? wanted regs r := by
  simp only [disruption?, winner?_concat_of_mem (List.mem_map_of_mem member : r.key ∈ keysOf regs)]

/-- The first registration that ends the discovery decides. -/
theorem run_eq (wanted : List Text) (regs : List EntryPoint) :
    regs.foldlM (offerEntry (some wanted)) [] =
      match regs.findSome? (disruption? wanted regs) with
      | some e => .error e
      | none => .ok (foundOf wanted regs) := by
  -- From the end, since what a registration does depends on those in front of it.
  induction regs using List.reverseRecOn with
  | nil => rfl
  | append_singleton regs r ih =>
    have before : regs.findSome? (disruption? wanted (regs ++ [r])) =
        regs.findSome? (disruption? wanted regs) := by
      rw [← List.head?_filterMap, ← List.head?_filterMap]
      exact congrArg _ (List.filterMap_congr fun s member => disruption?_append_of_mem member r)
    rw [List.foldlM_append, ih, List.findSome?_append, before]
    cases found : regs.findSome? (disruption? wanted regs) with
    | some e => rfl
    | none =>
      have clear : Undisturbed wanted regs := List.findSome?_eq_none_iff.mp found
      have last : [r].foldlM (offerEntry (some wanted)) (foundOf wanted regs) =
          offerEntry (some wanted) (foundOf wanted regs) r := by
        rw [List.foldlM_cons]
        simp only [List.foldlM_nil, bind_pure]
      rw [Option.none_or, List.findSome?_singleton]
      exact last.trans (offerEntry_foundOf clear r)

/-! ### Outcomes -/

variable {enabled : List Text} {ignoreDocumentation : Bool} {scope : Text} {entries : List EntryPoint}

/-- What comes of a list of registrations. -/
def outcome (wanted : List Text) (regs : List EntryPoint) : Except Error (List Source) :=
  match regs.findSome? (disruption? wanted regs) with
  | some e => .error e
  | none =>
    match unregistered wanted regs with
    | [] => .ok ((foundOf wanted regs).map (·.2))
    | names => .error (.unknown names)

theorem unknown_foundOf (clear : Undisturbed wanted regs) :
    unknown (some wanted) (foundOf wanted regs) = unregistered wanted regs := by
  rw [unknown, foundOf_keys clear, unregistered, Option.getD_some]
  congr 1
  apply List.filter_congr
  intro k member
  have listed := mem_distinct.mp member
  by_cases registered : k ∈ keysOf regs <;> simp [mem_chosen_iff, listed, registered]

theorem sources_eq_outcome (enabled : List Text) (ignoreDocumentation : Bool) (scope : Text)
    (entries : List EntryPoint) : sources (some enabled) ignoreDocumentation scope entries =
      outcome (enabled.map Text.lower) (registrations ignoreDocumentation scope entries) := by
  have run : (do
      let own ← (builtIn ignoreDocumentation scope).foldlM
        (fun found s => offer (some (enabled.map Text.lower)) found s.1 (.ok s.2)) []
      entries.foldlM (offerEntry (some (enabled.map Text.lower))) own) =
      (registrations ignoreDocumentation scope entries).foldlM
        (offerEntry (some (enabled.map Text.lower))) [] := by
    rw [registrations, List.foldlM_append, List.foldlM_map]
    rfl
  rw [sources]
  simp only [Option.map_some, ← bind_assoc, run]
  rw [run_eq, outcome]
  cases found : (registrations ignoreDocumentation scope entries).findSome?
      (disruption? (enabled.map Text.lower) (registrations ignoreDocumentation scope entries)) with
  | some e => rfl
  | none =>
    have clear : Undisturbed _ _ := List.findSome?_eq_none_iff.mp found
    simp only [bind, Except.bind, unknown_foundOf clear]
    cases unregistered (enabled.map Text.lower) (registrations ignoreDocumentation scope entries) <;> rfl

theorem mem_unregistered_iff : k ∈ unregistered wanted regs ↔ k ∈ wanted ∧ winner? regs k = none := by
  rw [unregistered, List.mem_mergeSort, List.mem_filter, mem_distinct, winner?_eq_none_iff,
    decide_eq_true_eq]

theorem unregistered_increasing (wanted : List Text) (regs : List EntryPoint) :
    (unregistered wanted regs).Pairwise fun a b => Text.compare a b = .lt :=
  mergeSort_increasing ((distinct_nodup wanted).filter _)

theorem unregistered_eq_nil_iff :
    unregistered wanted regs = [] ↔ ∀ k ∈ wanted, ∃ r, winner? regs k = some r := by
  rw [List.eq_nil_iff_forall_not_mem]
  refine forall_congr' fun k => ?_
  rw [mem_unregistered_iff, not_and, ← ne_eq, Option.ne_none_iff_exists']

theorem outcome_cases (wanted : List Text) (regs : List EntryPoint) :
    (∃ e, regs.findSome? (disruption? wanted regs) = some e ∧ outcome wanted regs = .error e) ∨
    Undisturbed wanted regs ∧ unregistered wanted regs ≠ [] ∧
      outcome wanted regs = .error (.unknown (unregistered wanted regs)) ∨
    Undisturbed wanted regs ∧ unregistered wanted regs = [] ∧
      outcome wanted regs = .ok ((foundOf wanted regs).map (·.2)) := by
  unfold outcome
  cases found : regs.findSome? (disruption? wanted regs) with
  | some e => exact .inl ⟨e, rfl, rfl⟩
  | none =>
    have clear : Undisturbed wanted regs := List.findSome?_eq_none_iff.mp found
    cases left : unregistered wanted regs with
    | nil => exact .inr (.inr ⟨clear, rfl, rfl⟩)
    | cons k rest => exact .inr (.inl ⟨clear, by simp, rfl⟩)

theorem outcome_succeeds_iff : (∃ ss, outcome wanted regs = .ok ss) ↔
    (∀ r ∈ regs, ¬ r.loading.isFailure) ∧ ∀ k ∈ wanted, (sourceOf? regs k).isSome := by
  have both : Undisturbed wanted regs ∧ unregistered wanted regs = [] ↔
      (∀ r ∈ regs, ¬ r.loading.isFailure) ∧ ∀ k ∈ wanted, (sourceOf? regs k).isSome := by
    rw [undisturbed_iff, unregistered_eq_nil_iff, and_assoc, ← forall₂_and]
    refine and_congr_right fun _ => forall₂_congr fun k _ => ?_
    rw [sourceOf?_isSome_iff]
    constructor
    · rintro ⟨makes, r, won⟩
      obtain ⟨s, made⟩ := makes r won
      exact ⟨r, s, won, made⟩
    · rintro ⟨r, s, won, made⟩
      refine ⟨fun r' won' => ?_, r, won⟩
      obtain rfl := Option.some.inj (won.symm.trans won')
      exact ⟨s, made⟩
  rw [← both]
  obtain ⟨e, found, failed⟩ | ⟨clear, some_left, failed⟩ | ⟨clear, none_left, done⟩ := outcome_cases wanted regs
  · have disturbed : ¬ Undisturbed wanted regs := fun clear => by
      cases found.symm.trans (List.findSome?_eq_none_iff.mpr clear)
    simp [failed, disturbed]
  · simp [failed, some_left]
  · simp [done, clear, none_left]

/-- The sources are those of the chosen names, one for each. -/
theorem foundOf_sources (clear : Undisturbed wanted regs) :
    ((foundOf wanted regs).map (·.2)).map some = (chosen wanted regs).map (sourceOf? regs) := by
  have each : ∀ k ∈ chosen wanted regs,
      ((sourceOf? regs k).map fun s => (k, s)).map (fun found => some found.2) = some (sourceOf? regs k) := by
    intro k member
    obtain ⟨s, made⟩ := sourceOf?_chosen clear member
    rw [made]
    rfl
  rw [List.map_map, foundOf, List.map_filterMap]
  exact (List.filterMap_congr each).trans (congrFun List.filterMap_eq_map _)

theorem registrations_load : (∀ r ∈ registrations ignoreDocumentation scope entries, ¬ r.loading.isFailure) ↔
    ∀ e ∈ entries, ¬ e.loading.isFailure := by
  have own : ∀ r ∈ (builtIn ignoreDocumentation scope).map fun s => (⟨s.1, .makes s.2⟩ : EntryPoint),
      ¬ r.loading.isFailure := by
    rw [List.forall_mem_map]
    exact fun s _ => Bool.false_ne_true
  rw [registrations, List.forall_mem_append, and_iff_right own]

/-- Entry points that load and are not wanted could as well not be there. -/
theorem foldlM_wanted {found : Found} (loads : ∀ e ∈ entries, e.key ∉ wanted → ¬ e.loading.isFailure) :
    entries.foldlM (offerEntry (some wanted)) found =
      (entries.filter (·.key ∈ wanted)).foldlM (offerEntry (some wanted)) found := by
  induction entries generalizing found with
  | nil => rfl
  | cons e rest ih =>
    obtain ⟨here, later⟩ := List.forall_mem_cons.mp loads
    by_cases wanted_key : e.key ∈ wanted
    · rw [List.filter_cons_of_pos (by simpa using wanted_key), List.foldlM_cons, List.foldlM_cons]
      exact congrArg _ (funext fun found => ih later)
    · have idle (make : Except Error Source) : offer (some wanted) found e.name make = .ok found := by
        have unwanted : e.name.lower ∉ wanted := wanted_key
        simp [offer, unwanted]
      have passed : offerEntry (some wanted) found e = .ok found := by
        cases loading : e.loading with
        | failure reason => exact absurd (loading ▸ rfl) (here wanted_key)
        | _ => simp only [offerEntry, loading, idle]
      rw [List.filter_cons_of_neg (by simpa using wanted_key), List.foldlM_cons, passed]
      exact ih later

/-- For a list of wanted names one source is discovered for each, of the first registration under that
name, whatever the case of its letters, and in the order of the registrations. Discovery succeeds when all
those registrations exist and make sources, and all entry points load. Otherwise the first registration
with a fault decides, and if there is none, the names that nothing is registered for are reported, in
order. Entry points under other names have no influence as long as they load. -/
theorem discovery_honours_names (enabled : List Text) (ignoreDocumentation : Bool) (scope : Text)
    (entries : List EntryPoint) :
    let wanted := enabled.map Text.lower
    let regs := registrations ignoreDocumentation scope entries
    ((∃ ss, sources (some enabled) ignoreDocumentation scope entries = .ok ss) ↔
      (∀ e ∈ entries, ¬ e.loading.isFailure) ∧ ∀ k ∈ wanted, (sourceOf? regs k).isSome) ∧
    (∀ ss, sources (some enabled) ignoreDocumentation scope entries = .ok ss →
      (chosen wanted regs).Nodup ∧ (∀ k, k ∈ chosen wanted regs ↔ k ∈ wanted) ∧
        ss.map some = (chosen wanted regs).map (sourceOf? regs)) ∧
    (∀ e, sources (some enabled) ignoreDocumentation scope entries = .error e →
      regs.findSome? (disruption? wanted regs) = some e ∨
      Undisturbed wanted regs ∧ ∃ names, e = .unknown names ∧ names ≠ [] ∧
        names.Pairwise (fun a b => Text.compare a b = .lt) ∧
        ∀ k, k ∈ names ↔ k ∈ wanted ∧ winner? regs k = none) ∧
    ((∀ e ∈ entries, e.key ∉ wanted → ¬ e.loading.isFailure) →
      sources (some enabled) ignoreDocumentation scope entries =
        sources (some enabled) ignoreDocumentation scope (entries.filter (·.key ∈ wanted))) := by
  intro wanted regs
  have whole : sources (some enabled) ignoreDocumentation scope entries = outcome wanted regs :=
    sources_eq_outcome enabled ignoreDocumentation scope entries
  refine ⟨?_, fun ss done => ?_, fun e failed => ?_, fun loads => ?_⟩
  · rw [whole, outcome_succeeds_iff, registrations_load]
  · rw [whole] at done
    obtain ⟨_, -, failed⟩ | ⟨-, -, failed⟩ | ⟨clear, none_left, found⟩ := outcome_cases wanted regs
    · cases done.symm.trans failed
    · cases done.symm.trans failed
    · obtain rfl := Except.ok.inj (found.symm.trans done)
      refine ⟨chosen_nodup wanted regs, fun k => ?_, foundOf_sources clear⟩
      rw [mem_chosen_iff, and_iff_left_iff_imp]
      intro member
      obtain ⟨r, won⟩ := unregistered_eq_nil_iff.mp none_left k member
      exact key_of_winner won ▸ List.mem_map_of_mem (winner_mem won)
  · rw [whole] at failed
    obtain ⟨e', found, same⟩ | ⟨clear, some_left, same⟩ | ⟨-, -, done⟩ := outcome_cases wanted regs
    · obtain rfl := Except.error.inj (failed.symm.trans same)
      exact .inl found
    · obtain rfl := Except.error.inj (failed.symm.trans same)
      exact .inr ⟨clear, _, rfl, some_left, unregistered_increasing _ _, fun k => mem_unregistered_iff⟩
    · cases failed.symm.trans done
  · simp only [sources, Option.map_some, foldlM_wanted loads, wanted]

/-- An entry point with another one of its name behind it, one under a name that is built in, and one
that is not wanted. -/
def plugins : List EntryPoint :=
  [⟨"Stub", .source⟩, ⟨"stub", .makes (.braced "Stubs" true)⟩, ⟨"PYTHON", .unfit⟩, ⟨"other", .unfit⟩]

theorem plugins_are_honoured :
    (∃ ss, sources (some ["STUB", "Python"]) true "Global" plugins = .ok ss ∧
      ss.map some = [some (.indented true), some .plugin]) ∧
    sources (some ["STUB", "Python"]) true "Global" plugins =
      sources (some ["STUB", "Python"]) true "Global" (plugins.take 3) := by
  obtain ⟨succeeds, found, -, alone⟩ := discovery_honours_names ["STUB", "Python"] true "Global" plugins
  constructor
  · obtain ⟨ss, done⟩ := succeeds.mpr (by decide +kernel)
    have order : (chosen (List.map Text.lower ["STUB", "Python"]) (registrations true "Global" plugins)).map
        (sourceOf? (registrations true "Global" plugins)) =
        [some (.indented true), some .plugin] := by decide +kernel
    exact ⟨ss, done, (found ss done).2.2.trans order⟩
  · have others : plugins.filter (·.key ∈ List.map Text.lower ["STUB", "Python"]) = plugins.take 3 := by
      decide +kernel
    exact others ▸ alone (by decide +kernel)

/-- An entry point that nobody wants ends the discovery when it does not load. -/
theorem unwanted_failure_is_fatal :
    sources (some ["python"]) true "Global" [] = .ok [.indented true] ∧
    sources (some ["python"]) true "Global" [⟨"stub", .failure "no module"⟩] =
      .error (.notLoaded "stub" "no module") := by
  decide +kernel

end Discovery
end BodyDigest
