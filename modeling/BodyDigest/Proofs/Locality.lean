import BodyDigest.Proofs.Arrival
import BodyDigest.Proofs.Comparison

/-!
Changes stay where they were made. Another body or location of a descriptor shows in its own stamp
only, and what is done to the members of one type shows in no other type.
-/
namespace BodyDigest

/-! ### One changed stamp -/

/-- Two registries that differ at most in the stamp of `k`, which is `a` in one and `b` in the
other. -/
def Registry.AgreeBut (k : Key) (a b : Stamp) (r s : Registry) : Prop :=
  ∃ rest, r.entries.Perm (⟨k, a⟩ :: rest) ∧ s.entries.Perm (⟨k, b⟩ :: rest)

namespace Registry.AgreeBut

variable {k : Key} {a b : Stamp} {r s : Registry}

theorem symm (h : AgreeBut k a b r s) : AgreeBut k b a s r := by
  obtain ⟨rest, left, right⟩ := h
  exact ⟨rest, right, left⟩

theorem find?_self (h : AgreeBut k a b r s) : r.find? k = some a := by
  obtain ⟨rest, left, _⟩ := h
  rw [find?_eq_some_iff, left.mem_iff]
  exact List.mem_cons_self ..

theorem find?_other (h : AgreeBut k a b r s) {j : Key} (other : j ≠ k) :
    r.find? j = s.find? j := by
  obtain ⟨rest, left, right⟩ := h
  apply Option.ext
  intro stamp
  rw [find?_eq_some_iff, find?_eq_some_iff, left.mem_iff, right.mem_iff, List.mem_cons,
    List.mem_cons]
  have apart (t : Stamp) : (⟨j, stamp⟩ : Entry) ≠ ⟨k, t⟩ := fun same => other (Entry.mk.inj same).1
  simp only [apart, false_or]

theorem contains_eq (h : AgreeBut k a b r s) (j : Key) : r.contains j = s.contains j := by
  by_cases same : j = k
  · rw [same, contains, contains, h.find?_self, h.symm.find?_self]
    rfl
  · rw [contains, contains, h.find?_other same]

theorem between_eq (h : AgreeBut k a b r s) :
    Diff.between r s = ⟨[], [], if a.digest = b.digest then [] else [k]⟩ := by
  have kept : ∀ j ∈ Diff.keys s, ¬ (!r.contains j) = true := by
    intro j member
    simp [h.contains_eq, Diff.contains_of_mem member]
  have kept' : ∀ j ∈ Diff.keys r, ¬ (!s.contains j) = true := by
    intro j member
    simp [← h.contains_eq, Diff.contains_of_mem member]
  obtain ⟨rest, _, right⟩ := id h
  have keys : (Diff.keys s).Perm (k :: rest.map (·.key)) := right.map Entry.key
  have fresh : k ∉ rest.map (·.key) := (List.nodup_cons.mp (keys.nodup_iff.mp s.nodup)).1
  let differs := fun j => r.contains j && Diff.digest? r j != Diff.digest? s j
  have others : (rest.map (·.key)).filter differs = [] := by
    rw [List.filter_eq_nil_iff]
    intro j member
    have other : j ≠ k := fun same => fresh (same ▸ member)
    simp [differs, Diff.digest?, h.find?_other other]
  have self : differs k = decide (a.digest ≠ b.digest) := by
    have held : r.contains k = true := by rw [contains, h.find?_self]; rfl
    rw [Bool.eq_iff_iff]
    simp [differs, held, Diff.digest?, h.find?_self, h.symm.find?_self]
  have changed : Diff.sorted ((Diff.keys s).filter differs) =
      if a.digest = b.digest then [] else [k] := by
    rw [Diff.sorted_eq_of_perm (keys.filter differs), List.filter_cons, others, self]
    by_cases same : a.digest = b.digest <;> simp [same, Diff.sorted]
  have none_left : Diff.sorted [] = [] := by simp [Diff.sorted]
  rw [Diff.between, List.filter_eq_nil_iff.mpr kept, List.filter_eq_nil_iff.mpr kept', none_left,
    changed]

end Registry.AgreeBut

/-! ### The key of a descriptor -/

instance (d e : Descriptor) : Decidable (SameMember d e) := inferInstanceAs (Decidable (_ ∧ _ ∧ _))

/-- The key of a placed descriptor in a run: its own name serves when it alone has that name in its
type, its signature otherwise. -/
def Descriptor.keyIn (ds : List Descriptor) (d : Descriptor) : Key where
  scope := d.scope.getD []
  type := d.type.getD []
  member :=
    if ((ds.filter Descriptor.isPlaced).filter fun e => SameMember e d).length = 1 then d.member
    else identifierSafe d.signature

/-- The stamp that a descriptor's signature and body make. -/
structure Stamps (d : Descriptor) (s : Stamp) : Prop where
  signature : s.signature = d.signature
  digest : ∃ text, Canonical.text d.body = .ok text ∧ BodyDigest.digest text = .ok s.digest

/-- Descriptors and their records are selected alike by what both know. -/
theorem filter_records {p : Descriptor → Bool} {q : Record → Bool} {kept : List Descriptor}
    {records : List Record} (each : kept.map fingerprint = records.map .ok)
    (alike : ∀ d r, fingerprint d = .ok r → p d = q r) :
    (kept.filter p).map fingerprint = (records.filter q).map .ok := by
  induction kept generalizing records with
  | nil =>
    cases records with
    | nil => rfl
    | cons r rest => simp at each
  | cons d kept ih =>
    cases records with
    | nil => simp at each
    | cons r records =>
      obtain ⟨first, later⟩ := List.cons.inj each
      have same := alike d r first
      by_cases taken : q r
      · simp [same, taken, first, ih later]
      · simp [same, taken, ih later]

theorem key_of_record {ds : List Descriptor} {records : List Record} {d : Descriptor} {r : Record}
    (each : (ds.filter Descriptor.isPlaced).map fingerprint = records.map .ok)
    (marked : fingerprint d = .ok r) : (Record.placed records r).key = d.keyIn ds := by
  have mine := records_of_fingerprint marked
  have shared := filter_records (p := fun e => SameMember e d)
    (q := fun s => decide (s.member = r.member) && decide (s.group = r.group)) each (by
      intro e s found
      have same := records_same_member (records_of_fingerprint found) mine
      rw [Bool.eq_iff_iff]
      simpa [and_comm] using same)
  have count := congrArg List.length shared
  rw [List.length_map, List.length_map] at count
  have name : resolvedName (groupOf records r) r = (d.keyIn ds).member := by
    rw [resolvedName, groupOf, List.filter_filter, ← count, mine.member, mine.signature]
    rfl
  have scope : (d.keyIn ds).scope = r.scope := by simp [Descriptor.keyIn, mine.scope]
  have type : (d.keyIn ds).type = r.type := by simp [Descriptor.keyIn, mine.type]
  calc (Record.placed records r).key
      = ⟨r.scope, r.type, resolvedName (groupOf records r) r⟩ := rfl
    _ = d.keyIn ds := by rw [name, ← scope, ← type]

/-! ### Another body -/

theorem map_ok_append {before after : List Descriptor} {d : Descriptor} {records : List Record}
    (each : (before ++ d :: after).map fingerprint = records.map .ok) :
    ∃ front r back, records = front ++ r :: back ∧ before.map fingerprint = front.map .ok ∧
      fingerprint d = .ok r ∧ after.map fingerprint = back.map .ok := by
  rw [List.map_append, List.map_cons] at each
  obtain ⟨front, others, rfl, first, later⟩ := List.map_eq_append_iff.mp each.symm
  obtain ⟨r, back, rfl, mine, last⟩ := List.map_eq_cons_iff.mp later
  exact ⟨front, r, back, rfl, first.symm, mine.symm, last.symm⟩

theorem ok_list_inj {xs ys : List Record}
    (h : xs.map (@Except.ok FingerprintError Record) = ys.map .ok) : xs = ys :=
  List.map_injective_iff.mpr (fun _ _ same => Except.ok.inj same) h

/-- Descriptors with the same names and signature have records that differ in the digest at most. -/
theorem same_names {d e : Descriptor} {r s : Record} (hd : Records d r) (he : Records e s)
    (scope : e.scope = d.scope) (type : e.type = d.type) (member : e.member = d.member)
    (signature : e.signature = d.signature) :
    s.group = r.group ∧ s.member = r.member ∧ s.signature = r.signature := by
  have scopes : some s.scope = some r.scope := by rw [← he.scope, ← hd.scope, scope]
  have types : some s.type = some r.type := by rw [← he.type, ← hd.type, type]
  refine ⟨?_, ?_, ?_⟩
  · rw [Record.group, Record.group, Option.some.inj scopes, Option.some.inj types]
  · rw [he.member, hd.member, member]
  · rw [he.signature, hd.signature, signature]

/-- Registries of descriptors of which one got another body or location. -/
theorem agreeBut_of_other_body {before after : List Descriptor} {d : Descriptor}
    (placed : d.isPlaced) (body : Option Body) (location : Option Location) {r s : Registry}
    (first : registryOf (before ++ d :: after) = .ok r)
    (second : registryOf (before ++ { d with body := body, location := location } :: after) =
      .ok s) :
    ∃ a b, Registry.AgreeBut (d.keyIn (before ++ d :: after)) a b r s ∧ Stamps d a ∧
      Stamps { d with body := body, location := location } b := by
  let e : Descriptor := { d with body := body, location := location }
  have placed' : e.isPlaced := placed
  obtain ⟨records, each, entries⟩ := registryOf_ok first
  obtain ⟨others, each', entries'⟩ := registryOf_ok second
  have whole := each
  rw [List.filter_append, List.filter_cons_of_pos placed] at each
  rw [List.filter_append, List.filter_cons_of_pos placed'] at each'
  obtain ⟨front, x, back, rfl, fronts, mine, backs⟩ := map_ok_append each
  obtain ⟨front', y, back', rfl, fronts', theirs, backs'⟩ := map_ok_append each'
  obtain rfl : front = front' := ok_list_inj (fronts.symm.trans fronts')
  obtain rfl : back = back' := ok_list_inj (backs.symm.trans backs')
  have hx := records_of_fingerprint mine
  have hy := records_of_fingerprint theirs
  obtain ⟨group, member, signature⟩ := same_names hx hy rfl rfl rfl rfl
  -- The names of both lists of records are the same, so each record has the same entry in both.
  have entry (z : Record) :
      Record.placed (front ++ x :: back) z = Record.placed (front ++ y :: back) z := by
    apply placed_congr
    apply List.Perm.of_eq
    by_cases shares : x.group = z.group
    · simp [groupOf, group, shares, member]
    · simp [groupOf, group, shares]
  have key : (Record.placed (front ++ y :: back) y).key =
      (Record.placed (front ++ x :: back) x).key := by
    rw [← entry y]
    have groups_eq : groupOf (front ++ x :: back) y = groupOf (front ++ x :: back) x := by
      rw [groupOf, groupOf, group]
    have scopes : y.scope = x.scope := congrArg Prod.fst group
    have types : y.type = x.type := congrArg Prod.snd group
    simp only [Record.placed, Registry.Record.entry, Record.named, resolvedName, groups_eq, scopes,
      types, member, signature]
  have own := key_of_record whole mine
  refine ⟨⟨x.digest, x.signature⟩, ⟨y.digest, y.signature⟩,
    ⟨(front ++ back).map (Record.placed (front ++ x :: back)), ?_, ?_⟩,
    ⟨hx.signature, hx.value⟩, ⟨hy.signature, hy.value⟩⟩
  · refine entries.trans ?_
    rw [← own]
    exact (List.perm_middle : (front ++ x :: back).Perm _).map _
  · refine entries'.trans ?_
    rw [← own, ← key, funext entry]
    exact (List.perm_middle : (front ++ y :: back).Perm _).map _

/-! ### Another type -/

/-- Whether a descriptor is of another namespace or type. -/
def Descriptor.isOutside (scope type : Text) (d : Descriptor) : Bool :=
  !(d.scope = some scope && d.type = some type)

def Record.isOutside (scope type : Text) (r : Record) : Bool := r.group ≠ (scope, type)

def Entry.isOutside (scope type : Text) (e : Entry) : Bool :=
  (e.key.scope, e.key.type) ≠ (scope, type)

theorem groupOf_outside {scope type : Text} {x : Record} (outside : x.isOutside scope type)
    (records : List Record) :
    groupOf records x = groupOf (records.filter (Record.isOutside scope type)) x := by
  rw [groupOf, groupOf, List.filter_filter]
  apply List.filter_congr
  intro z _
  by_cases shares : z.group = x.group
  · have out : z.isOutside scope type = true := by
      rw [Record.isOutside, shares]
      exact outside
    simp [shares, out]
  · simp [shares]

/-- The entries outside of a type are those of the records outside of it. -/
theorem entries_outside {scope type : Text} {records : List Record} {r : Registry}
    (entries : r.entries.Perm (records.map (Record.placed records))) :
    (r.entries.filter (Entry.isOutside scope type)).Perm
      ((records.filter (Record.isOutside scope type)).map
        (Record.placed (records.filter (Record.isOutside scope type)))) := by
  refine (entries.filter _).trans (List.Perm.of_eq ?_)
  rw [List.filter_map]
  apply List.map_congr_left
  intro x member
  have outside : x.isOutside scope type := (List.mem_filter.mp member).2
  apply placed_congr
  rw [groupOf_outside outside]

theorem outside_perm {scope type : Text} {ds es : List Descriptor} {r s : Registry}
    (h : (ds.filter (Descriptor.isOutside scope type)).Perm
      (es.filter (Descriptor.isOutside scope type)))
    (first : registryOf ds = .ok r) (second : registryOf es = .ok s) :
    (r.entries.filter (Entry.isOutside scope type)).Perm
      (s.entries.filter (Entry.isOutside scope type)) := by
  obtain ⟨records, each, entries⟩ := registryOf_ok first
  obtain ⟨others, each', entries'⟩ := registryOf_ok second
  have alike : ∀ d x, fingerprint d = .ok x →
      Descriptor.isOutside scope type d = Record.isOutside scope type x := by
    intro d x marked
    have mine := records_of_fingerprint marked
    rw [Bool.eq_iff_iff]
    simp [Descriptor.isOutside, Record.isOutside, mine.scope, mine.type, Record.group, Prod.ext_iff]
  have kept : ((ds.filter Descriptor.isPlaced).filter (Descriptor.isOutside scope type)).Perm
      ((es.filter Descriptor.isPlaced).filter (Descriptor.isOutside scope type)) := by
    have swapped (xs : List Descriptor) :
        (xs.filter Descriptor.isPlaced).filter (Descriptor.isOutside scope type) =
          (xs.filter (Descriptor.isOutside scope type)).filter Descriptor.isPlaced := by
      rw [List.filter_filter, List.filter_filter]
      exact List.filter_congr fun d _ => Bool.and_comm _ _
    rw [swapped, swapped]
    exact h.filter _
  have found := mapM_eq_ok_iff.mpr (filter_records each alike)
  have found' := mapM_eq_ok_iff.mpr (filter_records each' alike)
  obtain ⟨those, same, perm⟩ := records_perm kept found
  obtain rfl := Except.ok.inj (found'.symm.trans same)
  have placed : Record.placed (records.filter (Record.isOutside scope type)) =
      Record.placed (others.filter (Record.isOutside scope type)) :=
    funext fun x => placed_congr ((groupOf_perm perm x).map _)
  refine (entries_outside entries).trans (List.Perm.trans ?_ (entries_outside entries').symm)
  rw [placed]
  exact perm.map _

theorem find?_of_outside {scope type : Text} {r s : Registry}
    (h : (r.entries.filter (Entry.isOutside scope type)).Perm
      (s.entries.filter (Entry.isOutside scope type)))
    {k : Key} (outside : (k.scope, k.type) ≠ (scope, type)) : r.find? k = s.find? k := by
  have held (t : Registry) (stamp : Stamp) :
      t.find? k = some stamp ↔ ⟨k, stamp⟩ ∈ t.entries.filter (Entry.isOutside scope type) := by
    rw [Registry.find?_eq_some_iff, List.mem_filter]
    exact ⟨fun member => ⟨member, decide_eq_true outside⟩, And.left⟩
  apply Option.ext
  intro stamp
  rw [held r, held s]
  exact h.mem_iff

/-- Changes stay local. Another body or location of a placed descriptor leaves all keys and the
stamps of all other members as they are, and is reported under its own key exactly when its digest
is another one. Descriptors of one type have no influence on the members of other types. -/
theorem changes_stay_local (options : RunOptions) :
    (∀ before after d body location o p, Descriptor.isPlaced d = true →
      run options (before ++ d :: after) = .ok o →
      run options (before ++ { d with body := body, location := location } :: after) = .ok p →
      let k := d.keyIn (before ++ d :: after)
      (∀ j, o.registry.contains j = p.registry.contains j) ∧
        (∀ j, j ≠ k → o.registry.find? j = p.registry.find? j) ∧
          ∃ a b, o.registry.find? k = some a ∧ p.registry.find? k = some b ∧ Stamps d a ∧
            Stamps { d with body := body, location := location } b ∧
              Diff.between o.registry p.registry =
                ⟨[], [], if a.digest = b.digest then [] else [k]⟩) ∧
      ∀ scope type ds es o p,
        (ds.filter (Descriptor.isOutside scope type)).Perm
          (es.filter (Descriptor.isOutside scope type)) →
        run options ds = .ok o → run options es = .ok p →
        ∀ k : Key, (k.scope, k.type) ≠ (scope, type) →
          o.registry.find? k = p.registry.find? k := by
  constructor
  · intro before after d body location o p placed first second k
    obtain ⟨_, registered, _⟩ := run_ok_iff.mp first
    obtain ⟨_, registered', _⟩ := run_ok_iff.mp second
    obtain ⟨a, b, agree, old, new⟩ :=
      agreeBut_of_other_body placed body location registered registered'
    exact ⟨agree.contains_eq, fun j other => agree.find?_other other, a, b, agree.find?_self,
      agree.symm.find?_self, old, new, agree.between_eq⟩
  · intro scope type ds es o p same first second k outside
    obtain ⟨_, registered, _⟩ := run_ok_iff.mp first
    obtain ⟨_, registered', _⟩ := run_ok_iff.mp second
    exact find?_of_outside (outside_perm same registered registered') outside

/-- A member of another type that has the name of two overloads. -/
def namesake : Descriptor :=
  { scope := some "N", type := some "U", member := "f", signature := "f()" }

/-- The body of one overload is taken away, and then all members of its type are. -/
theorem overload_changes_alone :
    ∃ o p q, run {} (namesake :: overloads) = .ok o ∧
      run {} (namesake :: { overloads[0] with body := none } :: overloads.drop 1) = .ok p ∧
      run {} [namesake, overloads[2]] = .ok q ∧
      Diff.between o.registry p.registry = ⟨[], [], [⟨"N", "T", "f_int"⟩]⟩ ∧
      o.registry.find? ⟨"N", "U", "f"⟩ = q.registry.find? ⟨"N", "U", "f"⟩ := by
  let all : List Key :=
    [⟨"N", "U", "f"⟩, ⟨"N", "T", "f_int"⟩, ⟨"N", "T", "f_string"⟩, ⟨"N", "T", "h"⟩]
  have registered : (registryOf (namesake :: overloads)).map Diff.keys = .ok all := by
    decide +kernel
  have registered' : (registryOf (namesake :: { overloads[0] with body := none } ::
      overloads.drop 1)).map Diff.keys = .ok all := by decide
  have alone : (registryOf [namesake, overloads[2]]).map Diff.keys = .ok [⟨"N", "U", "f"⟩] := by
    decide
  obtain ⟨o, first⟩ := run_built_in registered (by decide)
  obtain ⟨p, second⟩ := run_built_in registered' (by decide)
  obtain ⟨q, third⟩ := run_built_in alone (by decide)
  obtain ⟨one_change, other_type⟩ := changes_stay_local {}
  refine ⟨o, p, q, first, second, third, ?_, ?_⟩
  · obtain ⟨_, _, a, b, _, _, old, new, between⟩ :=
      one_change [namesake] (overloads.drop 1) overloads[0] none none o p (by decide) first
        second
    obtain ⟨text, read, hashed⟩ := old.digest
    obtain ⟨text', read', hashed'⟩ := new.digest
    have shown : Canonical.text overloads[0].body = .ok "return 1 ;" := by decide +kernel
    have differs : digest "return 1 ;" ≠ digest [] := by decide +kernel
    obtain rfl : text = "return 1 ;" := Except.ok.inj (read.symm.trans shown)
    obtain rfl : text' = [] := Except.ok.inj (read'.symm.trans rfl)
    have digests : a.digest ≠ b.digest := fun same => differs (by rw [hashed, hashed', same])
    have key : overloads[0].keyIn (namesake :: overloads) = ⟨"N", "T", "f_int"⟩ := by
      decide
    rw [between, if_neg digests]
    exact congrArg (fun k => (⟨[], [], [k]⟩ : Diff)) key
  · exact other_type "N" "T" _ _ o q (by decide) first third _ (by decide)

end BodyDigest
