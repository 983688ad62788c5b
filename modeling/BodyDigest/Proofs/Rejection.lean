import BodyDigest.Proofs.Attributes

/-!
Registries that are not emitted: those of which an entry would be lost, because an attribute is no
identifier or two siblings share one. In all others every key has attributes of its own.
-/
namespace BodyDigest.Emit

open Indented

/-! ### Entries that would be lost -/

/-- An attribute is no identifier. -/
def Unnameable (k : Key) : Prop :=
  ¬ (containerName k.scope).isIdentifier ∨ ¬ (staticName k.type).isIdentifier ∨
    ¬ (staticName k.member).isIdentifier

/-- Two namespaces, two types of one namespace or two members of one type share an attribute. -/
def Clash (j k : Key) : Prop :=
  (j.scope ≠ k.scope ∧ containerName j.scope = containerName k.scope) ∨
  (j.scope = k.scope ∧ j.type ≠ k.type ∧ staticName j.type = staticName k.type) ∨
  (j.scope = k.scope ∧ j.type = k.type ∧ j.member ≠ k.member ∧
    staticName j.member = staticName k.member)

/-- An entry under one of the keys would be lost. -/
def Losing (keys : List Key) : Prop :=
  (∃ k ∈ keys, Unnameable k) ∨ ∃ j ∈ keys, ∃ k ∈ keys, Clash j k

theorem nameable_iff_not_losing {keys : List Key} : Nameable keys ↔ ¬ Losing keys := by
  rw [nameable_iff, Losing, not_or]
  apply and_congr
  · simp only [Unnameable, not_exists, not_and, not_or, not_not]
  · simp only [not_exists, not_and]
    refine forall₂_congr fun j _ => forall₂_congr fun k _ => ?_
    rw [Clash]
    tauto

/-! ### Attributes of a registry without losses -/

theorem staticName_not_private (name : Text) : isPrivate (staticName name) = false := by
  rcases staticName_cases name with
    ⟨c, rest, other, form⟩ | ⟨k, member, form⟩ | ⟨special, member, form⟩ | ⟨form, visible, _⟩
  · have start : startsPrivate (staticName name) = false := by
      rw [form]
      change (underscore == c && _) = false
      simp [other.symm]
    rw [isPrivate, start, Bool.false_and]
  · rw [isPrivate, form, marked_keyword_start k member, Bool.false_and]
  · rw [isPrivate, form, (marked_class_name member).1, Bool.not_true, Bool.and_false]
  · rw [form, visible]

theorem attribute_kept {k : Key} {name : Text} (member : name ∈ attributePath k) :
    isKeyword name = false ∧ (startsPrivate name → endsPrivate name) := by
  obtain ⟨plain, rfl⟩ := escaped_of_mem member
  have shown := staticName_not_private plain
  refine ⟨staticName_not_keyword plain, fun opens => ?_⟩
  rw [isPrivate, opens, Bool.true_and, Bool.not_eq_false'] at shown
  exact shown

theorem Nameable.attribute_identifier {keys : List Key} (h : Nameable keys) {k : Key}
    (member : k ∈ keys) : ∀ name ∈ attributePath k, name.isIdentifier := by
  simp only [attributePath, List.forall_mem_cons, List.not_mem_nil, false_implies, implies_true,
    and_true]
  exact ⟨h.scope k member, h.type k member, h.member k member⟩

/-- Keys are told apart level by level. -/
theorem Nameable.attributePath_injective {keys : List Key} (h : Nameable keys) {j k : Key}
    (hj : j ∈ keys) (hk : k ∈ keys) (same : attributePath j = attributePath k) : j = k := by
  simp only [attributePath, List.cons.injEq, and_true] at same
  obtain ⟨scope, type, member⟩ := same
  have scopes := h.scopes_apart j hj k hk scope
  have types := h.types_apart j hj k hk scopes type
  have members := h.members_apart j hj k hk scopes types member
  cases j
  cases k
  simp_all

/-! ### Pages one by one -/

/-- One built-in page of a registry. -/
def pageOf (root : Text) (r : Registry) (name : Text) : Except EmitError Text := do
  finished [] (← subjects root r) name

theorem emit_eq_pages (root : Text) (r : Registry) : emit [] root r = do
    return ⟨← pageOf root r staticPage, ← pageOf root r runtimePage, ← pageOf root r modulePage⟩ := by
  cases h : subjects root r <;> simp only [emit, pageOf, h, bind, Except.bind]

theorem views_error_iff (r : Registry) : (∃ e, views r = .error e) ↔ Losing (Diff.keys r) := by
  rw [← not_iff_not, ← nameable_iff_not_losing, ← views_ok_iff]
  cases views r <;> simp

variable {root : Text} {r : Registry}

theorem finished_built_in (s : Subjects) {name : Text}
    (built_in : name ∈ [staticPage, runtimePage, modulePage]) : ∃ t, finished [] s name = .ok t := by
  simp only [List.mem_cons, List.not_mem_nil, or_false] at built_in
  rcases built_in with rfl | rfl | rfl
  · exact ⟨_, rfl⟩
  · exact ⟨_, rfl⟩
  · exact ⟨_, rfl⟩

theorem subjects_of_root (valid : checkRoot root = .ok ()) :
    subjects root r = ((views r).map fun cs => ⟨root, r.size, cs⟩).mapError .registry := by
  rw [subjects, valid]
  cases views r <;> rfl

/-- A page is refused for what the registry holds, and for nothing else. -/
theorem pageOf_error_iff (valid : checkRoot root = .ok ()) {name : Text}
    (built_in : name ∈ [staticPage, runtimePage, modulePage]) {e : EmitError} :
    pageOf root r name = .error e ↔ ∃ cause, views r = .error cause ∧ e = .registry cause := by
  rw [pageOf, subjects_of_root valid]
  cases views r with
  | error cause =>
    simp [Except.map, Except.mapError, bind, Except.bind, eq_comm]
  | ok cs =>
    obtain ⟨t, shown⟩ := finished_built_in ⟨root, r.size, cs⟩ built_in
    simp [Except.map, Except.mapError, bind, Except.bind, shown]

theorem emit_error_iff (valid : checkRoot root = .ok ()) {e : EmitError} :
    emit [] root r = .error e ↔ ∃ cause, views r = .error cause ∧ e = .registry cause := by
  cases shown : views r with
  | error cause =>
    have refused : pageOf root r staticPage = .error (.registry cause) :=
      (pageOf_error_iff valid (by simp)).mpr ⟨cause, shown, rfl⟩
    rw [emit_eq_pages, refused]
    simp [bind, Except.bind, eq_comm]
  | ok cs =>
    rw [emit_built_in_iff.mpr ⟨valid, cs, shown, rfl⟩]
    simp

/-- Emission, whole or page by page, refuses exactly the registries of which an entry would be lost,
and fails for no other reason. Where it succeeds, keys have attributes of their own, and each of
these is an identifier that neither the language nor a class takes for itself. -/
theorem emission_refuses_losses (r : Registry) (valid : checkRoot root = .ok ()) :
    ((∃ e, emit [] root r = .error (.registry e)) ↔ Losing (Diff.keys r)) ∧
    (∀ name ∈ [staticPage, runtimePage, modulePage],
      ((∃ e, pageOf root r name = .error (.registry e)) ↔ Losing (Diff.keys r))) ∧
    ((∃ a, emit [] root r = .ok a) ↔ ¬ Losing (Diff.keys r)) ∧
    ∀ a, emit [] root r = .ok a →
      (∀ j ∈ Diff.keys r, ∀ k ∈ Diff.keys r, attributePath j = attributePath k → j = k) ∧
      ∀ k ∈ Diff.keys r, ∀ name ∈ attributePath k,
        name.isIdentifier ∧ isKeyword name = false ∧ (startsPrivate name → endsPrivate name) := by
  refine ⟨?_, ?_, ?_, ?_⟩
  · simp only [emit_error_iff valid, EmitError.registry.injEq, exists_eq_right', ← views_error_iff]
  · intro name built_in
    simp only [pageOf_error_iff valid built_in, EmitError.registry.injEq, exists_eq_right',
      ← views_error_iff]
  · rw [← nameable_iff_not_losing]
    constructor
    · rintro ⟨a, emitted⟩
      exact (views_ok_iff r).mp (views_of_emit emitted)
    · exact emit_of_nameable valid
  · intro a emitted
    have nameable := (views_ok_iff r).mp (views_of_emit emitted)
    constructor
    · intro j hj k hk same
      exact nameable.attributePath_injective hj hk same
    · intro k hk name member
      exact ⟨nameable.attribute_identifier hk name member, attribute_kept member⟩

/-- A keyword and a private name that loses its underscores get one attribute. -/
def clashingEntries : List Entry := [
  ⟨⟨"N.if", "T", "if"⟩, ⟨"1", "if()"⟩⟩,
  ⟨⟨"N.if", "T", "__if"⟩, ⟨"2", "__if()"⟩⟩]

/-- The same names in different types. -/
def separatedEntries : List Entry := [
  ⟨⟨"N.if", "T", "if"⟩, ⟨"1", "if()"⟩⟩,
  ⟨⟨"N.if", "__T", "__if"⟩, ⟨"2", "__if()"⟩⟩,
  ⟨⟨"N", "__doc__", "__init__"⟩, ⟨"3", "__init__()"⟩⟩]

theorem clash_is_refused : checkRoot "HashStamps" = .ok () ∧ ∃ r s : Registry,
    r.entries = clashingEntries ∧ (∃ e, emit [] "HashStamps" r = .error (.registry e)) ∧
      s.entries = separatedEntries ∧ ∃ a, emit [] "HashStamps" s = .ok a ∧
        ∀ k ∈ Diff.keys s, ∀ name ∈ attributePath k,
          name.isIdentifier ∧ isKeyword name = false ∧ (startsPrivate name → endsPrivate name) := by
  have valid : checkRoot "HashStamps" = .ok () := by decide
  let r : Registry := ⟨clashingEntries, by decide⟩
  let s : Registry := ⟨separatedEntries, by decide⟩
  have losing : Losing (Diff.keys r) :=
    .inr ⟨_, List.mem_cons_self, _, List.mem_cons_of_mem _ List.mem_cons_self, .inr (.inr (by decide))⟩
  have kept : ¬ Losing (Diff.keys s) := nameable_iff_not_losing.mp (by decide)
  obtain ⟨a, emitted⟩ := (emission_refuses_losses s valid).2.2.1.mpr kept
  exact ⟨valid, r, s, rfl, (emission_refuses_losses r valid).1.mpr losing, rfl, a, emitted,
    ((emission_refuses_losses s valid).2.2.2 a emitted).2⟩

end BodyDigest.Emit
