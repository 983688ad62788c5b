import Mathlib.Data.List.Forall2
import BodyDigest.Proofs.Rereading
import BodyDigest.Proofs.Indented.Cutting

/-!
What is reported of a Python module: each member that stands in classes, conditionals and plain `try`
statements only, once, with the innermost class around it and its own line. No member at all is reported when
a type hint that a signature shows cannot be written.
-/
namespace BodyDigest.Indented

/-! ### Signatures -/

/-- The parameters whose types a signature shows. -/
def Params.shown (implicitFirst : Bool) : Params → List Param
  | .mk positional regular rest keywordOnly keywords =>
    let all := positional ++ regular
    (if implicitFirst then all.drop 1 else all) ++ rest.toList ++ keywordOnly ++ keywords.toList

/-- The type hint of a parameter can be written, if it has one. -/
def Param.IsWritable (p : Param) : Prop := ∀ e ∈ p.hint, ∃ t, Render.expression e = .ok t

theorem shownType_succeeds_iff {p : Param} : (∃ t, shownType p = .ok t) ↔ p.IsWritable := by
  unfold shownType Param.IsWritable
  cases p.hint <;> simp

theorem signature_succeeds_iff (name : Text) {implicitFirst : Bool} {ps : Params} :
    (∃ t, signature name implicitFirst ps = .ok t) ↔ ∀ p ∈ ps.shown implicitFirst, p.IsWritable := by
  obtain ⟨positional, regular, rest, keywordOnly, keywords⟩ := ps
  have pure_ok {α : Type} (a : α) : ∃ b, (pure a : Except RenderError α) = .ok b := ⟨a, rfl⟩
  simp only [signature, except_bind_succeeds_iff, pure_ok, and_true, exists_and_right,
    mapM_ok_exists_iff, shownType_succeeds_iff, Params.shown, List.forall_mem_append, and_assoc]

/-! ### Descriptions -/

namespace Declared

variable {P : Type}

def type : Declared P → Option Text
  | .function type _ _ _ => type
  | .lambda type _ _ _ => some type

def name : Declared P → Text
  | .function _ _ head _ => head.name
  | .lambda _ _ name _ => name

def place : Declared P → P
  | .function _ place _ _ | .lambda _ place _ _ => place

def params : Declared P → Params
  | .function _ _ head _ => head.params
  | .lambda _ _ _ params => params

/-- The statements of a function. -/
def statements : Declared P → List (Stmt P)
  | .function _ _ _ body => body
  | .lambda _ _ _ _ => []

/-- The first parameter of a member of a class is its object; a static function has none. -/
def implicitFirst : Declared P → Bool
  | .function type _ head _ => type.isSome && !isStatic head
  | .lambda _ _ _ _ => true

/-- The parameters whose types are shown. -/
def shown (m : Declared P) : List Param := m.params.shown m.implicitFirst

def signature (m : Declared P) : Except RenderError Text :=
  Indented.signature m.name m.implicitFirst m.params

end Declared

/-- What a descriptor tells of the member it describes, apart from its body. -/
structure Describes (r : Reading) (m : Declared Place) (d : Descriptor) : Prop where
  scope : d.scope = some r.scope
  type : d.type = m.type
  member : d.member = m.name
  signature : m.signature = .ok d.signature
  location : d.location = some ⟨r.path, m.place.span.start.line⟩

variable {r : Reading} {lines : List (List UInt8)} {source : List Char} {m : Declared Place}

theorem describes_of_describe {d : Descriptor} (h : describe r lines m = .ok d) : Describes r m d := by
  cases m <;>
  · obtain ⟨shown, written, h⟩ := except_bind_ok_iff.mp h
    obtain ⟨_, _, h⟩ := except_bind_ok_iff.mp h
    cases h
    exact ⟨rfl, rfl, rfl, except_mapError_ok_iff.mp written, rfl⟩

/-- All of a member can be cut out of its source. -/
structure Declared.Fits (lines : List (List UInt8)) (m : Declared Place) : Prop where
  place : Slice.Fits lines m.place
  statements : ∀ s ∈ m.statements, Slice.Fits lines s.place

theorem bodyStatements_subset {P : Type} (ignores : Bool) (body : List (Stmt P)) :
    bodyStatements ignores body ⊆ body := by
  cases body with
  | nil => exact List.nil_subset _
  | cons s rest =>
    have kept : (if ignores && (Render.documentation? s).isSome then rest else s :: rest) ⊆ s :: rest := by
      split
      · exact List.subset_cons_self _ _
      · exact List.Subset.refl _
    rw [bodyStatements]
    split
    · split
      · exact List.nil_subset _
      · exact kept
    · exact kept

theorem statementsBody_succeeds (h : Lined source lines) {kept : List (Stmt Place)}
    (fits : ∀ s ∈ kept, Slice.Fits lines s.place) : ∃ b, statementsBody lines kept = .ok b := by
  unfold statementsBody
  split
  · exact ⟨none, rfl⟩
  · rw [except_bind_succeeds_iff]
    obtain ⟨fragments, cut⟩ := mapM_ok_exists_iff.mpr fun s member => Slice.ofPlace_succeeds h (fits s member)
    exact ⟨fragments, cut, _, rfl⟩

/-- Of a member that can be cut out, only the signature may be missing. -/
theorem describe_eq (h : Lined source lines) (fits : m.Fits lines) :
    ∃ body, describe r lines m = (m.signature.mapError .render).map fun shown =>
      ⟨some r.scope, m.type, m.name, shown, body, some ⟨r.path, m.place.span.start.line⟩⟩ := by
  cases m with
  | function type place head body =>
    have kept : ∀ s ∈ bodyStatements r.ignoreDocumentation body, Slice.Fits lines s.place :=
      fun s member => fits.statements s (bodyStatements_subset _ _ member)
    obtain ⟨found, cut⟩ := statementsBody_succeeds h kept
    refine ⟨found, ?_⟩
    simp only [describe, cut, Declared.signature, Declared.name, Declared.implicitFirst, Declared.params]
    cases signature head.name (type.isSome && !isStatic head) head.params <;> rfl
  | lambda type place name params =>
    have each := isText_lines h
    have ⟨starts, stops⟩ : At lines (place.lambdaBody.getD place.span).start ∧
        At lines (place.lambdaBody.getD place.span).stop := by
      cases inner : place.lambdaBody with
      | none => exact ⟨fits.place.start, fits.place.stop⟩
      | some span => exact fits.place.lambdaBody span inner
    obtain ⟨fragment, cut⟩ := Slice.ofSpan_succeeds each starts stops
    refine ⟨some ⟨.expression, [fragment], Canonical.python⟩, ?_⟩
    simp only [describe, cut, Declared.signature, Declared.name, Declared.implicitFirst, Declared.params]
    cases signature name true params <;> rfl

/-- The types that a member's signature shows can all be written. -/
def Declared.IsWritable {P : Type} (m : Declared P) : Prop := ∀ p ∈ m.shown, p.IsWritable

theorem describe_succeeds_iff (h : Lined source lines) (fits : m.Fits lines) :
    (∃ d, describe r lines m = .ok d) ↔ m.IsWritable := by
  obtain ⟨body, same⟩ := describe_eq (r := r) h fits
  rw [same, Declared.IsWritable, Declared.shown, ← signature_succeeds_iff m.name]
  change _ ↔ ∃ t, m.signature = .ok t
  cases m.signature <;> simp [Except.mapError, Except.map]

theorem describe_fails_by (h : Lined source lines) (fits : m.Fits lines) :
    FailsBy (fun e => ∃ e', e = .render e') (describe r lines m) := by
  obtain ⟨body, same⟩ := describe_eq (r := r) h fits
  rw [same]
  exact FailsBy.map (.mapError (P := fun _ => True) (fun _ _ => trivial) fun e _ => ⟨e, rfl⟩)

/-! ### Members of a module -/

theorem Stands.holds {P : Type} {Q : P → Prop} {ss above : List (Stmt P)} {a : Address} {s : Stmt P}
    (h : Stands ss a above s) (each : ∀ t ∈ ss, t.Holds Q) : s.Holds Q := by
  induction h with
  | here found => exact each _ (List.mem_of_getElem? found)
  | inside found opened deeper ih =>
    obtain ⟨-, inside⟩ := each _ (List.mem_of_getElem? found)
    exact ih (inside _ _ opened)

theorem fits_of_isMember {type : Option Text} {s : Stmt Place} (h : IsMember type s m)
    (holds : s.Holds (Slice.Fits lines)) : m.Fits lines := by
  obtain ⟨here, inside⟩ := holds
  cases h with
  | function =>
    refine ⟨here, fun t member => ?_⟩
    obtain ⟨first, -⟩ := inside .body _ rfl t member
    exact first
  | assigned | annotated => exact ⟨here, fun _ member => absurd member List.not_mem_nil⟩

theorem members_of_read (r : Reading) {source : Text} {cs : List Char} {body : List (Stmt Place)}
    (chars : sourceChars source = .ok cs) (read : moduleOf cs = .ok body) :
    members r source = (declaredIn none body).mapM (describe r (Lines.ofOctets (Utf8.encode cs))) := by
  simp only [members, chars, read, Except.mapError, bind, Except.bind]

/-- The members of a module are its findings, each described once. When a type that one of them shows cannot
be written, none is reported; nothing else goes wrong. -/
theorem members_are_findings (r : Reading) {source : Text} {cs : List Char} {body : List (Stmt Place)}
    (chars : sourceChars source = .ok cs) (read : moduleOf cs = .ok body) :
    ∃ found : List (Finding Place), (∀ f, f ∈ found ↔ IsFinding none body f) ∧
      found.Pairwise (fun f g => f.address ≠ g.address) ∧
      ((∀ f ∈ found, f.declared.IsWritable) →
        ∃ ds, members r source = .ok ds ∧ List.Forall₂ (fun f d => Describes r f.declared d) found ds) ∧
      ((∃ f ∈ found, ¬ f.declared.IsWritable) → ∃ e, members r source = .error (.render e)) := by
  obtain ⟨found, declared, all, apart⟩ := declared_are_findings none body
  have fits : ∀ f ∈ found, f.declared.Fits (Lines.ofOctets (Utf8.encode cs)) := by
    intro f member
    obtain ⟨above, s, stands, -, is_member⟩ := (all f).mp member
    exact fits_of_isMember is_member (stands.holds (module_fits read))
  have source_lined := lined cs
  have made : members r source =
      found.mapM fun f => describe r (Lines.ofOctets (Utf8.encode cs)) f.declared := by
    rw [members_of_read r chars read, declared, List.mapM_map]
    rfl
  have succeeds : (∃ ds, members r source = .ok ds) ↔ ∀ f ∈ found, f.declared.IsWritable := by
    rw [made, mapM_ok_exists_iff]
    exact forall₂_congr fun f member => describe_succeeds_iff source_lined (fits f member)
  refine ⟨found, all, apart, fun writable => ?_, fun ⟨f, member, unwritable⟩ => ?_⟩
  · obtain ⟨ds, reported⟩ := succeeds.mpr writable
    have each := mapM_eq_ok_iff.mp (made.symm.trans reported)
    rw [← List.forall₂_eq_eq_eq, List.forall₂_map_left_iff, List.forall₂_map_right_iff] at each
    exact ⟨ds, reported, each.imp fun f d => describes_of_describe⟩
  · cases reported : members r source with
    | ok ds => exact absurd (succeeds.mp ⟨ds, reported⟩ f member) unwritable
    | error e =>
      rw [made] at reported
      have fails := FailsBy.mapM fun f member => describe_fails_by (r := r) source_lined (fits f member)
      obtain ⟨e', rfl⟩ := fails e reported
      exact ⟨e', rfl⟩

/-- Two classes, one in a handler of the other; a loop and a function hide what is in them. -/
def nested : Text :=
  "class A:\n" ++
  "    if x:\n        def f(self): return 1\n" ++
  "    else:\n        try: g = lambda self, y: y\n" ++
  "        except E:\n            class B:\n                def h(self, z: int): return 2\n" ++
  "    for i in x:\n        def k(self): return 3\n" ++
  "def top():\n    def inner(): return 4\n"

/-- The type, the signature and the line of a member. -/
def attribution (d : Descriptor) : Option Text × Text × Option Int :=
  (d.type, d.signature, d.location.map Location.line)

def nestedMembers : List (Option Text × Text × Option Int) :=
  [(some "A", "f()", some 3), (some "A", "g(Any)", some 5), (some "B", "h(int)", some 8),
    (none, "top()", some 11)]

theorem nested_members_are_attributed :
    ∃ cs body found ds, sourceChars nested = .ok cs ∧ moduleOf cs = .ok body ∧
      members reading nested = .ok ds ∧ (∀ f, f ∈ found ↔ IsFinding none body f) ∧
      List.Forall₂ (fun f d => Describes reading f.declared d) found ds ∧
      ds.map attribution = nestedMembers := by
  have computed : (members reading nested).map (·.map attribution) = .ok nestedMembers := by
    decide +kernel
  cases reported : members reading nested with
  | error e =>
    rw [reported] at computed
    cases computed
  | ok ds =>
    have listed := reported
    rw [reported] at computed
    obtain ⟨cs, chars, listed⟩ := except_bind_ok_iff.mp listed
    obtain ⟨body, read, -⟩ := except_bind_ok_iff.mp listed
    rw [except_mapError_ok_iff] at chars read
    obtain ⟨found, all, -, good, bad⟩ := members_are_findings reading chars read
    have writable : ∀ f ∈ found, f.declared.IsWritable := by
      intro f member
      by_contra unwritable
      obtain ⟨e, failed⟩ := bad ⟨f, member, unwritable⟩
      cases reported.symm.trans failed
    obtain ⟨ds', again, described⟩ := good writable
    obtain rfl := Except.ok.inj (reported.symm.trans again)
    exact ⟨cs, body, found, ds, chars, read, rfl, all, described, Except.ok.inj computed⟩

/-- Two functions, of which the first has a hint that cannot be written. -/
def hinted : Text := "def f(x: f\"\x7b'\u00a0'\x7d\"):\n    return 1\n\ndef g():\n    return 2\n"

/-- A hint that cannot be written hides all functions of its module. -/
theorem unwritable_hint_hides_functions :
    ∃ cs body f g, sourceChars hinted = .ok cs ∧ moduleOf cs = .ok body ∧
      IsFinding none body f ∧ IsFinding none body g ∧ f.address ≠ g.address ∧
      f.declared.name = "f" ∧ g.declared.name = "g" ∧
      members reading hinted = .error (.render .backslashInField) := by
  have failed : members reading hinted = .error (.render .backslashInField) := by decide +kernel
  have computed : (do
      let cs ← sourceChars hinted
      let body ← moduleOf cs
      return (declaredIn none body).map Declared.name) = .ok (["f", "g"] : List Text) := by decide +kernel
  obtain ⟨cs, chars, computed⟩ := except_bind_ok_iff.mp computed
  obtain ⟨body, read, computed⟩ := except_bind_ok_iff.mp computed
  obtain ⟨found, declared, all, apart⟩ := declared_are_findings none body
  have names : found.map (·.declared.name) = ["f", "g"] := by
    have names := Except.ok.inj computed
    rwa [declared, List.map_map] at names
  obtain ⟨f, rest, rfl, first, names⟩ := List.map_eq_cons_iff.mp names
  obtain ⟨g, rfl, second⟩ := List.map_eq_singleton_iff.mp names
  refine ⟨cs, body, f, g, chars, read, (all f).mp (by simp), (all g).mp (by simp), ?_, first, second, failed⟩
  exact (List.pairwise_cons.mp apart).1 g (by simp)

end BodyDigest.Indented
