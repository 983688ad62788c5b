import BodyDigest.Indented.Members
import BodyDigest.Proofs.Indented.Shapes
import BodyDigest.Proofs.Results
import BodyDigest.Proofs.Text.Trimming

/-!
Fragments of a body are read again before they are written. Where each of them is read as the
statement that it was cut out of, layout does not show in the canonical text. A margin that is taken
off the lines of a literal is where this fails.
-/
namespace BodyDigest

open Indented

/-! ### Fragments that keep their statement -/

namespace Canonical

/-- The statements that a fragment is read as. -/
def reread (fragment : Text) : Except FragmentError (List (Stmt Place)) := do
  let cs ← (sourceChars fragment).mapError .source
  let source := Margin.remove cs
  if source.head?.any Margin.isIndent then
    return innerStatements (← readModule ("if True:\n".toList ++ source))
  else readModule source

/-- A fragment that is read as one statement, which is `s` up to its places. -/
def IsFragmentOf (s : Stmt Place) (fragment : Text) : Prop :=
  ∃ t, reread fragment = .ok [t] ∧ t.shape = s.shape

theorem statement_shape {P : Type} (s : Stmt P) :
    Render.statement s.shape = Render.statement s := by
  rw [Render.statement, Render.statement, Render.stmt_shape]

/-- Without documentation a module of one statement is written as the statement is. -/
theorem module_statement {P : Type} {s : Stmt P} (plain : Render.documentation? s = none) :
    Render.module [s] = Render.statement s := by
  cases written : Render.stmt 0 s <;>
    simp [Render.module, Render.statement, Render.suite, Render.stmts, plain, written, bind,
      Except.bind, pure, Except.pure]

theorem statementsText_module {cs : List Char} {t : Stmt Place}
    (margin : ¬ (Margin.remove cs).head?.any Margin.isIndent)
    (read : readModule (Margin.remove cs) = .ok [t]) (plain : Render.documentation? t = none) :
    statementsText cs = (Render.statement t).mapError .render := by
  rw [← module_statement plain, statementsText, if_neg margin, read]
  rfl

theorem statementsText_block {cs : List Char} {block : List (Stmt Place)} {t : Stmt Place}
    (margin : (Margin.remove cs).head?.any Margin.isIndent)
    (read : readModule ("if True:\n".toList ++ Margin.remove cs) = .ok block)
    (inner : innerStatements block = [t]) :
    statementsText cs = (Render.statement t).mapError .render := by
  rw [statementsText, if_pos margin, read]
  cases written : Render.statement t <;>
    simp [inner, written, Except.mapError, bind, Except.bind, pure, Except.pure,
      Text.join_singleton]

/-- Whichever way it is read, a fragment is written as its statement is. -/
theorem pythonText_fragment {s : Stmt Place} {fragment : Text} (h : IsFragmentOf s fragment)
    (plain : Render.documentation? s = none) :
    pythonText .statements fragment = (Render.statement s.shape).mapError .render := by
  obtain ⟨t, read, shape⟩ := h
  have plain' : Render.documentation? t = none := by
    rw [← Render.documentation?_shape, shape, Render.documentation?_shape, plain]
  rw [← shape, statement_shape]
  obtain ⟨cs, chars, read⟩ := except_bind_ok_iff.mp read
  have written : pythonText .statements fragment = statementsText cs := by
    rw [pythonText, chars]
    rfl
  rw [written]
  by_cases margin : (Margin.remove cs).head?.any Margin.isIndent
  · rw [if_pos margin] at read
    obtain ⟨block, found, inner⟩ := except_bind_ok_iff.mp read
    exact statementsText_block margin found (Except.ok.inj inner)
  · rw [if_neg margin] at read
    exact statementsText_module margin read plain'

/-- The fragments of a body, which keep the statements that they were cut out of. -/
structure Keeps (b : Body) (kept : List (Stmt Place)) : Prop where
  language : b.language = python
  kind : b.kind = .statements
  fragments : List.Forall₂ IsFragmentOf kept b.fragments

/-- The texts of the fragments are those of the statements. -/
theorem fragmentTexts_of_keeps {b : Body} {kept : List (Stmt Place)} (h : Keeps b kept)
    (plain : ∀ s ∈ kept, Render.documentation? s = none) :
    b.fragments.mapM (fragmentText b) =
      (shapes kept).mapM fun s => (Render.statement s).mapError .render := by
  obtain ⟨language, kind, each⟩ := h
  have text (f : Text) : fragmentText b f = pythonText .statements f := by
    rw [fragmentText, if_pos language, kind]
  rw [shapes_eq_map]
  generalize b.fragments = fragments at each
  induction each with
  | nil => rfl
  | cons first _ ih =>
    rw [List.map_cons, List.mapM_cons, List.mapM_cons, text,
      pythonText_fragment first (plain _ (List.mem_cons_self ..)),
      ih fun s member => plain s (List.mem_cons_of_mem _ member)]

theorem ofBody_of_shapes {b c : Body} {kept others : List (Stmt Place)} (hb : Keeps b kept)
    (hc : Keeps c others) (plain : ∀ s ∈ kept, Render.documentation? s = none)
    (same : shapes kept = shapes others) : ofBody b = ofBody c := by
  have plain' : ∀ s ∈ others, Render.documentation? s = none := by
    intro s member
    have shape : s.shape ∈ shapes kept := by
      rw [same, shapes_eq_map]
      exact List.mem_map_of_mem member
    rw [shapes_eq_map] at shape
    obtain ⟨t, inside, alike⟩ := List.mem_map.mp shape
    rw [← Render.documentation?_shape, ← alike, Render.documentation?_shape, plain t inside]
  rw [ofBody, ofBody, fragmentTexts_of_keeps hb plain, fragmentTexts_of_keeps hc plain', same]

end Canonical

/-! ### Functions that a source reports -/

/-- Reading `source` reports a function whose body is made up of the statements `kept` and has the
source `body`. -/
def Reports (r : Reading) (source : Text) (kept : List (Stmt Place)) (body : Option Body) : Prop :=
  ∃ ds cs all type place head inner d, members r source = .ok ds ∧ sourceChars source = .ok cs ∧
    moduleOf cs = .ok all ∧ .function type place head inner ∈ declaredIn none all ∧
    kept = bodyStatements r.ignoreDocumentation inner ∧
    describe r (Lines.ofOctets (Utf8.encode cs)) (.function type place head inner) = .ok d ∧
    d ∈ ds ∧ d.body = body

theorem Reports.statementsBody {r : Reading} {source : Text} {kept : List (Stmt Place)}
    {body : Option Body} (h : Reports r source kept body) :
    ∃ lines, Indented.statementsBody lines kept = .ok body := by
  obtain ⟨_, cs, _, type, place, head, inner, d, _, _, _, _, rfl, described, _, rfl⟩ := h
  obtain ⟨shown, _, later⟩ := except_bind_ok_iff.mp described
  obtain ⟨found, cut, rest⟩ := except_bind_ok_iff.mp later
  cases rest
  exact ⟨_, except_mapError_ok_iff.mp cut⟩

theorem statementsBody_none {lines : List (List UInt8)} {kept : List (Stmt Place)}
    (h : statementsBody lines kept = .ok none) : kept = [] := by
  cases kept with
  | nil => rfl
  | cons s rest =>
    obtain ⟨_, _, same⟩ := except_bind_ok_iff.mp h
    cases same

theorem statementsBody_some {lines : List (List UInt8)} {kept : List (Stmt Place)} {b : Body}
    (h : statementsBody lines kept = .ok (some b)) : kept ≠ [] := by
  rintro rfl
  cases h

/-- The literal that a statement returns, and its mark. -/
def returned? {P : Type} : Stmt P → Option (Text × Bool)
  | .simple _ (.return (some (.constant (.text t marked)))) => some (t, marked)
  | _ => none

theorem shape_of_returned {P : Type} {s : Stmt P} {t : Text} {marked : Bool}
    (h : returned? s = some (t, marked)) :
    s.shape = .simple () (.return (some (.constant (.text t marked)))) := by
  unfold returned? at h
  split at h
  · cases h
    rfl
  · cases h

theorem shapes_of_returned {P : Type} {s : Stmt P} {t : Text} {marked : Bool}
    (h : returned? s = some (t, marked)) :
    shapes [s] = [.simple () (.return (some (.constant (.text t marked))))] := by
  rw [shapes_eq_map, List.map_singleton, shape_of_returned h]

/-- What the body of each declared function returns, statement by statement. -/
def returnedBy (ignoreDocumentation : Bool) : Declared Place → List (Option (Text × Bool))
  | .function _ _ _ inner => (bodyStatements ignoreDocumentation inner).map returned?
  | .lambda _ _ _ _ => []

/-- What the functions of a source return. -/
def returns (r : Reading) (source : Text) :
    Except SourceError (List (List (Option (Text × Bool)))) := do
  let all ← moduleOf (← sourceChars source)
  return (declaredIn none all).map (returnedBy r.ignoreDocumentation)

/-- A source of one function that returns a literal reports it. -/
theorem reports_returned {r : Reading} {source : Text} {d : Descriptor} {t : Text} {marked : Bool}
    (listed : members r source = .ok [d])
    (shown : returns r source = .ok [[some (t, marked)]]) :
    ∃ s, returned? s = some (t, marked) ∧ Reports r source [s] d.body := by
  obtain ⟨cs, chars, shown⟩ := except_bind_ok_iff.mp shown
  obtain ⟨all, module, shown⟩ := except_bind_ok_iff.mp shown
  have found := listed
  simp only [members, chars, module, Except.mapError, bind, Except.bind] at found
  obtain ⟨declared, only, here⟩ := List.map_eq_singleton_iff.mp (Except.ok.inj shown)
  have described : describe r (Lines.ofOctets (Utf8.encode cs)) declared = .ok d := by
    have each := mapM_eq_ok_iff.mp found
    rw [only] at each
    exact (List.cons.inj each).1
  cases declared with
  | lambda type place name params => cases here
  | function type place head inner =>
    obtain ⟨s, kept, literal⟩ := List.map_eq_singleton_iff.mp here
    refine ⟨s, literal, [d], cs, all, type, place, head, inner, d, listed, chars, module, ?_,
      kept.symm, described, List.mem_singleton_self d, rfl⟩
    rw [only]
    exact List.mem_singleton_self _

/-- A fragment that is read as the return of a literal is one of any such statement. -/
theorem isFragmentOf_returned {s : Stmt Place} {fragment t : Text} {marked : Bool}
    (literal : returned? s = some (t, marked))
    (read : (Canonical.reread fragment).map (·.map returned?) = .ok [some (t, marked)]) :
    Canonical.IsFragmentOf s fragment := by
  cases found : Canonical.reread fragment with
  | error e => simp [found, Except.map] at read
  | ok ss =>
    rw [found] at read
    obtain ⟨u, rfl, again⟩ := List.map_eq_singleton_iff.mp (Except.ok.inj read)
    exact ⟨u, found, (shape_of_returned again).trans (shape_of_returned literal).symm⟩

def reading : Reading := ⟨"m", "m.py", true⟩

/-- A literal on two lines, the second one indented as the statement is. -/
def acrossLines : Text := "def f():\n  return '''a\n  b'''\n"

/-- A literal on two lines, the second one without indentation. -/
def flushLeft : Text := "def f():\n  return '''a\nb'''\n"

/-- The value of `acrossLines` in one line. -/
def indentedEscape : Text := "def f():\n  return 'a\\n  b'\n"

/-- The value of `flushLeft` in one line, which is that of the function. -/
def flushEscape : Text := "def f(): return 'a\\nb'  # one line\n"

/-- The descriptor of each of these functions, whose body is one fragment. -/
def returning (fragment : Text) : Descriptor :=
  { scope := some "m", type := none, member := "f", signature := "f()",
    body := some ⟨.statements, [fragment], Canonical.python⟩, location := some ⟨"m.py", 1⟩ }

/-- Reading `source` reports one function, whose body is `fragment` and returns the text `t`. -/
def Returns (source fragment t : Text) : Prop :=
  ∃ s, returned? s = some (t, false) ∧ Reports reading source [s] (returning fragment).body

/-- What is computed of `source`: its one function, the text `t` that this returns, the text
`again` that its fragment returns, and the text `shown` of its body. -/
def Computed (source fragment t again shown : Text) : Prop :=
  members reading source = .ok [returning fragment] ∧
    returns reading source = .ok [[some (t, false)]] ∧
    (Canonical.reread fragment).map (·.map returned?) = .ok [some (again, false)] ∧
    Canonical.text (returning fragment).body = .ok shown

theorem sources_computed :
    Computed acrossLines "  return '''a\n  b'''" "a\n  b" "a\nb" "return 'a\\nb'" ∧
    Computed flushLeft "  return '''a\nb'''" "a\nb" "a\nb" "return 'a\\nb'" ∧
    Computed indentedEscape "  return 'a\\n  b'" "a\n  b" "a\n  b" "return 'a\\n  b'" ∧
    Computed flushEscape "         return 'a\\nb'" "a\nb" "a\nb" "return 'a\\nb'" := by
  refine ⟨⟨?_, ?_, ?_, ?_⟩, ⟨?_, ?_, ?_, ?_⟩, ⟨?_, ?_, ?_, ?_⟩, ?_, ?_, ?_, ?_⟩ <;> decide +kernel

theorem Computed.returns {source fragment t again shown : Text}
    (computed : Computed source fragment t again shown) : Returns source fragment t :=
  reports_returned computed.1 computed.2.1

/-- A body of one fragment that is read as the return of a literal keeps any such statement. -/
theorem keeps_returned {s : Stmt Place} {fragment t : Text}
    (literal : returned? s = some (t, false))
    (read : (Canonical.reread fragment).map (·.map returned?) = .ok [some (t, false)]) :
    ∀ b ∈ (returning fragment).body, Canonical.Keeps b [s] := by
  rintro b ⟨⟩
  exact ⟨rfl, rfl, .cons (isFragmentOf_returned literal read) .nil⟩

theorem plain_returned {s : Stmt Place} {t : Text} {marked : Bool}
    (literal : returned? s = some (t, marked)) :
    ∀ u ∈ [s], Render.documentation? u = none := by
  intro u member
  obtain rfl := List.mem_singleton.mp member
  rw [← Render.documentation?_shape, shape_of_returned literal]
  rfl

end BodyDigest
