import BodyDigest.Proofs.Rereading
import BodyDigest.Proofs.Indented.Writable

/-!
Whether a reported body has a canonical text. What is read from a fragment can be written unless a
number or a formatted literal is in the way, so that a body has a text where its fragments can be
read again. A decorator that starts on a line below its sign is cut off, and then they cannot.
-/
namespace BodyDigest

open Indented

namespace Canonical

/-- A fragment that is read as something that can be written. -/
def IsReadable (kind : BodyKind) (fragment : Text) : Prop :=
  match kind with
  | .expression => ∃ cs e, sourceChars fragment = .ok cs ∧
      expressionOf ('(' :: trimBoth (fun c => (CodePoint.char c).isBlank) cs ++ [')']) = .ok e ∧
      e.fits false
  | _ => ∃ ss, reread fragment = .ok ss ∧ stmtsFit ss

theorem expressionText_of_fits {cs : List Char} {e : Expr}
    (read : expressionOf ('(' :: trimBoth (fun c => (CodePoint.char c).isBlank) cs ++ [')']) = .ok e)
    (fits : e.fits false) : ∃ t, expressionText cs = .ok t := by
  obtain ⟨t, written, -⟩ := gives_expr Level.test e fits
  refine ⟨t, ?_⟩
  rw [expressionText, read]
  exact congrArg (Except.mapError FragmentError.render) written

theorem statementTexts_of_fits {ss : List (Stmt Place)} (fits : stmtsFit ss) :
    ∃ ts, (ss.mapM fun s => (Render.statement s).mapError FragmentError.render) = .ok ts := by
  induction ss with
  | nil => exact ⟨[], rfl⟩
  | cons s rest ih =>
    rw [stmtsFit, Bool.and_eq_true] at fits
    obtain ⟨lines, written, -⟩ := succeeds_stmt 0 s fits.1
    obtain ⟨ts, later⟩ := ih fits.2
    have first : Render.statement s = .ok (Render.joinLines lines) := by
      rw [Render.statement, written]
      rfl
    refine ⟨Render.joinLines lines :: ts, ?_⟩
    rw [List.mapM_cons, first, later]
    rfl

theorem statementsText_of_fits {cs : List Char} {fragment : Text} {ss : List (Stmt Place)}
    (chars : sourceChars fragment = .ok cs) (read : reread fragment = .ok ss)
    (fits : stmtsFit ss) : ∃ t, statementsText cs = .ok t := by
  rw [reread, chars] at read
  change (if _ then _ else _) = _ at read
  by_cases margin : (Margin.remove cs).head?.any Margin.isIndent
  · rw [if_pos margin] at read
    obtain ⟨block, found, inner⟩ := except_bind_ok_iff.mp read
    cases inner
    obtain ⟨ts, written⟩ := statementTexts_of_fits fits
    refine ⟨Text.join "\n" ts, ?_⟩
    rw [statementsText, if_pos margin, found]
    simp only [bind, Except.bind, written]
    rfl
  · rw [if_neg margin] at read
    obtain ⟨lines, written, -⟩ := succeeds_suite 0 ss fits
    refine ⟨Render.joinLines lines, ?_⟩
    rw [statementsText, if_neg margin, read]
    simp [Render.module, written, bind, Except.bind, pure, Except.pure, Except.mapError]

theorem pythonText_of_readable {kind : BodyKind} {fragment : Text}
    (readable : IsReadable kind fragment) : ∃ t, pythonText kind fragment = .ok t := by
  cases kind with
  | expression =>
    obtain ⟨cs, e, chars, read, fits⟩ := readable
    rw [pythonText, chars]
    exact expressionText_of_fits read fits
  | _ =>
    obtain ⟨ss, read, fits⟩ := readable
    obtain ⟨cs, chars, -⟩ := except_bind_ok_iff.mp read
    have same := except_mapError_ok_iff.mp chars
    rw [pythonText, same]
    exact statementsText_of_fits same read fits

theorem text_of_readable {body : Option Body}
    (readable : ∀ b ∈ body, b.language = python ∧ ∀ f ∈ b.fragments, IsReadable b.kind f) :
    ∃ t, text body = .ok t := by
  cases body with
  | none => exact ⟨[], rfl⟩
  | some b =>
    obtain ⟨language, each⟩ := readable b rfl
    have texts : ∃ ts, b.fragments.mapM (fragmentText b) = .ok ts := by
      generalize b.fragments = fragments at each
      induction fragments with
      | nil => exact ⟨[], rfl⟩
      | cons f rest ih =>
        obtain ⟨t, shown⟩ := pythonText_of_readable (each f (List.mem_cons_self ..))
        obtain ⟨ts, later⟩ := ih fun g member => each g (List.mem_cons_of_mem f member)
        refine ⟨t :: ts, ?_⟩
        rw [List.mapM_cons, fragmentText, if_pos language, shown, later]
        rfl
    obtain ⟨ts, shown⟩ := texts
    exact ⟨_, by rw [text, ofBody, shown]; rfl⟩

end Canonical

theorem language_of_statements {lines : List (List UInt8)} {kept : List (Stmt Place)} {b : Body}
    (cut : statementsBody lines kept = .ok (some b)) : b.language = Canonical.python := by
  cases kept with
  | nil => cases cut
  | cons s rest =>
    obtain ⟨_, -, cut⟩ := except_bind_ok_iff.mp cut
    cases cut
    rfl

theorem language_of_members {r : Reading} {source : Text} {ds : List Descriptor}
    (listed : members r source = .ok ds) {d : Descriptor} (member : d ∈ ds) :
    ∀ b ∈ d.body, b.language = Canonical.python := by
  obtain ⟨cs, -, listed⟩ := except_bind_ok_iff.mp listed
  obtain ⟨all, -, listed⟩ := except_bind_ok_iff.mp listed
  have inside : Except.ok d ∈ (declaredIn none all).map (describe r (Lines.ofOctets (Utf8.encode cs))) :=
    mapM_eq_ok_iff.mp listed ▸ List.mem_map_of_mem member
  obtain ⟨declared, -, described⟩ := List.mem_map.mp inside
  intro b body
  cases declared with
  | function type place head inner =>
    obtain ⟨_, -, described⟩ := except_bind_ok_iff.mp described
    obtain ⟨found, cut, described⟩ := except_bind_ok_iff.mp described
    cases described
    obtain rfl : found = some b := body
    exact language_of_statements (except_mapError_ok_iff.mp cut)
  | lambda type place name params =>
    obtain ⟨_, -, described⟩ := except_bind_ok_iff.mp described
    obtain ⟨_, -, described⟩ := except_bind_ok_iff.mp described
    cases described
    cases body
    rfl

/-- A decorator in parentheses, on the line below its sign. -/
def decorated : Text :=
  "def f():\n    @(\n        dec\n    )\n    def g():\n        return 1\n    return g\n"

/-- The member of that source, whose first fragment starts behind the decorator. -/
def beheaded : Descriptor :=
  { scope := some "m", type := none, member := "f", signature := "f()",
    body := some ⟨.statements, ["\n    )\n    def g():\n        return 1", "    return g"],
      Canonical.python⟩, location := some ⟨"m.py", 1⟩ }

end BodyDigest
