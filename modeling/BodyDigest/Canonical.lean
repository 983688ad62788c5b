import BodyDigest.Member
import BodyDigest.Text.Margin
import BodyDigest.Braced.Lexeme
import BodyDigest.Indented.Source
import BodyDigest.Indented.Render.Stmt

/-!
The canonical text of a body, which layout and comments do not change. Python fragments are
rendered from their syntax trees; fragments of any other language are rendered as their tokens.
-/
namespace BodyDigest.Canonical

/-- Why a Python fragment has no canonical text. -/
inductive FragmentError where
  | source (e : Indented.SourceError)
  | render (e : Indented.RenderError)
  deriving DecidableEq

/-- The detail of the error belongs to the reader of the language and is not told. -/
def FragmentError.message (_ : FragmentError) : Text := "Cannot parse Python fragment"

def readModule (cs : List Char) : Except FragmentError (List (Indented.Stmt Indented.Place)) :=
  (Indented.moduleOf cs).mapError .source

/-- A fragment that is one expression. -/
def expressionText (cs : List Char) : Except FragmentError Text := do
  let inner := trimBoth (fun c => (CodePoint.char c).isBlank) cs
  let e ← (Indented.expressionOf ('(' :: inner ++ [')'])).mapError .source
  (Indented.Render.expression e).mapError .render

/-- The statements inside a fragment's own first block. -/
def innerStatements : List (Indented.Stmt Indented.Place) → List (Indented.Stmt Indented.Place)
  | .if _ _ body _ :: _ => body
  | _ => []

/-- A fragment of statements, whose margin does not count. Where a line of a literal keeps the
margin from being removed, the statements are read as a block. -/
def statementsText (cs : List Char) : Except FragmentError Text := do
  let source := Margin.remove cs
  if source.head?.any Margin.isIndent then
    let block ← readModule ("if True:\n".toList ++ source)
    let texts ← (innerStatements block).mapM fun s =>
      (Indented.Render.statement s).mapError .render
    return Text.join "\n" texts
  else
    (Indented.Render.module (← readModule source)).mapError .render

def pythonText (kind : BodyKind) (fragment : Text) : Except FragmentError Text := do
  let cs ← (Indented.sourceChars fragment).mapError .source
  match kind with
  | .expression => expressionText cs
  | _ => statementsText cs

/-- Tokens separated by single spaces; an expression loses the semicolons at its end. -/
def tokenText (kind : BodyKind) (fragment : Text) : Text :=
  let all := Braced.tokens fragment
  let kept := match kind with
    | .expression => trimEnd (· = (";" : Text)) all
    | _ => all
  Text.join " " kept

def python : Text := "python"

def fragmentText (b : Body) (fragment : Text) : Except FragmentError Text :=
  if b.language = python then pythonText b.kind fragment else .ok (tokenText b.kind fragment)

/-- The canonical text of a body, one line or more for each fragment that has a text. -/
def ofBody (b : Body) : Except FragmentError Text := do
  let texts ← b.fragments.mapM (fragmentText b)
  return Text.trim (Text.join "\n" ((texts.map Text.trim).filter (!·.isEmpty)))

/-- An absent body has the empty text. -/
def text : Option Body → Except FragmentError Text
  | none => .ok []
  | some b => ofBody b

end BodyDigest.Canonical
