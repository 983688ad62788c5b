import BodyDigest.Indented.Grammar.Stmt

/-! Syntax trees of source texts. -/
namespace BodyDigest.Indented

/-- Why a text is no source. -/
inductive SourceError where
  | loneSurrogate
  | nullCharacter
  | malformed
  deriving DecidableEq

def nullCharacterMessage : Text := "source code string cannot contain null bytes"

/-- The characters of a source; neither lone surrogates nor null characters occur in one. -/
def sourceChars (t : Text) : Except SourceError (List Char) :=
  match Text.chars? t with
  | none => .error .loneSurrogate
  | some cs => if cs.contains '\x00' then .error .nullCharacter else .ok cs

/-- Reads all tokens of a source, or fails. -/
def readAll {α : Type} (reader : Nat → Grammar.Reader α) (cs : List Char) :
    Except SourceError α :=
  match Lexer.tokens cs with
  | none => .error .malformed
  | some ts =>
    match reader (Grammar.fuelFor cs) ⟨ts, ⟨1, 0⟩⟩ with
    | some (a, c) => if c.ahead.isEmpty then .ok a else .error .malformed
    | none => .error .malformed

/-- The statements of a module. -/
def moduleOf (cs : List Char) : Except SourceError (List (Stmt Place)) := readAll Grammar.module cs

/-- Expressions that each follow a comma; a last comma may stand alone. -/
def moreExpressions : Nat → Grammar.Reader (List Expr)
  | 0 => failure
  | n + 1 => do
    if ← Grammar.takes (.op ",") then
      if ← Grammar.seesExpression then
        let e ← Grammar.expression n
        return e.expr :: (← moreExpressions n)
      else return []
    else return []

/-- One expression, or several as a tuple, up to the end. -/
def wholeExpression (n : Nat) : Grammar.Reader Expr := do
  let e ← Grammar.expression n
  let isTuple ← Grammar.sees (.op ",")
  let rest ← moreExpressions n
  Grammar.expect .newline
  return if isTuple then .tuple (e.expr :: rest) else e.expr

def expressionOf (cs : List Char) : Except SourceError Expr := readAll wholeExpression cs

end BodyDigest.Indented
