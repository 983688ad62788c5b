import BodyDigest.Text.CodePoint
import BodyDigest.Indented.Token

/-! Reading from a list of tokens; a reader that cannot go on has no result. -/
namespace BodyDigest.Indented.Grammar

/-- The tokens ahead, and the end of the last one behind that is no line end or indentation. -/
structure Cursor where
  ahead : List Token
  last : Pos

abbrev Reader := StateT Cursor Option

def Lexeme.isLayout : Lexeme → Bool
  | .newline | .indent | .dedent => true
  | _ => false

def peek : Reader (Option Lexeme) := do return (← get).ahead.head?.map (·.lexeme)

/-- The lexeme after the next one. -/
def peekSecond : Reader (Option Lexeme) := do
  return ((← get).ahead.drop 1).head?.map (·.lexeme)

/-- The start of the next token. -/
def here : Reader Pos := do
  let c ← get
  return (c.ahead.head?.map (·.span.start)).getD c.last

def behind : Reader Pos := do return (← get).last

def advance : Reader Lexeme := do
  let c ← get
  match c.ahead with
  | [] => failure
  | t :: rest =>
    set ({ ahead := rest, last := if Lexeme.isLayout t.lexeme then c.last else t.span.stop } : Cursor)
    return t.lexeme

/-- Whether the next lexeme is `l`. -/
def sees (l : Lexeme) : Reader Bool := do return (← peek) == some l

/-- Takes the next lexeme if it is `l`. -/
def takes (l : Lexeme) : Reader Bool := do
  if ← sees l then
    let _ ← advance
    return true
  else return false

/-- Takes the next lexeme, which has to be `l`. -/
def expect (l : Lexeme) : Reader Unit := do
  if ← takes l then return () else failure

def name : Reader Text := do
  match ← advance with
  | .name id => return Text.ofString id
  | .soft id => return Text.ofString id
  | _ => failure

def isName : Lexeme → Bool
  | .name _ | .soft _ => true
  | _ => false

def seesName : Reader Bool := do return (← peek).any isName

/-- Whether a name and then the operator come next. -/
def seesNameBefore (symbol : String) : Reader Bool := do
  return (← peek).any isName && (← peekSecond) == some (.op symbol)

/-- Whether an expression may start with the lexeme. -/
def startsExpression : Lexeme → Bool
  | .name _ | .soft _ | .number _ | .literal _ _ => true
  | .keyword w => ["None", "True", "False", "not", "lambda", "await"].contains w
  | .op s => ["(", "[", "\x7b", "-", "+", "~", "..."].contains s
  | _ => false

def seesExpression : Reader Bool := do return (← peek).any startsExpression

/-- Whether an expression or a starred one comes next. -/
def seesElement : Reader Bool := do return (← seesExpression) || (← sees (.op "*"))

end BodyDigest.Indented.Grammar
