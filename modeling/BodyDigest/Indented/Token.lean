import BodyDigest.Number.Binary64

/-! Tokens of Python source and their places. -/
namespace BodyDigest.Indented

/-- A place: the line, counted from one, and the octets before it on its line. -/
structure Pos where
  line : Nat
  column : Nat
  deriving DecidableEq

structure Span where
  start : Pos
  stop : Pos
  deriving DecidableEq

/-- The place behind a character. -/
def Pos.after (p : Pos) (c : Char) : Pos :=
  if c = '\n' then ⟨p.line + 1, 0⟩ else ⟨p.line, p.column + c.utf8Size⟩

def Pos.advance (p : Pos) (cs : List Char) : Pos := cs.foldl Pos.after p

inductive Number where
  | integer (value : Nat)
  | real (value : Binary64)
  | imaginary (value : Binary64)
  deriving DecidableEq

/-- A soft keyword is a name that some statements start with. A literal of text or octets has the
marks before its quotes and what stands between the quotes. -/
inductive Lexeme where
  | name (id : String)
  | soft (word : String)
  | keyword (word : String)
  | number (value : Number)
  | literal (marks body : List Char)
  | op (symbol : String)
  | newline
  | indent
  | dedent
  deriving DecidableEq

structure Token where
  lexeme : Lexeme
  span : Span
  deriving DecidableEq

def keywords : List String :=
  ["False", "None", "True", "and", "as", "assert", "async", "await", "break", "class", "continue",
    "def", "del", "elif", "else", "except", "finally", "for", "from", "global", "if", "import",
    "in", "is", "lambda", "nonlocal", "not", "or", "pass", "raise", "return", "try", "while",
    "with", "yield"]

def softKeywords : List String := ["match", "case", "_"]

end BodyDigest.Indented
