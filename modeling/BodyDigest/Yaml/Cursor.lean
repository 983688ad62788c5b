import BodyDigest.Text.Basic

/-! Positions in a YAML text, whose line ends are single characters. -/
namespace BodyDigest.Yaml

/-- Why a text holds no document, or a document no value. -/
inductive Fault where
  | malformed
  | noCodePoint (tooLarge : Bool)
  | badNumber
  | noNumber
  | badDate
  | notDate
  | notBool (value : Text)
  deriving DecidableEq

/-- What is left of a text, with the position of its first character. -/
structure Cursor where
  rest : List Char
  index : Nat
  line : Nat
  column : Nat

def isBreak (c : Char) : Bool :=
  c = '\n' || c = '\u0085' || c = '\u2028' || c = '\u2029'

/-- The text that a line end stands for. -/
def breakText (c : Char) : Text := if c = '\u0085' then [.char '\n'] else [.char c]

/-- A blank, a line end, or the end of the text. -/
def isGap : Option Char → Bool
  | none => true
  | some c => c = ' ' || c = '\t' || isBreak c

/-- A line end or the end of the text. -/
def isLineEnd : Option Char → Bool
  | none => true
  | some c => isBreak c

/-- Characters that may occur in a YAML text. -/
def isAllowed (c : Char) : Bool :=
  let n := c.toNat
  n = 9 || n = 10 || n = 13 || (32 ≤ n && n ≤ 126) || n = 0x85 || (0xa0 ≤ n && n ≤ 0xd7ff)
    || (0xe000 ≤ n && n ≤ 0xfffd) || 0x10000 ≤ n

namespace Cursor

def ofChars (cs : List Char) : Cursor := ⟨cs, 0, 0, 0⟩

/-- The character `k` places ahead. -/
def peek (c : Cursor) (k : Nat) : Option Char := (c.rest.drop k).head?

def sees (c : Cursor) (x : Char) : Bool := c.peek 0 = some x

def next (c : Cursor) : Cursor :=
  match c.rest with
  | [] => c
  | x :: rest =>
    if isBreak x then ⟨rest, c.index + 1, c.line + 1, 0⟩
    else ⟨rest, c.index + 1, c.line, if x = '\ufeff' then c.column else c.column + 1⟩

def skip : Nat → Cursor → Cursor
  | 0, c => c
  | n + 1, c => skip n c.next

/-- The characters up to the first one without `p`, and what follows them. -/
def span (p : Char → Bool) (c : Cursor) : List Char × Cursor :=
  let taken := c.rest.takeWhile p
  (taken, c.skip taken.length)

def past (p : Char → Bool) (c : Cursor) : Cursor := (c.span p).2

def isSpace (x : Char) : Bool := x = ' '

def isInline (x : Char) : Bool := x = ' ' || x = '\t'

/-- A comment ends with its line. -/
def pastComment (c : Cursor) : Cursor := if c.sees '#' then c.past (!isBreak ·) else c

/-- The text of the line end ahead, if there is one, and what follows it. -/
def lineBreak? (c : Cursor) : Option (Text × Cursor) :=
  match c.rest with
  | x :: _ => if isBreak x then some (breakText x, c.next) else none
  | [] => none

/-- Whether three signs that separate documents follow. -/
def seesSeparator (sign : Char) (c : Cursor) : Bool :=
  [sign, sign, sign].isPrefixOf c.rest && isGap (c.peek 3)

def seesAnySeparator (c : Cursor) : Bool := c.seesSeparator '-' || c.seesSeparator '.'

/-- The rest of a line that holds nothing but a comment. -/
def emptyLine (c : Cursor) : Except Fault Cursor :=
  let c := (c.past isSpace).pastComment
  if c.rest.isEmpty then .ok c
  else match c.lineBreak? with
    | some (_, d) => .ok d
    | none => .error .malformed

end Cursor

end BodyDigest.Yaml
