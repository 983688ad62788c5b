import BodyDigest.Text.Basic
import BodyDigest.Text.Word

/-!
Tokens of the declarations of a file. A token keeps what was skipped before it, so the text between
any two tokens can be told. A literal with holes is one token, whatever its holes contain.
-/
namespace BodyDigest.Braced

inductive Language where
  | csharp
  | java
  deriving DecidableEq

def Language.name : Language → Text
  | .csharp => "c_sharp"
  | .java => "java"

/-- What stands between tokens. A directive shows its text without the sign and the blanks around
it. -/
inductive Trivia where
  | blank (t : Text)
  | comment (t : Text)
  | directive (before shown behind : Text)
  deriving DecidableEq

def Trivia.text : Trivia → Text
  | .blank t | .comment t => t
  | .directive before shown behind => before ++ shown ++ behind

inductive TokenKind where
  | word
  | literal
  | sign
  deriving DecidableEq

structure Token where
  lead : List Trivia
  kind : TokenKind
  text : Text
  line : Nat
  deriving DecidableEq

namespace Token

/-! ### Literals -/

/-- What the reader of a literal is inside of. -/
inductive Inside where
  | short (holes : Bool)
  | verbatim (holes : Bool)
  | raw (quotes : Nat)
  | block
  | character
  | hole (depth : Nat)
  deriving DecidableEq

def leadingQuotes (cs : List Char) : Nat := (cs.takeWhile (· = '"')).length

/-- The start of a literal with `dollars` dollar signs before its quotes. -/
def quoted? (dollars : Nat) (cs : List Char) : Option (Inside × Nat) :=
  match leadingQuotes cs with
  | 0 => none
  | 1 | 2 => some (.short (0 < dollars), dollars + 1)
  | n => some (.raw n, dollars + n)

/-- The start of a literal and its length. -/
def literalStart? : Language → List Char → Option (Inside × Nat)
  | _, '\'' :: _ => some (.character, 1)
  | .java, '"' :: '"' :: '"' :: _ => some (.block, 3)
  | .java, '"' :: _ => some (.short false, 1)
  | .java, _ => none
  | .csharp, cs =>
    let dollars := (cs.takeWhile (· = '$')).length
    match cs.drop dollars with
    | '@' :: '"' :: _ => some (.verbatim (0 < dollars), dollars + 2)
    | '@' :: '$' :: '"' :: _ => some (.verbatim true, dollars + 3)
    | rest => quoted? dollars rest

def isOpening (c : Char) : Bool := c = '(' || c = '[' || c = '{'

def isClosing (c : Char) : Bool := c = ')' || c = ']' || c = '}'

/-- One step inside a literal: what the reader is inside of afterwards, and how far it went. -/
def step (l : Language) (top : Inside) (outer : List Inside) (c : Char) (rest : List Char) :
    List Inside × Nat :=
  let here := top :: outer
  let doubled := rest.head? = some c
  match top with
  | .short holes =>
    if c = '\\' then (here, 2)
    else if c = '"' then (outer, 1)
    else if holes && c = '{' then if doubled then (here, 2) else (.hole 0 :: here, 1)
    else (here, 1)
  | .verbatim holes =>
    if c = '"' then if doubled then (here, 2) else (outer, 1)
    else if holes && c = '{' then if doubled then (here, 2) else (.hole 0 :: here, 1)
    else (here, 1)
  | .raw quotes =>
    if c = '"' && quotes ≤ leadingQuotes rest + 1 then (outer, leadingQuotes rest + 1) else (here, 1)
  | .block =>
    if c = '\\' then (here, 2)
    else if c = '"' && 2 ≤ leadingQuotes rest then (outer, 3)
    else (here, 1)
  | .character =>
    if c = '\\' then (here, 2) else if c = '\'' then (outer, 1) else (here, 1)
  | .hole depth =>
    match literalStart? l (c :: rest) with
    | some (inner, n) => (inner :: here, n)
    | none =>
      if c = '}' && depth = 0 then (outer, 1)
      else if isOpening c then (.hole (depth + 1) :: outer, 1)
      else if isClosing c then (.hole (depth - 1) :: outer, 1)
      else (here, 1)

/-- The length of a literal of which `taken` characters were read. -/
def literalLength (l : Language) : Nat → List Inside → Nat → List Char → Nat
  | 0, _, taken, _ | _, [], taken, _ | _, _, taken, [] => taken
  | n + 1, top :: outer, taken, c :: rest =>
    let (inside, k) := step l top outer c rest
    literalLength l n inside (taken + k) ((c :: rest).drop k)

/-! ### Cutting -/

inductive Shape where
  | blank
  | comment
  | directive
  | token (kind : TokenKind)

/-- A byte order mark counts as a blank. -/
def isBlank (c : Char) : Bool := (CodePoint.char c).isBlank || c = '\ufeff'

def isLineEnd (c : Char) : Bool := c = '\r' || c = '\n'

/-- Where a comment up to the end of the line ends. -/
def endsComment : Language → Char → Bool
  | .csharp, c => isLineEnd c
  | .java, c => c = '\n'

def startsWord (l : Language) (c : Char) : Bool :=
  (CodePoint.char c).isWord || (l = .java && c = '$')

/-- The length of the word at the start, which one at sign may precede. -/
def wordLength (l : Language) : List Char → Nat
  | '@' :: c :: rest =>
    if l = .csharp && startsWord l c then 2 + (rest.takeWhile (startsWord l)).length else 0
  | cs => (cs.takeWhile (startsWord l)).length

def signs : List (List Char) :=
  ["=>", "->", "::", "==", "!=", "<=", ">=", "..."].map String.toList

def signLength (cs : List Char) : Nat :=
  match signs.find? (·.isPrefixOf cs) with
  | some s => s.length
  | none => 1

/-- The length of the comment, directive or run of blanks at the start. -/
def trivia? (l : Language) (cs : List Char) : Option (Shape × Nat) :=
  match cs with
  | '/' :: '/' :: rest =>
    some (.comment, 2 + (rest.takeWhile (!endsComment l ·)).length)
  | '/' :: '*' :: rest =>
    match cutAt? ['*', '/'] rest with
    | some (inner, _) => some (.comment, inner.length + 4)
    | none => some (.comment, rest.length + 2)
  | c :: rest =>
    if isBlank c then some (.blank, 1 + (rest.takeWhile isBlank).length)
    else if l = .csharp && c = '#' then
      some (.directive, 1 + (rest.takeWhile (!isLineEnd ·)).length)
    else none
  | [] => none

/-- Shape and length of what stands at the start of a source. -/
def measure (l : Language) (fuel : Nat) (cs : List Char) : Shape × Nat :=
  match trivia? l cs with
  | some found => found
  | none =>
    match literalStart? l cs with
    | some (inside, k) => (.token .literal, literalLength l fuel [inside] k (cs.drop k))
    | none =>
      match wordLength l cs with
      | 0 => (.token .sign, signLength cs)
      | n => (.token .word, n)

/-- The pieces of a source with their shapes. -/
def cut (l : Language) : Nat → List Char → List (Shape × List Char)
  | 0, _ | _, [] => []
  | fuel + 1, c :: rest =>
    let (shape, n) := measure l fuel (c :: rest)
    (shape, (c :: rest).take n) :: cut l fuel ((c :: rest).drop n)

/-! ### Directives -/

/-- Directives whose text goes on to the end of the line. -/
def messageDirectives : List (List Char) :=
  ["region", "endregion", "error", "warning"].map String.toList

/-- The part of a line before a comment. -/
def beforeComment : List Char → List Char
  | '/' :: '/' :: _ | '/' :: '*' :: _ => []
  | c :: rest => c :: beforeComment rest
  | [] => []

def directive (cs : List Char) : Trivia :=
  let body := (cs.drop 1).dropWhile isBlank
  let name := body.takeWhile (startsWord .csharp)
  let shown := if messageDirectives.contains name then body else trimEnd isBlank (beforeComment body)
  .directive (Text.ofChars (cs.take (cs.length - body.length))) (Text.ofChars shown)
    (Text.ofChars (body.drop shown.length))

/-! ### Tokens -/

/-- Line feeds alone count as line ends. -/
def lineFeeds (cs : List Char) : Nat := cs.count '\n'

/-- Tokens of pieces behind the trivia in `lead`, latest first. -/
def gather (line : Nat) (lead : List Trivia) : List (Shape × List Char) → List Token
  | [] => []
  | (shape, cs) :: rest =>
    let next := line + lineFeeds cs
    match shape with
    | .blank => gather next (.blank (Text.ofChars cs) :: lead) rest
    | .comment => gather next (.comment (Text.ofChars cs) :: lead) rest
    | .directive => gather next (directive cs :: lead) rest
    | .token kind => ⟨lead.reverse, kind, Text.ofChars cs, line⟩ :: gather next [] rest

end Token

/-- The tokens of a source; what follows the last one is dropped. -/
def Token.ofSource (l : Language) (cs : List Char) : List Token :=
  Token.gather 1 [] (Token.cut l cs.length cs)

def Token.leadText (t : Token) : Text := t.lead.flatMap Trivia.text

/-- The source text from the first token to the last one. -/
def Token.textOf : List Token → Text
  | [] => []
  | t :: rest => t.text ++ rest.flatMap fun u => u.leadText ++ u.text

end BodyDigest.Braced
