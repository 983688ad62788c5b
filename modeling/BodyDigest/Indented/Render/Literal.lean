import BodyDigest.Text.Quoted
import BodyDigest.Number.Shortest
import BodyDigest.Indented.Syntax

/-! Canonical spelling of literals in Python source. -/
namespace BodyDigest.Indented

/-- Why a tree has no canonical text. -/
inductive RenderError where
  | integerTooLong
  | backslashInField
  deriving DecidableEq

namespace Render

/-- Long integers are refused beyond this number of decimal digits. -/
def maxIntegerDigits : Nat := 4300

def shortQuotes : List Text := ["'", "\""]

def longQuotes : List Text := ["\"\"\"", "'''"]

def allQuotes : List Text := shortQuotes ++ longQuotes

def contains (part whole : Text) : Bool := (cutAt? part whole).isSome

/-- The body of a literal and the quotes that it fits between, the preferred ones first. -/
structure Body where
  text : Text
  quotes : List Text

/-- One code point of a literal that avoids escapes; line feeds and tabs stay unless
`escapeSpace`. -/
def sparinglyEscaped (escapeSpace : Bool) (c : CodePoint) : Text :=
  if !escapeSpace && (c = .char '\n' || c = .char '\t') then [c]
  else if c = .char '\\' then "\\\\"
  else if c = .char '\n' then "\\n"
  else if c = .char '\t' then "\\t"
  else if c = .char '\r' then "\\r"
  else if c.isPrintable then [c]
  else Text.numericEscape c

/-- Moves the quotes that start with `last` behind the others. -/
def preferOther (last : CodePoint) (quotes : List Text) : List Text :=
  quotes.filter (·.head? != some last) ++ quotes.filter (·.head? == some last)

/-- A body with as few escapes as one of `quotes` allows; the quoted form when none fits. -/
def literalBody (quotes : List Text) (escapeSpace : Bool) (t : Text) : Body :=
  let escaped := t.flatMap (sparinglyEscaped escapeSpace)
  let possible := if escaped.contains (.char '\n') then quotes.filter (longQuotes.contains ·)
    else quotes
  let possible := possible.filter fun q => !contains q escaped
  match possible, escaped.getLast? with
  | [], _ =>
    let quote := [Text.quoteFor t]
    let found := quotes.find? fun q => contains quote q
    ⟨((Text.quoted t).drop 1).dropLast, [found.getD quote]⟩
  | _, none => ⟨escaped, possible⟩
  | _, some last =>
    let sorted := preferOther last possible
    let body := if (sorted.head?.bind (·.head?)) = some last
      then escaped.dropLast ++ [.char '\\', last] else escaped
    ⟨body, sorted⟩

def enclose (quote : Option Text) (body : Text) : Text :=
  quote.getD [] ++ body ++ quote.getD []

/-- A literal with as few escapes as possible. -/
def sparingLiteral (quotes : List Text) (t : Text) : Text :=
  let body := literalBody quotes false t
  enclose body.quotes.head? body.text

/-- Narrows the quotes part by part; none when a part fits no quote that is left. -/
def narrow (quotes : List Text) : List (Text × Bool) → Option (List Text × List Text)
  | [] => some ([], quotes)
  | (t, isLiteral) :: rest =>
    let body := literalBody quotes isLiteral t
    if body.quotes.any (quotes.contains ·) then
      (narrow body.quotes rest).map fun (texts, left) => (body.text :: texts, left)
    else none

/-- A formatted literal of parts, each with whether it is literal text. -/
def formattedLiteral (parts : List (Text × Bool)) : Text :=
  match narrow allQuotes parts with
  | some (texts, quotes) => enclose quotes.head? texts.flatten
  | none =>
    enclose (some "'''") (parts.flatMap fun (t, _) => t.flatMap (Text.escaped (.char '\'')))

def byteEscaped (quote : Char) (b : UInt8) : Text :=
  let c := Char.ofNat b.toNat
  if c = quote || c = '\\' then [.char '\\', .char c]
  else if c = '\t' then "\\t"
  else if c = '\n' then "\\n"
  else if c = '\r' then "\\r"
  else if 32 ≤ b && b ≤ 126 then [.char c]
  else ("\\x" : Text) ++ Text.hexadecimal 2 b.toNat

def bytesLiteral (octets : List UInt8) : Text :=
  let quote := if octets.contains 39 && !octets.contains 34 then '"' else '\''
  .char 'b' :: .char quote :: octets.flatMap (byteEscaped quote) ++ [.char quote]

/-- An infinite number is written as a literal too large to be finite. -/
def infinity : List Char := ['1', 'e', '3', '0', '9']

def mark (marked : Bool) : Text := if marked then "u" else []

/-- A constant; inside a field (`inField`) texts avoid escapes. -/
def constant (inField : Bool) : Constant → Except RenderError Text
  | .null => .ok "None"
  | .bool true => .ok "True"
  | .bool false => .ok "False"
  | .ellipsis => .ok "..."
  | .integer n =>
    let digits := Nat.toDigits 10 n
    if maxIntegerDigits < digits.length then .error .integerTooLong else .ok (.ofChars digits)
  | .real x => .ok (.ofChars (x.render .withZero infinity))
  | .imaginary x => .ok (.ofChars (x.render .plain infinity) ++ "j")
  | .text t marked =>
    .ok (mark marked ++ if inField then sparingLiteral allQuotes t else Text.quoted t)
  | .bytes octets => .ok (bytesLiteral octets)

/-- The literal of a text that documents a module, class or function. -/
def documentation (t : Text) (marked : Bool) : Text := mark marked ++ sparingLiteral longQuotes t

end Render

end BodyDigest.Indented
