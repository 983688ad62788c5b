import BodyDigest.Number.Binary64
import BodyDigest.Text.Basic

/-!
Reading numerals. Digits of every script count, underscores may stand between two digits, and
blanks around a numeral do not count.
-/
namespace BodyDigest.Numeral

/-- ASCII forms of decimal digits and blanks; other characters above ASCII are none. -/
def plain? (c : CodePoint) : Option Char :=
  match c.digit?, c with
  | some d, _ => some (Char.ofNat (48 + d))
  | none, .char x =>
    if (CodePoint.char x).isBlank then some ' ' else if x.toNat < 128 then some x else none
  | none, .surrogate _ => none

/-- A sign is a factor for what follows it. -/
def signed (cs : List Char) : Bool × List Char :=
  match cs with
  | '-' :: rest => (true, rest)
  | '+' :: rest => (false, rest)
  | _ => (false, cs)

def digitValue? (c : Char) : Option Nat :=
  if '0' ≤ c && c ≤ '9' then some (c.toNat - 48)
  else if 'a' ≤ c && c ≤ 'z' then some (c.toNat - 87)
  else if 'A' ≤ c && c ≤ 'Z' then some (c.toNat - 55)
  else none

/-- Digits with single underscores between them; `afterDigit` says whether one may follow. -/
def digits? (base : Nat) (afterDigit : Bool) (acc : Nat) : List Char → Option Nat
  | [] => if afterDigit then some acc else none
  | '_' :: rest => if afterDigit then digits? base false acc rest else none
  | c :: rest =>
    match digitValue? c with
    | some d => if d < base then digits? base true (acc * base + d) rest else none
    | none => none

/-- The letter that may follow a zero in front of the digits of a base. -/
def baseLetter : Nat → Option Char
  | 2 => some 'b'
  | 8 => some 'o'
  | 16 => some 'x'
  | _ => none

/-- Decimal numerals with more digits than this are refused. -/
def maxDigits : Nat := 4300

def isTooLong (base : Nat) (cs : List Char) : Bool :=
  base = 10 && maxDigits < (cs.filter (· ≠ '_')).length

/-- The integer that a text writes in a base. -/
def integer? (base : Nat) (t : Text) : Option Int := do
  let cs ← t.mapM plain?
  let (negative, body) := signed (trimBoth (· = ' ') cs)
  let (behindBase, body) :=
    match body, baseLetter base with
    | '0' :: c :: rest, some letter =>
      if c.toLower = letter then (true, if rest.head? = some '_' then rest.drop 1 else rest)
      else (false, body)
    | _, _ => (false, body)
  if behindBase && body.isEmpty || isTooLong base body then none
  else
    let n ← digits? base false 0 body
    return if negative then -(n : Int) else n

/-- A number of either sign, or what is none. -/
inductive SignedNumber where
  | number (negative : Bool) (x : Binary64)
  | notNumber
  deriving DecidableEq

/-- Digits without their underscores, if those stand between digits. -/
def spacedDigits? (afterDigit : Bool) : List Char → Option (List Char)
  | [] => some []
  | '_' :: c :: rest =>
    if afterDigit && (digitValue? c).any (· < 10) then spacedDigits? false (c :: rest) else none
  | ['_'] => none
  | c :: rest =>
    if '0' ≤ c && c ≤ '9' then (spacedDigits? true rest).map (c :: ·) else none

def natOf (ds : List Char) : Nat := ds.foldl (fun acc c => acc * 10 + (c.toNat - 48)) 0

/-- The exponent behind a mantissa. -/
def exponent? : List Char → Option Int
  | [] => some 0
  | e :: rest =>
    if e = 'e' || e = 'E' then do
      let (negative, body) := signed rest
      let ds ← spacedDigits? false body
      if ds.isEmpty then none else some (if negative then -(natOf ds : Int) else natOf ds)
    else none

def isExponentSign (c : Char) : Bool := c = 'e' || c = 'E'

def decimal? (cs : List Char) : Option Binary64 := do
  let mantissa := cs.takeWhile (!isExponentSign ·)
  let whole := mantissa.takeWhile (· ≠ '.')
  let w ← spacedDigits? false whole
  let f ← spacedDigits? false (mantissa.drop (whole.length + 1))
  if w.isEmpty && f.isEmpty then none
  else
    let e ← exponent? (cs.drop mantissa.length)
    return Binary64.ofDecimal (natOf (w ++ f)) (e - f.length)

/-- The number nearest to what a text writes in decimal; the words for the infinite and for no
number count in either case. -/
def real? (t : Text) : Option SignedNumber := do
  let cs ← t.mapM plain?
  let (negative, body) := signed (trimBoth (· = ' ') cs)
  let word := body.map Char.toLower
  if word = "inf".toList || word = "infinity".toList then some (.number negative .infinite)
  else if word = "nan".toList then some .notNumber
  else (decimal? body).map (.number negative)

namespace SignedNumber

def negated : SignedNumber → SignedNumber
  | .number negative x => .number (!negative) x
  | .notNumber => .notNumber

def isZero : SignedNumber → Bool
  | .number _ (.finite 0 _) => true
  | _ => false

/-- The sum of magnitudes. -/
def plus : SignedNumber → SignedNumber → SignedNumber
  | .number _ x, .number _ y => .number false (x.add y)
  | _, _ => .notNumber

def times (n : Nat) : SignedNumber → SignedNumber
  | .number _ x => .number false (x.mul (Binary64.ofFraction n 1))
  | .notNumber => .notNumber

end SignedNumber

end BodyDigest.Numeral
