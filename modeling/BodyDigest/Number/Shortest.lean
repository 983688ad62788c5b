import BodyDigest.Number.Binary64
import BodyDigest.Text.Basic

/-!
The shortest decimal that reads back as a given number, and how it is laid out: positional for
decimal exponents from -4 to 15, otherwise with an exponent of at least two digits.
-/
namespace BodyDigest.Binary64

/-- A decimal `digits * 10 ^ exponent`. -/
structure Decimal where
  digits : Nat
  exponent : Int

/-- `num / den` divided by `10 ^ e`, again as a fraction. -/
def scaledTen (num den : Nat) (e : Int) : Nat × Nat :=
  if 0 ≤ e then (num, den * Nat.pow 10 e.toNat) else (num * Nat.pow 10 (-e).toNat, den)

/-- The decimal exponent of the first digit of `num / den`. -/
def leadingExponent (num den : Nat) : Int :=
  let guess : Int := ((Nat.toDigits 10 num).length : Int) - (Nat.toDigits 10 den).length
  let (n, d) := scaledTen num den guess
  if n < d then guess - 1 else guess

/-- The nearest of the two neighbours with `count` digits that reads back as `x`, if any. -/
def neighbour? (x : Binary64) (num den : Nat) (lead : Int) (count : Nat) : Option Decimal :=
  let e := lead - (count - 1 : Nat)
  let (n, d) := scaledTen num den e
  let below := n / d
  let fits (k : Nat) : Bool := ofDecimal k e = x
  let nearer := roundQuotient n d
  let other := if nearer = below then below + 1 else below
  if fits nearer then some ⟨nearer, e⟩ else if fits other then some ⟨other, e⟩ else none

/-- The decimal of fewest digits that reads back as `digits * 2 ^ exponent`. -/
def shortest (digits : Nat) (exponent : Int) : Decimal :=
  let (num, den) := fraction digits exponent
  let lead := leadingExponent num den
  ((List.range 17).findSome? fun i =>
      neighbour? (.finite digits exponent) num den lead (i + 1)).getD ⟨0, 0⟩

/-- Whether a whole number is written with a fraction of zero. -/
inductive Whole where
  | withZero
  | plain

/-- The layout of significant digits of which the first has the decimal exponent `lead`. -/
def layout (whole : Whole) (ds : List Char) (lead : Int) : List Char :=
  if lead < -4 || 16 ≤ lead then
    let mantissa := match ds with
      | d :: r :: rest => d :: '.' :: r :: rest
      | _ => ds
    let power := Nat.toDigits 10 lead.natAbs
    mantissa ++ 'e' :: (if lead < 0 then '-' else '+')
      :: List.replicate (2 - power.length) '0' ++ power
  else if lead < 0 then
    ['0', '.'] ++ List.replicate (-lead - 1).toNat '0' ++ ds
  else
    let count := lead.toNat + 1
    if ds.length ≤ count then
      let all := ds ++ List.replicate (count - ds.length) '0'
      match whole with
      | .withZero => all ++ ['.', '0']
      | .plain => all
    else ds.take count ++ '.' :: ds.drop count

/-- The text of a number; an infinite one is written as `infinity`. -/
def render (whole : Whole) (infinity : List Char) : Binary64 → List Char
  | .infinite => infinity
  | .finite 0 _ => layout whole ['0'] 0
  | .finite m e =>
    let s := shortest m e
    let all := Nat.toDigits 10 s.digits
    let ds := trimEnd (· == '0') all
    layout whole ds (s.exponent + (all.length - 1 : Nat))

end BodyDigest.Binary64
