/-!
Non-negative binary floating point numbers of 53 digits, in exact arithmetic: the nearest one to a
fraction, sums and products. Ties go to the even neighbour.
-/
namespace BodyDigest

/-- A finite magnitude is `digits * 2 ^ exponent`. -/
inductive Binary64 where
  | finite (digits : Nat) (exponent : Int)
  | infinite
  deriving DecidableEq

namespace Binary64

def zero : Binary64 := .finite 0 (-1074)

/-- The quotient rounded to the nearest integer. -/
def roundQuotient (num den : Nat) : Nat :=
  let q := num / den
  let twice := 2 * (num % den)
  if twice < den then q else if den < twice then q + 1 else q + q % 2

/-- The fraction `num / den` divided by `2 ^ e`, again as a fraction. -/
def scaled (num den : Nat) (e : Int) : Nat × Nat :=
  if 0 ≤ e then (num, den * Nat.pow 2 e.toNat) else (num * Nat.pow 2 (-e).toNat, den)

/-- The exponent with which `num / den` has 53 digits, not below the least one. -/
def exponentFor (num den : Nat) : Int :=
  let guess : Int := (num.log2 : Int) - den.log2 - 52
  let (n, d) := scaled num den guess
  let exact := if n < d * Nat.pow 2 52 then guess - 1 else guess
  max exact (-1074)

/-- The nearest number to `num / den`; infinite from half a unit above the largest one. -/
def ofFraction (num den : Nat) : Binary64 :=
  if num = 0 then zero
  else
    let e := exponentFor num den
    let (n, d) := scaled num den e
    let m := roundQuotient n d
    let (m, e) := if m = Nat.pow 2 53 then (Nat.pow 2 52, e + 1) else (m, e)
    if 971 < e then .infinite else .finite m e

/-- The nearest number to `digits * 10 ^ exponent`. -/
def ofDecimal (digits : Nat) (exponent : Int) : Binary64 :=
  let size : Int := (Nat.toDigits 10 digits).length + exponent
  if digits = 0 || size < -330 then zero
  else if 330 < size then .infinite
  else if 0 ≤ exponent then ofFraction (digits * Nat.pow 10 exponent.toNat) 1
  else ofFraction digits (Nat.pow 10 (-exponent).toNat)

/-- A finite magnitude as a fraction. -/
def fraction (digits : Nat) (exponent : Int) : Nat × Nat :=
  if 0 ≤ exponent then (digits * Nat.pow 2 exponent.toNat, 1) else (digits, Nat.pow 2 (-exponent).toNat)

def add : Binary64 → Binary64 → Binary64
  | .finite m e, .finite n f =>
    let (a, b) := fraction m e
    let (c, d) := fraction n f
    ofFraction (a * d + c * b) (b * d)
  | _, _ => .infinite

def mul : Binary64 → Binary64 → Binary64
  | .finite m e, .finite n f =>
    let (a, b) := fraction m e
    let (c, d) := fraction n f
    ofFraction (a * c) (b * d)
  | _, _ => .infinite

end Binary64

end BodyDigest
