/-!
Names of characters in runs: characters at an even distance whose names share their beginning.
-/
namespace BodyDigest

/-- The first character, the distance to the next, the common beginning of the names, and their
endings in order, parted by bars. -/
structure NameRun where
  first : Nat
  step : Nat
  stem : String
  endings : List String

/-- What follows `stem` in `name`. -/
def dropStem? : List Char → List Char → Option (List Char)
  | [], name => some name
  | c :: stem, d :: name => if c = d then dropStem? stem name else none
  | _ :: _, [] => none

/-- The pieces of a text that bars part; `piece` is the one begun, last first. -/
def barredFrom (piece : List Char) : List Char → List (List Char)
  | [] => [piece.reverse]
  | '|' :: rest => piece.reverse :: barredFrom [] rest
  | c :: rest => barredFrom (c :: piece) rest

def barred (text : String) : List (List Char) := barredFrom [] text.toList

/-- The number of the character that bears `name`, if the run has it. -/
def NameRun.find? (r : NameRun) (name : List Char) : Option Nat := do
  let ending ← dropStem? r.stem.toList name
  let place ← (r.endings.flatMap barred).findIdx? (· == ending)
  return r.first + r.step * place

end BodyDigest
