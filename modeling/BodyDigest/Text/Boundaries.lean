import BodyDigest.Text.CodePoint

/-! Sets of numbers given by the places where membership changes. -/
namespace BodyDigest

/-- Whether `n` is a member when `inside` holds below the first boundary and changes at each. -/
def withinRunsFrom (inside : Bool) : List Nat → Nat → Bool
  | [], _ => inside
  | b :: rest, n => if n < b then inside else withinRunsFrom (!inside) rest n

def withinRuns (boundaries : List Nat) (n : Nat) : Bool := withinRunsFrom false boundaries n

end BodyDigest
