import BodyDigest.Text.CodePoint
import BodyDigest.Text.Compatible.Singles
import BodyDigest.Text.Compatible.Sequences
import BodyDigest.Text.Compatible.Marks

/-!
The compatible composed form of identifiers: every character is decomposed, marks are put in the
order of their classes, and what composes is composed. Only identifier characters are tabulated;
any other character stays as it is.
-/
namespace BodyDigest.Compatible

/-- Full decomposition of one character. -/
def decompose (n : Nat) : List Nat :=
  if n < 128 then [n]
  else if 0xac00 ≤ n && n ≤ 0xd7a3 then
    let syllable := n - 0xac00
    let lead := 0x1100 + syllable / 588
    let vowel := 0x1161 + syllable % 588 / 28
    if syllable % 28 == 0 then [lead, vowel] else [lead, vowel, 0x11a7 + syllable % 28]
  else
    match singles.find? fun (first, last, _) => first ≤ n && n ≤ last with
    | some (first, _, image) => [image + (n - first)]
    | none =>
      match sequences.find? fun (c, _) => c == n with
      | some (_, image) => image
      | none => [n]

/-- The combining class; zero for a character that is no mark. -/
def markClass (n : Nat) : Nat :=
  if n < 0x300 then 0
  else match markRuns.find? fun (first, last, _) => first ≤ n && n ≤ last with
    | some (_, _, k) => k
    | none => 0

/-- Puts a mark behind the marks at the front whose class is not larger. -/
def insertMark (m : Nat) : List Nat → List Nat
  | [] => [m]
  | c :: rest =>
    if markClass c != 0 && markClass c < markClass m then c :: insertMark m rest else m :: c :: rest

/-- Each run of marks in the order of their classes, equal classes as they came. -/
def orderMarks : List Nat → List Nat
  | [] => []
  | c :: rest => if markClass c == 0 then c :: orderMarks rest else insertMark c (orderMarks rest)

/-- The character that two characters compose to. -/
def composePair? (a b : Nat) : Option Nat :=
  if 0x1100 ≤ a && a < 0x1113 && 0x1161 ≤ b && b < 0x1176 then
    some (0xac00 + ((a - 0x1100) * 21 + (b - 0x1161)) * 28)
  else if 0xac00 ≤ a && a ≤ 0xd7a3 && (a - 0xac00) % 28 == 0 && 0x11a7 < b && b < 0x11c3 then
    some (a + (b - 0x11a7))
  else (compositions.find? fun (x, y, _) => x == a && y == b).map (·.2.2)

/-- Composes `starter` with what follows it; `pending` holds the marks passed over, last first. -/
def composeFrom (starter : Nat) (pending : List Nat) : List Nat → List Nat
  | [] => starter :: pending.reverse
  | c :: rest =>
    let blocked := match pending with
      | [] => false
      | last :: _ => markClass c ≤ markClass last
    match if blocked then none else composePair? starter c with
    | some whole => composeFrom whole pending rest
    | none =>
      if markClass c == 0 then starter :: pending.reverse ++ composeFrom c [] rest
      else composeFrom starter (c :: pending) rest

def compose : List Nat → List Nat
  | [] => []
  | c :: rest => if markClass c == 0 then composeFrom c [] rest else c :: compose rest

end BodyDigest.Compatible

namespace BodyDigest

/-- The compatible composed form of an identifier. -/
def Text.compatible (t : Text) : Text :=
  if t.all (·.val < 128) then t
  else (Compatible.compose (Compatible.orderMarks (t.flatMap fun c => Compatible.decompose c.val)))
    |>.filterMap CodePoint.ofNat?

end BodyDigest
