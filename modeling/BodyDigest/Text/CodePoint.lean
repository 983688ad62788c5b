/-!
Code points and texts. A text may hold lone surrogates: an escape can name one, although no
encoded file carries one.
-/
namespace BodyDigest

inductive CodePoint where
  | char (c : Char)
  | surrogate (offset : Fin 0x800)
  deriving DecidableEq

abbrev Text := List CodePoint

namespace CodePoint

def val : CodePoint → Nat
  | char c => c.toNat
  | surrogate offset => 0xd800 + offset

theorem val_injective {a b : CodePoint} (h : a.val = b.val) : a = b := by
  cases a with
  | char c =>
    cases b with
    | char d => exact congrArg char (Char.toNat_inj.1 h)
    | surrogate e =>
      have v : c.toNat.isValidChar := c.valid
      have l := e.isLt
      simp only [val, Nat.isValidChar] at h v
      omega
  | surrogate e =>
    cases b with
    | char c =>
      have v : c.toNat.isValidChar := c.valid
      have l := e.isLt
      simp only [val, Nat.isValidChar] at h v
      omega
    | surrogate f => exact congrArg surrogate (Fin.ext (Nat.add_left_cancel h))

/-- The code point of a number below 0x110000. -/
def ofNat? (n : Nat) : Option CodePoint :=
  if h : n.isValidChar then some (char (Char.ofNatAux n h))
  else if h : 0xd800 ≤ n ∧ n < 0xe000 then some (surrogate ⟨n - 0xd800, by omega⟩)
  else none

def char? : CodePoint → Option Char
  | char c => some c
  | surrogate _ => none

end CodePoint

namespace Text

def ofChars (cs : List Char) : Text := cs.map .char

def ofString (s : String) : Text := ofChars s.toList

instance : Coe String Text := ⟨ofString⟩

/-- The characters of a text without lone surrogates. -/
def chars? (t : Text) : Option (List Char) := t.mapM CodePoint.char?

/-- Order by code point, a proper beginning before its extensions. -/
def compare : Text → Text → Ordering
  | [], [] => .eq
  | [], _ :: _ => .lt
  | _ :: _, [] => .gt
  | a :: r, b :: s =>
    if a.val < b.val then .lt else if b.val < a.val then .gt else compare r s

def le (a b : Text) : Bool := compare a b != .gt

end Text

end BodyDigest
