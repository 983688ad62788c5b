import BodyDigest.Text.Basic
import BodyDigest.Text.Named
import BodyDigest.Indented.Token

/-! Values of the escapes in literals. An unknown escape stands for itself, backslash included. -/
namespace BodyDigest.Indented.Escape

def hexValue? (c : Char) : Option Nat :=
  if c.isDigit then some (c.toNat - 48)
  else if 'a' ≤ c && c ≤ 'f' then some (c.toNat - 87)
  else if 'A' ≤ c && c ≤ 'F' then some (c.toNat - 55)
  else none

/-- The number that exactly these hexadecimal digits write. -/
def hexNumber? (ds : List Char) : Option Nat :=
  ds.foldlM (fun n c => (hexValue? c).map (n * 16 + ·)) 0

def octalValue? (c : Char) : Option Nat :=
  if '0' ≤ c && c ≤ '7' then some (c.toNat - 48) else none

/-- The character of an escape that is one letter or sign. -/
def single? (c : Char) : Option Char :=
  match c with
  | '\\' => some '\\'
  | '\'' => some '\''
  | '"' => some '"'
  | 'a' => some '\x07'
  | 'b' => some '\x08'
  | 'f' => some '\x0c'
  | 'n' => some '\n'
  | 'r' => some '\r'
  | 't' => some '\t'
  | 'v' => some '\x0b'
  | _ => none

/-- What an escape is, and how many characters behind its backslash it takes. -/
inductive Found where
  | nothing (length : Nat)
  | code (value length : Nat)
  | plain
  | wrong

def fixedWidth (width : Nat) (rest : List Char) : Found :=
  if rest.length < width then .wrong
  else match hexNumber? (rest.take width) with
    | some n => .code n (width + 1)
    | none => .wrong

def octal (cs : List Char) : Found :=
  let ds := (cs.take 3).takeWhile fun c => (octalValue? c).isSome
  .code (ds.foldl (fun n c => n * 8 + (octalValue? c).getD 0) 0) ds.length

/-- A character given by its name between braces. -/
def byName (rest : List Char) : Found :=
  match rest with
  | '\x7b' :: more =>
    let name := more.takeWhile (· ≠ '\x7d')
    if name.length < more.length then
      match CodePoint.named? name with
      | some c => .code c.val (name.length + 3)
      | none => .wrong
    else .wrong
  | _ => .wrong

/-- The escape behind a backslash; names and wide numbers only where `wide`. -/
def find (wide : Bool) (cs : List Char) : Found :=
  match cs with
  | [] => .plain
  | c :: rest =>
    if c = '\n' then .nothing 1
    else match single? c with
      | some d => .code d.toNat 1
      | none =>
        if (octalValue? c).isSome then octal cs
        else if c = 'x' then fixedWidth 2 rest
        else if wide && c = 'u' then fixedWidth 4 rest
        else if wide && c = 'U' then fixedWidth 8 rest
        else if wide && c = 'N' then byName rest
        else .plain

/-- The code points of a literal's body; the first `skip` characters belong to the escape before. -/
def textFrom (skip : Nat) : List Char → Option Text
  | [] => some []
  | c :: rest =>
    match skip with
    | k + 1 => textFrom k rest
    | 0 =>
      if c = '\\' then
        match find true rest with
        | .nothing n => textFrom n rest
        | .code v n => do
          let p ← CodePoint.ofNat? v
          return p :: (← textFrom n rest)
        | .plain => (textFrom 0 rest).map (.char c :: ·)
        | .wrong => none
      else (textFrom 0 rest).map (.char c :: ·)

def text (body : List Char) : Option Text := textFrom 0 body

/-- The octets of a literal's body, of which a number keeps its lowest eight bits. -/
def bytesFrom (skip : Nat) : List Char → Option (List UInt8)
  | [] => some []
  | c :: rest =>
    match skip with
    | k + 1 => bytesFrom k rest
    | 0 =>
      if c = '\\' then
        match find false rest with
        | .nothing n => bytesFrom n rest
        | .code v n => (bytesFrom n rest).map (UInt8.ofNat v :: ·)
        | .plain => (bytesFrom 0 rest).map (92 :: ·)
        | .wrong => none
      else (bytesFrom 0 rest).map (UInt8.ofNat c.toNat :: ·)

def bytes (body : List Char) : Option (List UInt8) :=
  if body.all (·.toNat < 128) then bytesFrom 0 body else none

end BodyDigest.Indented.Escape
