import BodyDigest.Text.CodePoint
import BodyDigest.Text.Named.Letters
import BodyDigest.Text.Named.Symbols
import BodyDigest.Text.Named.Pictures
import BodyDigest.Text.Named.Second

/-!
Characters by their names. Case does not matter in a tabulated name; the names that are made by
rule, of ideographs and of syllables, are in capitals. The tables hold the scripts of Europe and
the Near East, Devanagari, Thai, the kana, and the symbols.
-/
namespace BodyDigest.CodePoint

def ideographRanges : List (Nat × Nat) := [
  (0x3400, 0x4dbf), (0x4e00, 0x9fff), (0x20000, 0x2a6df), (0x2a700, 0x2b738),
  (0x2b740, 0x2b81d), (0x2b820, 0x2cea1), (0x2ceb0, 0x2ebe0), (0x30000, 0x3134a)]

def capitalHex? (c : Char) : Option Nat :=
  if '0' ≤ c ∧ c ≤ '9' then some (c.toNat - 48)
  else if 'A' ≤ c ∧ c ≤ 'F' then some (c.toNat - 55)
  else none

/-- An ideograph is named by its number, in four or five digits. -/
def ideograph? (digits : List Char) : Option Nat := do
  if digits.length = 4 ∨ digits.length = 5 then
    let n := (← digits.mapM capitalHex?).foldl (16 * · + ·) 0
    if ideographRanges.any fun (first, last) => first ≤ n && n ≤ last then some n else none
  else none

def leads : List (List Char) := barred "G|GG|N|D|DD|R|M|B|BB|S|SS||J|JJ|C|K|T|P|H"

def vowels : List (List Char) :=
  barred "A|AE|YA|YAE|EO|E|YEO|YE|O|WA|WAE|OE|YO|U|WEO|WE|WI|YU|EU|YI|I"

def tails : List (List Char) :=
  barred "|G|GG|GS|N|NJ|NH|D|L|LG|LM|LB|LS|LT|LP|LH|M|B|BS|S|SS|NG|J|C|K|T|P|H"

/-- The longest of the pieces that `name` begins with: its place, and what follows it. -/
def longestPiece? (pieces : List (List Char)) (name : List Char) : Option (Nat × List Char) :=
  pieces.zipIdx.foldl (fun best (piece, place) =>
    match dropStem? piece name, best with
    | some rest, some (_, shortest) =>
      if rest.length < shortest.length then some (place, rest) else best
    | some rest, none => some (place, rest)
    | none, _ => best) none

/-- A syllable is named by its lead, its vowel and its tail. -/
def syllable? (name : List Char) : Option Nat := do
  let (lead, name) ← longestPiece? leads name
  let (vowel, name) ← longestPiece? vowels name
  let (tail, name) ← longestPiece? tails name
  if name.isEmpty then some (0xac00 + (lead * 21 + vowel) * 28 + tail) else none

/-- A tabulated name; `name` is in capitals. -/
def tabulated? (name : List Char) : Option Nat :=
  match (NameRun.letters ++ NameRun.symbols ++ NameRun.pictures).findSome? (·.find? name) with
  | some n => some n
  | none => (NameRun.secondNames.find? fun (_, names) => (barred names).contains name).map (·.1)

def named? (name : List Char) : Option CodePoint := do
  let number ←
    match dropStem? "HANGUL SYLLABLE ".toList name with
    | some rest => syllable? rest
    | none =>
      match dropStem? "CJK UNIFIED IDEOGRAPH-".toList name with
      | some rest => ideograph? rest
      | none => tabulated? (name.map Char.toUpper)
  ofNat? number

end BodyDigest.CodePoint
