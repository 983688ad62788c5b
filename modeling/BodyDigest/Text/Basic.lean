import BodyDigest.Text.Blank
import BodyDigest.Text.Decimal

/-! Trimming, joining and splitting of texts, and numbers as text. -/
namespace BodyDigest

/-- Drops what satisfies `p` from both ends. -/
def trimBoth {α : Type} (p : α → Bool) (xs : List α) : List α :=
  ((xs.dropWhile p).reverse.dropWhile p).reverse

/-- Drops what satisfies `p` from the end. -/
def trimEnd {α : Type} (p : α → Bool) (xs : List α) : List α := (xs.reverse.dropWhile p).reverse

/-- The pieces between the elements that satisfy `p`; there is always one more than those. -/
def pieces {α : Type} (p : α → Bool) : List α → List (List α)
  | [] => [[]]
  | a :: rest =>
    if p a then [] :: pieces p rest
    else match pieces p rest with
      | [] => [[a]]
      | first :: others => (a :: first) :: others

/-- The elements before the first occurrence of `pattern` and those after it. -/
def cutAt? {α : Type} [BEq α] (pattern : List α) : List α → Option (List α × List α)
  | [] => if pattern.isEmpty then some ([], []) else none
  | a :: rest =>
    if pattern.isPrefixOf (a :: rest) then some ([], (a :: rest).drop pattern.length)
    else (cutAt? pattern rest).map fun (before, after) => (a :: before, after)



namespace Text

def trim (t : Text) : Text := trimBoth CodePoint.isBlank t

def trimRight (t : Text) : Text := trimEnd CodePoint.isBlank t

def join (separator : Text) (parts : List Text) : Text := List.intercalate separator parts

/-- The runs between blanks, empty ones left out. -/
def words (t : Text) : List Text := (pieces CodePoint.isBlank t).filter (!·.isEmpty)

def ofNat (n : Nat) : Text := ofChars (Nat.toDigits 10 n)

def ofInt : Int → Text
  | .ofNat n => ofNat n
  | .negSucc n => .char '-' :: ofNat (n + 1)

/-- Lower case hexadecimal digits, padded with zeros to `width`. -/
def hexadecimal (width n : Nat) : Text :=
  let digits := Nat.toDigits 16 n
  ofChars (List.replicate (width - digits.length) '0' ++ digits)

/-- Replaces one code point throughout. -/
def replaceOne (old : CodePoint) (new : Text) (t : Text) : Text :=
  t.flatMap fun c => if c = old then new else [c]

end Text

end BodyDigest
