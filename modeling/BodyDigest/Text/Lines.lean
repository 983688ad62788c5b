import BodyDigest.Text.CodePoint

/-! Line ends. -/
namespace BodyDigest.Lines

/-- Writes every line end (CR LF, CR or LF) as a line feed. -/
def unify : List Char → List Char
  | '\r' :: '\n' :: rest => '\n' :: unify rest
  | '\r' :: rest => '\n' :: unify rest
  | c :: rest => c :: unify rest
  | [] => []

/-- Octets cut behind every line end, which stays with its line. -/
def ofOctets : List UInt8 → List (List UInt8)
  | [] => []
  | 13 :: 10 :: rest => [13, 10] :: ofOctets rest
  | 10 :: rest => [10] :: ofOctets rest
  | 13 :: rest => [13] :: ofOctets rest
  | b :: rest =>
    match rest, ofOctets rest with
    | _ :: _, line :: others => (b :: line) :: others
    | _, others => [b] :: others

end BodyDigest.Lines
