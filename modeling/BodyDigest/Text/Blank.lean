import BodyDigest.Text.Boundaries

/-! White space: the blanks that trimming removes. -/
namespace BodyDigest.CodePoint

/-- Where runs of blanks above ASCII start and end, in turn. -/
def blankBoundaries : List Nat := [
  0x85, 0x86, 0xa0, 0xa1, 0x1680, 0x1681, 0x2000, 0x200b, 0x2028, 0x202a, 0x202f, 0x2030, 0x205f,
  0x2060, 0x3000, 0x3001]

/-- Tab to carriage return, the four information separators, the space, and the blanks above
ASCII. -/
def isBlank (c : CodePoint) : Bool :=
  if c.val < 128 then (9 ≤ c.val && c.val ≤ 13) || (28 ≤ c.val && c.val ≤ 32)
  else withinRuns blankBoundaries c.val

end BodyDigest.CodePoint
