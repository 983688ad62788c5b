import BodyDigest.Text.Basic

/-! Removal of the margin that the lines of a text have in common. -/
namespace BodyDigest.Margin

def isIndent (c : Char) : Bool := c == ' ' || c == '\t'

/-- The lines of a text, which only line feeds end. -/
def lines (cs : List Char) : List (List Char) := pieces (· == '\n') cs

def commonPrefix : List Char → List Char → List Char
  | a :: r, b :: s => if a = b then a :: commonPrefix r s else []
  | _, _ => []

/-- The longest indentation shared by the lines that hold more than spaces and tabs. -/
def margin (ls : List (List Char)) : List Char :=
  match (ls.filter fun l => !l.all isIndent).map (·.takeWhile isIndent) with
  | [] => []
  | first :: others => others.foldl commonPrefix first

/-- Empties the lines of spaces and tabs, and takes the margin off the others. -/
def remove (cs : List Char) : List Char :=
  let ls := (lines cs).map fun l => if l.all isIndent then [] else l
  let m := margin ls
  List.intercalate ['\n'] (ls.map fun l => if m.isPrefixOf l then l.drop m.length else l)

end BodyDigest.Margin
