import BodyDigest.Text.Basic
import BodyDigest.Text.Printable

/-!
Quoted texts: between single quotes, or between double quotes when the text holds a single quote
and no double one; what is not printable is escaped.
-/
namespace BodyDigest.Text

/-- The escape of a code point by its number, in the shortest of the three widths. -/
def numericEscape (c : CodePoint) : Text :=
  if c.val < 0x100 then ("\\x" : Text) ++ hexadecimal 2 c.val
  else if c.val < 0x10000 then ("\\u" : Text) ++ hexadecimal 4 c.val
  else ("\\U" : Text) ++ hexadecimal 8 c.val

/-- How one code point is written between two `quote`s. -/
def escaped (quote c : CodePoint) : Text :=
  if c = quote || c = .char '\\' then [.char '\\', c]
  else if c = .char '\t' then "\\t"
  else if c = .char '\n' then "\\n"
  else if c = .char '\r' then "\\r"
  else if c.isPrintable then [c]
  else numericEscape c

def quoteFor (t : Text) : CodePoint :=
  if t.contains (.char '\'') && !t.contains (.char '"') then .char '"' else .char '\''

def quoted (t : Text) : Text :=
  let quote := quoteFor t
  quote :: t.flatMap (escaped quote) ++ [quote]

end BodyDigest.Text
