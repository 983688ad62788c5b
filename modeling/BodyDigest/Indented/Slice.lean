import BodyDigest.Text.Lines
import BodyDigest.Text.Utf8
import BodyDigest.Indented.Grammar.Stmt

/-!
The source text of a node, cut out of the octets of its lines and padded so that it starts in its
own column.
-/
namespace BodyDigest.Indented.Slice

def isBlankOctet (b : UInt8) : Bool := (9 ≤ b && b ≤ 13) || b = 32

/-- Where a cut starts; an unknown column is that of the last octet of the line, with no padding. -/
structure Start where
  line : Nat
  column : Option Nat

/-- The octets of the first line from the start on, behind their padding: the line's own beginning
if that is blank, else as many spaces. -/
def firstLine (start : Start) (line stopped : List UInt8) : List UInt8 :=
  let column := start.column.getD (line.length - 1)
  let lead := line.take column
  let padding :=
    if !lead.isEmpty && lead.all isBlankOctet then lead
    else List.replicate (start.column.getD 0) 32
  padding ++ stopped.drop column

def octets (lines : List (List UInt8)) (start : Start) (stop : Pos) : List UInt8 :=
  match (lines.take stop.line).drop (start.line - 1) with
  | [] => []
  | [only] => firstLine start only (only.take stop.column)
  | first :: rest =>
    firstLine start first first ++ rest.dropLast.flatten ++ (rest.getLastD []).take stop.column

/-- The text of a span. -/
def text (lines : List (List UInt8)) (start : Start) (stop : Pos) :
    Except Utf8.DecodeError Text :=
  (Utf8.decode (octets lines start stop)).map Text.ofChars

def ofSpan (lines : List (List UInt8)) (span : Span) : Except Utf8.DecodeError Text :=
  text lines ⟨span.start.line, some span.start.column⟩ span.stop

/-- The column of the last at sign among the first octets of a line. -/
def lastAt? (octets : List UInt8) : Option Nat :=
  let behind := octets.reverse.takeWhile (· ≠ 64)
  if behind.length < octets.length then some (octets.length - behind.length - 1) else none

/-- A statement starts at its first decorator, with the sign before it. -/
def ofPlace (lines : List (List UInt8)) (place : Place) : Except Utf8.DecodeError Text :=
  match place.decorator with
  | none => ofSpan lines place.span
  | some p =>
    let line := lines.getD (p.line - 1) []
    text lines ⟨p.line, lastAt? (line.take p.column)⟩ place.span.stop

end BodyDigest.Indented.Slice
