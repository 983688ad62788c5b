import BodyDigest.Text.Basic

/-! Tags of YAML nodes, and the tag of a plain scalar by its form. -/
namespace BodyDigest.Yaml

inductive Tag where
  | null
  | bool
  | integer
  | real
  | timestamp
  | merge
  | value
  | binary
  | text
  | sequence
  | mapping
  | set
  | orderedPairs
  | pairs
  | unknown
  deriving DecidableEq

namespace Tag

/-- What standard tags start with. -/
def standardPart : Text := "tag:yaml.org,2002:"

def standardNames : List (Text × Tag) :=
  [("null", .null), ("bool", .bool), ("int", .integer), ("float", .real), ("timestamp", .timestamp),
    ("merge", .merge), ("value", .value), ("binary", .binary), ("str", .text), ("seq", .sequence),
    ("map", .mapping), ("set", .set), ("omap", .orderedPairs), ("pairs", .pairs)]

def ofText (t : Text) : Tag :=
  if standardPart.isPrefixOf t then
    (standardNames.lookup (t.drop standardPart.length)).getD .unknown
  else .unknown

/-! ### Forms of plain scalars -/

def isDigit (c : Char) : Bool := '0' ≤ c && c ≤ '9'

/-- A digit, or the underscore that may stand between digits. -/
def isSpacedDigit (c : Char) : Bool := isDigit c || c = '_'

def isHexDigit (c : Char) : Bool :=
  isSpacedDigit c || ('a' ≤ c && c ≤ 'f') || ('A' ≤ c && c ≤ 'F')

def isSign (c : Char) : Bool := c = '+' || c = '-'

def unsigned (cs : List Char) : List Char :=
  match cs with
  | c :: rest => if isSign c then rest else cs
  | [] => []

/-- One or more characters with `p`. -/
def isRun (p : Char → Bool) (cs : List Char) : Bool := !cs.isEmpty && cs.all p

/-- One digit or more, of which `first` is the first. -/
def isNumeral (first : Char → Bool) : List Char → Bool
  | c :: rest => first c && rest.all isSpacedDigit
  | [] => false

/-- A number below sixty in one or two digits. -/
def isSixtieth : List Char → Bool
  | [c] => isDigit c
  | [c, d] => '0' ≤ c && c ≤ '5' && isDigit d
  | _ => false

/-- A numeral and at least one group of sixtieths behind colons. -/
def isSexagesimal (first : Char → Bool) (cs : List Char) : Bool :=
  match pieces (· = ':') cs with
  | lead :: groups => isNumeral first lead && !groups.isEmpty && groups.all isSixtieth
  | [] => false

def isNonZero (c : Char) : Bool := '1' ≤ c && c ≤ '9'

def isInteger (cs : List Char) : Bool :=
  let body := unsigned cs
  match body with
  | '0' :: 'b' :: rest => isRun (fun c => c = '0' || c = '1' || c = '_') rest
  | '0' :: 'x' :: rest => isRun isHexDigit rest
  | '0' :: rest => rest.all fun c => ('0' ≤ c && c ≤ '7') || c = '_'
  | _ => isNumeral isNonZero body || isSexagesimal isNonZero body

/-- An exponent with its sign, which may be absent as a whole. -/
def isExponent : List Char → Bool
  | [] => true
  | e :: s :: digits => (e = 'e' || e = 'E') && isSign s && isRun isDigit digits
  | _ => false

def infinities : List (List Char) := [".inf", ".Inf", ".INF"].map String.toList

def notNumbers : List (List Char) := [".nan", ".NaN", ".NAN"].map String.toList

/-- What follows the point of a real number: digits, then an exponent. -/
def isFraction (cs : List Char) : Bool := isExponent (cs.dropWhile isSpacedDigit)

def isReal (cs : List Char) : Bool :=
  let body := unsigned cs
  let whole := body.takeWhile (· ≠ '.')
  match body.drop whole.length with
  | _ :: rest =>
    (isNumeral isDigit whole && isFraction rest)
      || (isSexagesimal isDigit whole && rest.all isSpacedDigit)
      || (body = cs && whole.isEmpty && rest.head?.any isDigit && isFraction rest)
      || infinities.contains body || notNumbers.contains cs
  | [] => false

/-! ### Dates -/

/-- The parts of a date and time as they are written. -/
structure Moment where
  year : List Char
  month : List Char
  day : List Char
  /-- Hour, minute, second and fraction. -/
  time : Option (List Char × List Char × List Char × List Char) := none
  /-- Hour and minute of a signed offset. -/
  offset : Option (List Char × List Char) := none

def digitsBetween (least most : Nat) (cs : List Char) : Option (List Char × List Char) :=
  let n := ((cs.take most).takeWhile isDigit).length
  if least ≤ n then some (cs.take n, cs.drop n) else none

/-- What follows `c` at the start. -/
def behind? (c : Char) : List Char → Option (List Char)
  | x :: rest => if x = c then some rest else none
  | [] => none

def isInline (c : Char) : Bool := c = ' ' || c = '\t'

/-- The zone behind a time: none, `Z`, or a signed offset; blanks may precede one. -/
def zone? (cs : List Char) : Option (Option (List Char × List Char)) := do
  match cs.dropWhile isInline with
  | [] => if cs.isEmpty then some none else none
  | ['Z'] => some none
  | s :: rest =>
    if !isSign s then none
    else
      let (hour, rest) ← digitsBetween 1 2 rest
      match rest with
      | [] => return some (hour, [])
      | _ =>
        let (minute, rest) ← digitsBetween 2 2 (← behind? ':' rest)
        if rest.isEmpty then return some (hour, minute) else none

/-- The time behind a date. -/
def time? (m : Moment) (cs : List Char) : Option Moment := do
  let (hour, cs) ← digitsBetween 1 2 cs
  let (minute, cs) ← digitsBetween 2 2 (← behind? ':' cs)
  let (second, cs) ← digitsBetween 2 2 (← behind? ':' cs)
  let (fraction, cs) :=
    match cs with
    | '.' :: rest => (rest.takeWhile isDigit, rest.dropWhile isDigit)
    | _ => ([], cs)
  return { m with time := some (hour, minute, second, fraction), offset := ← zone? cs }

/-- A date in digits, alone or with a time behind a `T` or behind blanks. -/
def moment? (cs : List Char) : Option Moment := do
  let (year, cs) ← digitsBetween 4 4 cs
  let (month, cs) ← digitsBetween 1 2 (← behind? '-' cs)
  let (day, cs) ← digitsBetween 1 2 (← behind? '-' cs)
  let m : Moment := { year, month, day }
  match cs with
  | [] => return m
  | c :: rest =>
    if c = 'T' || c = 't' then time? m rest
    else if isInline c then time? m (rest.dropWhile isInline)
    else none

/-- A date alone has two digits for month and day. -/
def isTimestamp (cs : List Char) : Bool :=
  match moment? cs with
  | some m => m.time.isSome || (m.month.length = 2 && m.day.length = 2)
  | none => false

/-! ### Resolution -/

def boolWords : List (List Char) :=
  ["yes", "Yes", "YES", "no", "No", "NO", "true", "True", "TRUE", "false", "False", "FALSE", "on",
    "On", "ON", "off", "Off", "OFF"].map String.toList

def nullWords : List (List Char) := ["~", "null", "Null", "NULL"].map String.toList

/-- The tag of the form that `cs` has. -/
def ofForm (cs : List Char) : Tag :=
  if boolWords.contains cs then .bool
  else if isReal cs then .real
  else if isInteger cs then .integer
  else if cs = ['<', '<'] then .merge
  else if nullWords.contains cs then .null
  else if isTimestamp cs then .timestamp
  else if cs = ['='] then .value
  else .text

/-- The tag of a plain scalar; a line feed at its end does not count. -/
def ofPlain (t : Text) : Tag :=
  match t.chars? with
  | none => .text
  | some [] => .null
  | some cs =>
    match cs.getLast?, cs.dropLast with
    | some '\n', c :: rest => ofForm (c :: rest)
    | _, _ => ofForm cs

end Tag

end BodyDigest.Yaml
