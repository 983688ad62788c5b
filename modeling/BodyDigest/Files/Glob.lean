import BodyDigest.Text.Basic

/-!
Patterns of names: a star stands for any text, a question mark for one character, and a bracket for
one character of a set, which ranges and single characters make up.
-/
namespace BodyDigest.Glob

/-- What a character has to be. -/
inductive Piece where
  | star
  | any
  | none
  | one (c : CodePoint)
  | among (negated : Bool) (ranges : List (CodePoint × CodePoint))

/-! ### Brackets -/

def hyphen : CodePoint := .char '-'

def closing : CodePoint := .char ']'

def mark : CodePoint := .char '!'

/-- What a bracket holds and what follows it. A closing bracket in the first place, or behind the
mark there, is one of its characters. -/
def bracket? (t : Text) : Option (Text × Text) :=
  let marked := if t.head? = some mark then 1 else 0
  let lead := if (t.drop marked).head? = some closing then marked + 1 else marked
  let content := t.take lead ++ (t.drop lead).takeWhile (· ≠ closing)
  match t.drop content.length with
  | _ :: rest => some (content, rest)
  | [] => .none

/-- The runs between hyphens that make ranges, on fuel; at least `least` characters stand before
such a hyphen. -/
def runs (fuel least : Nat) (t : Text) : List Text :=
  match fuel with
  | 0 => [t]
  | n + 1 =>
    let before := t.take least ++ (t.drop least).takeWhile (· ≠ hyphen)
    match t.drop before.length with
    | [] => [t]
    | _ :: rest => before :: runs n 2 rest

/-- A hyphen at the end is a character of the last run. -/
def closeRuns : List Text → List Text
  | [] => []
  | [t] => [t]
  | [t, []] => [t ++ [hyphen]]
  | t :: rest => t :: closeRuns rest

def isAfter (a b : Option CodePoint) : Bool :=
  match a, b with
  | some c, some d => d.val < c.val
  | _, _ => false

/-- Drops the ends of ranges that go backwards, from the last one on. -/
def dropBackward : List Text → List Text
  | [] => []
  | t :: rest =>
    match dropBackward rest with
    | [] => [t]
    | u :: more =>
      if isAfter t.getLast? u.head? then (t.dropLast ++ u.tail) :: more else t :: u :: more

/-- Each character alone, and the ranges between neighbouring runs. -/
def rangesOf : List Text → List (CodePoint × CodePoint)
  | [] => []
  | t :: rest =>
    let across := match t.getLast?, rest.head?.bind List.head? with
      | some a, some b => [(a, b)]
      | _, _ => []
    t.map (fun c => (c, c)) ++ across ++ rangesOf rest

/-- The runs of a bracket's content. -/
def runsOf (content : Text) : List Text :=
  let least := if content.head? = some mark then 2 else 1
  dropBackward (closeRuns (runs content.length least content))

/-- The set of a bracket. It is negated by a mark in front of what is left of its runs; a hyphen
behind a mark alone is a character. -/
def setOf (content : Text) : Piece :=
  match runsOf content with
  | [] | [[]] => .none
  | (c :: t) :: rest =>
    if c = mark then
      match t, rest with
      | [], [] => .any
      | [], next :: more => .among true (rangesOf ((hyphen :: next) :: more))
      | _, _ => .among true (rangesOf (t :: rest))
    else .among false (rangesOf ((c :: t) :: rest))
  | rest => .among false (rangesOf rest)

/-! ### Patterns -/

/-- Stars in a row count as one. -/
def addStar : List Piece → List Piece
  | .star :: rest => .star :: rest
  | ps => .star :: ps

/-- The pieces of a pattern, on fuel of its length. -/
def read (fuel : Nat) (t : Text) : List Piece :=
  match fuel, t with
  | 0, _ | _, [] => []
  | n + 1, c :: rest =>
    if c = .char '*' then addStar (read n rest)
    else if c = .char '?' then .any :: read n rest
    else if c = .char '[' then
      match bracket? rest with
      | some (content, rest) => setOf content :: read n rest
      | .none => .one c :: read n rest
    else .one c :: read n rest

def ofText (t : Text) : List Piece := read t.length t

def isWithin (c : CodePoint) (range : CodePoint × CodePoint) : Bool :=
  range.1.val ≤ c.val && c.val ≤ range.2.val

/-- Whether a piece other than a star takes a character. -/
def Piece.accepts (c : CodePoint) : Piece → Bool
  | .star | .none => false
  | .any => true
  | .one d => c = d
  | .among negated ranges => ranges.any (isWithin c) != negated

/-- What is left of a text when characters are taken from its front. -/
def suffixes : Text → List Text
  | [] => [[]]
  | c :: t => (c :: t) :: suffixes t

/-- Whether the pieces take the whole text. -/
def accepts : List Piece → Text → Bool
  | [], t => t.isEmpty
  | .star :: ps, t => (suffixes t).any (accepts ps)
  | _ :: _, [] => false
  | p :: ps, c :: t => p.accepts c && accepts ps t

end BodyDigest.Glob
