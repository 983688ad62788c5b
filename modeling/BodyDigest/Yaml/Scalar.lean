import BodyDigest.Yaml.Cursor

/-! The texts of YAML scalars: literal and folded blocks, quoted scalars, and plain ones. -/
namespace BodyDigest.Yaml

/-! ### Blocks -/

/-- What becomes of the line ends at the end of a block. -/
inductive Chomping where
  | strip
  | clip
  | keep
  deriving DecidableEq

/-- What stands behind the sign of a block. -/
structure BlockHeader where
  chomping : Chomping
  increment : Option Nat

def chomping? : Option Char → Option Chomping
  | some '+' => some .keep
  | some '-' => some .strip
  | _ => none

def increment? : Option Char → Option Nat
  | some c => if '0' ≤ c && c ≤ '9' then some (c.toNat - 48) else none
  | none => none

/-- The indicators of a block in either order, each at most once. -/
def blockHeader (c : Cursor) : Except Fault (BlockHeader × Cursor) := do
  let (header, c) : BlockHeader × Cursor :=
    match chomping? (c.peek 0), increment? (c.peek 0) with
    | some ch, _ =>
      match increment? (c.peek 1) with
      | some n => (⟨ch, some n⟩, c.skip 2)
      | none => (⟨ch, none⟩, c.next)
    | none, some n =>
      match chomping? (c.peek 1) with
      | some ch => (⟨ch, some n⟩, c.skip 2)
      | none => (⟨.clip, some n⟩, c.next)
    | none, none => (⟨.clip, none⟩, c)
  if header.increment = some 0 then throw .malformed
  if c.sees ' ' || isLineEnd (c.peek 0) then return (header, c) else throw .malformed

/-- The line ends before the first line with text, and the greatest column reached there. -/
def leadingBreaks (breaks : Text) (deepest : Nat) : Nat → Cursor → Text × Nat × Cursor
  | 0, c => (breaks, deepest, c)
  | n + 1, c =>
    match c.rest with
    | ' ' :: _ => leadingBreaks breaks (max deepest c.next.column) n c.next
    | x :: _ =>
      if isBreak x then leadingBreaks (breaks ++ breakText x) deepest n c.next
      else (breaks, deepest, c)
    | [] => (breaks, deepest, c)

/-- Skips spaces up to a column. -/
def indentTo (column : Nat) (c : Cursor) : Cursor :=
  c.skip (min (c.rest.takeWhile Cursor.isSpace).length (column - c.column))

/-- The line ends before the next line with text, and that line behind its indentation. -/
def innerBreaks (indent : Nat) (breaks : Text) : Nat → Cursor → Text × Cursor
  | 0, c => (breaks, c)
  | n + 1, c =>
    let c := indentTo indent c
    match c.lineBreak? with
    | some (b, d) => innerBreaks indent (breaks ++ b) n d
    | none => (breaks, c)

/-- The text of a block so far, the last line end, and the line ends after it. -/
structure BlockText where
  text : Text
  last : Text
  breaks : Text

def startsBlank (c : Cursor) : Bool := (c.peek 0).any Cursor.isInline

/-- The lines of a block. Folding replaces a single line end between two lines that both start
with text by a space. -/
def blockLines (folded : Bool) (indent : Nat) (b : BlockText) :
    Nat → Cursor → BlockText × Cursor
  | 0, c => (b, c)
  | n + 1, c =>
    if c.column ≠ indent || c.rest.isEmpty then (b, c)
    else
      let (line, d) := c.span (!isBreak ·)
      let text := b.text ++ b.breaks ++ Text.ofChars line
      let (last, d) := (d.lineBreak?).getD ([], d)
      let (breaks, d) := innerBreaks indent [] n d
      if d.column = indent && !d.rest.isEmpty then
        let joint : Text :=
          if folded && last = [.char '\n'] && !startsBlank c && !startsBlank d then
            if breaks.isEmpty then [.char ' '] else []
          else last
        blockLines folded indent ⟨text ++ joint, last, breaks⟩ n d
      else (⟨text, last, breaks⟩, d)

/-- A block whose parent is indented by `outer`; `outer` is negative at the top. -/
def blockScalar (folded : Bool) (outer : Int) (c : Cursor) : Except Fault (Text × Cursor) := do
  let fuel := c.rest.length + 1
  let (header, c) ← blockHeader c.next
  let c ← c.emptyLine
  let least := (max (outer + 1) 1).toNat
  let (indent, breaks, c) : Nat × Text × Cursor :=
    match header.increment with
    | none =>
      let (breaks, deepest, d) := leadingBreaks [] 0 fuel c
      (max least deepest, breaks, d)
    | some n =>
      let (breaks, d) := innerBreaks (least + n - 1) [] fuel c
      (least + n - 1, breaks, d)
  let (b, c) := blockLines folded indent ⟨[], [], breaks⟩ fuel c
  match header.chomping with
  | .strip => return (b.text, c)
  | .clip => return (b.text ++ b.last, c)
  | .keep => return (b.text ++ b.last ++ b.breaks, c)

/-! ### Quoted scalars -/

/-- The code points that a backslash and one character stand for. -/
def escapes : List (Char × Nat) :=
  [('0', 0), ('a', 7), ('b', 8), ('t', 9), ('\t', 9), ('n', 10), ('v', 11), ('f', 12), ('r', 13),
    ('e', 27), (' ', 32), ('"', 34), ('\\', 92), ('/', 47), ('N', 0x85), ('_', 0xa0), ('L', 0x2028),
    ('P', 0x2029)]

def escapeLength? : Char → Option Nat
  | 'x' => some 2
  | 'u' => some 4
  | 'U' => some 8
  | _ => none

def hexDigit? (c : Char) : Option Nat :=
  if '0' ≤ c && c ≤ '9' then some (c.toNat - 48)
  else if 'a' ≤ c && c ≤ 'f' then some (c.toNat - 87)
  else if 'A' ≤ c && c ≤ 'F' then some (c.toNat - 55)
  else none

/-- The number that `n` hexadecimal digits at the start write. -/
def hexNumber? (n : Nat) (cs : List Char) : Option Nat :=
  let digits := (cs.take n).filterMap hexDigit?
  if digits.length = n then some (digits.foldl (fun acc d => acc * 16 + d) 0) else none

def codePointOf (n : Nat) : Except Fault CodePoint :=
  match CodePoint.ofNat? n with
  | some c => .ok c
  | none => .error (.noCodePoint (0x80000000 ≤ n))

/-- The line ends and the indentation of the lines after a line end. -/
def quotedBreaks (breaks : Text) : Nat → Cursor → Except Fault (Text × Cursor)
  | 0, c => .ok (breaks, c)
  | n + 1, c =>
    if c.seesAnySeparator then .error .malformed
    else
      let c := c.past Cursor.isInline
      match c.lineBreak? with
      | some (b, d) => quotedBreaks (breaks ++ b) n d
      | none => .ok (breaks, c)

/-- A single line end is a space; of several, the first does not count. -/
def foldedBreaks (last breaks : Text) : Text :=
  if last ≠ [.char '\n'] then last ++ breaks
  else if breaks.isEmpty then [.char ' ']
  else breaks

/-- What follows a backslash. -/
def escaped (fuel : Nat) (c : Cursor) : Except Fault (Text × Cursor) :=
  match c.rest with
  | [] => .error .malformed
  | e :: rest =>
    match escapes.lookup e, escapeLength? e with
    | some n, _ => return ([← codePointOf n], c.next)
    | none, some k =>
      match hexNumber? k rest with
      | some n => return ([← codePointOf n], c.skip (k + 1))
      | none => .error .malformed
    | none, none => if isBreak e then quotedBreaks [] fuel c.next else .error .malformed

/-- Blanks inside of quotes; those around line ends do not count. -/
def quotedBlanks (fuel : Nat) (c : Cursor) : Except Fault (Text × Cursor) := do
  let (blanks, c) := c.span Cursor.isInline
  match c.lineBreak? with
  | some (last, d) =>
    let (breaks, d) ← quotedBreaks [] fuel d
    return (foldedBreaks last breaks, d)
  | none => return (Text.ofChars blanks, c)

/-- The text up to the closing quote, behind the text so far. -/
def quotedRest (quote : Char) (text : Text) : Nat → Cursor → Except Fault (Text × Cursor)
  | 0, _ => .error .malformed
  | n + 1, c =>
    match c.rest with
    | [] => .error .malformed
    | x :: rest =>
      if isGap (some x) then do
        let (blanks, d) ← quotedBlanks n c
        quotedRest quote (text ++ blanks) n d
      else if x = quote then
        if quote = '\'' && rest.head? = some '\'' then
          quotedRest quote (text ++ [.char '\'']) n (c.skip 2)
        else .ok (text, c.next)
      else if x = '\\' && quote = '"' then do
        let (t, d) ← escaped n c.next
        quotedRest quote (text ++ t) n d
      else quotedRest quote (text ++ [.char x]) n c.next

def quotedScalar (quote : Char) (c : Cursor) : Except Fault (Text × Cursor) :=
  quotedRest quote [] (c.rest.length + 1) c.next

/-! ### Plain scalars -/

/-- The longest run without a blank that belongs to a plain scalar. -/
def plainRun (flow : Bool) : List Char → List Char
  | [] => []
  | x :: rest =>
    let afterColon := rest.head?
    let ends := isGap (some x)
      || (x = ':' && (isGap afterColon || (flow && afterColon.any [',', '[', ']', '{', '}'].contains)))
      || (flow && [',', '?', '[', ']', '{', '}'].contains x)
    if ends then [] else x :: plainRun flow rest

/-- The empty lines after a line end inside a plain scalar; none before a separator. -/
def plainBreaks (breaks : Text) : Nat → Cursor → Option Text × Cursor
  | 0, c => (some breaks, c)
  | n + 1, c =>
    if c.seesAnySeparator then (none, c)
    else
      let c := c.past Cursor.isSpace
      match c.lineBreak? with
      | some (b, d) => plainBreaks (breaks ++ b) n d
      | none => (some breaks, c)

/-- A plain scalar as far as it was read. -/
structure PlainText where
  text : Text
  /-- Whether a line end follows, after which a key may start. -/
  atLineStart : Bool

/-- The blanks after a run: their text, and whether they reach another line. -/
def plainBlanks (fuel : Nat) (c : Cursor) : Text × Bool × Cursor :=
  let (blanks, c) := c.span Cursor.isSpace
  match c.lineBreak? with
  | none => (Text.ofChars blanks, false, c)
  | some (last, d) =>
    match plainBreaks [] fuel d with
    | (none, d) => ([], true, d)
    | (some breaks, d) => (foldedBreaks last breaks, true, d)

/-- Runs of a plain scalar behind the text so far and the blanks after it. Outside of brackets,
lines of it are indented by `indent` at least. -/
def plainRuns (flow : Bool) (indent : Int) (p : PlainText) (blanks : Text) :
    Nat → Cursor → PlainText × Cursor
  | 0, c => (p, c)
  | n + 1, c =>
    let run := if c.sees '#' then [] else plainRun flow c.rest
    if run.isEmpty then (p, c)
    else
      let (blanks', atLineStart, d) := plainBlanks n (c.skip run.length)
      let p : PlainText := ⟨p.text ++ blanks ++ Text.ofChars run, atLineStart⟩
      if blanks'.isEmpty || d.sees '#' || (!flow && (d.column : Int) < indent) then (p, d)
      else plainRuns flow indent p blanks' n d

def plainScalar (flow : Bool) (indent : Int) (c : Cursor) : PlainText × Cursor :=
  plainRuns flow indent ⟨[], false⟩ [] (c.rest.length + 1) c

end BodyDigest.Yaml
