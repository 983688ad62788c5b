import BodyDigest.Yaml.Scalar
import BodyDigest.Text.Utf8

/-!
Tokens of a YAML text. Indentation shows as tokens that start and end blocks. What may be a key is
only known to be one at the colon behind it; its place among the tokens is kept until then.
-/
namespace BodyDigest.Yaml

/-- A line of settings before a document. -/
inductive Directive where
  | version (major : Nat)
  | tag (handle start : Text)
  | other
  deriving DecidableEq

inductive Token where
  | directive (d : Directive)
  | documentStart
  | documentEnd
  | streamEnd
  | blockSequenceStart
  | blockMappingStart
  | blockEnd
  | flowSequenceStart
  | flowSequenceEnd
  | flowMappingStart
  | flowMappingEnd
  | key
  | value
  | blockEntry
  | flowEntry
  | reference (name : Text)
  | anchor (name : Text)
  | tag (handle : Option Text) (suffix : Text)
  | scalar (plain : Bool) (text : Text)
  deriving DecidableEq

namespace Token

/-! ### Names and tags -/

def isNameChar (c : Char) : Bool :=
  ('0' ≤ c && c ≤ '9') || ('A' ≤ c && c ≤ 'Z') || ('a' ≤ c && c ≤ 'z') || c = '-' || c = '_'

def isUriChar (c : Char) : Bool :=
  isNameChar c || ";/?:@&=+$,.!~*'()[]%".toList.contains c

/-- The name of an anchor or alias. -/
def anchorName (c : Cursor) : Except Fault (Text × Cursor) :=
  let (name, d) := c.next.span isNameChar
  let ends := isGap (d.peek 0) || (d.peek 0).any "?:,]\x7d%@`".toList.contains
  if name.isEmpty || !ends then .error .malformed else .ok (Text.ofChars name, d)

/-- The octets of a run of escapes, each of two hexadecimal digits. -/
def uriOctets : Nat → Cursor → Except Fault (List UInt8 × Cursor)
  | 0, c => .ok ([], c)
  | n + 1, c =>
    match c.rest with
    | '%' :: rest =>
      match hexNumber? 2 rest with
      | some b => do
        let (more, d) ← uriOctets n (c.skip 3)
        return (UInt8.ofNat b :: more, d)
      | none => .error .malformed
    | _ => .ok ([], c)

/-- The characters of a tag, behind the text so far; escapes stand for octets. -/
def uriRest (text : Text) : Nat → Cursor → Except Fault (Text × Cursor)
  | 0, c => .ok (text, c)
  | n + 1, c =>
    let (run, c) := c.span fun x => isUriChar x && x ≠ '%'
    let text := text ++ Text.ofChars run
    if c.sees '%' then do
      let (octets, d) ← uriOctets n c
      match Utf8.decode octets with
      | .ok cs => uriRest (text ++ Text.ofChars cs) n d
      | .error _ => .error .malformed
    else .ok (text, c)

def uri (c : Cursor) : Except Fault (Text × Cursor) :=
  if (c.peek 0).any isUriChar then uriRest [] (c.rest.length + 1) c else .error .malformed

/-- A handle: one exclamation mark, or two around a name. -/
def tagHandle (c : Cursor) : Except Fault (Text × Cursor) :=
  if !c.sees '!' then .error .malformed
  else if c.peek 1 = some ' ' then .ok ([.char '!'], c.next)
  else
    let (name, d) := c.next.span isNameChar
    if d.sees '!' then .ok (.char '!' :: Text.ofChars name ++ [.char '!'], d.next)
    else .error .malformed

/-- Whether another exclamation mark follows in a tag. -/
def hasHandle (cs : List Char) : Bool :=
  (cs.takeWhile fun x => x ≠ ' ' && !isBreak x).contains '!'

def tagParts (c : Cursor) : Except Fault ((Option Text × Text) × Cursor) := do
  if c.peek 1 = some '<' then
    let (suffix, d) ← uri (c.skip 2)
    if d.sees '>' then return ((none, suffix), d.next) else throw .malformed
  else if isGap (c.peek 1) then return ((none, [.char '!']), c.next)
  else
    let (handle, d) ← if hasHandle (c.rest.drop 1) then tagHandle c else .ok ([.char '!'], c.next)
    let (suffix, d) ← uri d
    return ((some handle, suffix), d)

def endsTag (c : Cursor) : Bool := c.sees ' ' || isLineEnd (c.peek 0)

def tagToken (c : Cursor) : Except Fault (Token × Cursor) := do
  let ((handle, suffix), d) ← tagParts c
  if endsTag d then return (.tag handle suffix, d) else throw .malformed

/-! ### Directives -/

def isDigit (c : Char) : Bool := '0' ≤ c && c ≤ '9'

def number (c : Cursor) : Except Fault (Nat × Cursor) :=
  let (digits, d) := c.span isDigit
  if digits.isEmpty then .error .malformed
  else .ok (digits.foldl (fun acc x => acc * 10 + (x.toNat - 48)) 0, d)

def versionDirective (c : Cursor) : Except Fault (Directive × Cursor) := do
  let (major, c) ← number (c.past Cursor.isSpace)
  if !c.sees '.' then throw .malformed
  let (_, c) ← number c.next
  if endsTag c then return (.version major, c) else throw .malformed

def tagDirective (c : Cursor) : Except Fault (Directive × Cursor) := do
  let (handle, c) ← tagHandle (c.past Cursor.isSpace)
  if !c.sees ' ' then throw .malformed
  let (start, c) ← uri (c.past Cursor.isSpace)
  if endsTag c then return (.tag handle start, c) else throw .malformed

def directiveLine (c : Cursor) : Except Fault (Token × Cursor) := do
  let (name, c) := c.next.span isNameChar
  if name.isEmpty || !endsTag c then throw .malformed
  let (d, c) ←
    if name = "YAML".toList then versionDirective c
    else if name = "TAG".toList then tagDirective c
    else .ok (.other, c.past (!isBreak ·))
  return (.directive d, ← c.emptyLine)

end Token

/-! ### The state of cutting -/

/-- A place where a key may have started, as long as its line goes on. -/
structure Candidate where
  level : Nat
  place : Nat
  required : Bool
  index : Nat
  line : Nat
  column : Nat

structure Lexer where
  cursor : Cursor
  /-- The tokens so far, latest first. -/
  tokens : List Token := []
  count : Nat := 0
  /-- How many brackets are open. -/
  level : Nat := 0
  indent : Int := -1
  outer : List Int := []
  keyAllowed : Bool := true
  candidates : List Candidate := []

namespace Lexer

abbrev Step := Except Fault Lexer

def push (t : Token) (s : Lexer) : Lexer :=
  { s with tokens := t :: s.tokens, count := s.count + 1 }

/-- Puts a token at a place among those there are. -/
def insert (place : Nat) (t : Token) (s : Lexer) : Lexer :=
  let later := s.tokens.take (s.count - place)
  { s with tokens := later ++ t :: s.tokens.drop (s.count - place), count := s.count + 1 }

/-- Skips one character behind `t`. -/
def pushSign (t : Token) (s : Lexer) : Lexer :=
  { s.push t with cursor := s.cursor.next }

/-- Keys do not go on over lines or over more than so many characters. -/
def maxKeyLength : Nat := 1024

def isStale (c : Cursor) (k : Candidate) : Bool :=
  k.line ≠ c.line || maxKeyLength < c.index - k.index

/-- Forgets the places of keys that can no longer be keys. -/
def dropStale (s : Lexer) : Step :=
  let (stale, kept) := s.candidates.partition (isStale s.cursor)
  if stale.any (·.required) then .error .malformed else .ok { s with candidates := kept }

/-- Forgets the place of a key inside the innermost brackets. -/
def dropCandidate (s : Lexer) : Step :=
  let (here, kept) := s.candidates.partition (·.level = s.level)
  if here.any (·.required) then .error .malformed else .ok { s with candidates := kept }

/-- Remembers that a key may start here. -/
def markCandidate (s : Lexer) : Step :=
  if s.keyAllowed then do
    let c := s.cursor
    let required := s.level = 0 && s.indent = (c.column : Int)
    let s ← s.dropCandidate
    return { s with candidates := ⟨s.level, s.count, required, c.index, c.line, c.column⟩
      :: s.candidates }
  else .ok s

/-- Ends the blocks that are indented deeper than a column. -/
def closeBlocks (column : Int) : List Int → Lexer → Lexer
  | [], s => s
  | i :: rest, s =>
    if column < s.indent then
      closeBlocks column rest { s.push .blockEnd with indent := i, outer := rest }
    else s

def unwind (column : Int) (s : Lexer) : Lexer :=
  if s.level = 0 then closeBlocks column s.outer s else s

/-- Starts a block at a column if it is indented deeper than the one around it. -/
def openBlock (column place : Nat) (start : Token) (s : Lexer) : Lexer :=
  if s.indent < (column : Int) then
    { s.insert place start with indent := column, outer := s.indent :: s.outer }
  else s

/-- Skips blanks, comments and line ends. -/
def skipGap : Nat → Lexer → Lexer
  | 0, s => s
  | n + 1, s =>
    let c := (s.cursor.past Cursor.isSpace).pastComment
    match c.lineBreak? with
    | some (_, d) => skipGap n { s with cursor := d, keyAllowed := s.keyAllowed || s.level = 0 }
    | none => { s with cursor := c }

/-! ### Signs -/

/-- Ends all blocks; no key is pending. -/
def closeAll (s : Lexer) : Step := do
  let s ← (s.unwind (-1)).dropCandidate
  return { s with keyAllowed := false }

def streamEnd (s : Lexer) : Step := do return { (← s.closeAll).push .streamEnd with candidates := [] }

def directiveLine (s : Lexer) : Step := do
  let s ← s.closeAll
  let (t, c) ← Token.directiveLine s.cursor
  return { s.push t with cursor := c }

def separator (t : Token) (s : Lexer) : Step := do
  let s ← s.closeAll
  return { s.push t with cursor := s.cursor.skip 3 }

def flowStart (t : Token) (s : Lexer) : Step := do
  let s ← s.markCandidate
  return { s.pushSign t with level := s.level + 1, keyAllowed := true }

def flowEnd (t : Token) (s : Lexer) : Step := do
  let s ← s.dropCandidate
  return { s.pushSign t with level := s.level - 1, keyAllowed := false }

def flowEntry (s : Lexer) : Step := do
  return { (← s.dropCandidate).pushSign .flowEntry with keyAllowed := true }

/-- An entry, key or value inside a block, which `start` begins; one is refused where no key is
allowed. -/
def openEntry (start : Token) (s : Lexer) : Step :=
  if s.level ≠ 0 then .ok s
  else if s.keyAllowed then .ok (s.openBlock s.cursor.column s.count start)
  else .error .malformed

def blockEntry (s : Lexer) : Step := do
  let s ← (← s.openEntry .blockSequenceStart).dropCandidate
  return { s.pushSign .blockEntry with keyAllowed := true }

def explicitKey (s : Lexer) : Step := do
  let s ← (← s.openEntry .blockMappingStart).dropCandidate
  return { s.pushSign .key with keyAllowed := s.level = 0 }

/-- A colon makes a key of what may be one before it. -/
def valueSign (s : Lexer) : Step :=
  match s.candidates.find? (·.level = s.level) with
  | some k =>
    let s := { s with candidates := s.candidates.filter (·.level ≠ s.level) }
    let s := s.insert k.place .key
    let s := if s.level = 0 then s.openBlock k.column k.place .blockMappingStart else s
    .ok { s.pushSign .value with keyAllowed := false }
  | none => do
    let s ← (← s.openEntry .blockMappingStart).dropCandidate
    return { s.pushSign .value with keyAllowed := s.level = 0 }

/-! ### Content -/

/-- A piece of content that may be or start a key. -/
def content (read : Cursor → Except Fault (Token × Cursor)) (s : Lexer) : Step := do
  let s ← s.markCandidate
  let (t, c) ← read s.cursor
  return { s.push t with cursor := c, keyAllowed := false }

def named (make : Text → Token) (c : Cursor) : Except Fault (Token × Cursor) :=
  (Token.anchorName c).map fun (name, d) => (make name, d)

def quotedToken (quote : Char) (c : Cursor) : Except Fault (Token × Cursor) :=
  (quotedScalar quote c).map fun (t, d) => (.scalar false t, d)

def block (folded : Bool) (s : Lexer) : Step := do
  let s ← s.dropCandidate
  let (t, c) ← blockScalar folded s.indent s.cursor
  return { s.push (.scalar false t) with cursor := c, keyAllowed := true }

def plain (s : Lexer) : Step := do
  let s ← s.markCandidate
  let (p, c) := plainScalar (s.level ≠ 0) (s.indent + 1) s.cursor
  return { s.push (.scalar true p.text) with cursor := c, keyAllowed := p.atLineStart }

def indicators : List Char := "-?:,[]\x7b\x7d#&*!|>'\"%@`".toList

/-- Whether a plain scalar starts with `x`, which `y` follows. -/
def startsPlain (flow : Bool) (x : Char) (y : Option Char) : Bool :=
  (!isGap (some x) && !indicators.contains x)
    || (!isGap y && (x = '-' || (!flow && (x = '?' || x = ':'))))

/-- Cuts the token that starts with `x`. -/
def token (x : Char) (s : Lexer) : Step :=
  let c := s.cursor
  let flow := s.level ≠ 0
  let gap := isGap (c.peek 1)
  if x = '%' && c.column = 0 then s.directiveLine
  else if c.column = 0 && c.seesSeparator '-' then s.separator .documentStart
  else if c.column = 0 && c.seesSeparator '.' then s.separator .documentEnd
  else if x = '[' then s.flowStart .flowSequenceStart
  else if x = '{' then s.flowStart .flowMappingStart
  else if x = ']' then s.flowEnd .flowSequenceEnd
  else if x = '}' then s.flowEnd .flowMappingEnd
  else if x = ',' then s.flowEntry
  else if x = '-' && gap then s.blockEntry
  else if x = '?' && (flow || gap) then s.explicitKey
  else if x = ':' && (flow || gap) then s.valueSign
  else if x = '*' then s.content (named .reference)
  else if x = '&' then s.content (named .anchor)
  else if x = '!' then s.content Token.tagToken
  else if x = '|' && !flow then s.block false
  else if x = '>' && !flow then s.block true
  else if x = '\'' || x = '"' then s.content (quotedToken x)
  else if startsPlain flow x (c.peek 1) then s.plain
  else .error .malformed

/-- What was cut before the end or before a fault. -/
structure Stream where
  tokens : List Token
  fault : Option Fault

def finish (s : Lexer) (fault : Option Fault) : Stream := ⟨s.tokens.reverse, fault⟩

def run : Nat → Lexer → Stream
  | 0, s => s.finish (some .malformed)
  | n + 1, s =>
    let s := s.skipGap (s.cursor.rest.length + 1)
    match s.dropStale with
    | .error e => s.finish (some e)
    | .ok s =>
      let s := s.unwind s.cursor.column
      match s.cursor.rest with
      | [] =>
        match s.streamEnd with
        | .ok s => s.finish none
        | .error e => s.finish (some e)
      | x :: _ =>
        match s.token x with
        | .ok s => run n s
        | .error e => s.finish (some e)

end Lexer

/-- A byte order mark at the start counts for nothing. -/
def withoutMark (cs : List Char) : List Char :=
  match cs with
  | '\ufeff' :: rest => rest
  | _ => cs

/-- The tokens of a text with unified line ends. -/
def Lexer.stream (cs : List Char) : Lexer.Stream :=
  if cs.all isAllowed then
    Lexer.run (cs.length + 2) { cursor := Cursor.ofChars (withoutMark cs) }
  else ⟨[], some .malformed⟩

end BodyDigest.Yaml
