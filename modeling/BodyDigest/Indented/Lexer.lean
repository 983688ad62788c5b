import BodyDigest.Text.Basic
import BodyDigest.Text.Lines
import BodyDigest.Text.Identifier
import BodyDigest.Text.Compatible.Basic
import BodyDigest.Indented.Token

/-!
Tokens of Python source. Indentation becomes tokens of its own, line ends inside brackets and
blank lines become none. No tokens are read from a source with an ill-formed one.
-/
namespace BodyDigest.Indented.Lexer

def isNameChar (c : Char) : Bool := c.isAlphanum || c = '_' || 128 ≤ c.toNat

def isNameStart (c : Char) : Bool := isNameChar c && !c.isDigit

/-! ### Numbers -/

/-- Digits in groups joined by single underscores; none when an underscore ends a group that no
digit follows. -/
def digitRun (p : Char → Bool) : List Char → Option (List Char × List Char)
  | [] => some ([], [])
  | '_' :: d :: rest =>
    if p d then (digitRun p rest).map fun (taken, r) => ('_' :: d :: taken, r) else none
  | c :: rest =>
    if p c then (digitRun p rest).map fun (taken, r) => (c :: taken, r)
    else if c = '_' then none
    else some ([], c :: rest)

/-- Words that may follow a number without a gap. -/
def wordsAfterNumber : List (List Char) :=
  ["and", "else", "for", "if", "in", "is", "or", "not"].map String.toList

def mayFollowNumber (rest : List Char) : Bool :=
  match rest with
  | [] => true
  | c :: _ => !isNameChar c || wordsAfterNumber.any fun w => w.isPrefixOf rest

def digitValue (c : Char) : Nat :=
  if c.isDigit then c.toNat - 48 else if c.isLower then c.toNat - 87 else c.toNat - 55

def valueIn (base : Nat) (ds : List Char) : Nat :=
  (ds.filter (· ≠ '_')).foldl (fun n c => n * base + digitValue c) 0

def isHexDigit (c : Char) : Bool :=
  c.isDigit || ('a' ≤ c && c ≤ 'f') || ('A' ≤ c && c ≤ 'F')

/-- An integer in another base, after its two first characters. -/
def based (base : Nat) (p : Char → Bool) (lead rest : List Char) :
    Option (Number × List Char × List Char) :=
  match digitRun p rest with
  | some (d :: ds, r) =>
    if mayFollowNumber r then some (.integer (valueIn base (d :: ds)), lead ++ d :: ds, r) else none
  | _ => none

/-- The exponent of a number: its text, its value and what follows. -/
def exponent (cs : List Char) : Option (List Char × Int × List Char) :=
  match cs with
  | e :: rest =>
    if e = 'e' || e = 'E' then
      match rest with
      | [] => some ([], 0, cs)
      | s :: more =>
        if s = '+' || s = '-' then
          match digitRun Char.isDigit more with
          | some (d :: ds, r) =>
            if d = '_' then none
            else
              let n : Int := valueIn 10 (d :: ds)
              some (e :: s :: d :: ds, if s = '-' then -n else n, r)
          | _ => none
        else if s.isDigit then
          (digitRun Char.isDigit rest).map fun (ds, r) => (e :: ds, (valueIn 10 ds : Int), r)
        else some ([], 0, cs)
    else some ([], 0, cs)
  | [] => some ([], 0, [])

/-- The point and digits behind the whole part of a number. -/
def fraction (cs : List Char) : Option (List Char × List Char) :=
  match cs with
  | '.' :: rest =>
    match rest with
    | d :: _ =>
      if d.isDigit then (digitRun Char.isDigit rest).map fun (ds, r) => ('.' :: ds, r)
      else some (['.'], rest)
    | [] => some (['.'], [])
  | _ => some ([], cs)

/-- Longer integers are refused. -/
def maxIntegerDigits : Nat := 4300

def decimal (cs : List Char) : Option (Number × List Char × List Char) := do
  let (whole, r) ← digitRun Char.isDigit cs
  let (frac, r) ← fraction r
  let (power, e, r) ← exponent r
  let digits := (whole ++ frac.drop 1).filter (· ≠ '_')
  let places := ((frac.drop 1).filter (· ≠ '_')).length
  let taken := whole ++ frac ++ power
  let value := Binary64.ofDecimal (valueIn 10 digits) (e - places)
  match r with
  | 'j' :: r | 'J' :: r =>
    if mayFollowNumber r then
      some (.imaginary value, taken ++ (cs.drop taken.length).take 1, r)
    else none
  | _ =>
    if !mayFollowNumber r then none
    else if !frac.isEmpty || !power.isEmpty then some (.real value, taken, r)
    else if maxIntegerDigits < digits.length then none
    else if digits.head? = some '0' && digits.any (· ≠ '0') then none
    else some (.integer (valueIn 10 digits), taken, r)

/-- A number at the start of `cs`, its text, and what follows. -/
def number (cs : List Char) : Option (Number × List Char × List Char) :=
  match cs with
  | '0' :: x :: rest =>
    if x = 'x' || x = 'X' then based 16 isHexDigit ['0', x] rest
    else if x = 'o' || x = 'O' then based 8 (fun c => '0' ≤ c && c ≤ '7') ['0', x] rest
    else if x = 'b' || x = 'B' then based 2 (fun c => c = '0' || c = '1') ['0', x] rest
    else decimal cs
  | _ => decimal cs

/-! ### Literals of text and octets -/

/-- What stands before the closing quote, and what follows it. -/
def shortBody (quote : Char) : List Char → Option (List Char × List Char)
  | [] => none
  | '\\' :: c :: rest => (shortBody quote rest).map fun (b, r) => ('\\' :: c :: b, r)
  | c :: rest =>
    if c = quote then some ([], rest)
    else if c = '\n' then none
    else (shortBody quote rest).map fun (b, r) => (c :: b, r)

/-- What stands before the three closing quotes, and what follows them. -/
def longBody (quote : Char) : List Char → Option (List Char × List Char)
  | [] => none
  | '\\' :: c :: rest => (longBody quote rest).map fun (b, r) => ('\\' :: c :: b, r)
  | c :: rest =>
    if [quote, quote, quote].isPrefixOf (c :: rest) then some ([], rest.drop 2)
    else (longBody quote rest).map fun (b, r) => (c :: b, r)

/-- A literal at its first quote: what stands between the quotes, the quotes, and the rest. -/
def literal (quote : Char) (cs : List Char) : Option (List Char × List Char × List Char) :=
  if [quote, quote, quote].isPrefixOf cs then
    (longBody quote (cs.drop 3)).map fun (b, r) => (b, [quote, quote, quote], r)
  else (shortBody quote (cs.drop 1)).map fun (b, r) => (b, [quote], r)

/-- The marks that may stand before a quote, in small letters. -/
def marksBeforeQuote : List (List Char) :=
  ["", "b", "u", "r", "f", "br", "rb", "fr", "rf"].map String.toList

/-! ### Names and operators -/

/-- A name in its composed form; none for characters that no identifier has. -/
def nameLexeme (cs : List Char) : Option Lexeme :=
  if cs.all (·.toNat < 128) then
    let word := String.ofList cs
    if keywords.contains word then some (.keyword word)
    else if softKeywords.contains word then some (.soft word)
    else some (.name word)
  else
    let t := Text.ofChars cs
    if t.isIdentifier then
      some (.name (String.ofList ((Text.compatible t).filterMap CodePoint.char?)))
    else none

/-- Operators, longer ones before their beginnings. -/
def operators : List (List Char) :=
  ["**=", "...", "//=", "<<=", ">>=",
    "!=", "%=", "&=", "**", "*=", "+=", "-=", "->", "//", "/=", ":=", "<<", "<=", "==", ">=", ">>",
    "@=", "^=", "|=",
    "%", "&", "(", ")", "*", "+", ",", "-", ".", "/", ":", ";", "<", "=", ">", "@", "[", "]", "^",
    "\x7b", "|", "\x7d", "~"].map String.toList

def operator (cs : List Char) : Option (Lexeme × List Char × List Char) :=
  (operators.find? (·.isPrefixOf cs)).map fun o =>
    (.op (String.ofList o), o, cs.drop o.length)

/-- The lexeme at the start of `cs`, its text, and what follows. -/
def lexeme (cs : List Char) : Option (Lexeme × List Char × List Char) :=
  match cs with
  | [] => none
  | c :: rest =>
    if isNameStart c || c = '"' || c = '\'' then
      let word := cs.takeWhile isNameChar
      let after := cs.dropWhile isNameChar
      let marks := word.map Char.toLower
      match after with
      | q :: _ =>
        if (q = '"' || q = '\'') && marksBeforeQuote.contains marks then
          (literal q after).map fun (body, quotes, r) =>
            (.literal word body, word ++ quotes ++ body ++ quotes, r)
        else (nameLexeme word).map fun l => (l, word, after)
      | [] => (nameLexeme word).map fun l => (l, word, after)
    else if c.isDigit || (c = '.' && (rest.head?.any Char.isDigit)) then
      (number cs).map fun (n, taken, r) => (.number n, taken, r)
    else operator cs

/-! ### Lines and brackets -/

/-- The width of an indentation with tabs to multiples of eight, and with tabs of one. -/
structure Width where
  wide : Nat
  narrow : Nat
  deriving DecidableEq

/-- What a lexer has in front of it, and the blocks and brackets that are open, innermost first;
of a bracket it keeps the one that closes it. -/
structure State where
  rest : List Char
  pos : Pos
  blocks : List Width
  brackets : List Char

/-- Reads the indentation of a line. A line joined to the next one by a backslash has the width
before its backslash, kept in `joined`. -/
def indentation (w joined : Width) (pos : Pos) : List Char → Option (Width × Pos × List Char)
  | ' ' :: rest => indentation ⟨w.wide + 1, w.narrow + 1⟩ joined (pos.after ' ') rest
  | '\t' :: rest =>
    indentation ⟨(w.wide / 8 + 1) * 8, w.narrow + 1⟩ joined (pos.after '\t') rest
  | '\x0c' :: rest => indentation ⟨0, 0⟩ joined (pos.after '\x0c') rest
  | '\\' :: '\n' :: rest =>
    if rest.isEmpty then none
    else
      let kept := if joined.wide = 0 then w.wide else joined.wide
      indentation w ⟨kept, kept⟩ (pos.after '\n') rest
  | '\\' :: _ => none
  | rest => some (if joined.wide = 0 then w else joined, pos, rest)

/-- Deeper blocks are refused. -/
def maxBlocks : Nat := 99

/-- Closes the blocks that are wider than the line. -/
def closeBlocks (w : Width) : List Width → Nat × List Width
  | b :: outer => if w.wide < b.wide then ((closeBlocks w outer).1 + 1, (closeBlocks w outer).2)
    else (0, b :: outer)
  | [] => (0, [])

/-- The tokens that a line's width calls for, and the blocks then open; none when it fits no open
block, or when the two measures disagree. -/
def settle (w : Width) (blocks : List Width) : Option (List Lexeme × List Width) :=
  let top := blocks.headD ⟨0, 0⟩
  if w.wide = top.wide then if w.narrow = top.narrow then some ([], blocks) else none
  else if top.wide < w.wide then
    if top.narrow < w.narrow && blocks.length ≤ maxBlocks then some ([.indent], w :: blocks)
    else none
  else
    let (count, left) := closeBlocks w blocks
    let top := left.headD ⟨0, 0⟩
    if w = top then some (List.replicate count .dedent, left) else none

/-- Deeper brackets are refused. -/
def maxBrackets : Nat := 200

def closerOf? : String → Option Char
  | "(" => some ')'
  | "[" => some ']'
  | "\x7b" => some '\x7d'
  | _ => none

def closer? : String → Option Char
  | ")" => some ')'
  | "]" => some ']'
  | "\x7d" => some '\x7d'
  | _ => none

/-- The open brackets behind a lexeme; none when it closes another one than the innermost. -/
def bracketsAfter (open_ : List Char) : Lexeme → Option (List Char)
  | .op s =>
    match closerOf? s, closer? s with
    | some c, _ => if open_.length < maxBrackets then some (c :: open_) else none
    | none, some c =>
      match open_ with
      | top :: outer => if top = c then some outer else none
      | [] => none
    | none, none => some open_
  | _ => some open_

/-- The tokens from a state on, put before `done` in reverse. -/
def run : Nat → Bool → State → List Token → Option (List Token)
  | 0, _, _, _ => none
  | fuel + 1, lineStart, s, done =>
    if lineStart then do
      let (w, pos, rest) ← indentation ⟨0, 0⟩ ⟨0, 0⟩ s.pos s.rest
      match rest with
      | [] =>
        let ends := List.replicate (s.blocks.length - 1) (⟨.dedent, ⟨pos, pos⟩⟩ : Token)
        some (done.reverse ++ ends)
      | c :: _ =>
        if c = '#' || c = '\n' then
          run fuel true { s with
            rest := (rest.dropWhile (· ≠ '\n')).drop 1, pos := ⟨pos.line + 1, 0⟩ } done
        else
          let (marks, blocks) ← settle w s.blocks
          run fuel false { s with rest := rest, pos := pos, blocks := blocks }
            (marks.map (fun m => (⟨m, ⟨pos, pos⟩⟩ : Token)) ++ done)
    else
      match s.rest with
      | [] => none
      | c :: rest =>
        if c = ' ' || c = '\t' || c = '\x0c' then
          run fuel false { s with rest := rest, pos := s.pos.after c } done
        else if c = '#' then
          run fuel false { s with rest := rest.dropWhile (· ≠ '\n') } done
        else if c = '\n' then
          if s.brackets.isEmpty then
            run fuel true { s with rest := rest, pos := s.pos.after c }
              (⟨.newline, ⟨s.pos, s.pos⟩⟩ :: done)
          else run fuel false { s with rest := rest, pos := s.pos.after c } done
        else if c = '\\' then
          match rest with
          | '\n' :: d :: more =>
            run fuel false { s with rest := d :: more, pos := s.pos.after '\n' } done
          | _ => none
        else do
          let (l, taken, rest) ← lexeme s.rest
          let brackets ← bracketsAfter s.brackets l
          let stop := s.pos.advance taken
          run fuel false { s with rest := rest, pos := stop, brackets := brackets }
            (⟨l, ⟨s.pos, stop⟩⟩ :: done)

/-- Adds a line feed unless the text ends with one or is empty. -/
def closeLastLine (cs : List Char) : List Char :=
  if cs.isEmpty || cs.getLast? = some '\n' then cs else cs ++ ['\n']

/-- All tokens of a source. -/
def tokens (source : List Char) : Option (List Token) :=
  let cs := closeLastLine (Lines.unify source)
  run (2 * cs.length + 2) true ⟨cs, ⟨1, 0⟩, [⟨0, 0⟩], []⟩ []

end BodyDigest.Indented.Lexer
