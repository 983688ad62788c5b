import BodyDigest.Indented.Lexer
import BodyDigest.Indented.Syntax

/-!
Pieces of formatted literals: literal text up to a brace, and the text of a field's expression up
to the sign that ends it.
-/
namespace BodyDigest.Indented.Field

inductive Stop where
  | doubledBrace
  | brace
  deriving DecidableEq

/-- Where a scan of literal text stands: in plain text, or inside the braces of a named
character. -/
inductive Mode where
  | plain
  | naming

/-- Literal text up to a field, to the end of the enclosing format, or to a doubled brace, of which
the first stays with the text. Escapes count unless `raw`; doubled braces only outside formats. -/
def literalRun (raw inFormat : Bool) (mode : Mode) :
    List Char → Option (List Char × Stop × List Char)
  | [] => some ([], .brace, [])
  | c :: rest =>
    let keep (mode : Mode) := (literalRun raw inFormat mode rest).map
      fun (t, s, r) => (c :: t, s, r)
    match mode with
    | .naming => keep (if c = '\x7d' then .plain else .naming)
    | .plain =>
      if !raw && c = '\\' then
        match rest with
        | [] => some ([c], .brace, [])
        | 'N' :: d :: more =>
          (literalRun raw inFormat (if d = '\x7b' then .naming else .plain) more).map
            fun (t, s, r) => (c :: 'N' :: d :: t, s, r)
        | d :: more =>
          if d = '\x7b' || d = '\x7d' then keep .plain
          else (literalRun raw inFormat .plain more).map fun (t, s, r) => (c :: d :: t, s, r)
      else if c = '\x7b' || c = '\x7d' then
        if inFormat then some ([], .brace, c :: rest)
        else match rest with
          | d :: more =>
            if d = c then some ([c], .doubledBrace, more)
            else if c = '\x7d' then none
            else some ([], .brace, c :: rest)
          | [] => if c = '\x7d' then none else some ([], .brace, c :: rest)
      else keep .plain

/-- The quote that a text inside an expression ends with, once or three times. -/
structure Quote where
  mark : Char
  long : Bool

/-- The text of an expression up to the sign that ends it outside brackets; the rest starts with
that sign. No backslash or comment may occur. -/
def expressionRun (quote : Option Quote) (brackets : List Char) :
    List Char → Option (List Char × List Char)
  | [] => none
  | c :: rest =>
    let keep (quote : Option Quote) (brackets : List Char) :=
      (expressionRun quote brackets rest).map fun (t, r) => (c :: t, r)
    if c = '\\' then none
    else match quote with
    | some q =>
      if c ≠ q.mark then keep quote brackets
      else if !q.long then keep none brackets
      else match rest with
        | d :: e :: more =>
          if d = c && e = c then
            (expressionRun none brackets more).map fun (t, r) => (c :: d :: e :: t, r)
          else keep quote brackets
        | _ => keep quote brackets
    | none =>
      if c = '"' || c = '\'' then
        match rest with
        | d :: e :: more =>
          if d = c && e = c then
            (expressionRun (some ⟨c, true⟩) brackets more).map fun (t, r) => (c :: d :: e :: t, r)
          else keep (some ⟨c, false⟩) brackets
        | _ => keep (some ⟨c, false⟩) brackets
      else if c = '(' || c = '[' || c = '\x7b' then
        if Lexer.maxBrackets ≤ brackets.length then none
        else keep none ((Lexer.closerOf? (String.singleton c)).toList ++ brackets)
      else if c = '#' then none
      else if brackets.isEmpty && ['!', ':', '\x7d', '=', '<', '>'].contains c then
        match rest with
        | d :: more =>
          if d = '=' && ['!', '=', '<', '>'].contains c then
            (expressionRun none brackets more).map fun (t, r) => (c :: d :: t, r)
          else if c = '<' || c = '>' then keep none brackets
          else some ([], c :: rest)
        | [] => if c = '<' || c = '>' then keep none brackets else some ([], c :: rest)
      else if c = ')' || c = ']' || c = '\x7d' then
        match brackets with
        | top :: outer => if top = c then keep none outer else none
        | [] => none
      else keep none brackets

/-- Whether nothing but blanks that the lexer skips stands in a field. -/
def isVacant (cs : List Char) : Bool :=
  cs.all fun c => c = ' ' || c = '\t' || c = '\n' || c = '\x0c'

/-- Puts neighbouring literal parts together and leaves out empty ones. -/
def mergeLiterals : List Part → List Part
  | [] => []
  | .literal t :: rest =>
    match mergeLiterals rest with
    | .literal u :: others => .literal (t ++ u) :: others
    | others => if t.isEmpty then others else .literal t :: others
  | p :: rest => p :: mergeLiterals rest

end BodyDigest.Indented.Field
