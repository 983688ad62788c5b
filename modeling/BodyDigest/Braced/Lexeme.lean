import BodyDigest.Text.Basic
import BodyDigest.Text.Word

/-!
Lexemes of languages with braces. Every text is cut into lexemes without a gap: comments, literals,
numbers, words, operators, runs of blanks, and single signs for all else, such as the quote of a
literal that does not end. Tokens are the lexemes other than comments and blanks.
-/
namespace BodyDigest.Braced

inductive Kind where
  | comment | literal | number | word | operator | blank | sign
  deriving DecidableEq

structure Lexeme where
  kind : Kind
  text : Text
  deriving DecidableEq

namespace Lexeme

def isLineEnd (c : CodePoint) : Bool := c = .char '\r' || c = .char '\n'

/-- How many code points `t` has up to the end of the first `pattern`. -/
def upTo? (pattern t : Text) : Option Nat :=
  (cutAt? pattern t).map fun (before, _) => before.length + pattern.length

def comment? : Text → Option Nat
  | .char '/' :: .char '/' :: rest => some (2 + (rest.takeWhile (!isLineEnd ·)).length)
  | .char '/' :: .char '*' :: rest => (upTo? "*/" rest).map (2 + ·)
  | _ => none

/-- A literal between three quotes. -/
def longLiteral? : Text → Option Nat
  | .char '"' :: .char '"' :: .char '"' :: rest => (upTo? "\"\"\"" rest).map (3 + ·)
  | _ => none

/-- The end of a literal in which a quote is written twice, behind `n` code points. Where no quote
ends it, the first half of the last doubled quote does. -/
def verbatimEnd? (n : Nat) (last : Option Nat) : Text → Option Nat
  | [] => last
  | .char '"' :: .char '"' :: rest => verbatimEnd? (n + 2) (some (n + 1)) rest
  | .char '"' :: _ => some (n + 1)
  | _ :: rest => verbatimEnd? (n + 1) last rest

/-- A literal with an at sign among its dollar signs. -/
def verbatimLiteral? (t : Text) : Option Nat :=
  let dollars := t.takeWhile (· = .char '$')
  match t.drop dollars.length with
  | .char '@' :: rest =>
    let more := rest.takeWhile (· = .char '$')
    match rest.drop more.length with
    | .char '"' :: body => verbatimEnd? (dollars.length + more.length + 2) none body
    | _ => none
  | _ => none

/-- The end of a literal on one line with backslash escapes, behind `n` code points. -/
def shortEnd? (quote : CodePoint) (n : Nat) : Text → Option Nat
  | [] => none
  | .char '\\' :: _ :: rest => shortEnd? quote (n + 2) rest
  | c :: rest =>
    if c = quote then some (n + 1)
    else if isLineEnd c || c = .char '\\' then none
    else shortEnd? quote (n + 1) rest

def shortLiteral? (t : Text) : Option Nat :=
  match t with
  | .char '\'' :: rest => shortEnd? (.char '\'') 1 rest
  | _ =>
    let dollars := t.takeWhile (· = .char '$')
    match t.drop dollars.length with
    | .char '"' :: rest => shortEnd? (.char '"') (dollars.length + 1) rest
    | _ => none

def literal? (t : Text) : Option Nat :=
  (longLiteral? t).or ((verbatimLiteral? t).or (shortLiteral? t))

def digits (t : Text) : Nat := (t.takeWhile CodePoint.isDecimal).length

/-- A point and digits. -/
def fractionLength : Text → Nat
  | .char '.' :: rest => if digits rest = 0 then 0 else 1 + digits rest
  | _ => 0

def exponentLength : Text → Nat
  | e :: rest =>
    if e = .char 'e' || e = .char 'E' then
      let sign := (rest.take 1).takeWhile fun c => c = .char '+' || c = .char '-'
      let ds := digits (rest.drop sign.length)
      if ds = 0 then 0 else 1 + sign.length + ds
    else 0
  | [] => 0

def number? (t : Text) : Option Nat :=
  let whole := digits t
  if whole = 0 then none
  else
    let n := whole + fractionLength (t.drop whole)
    let n := n + exponentLength (t.drop n)
    some (n + ((t.drop n).takeWhile CodePoint.isWord).length)

def startsWord (c : CodePoint) : Bool := c.isWord && !c.isDecimal

def continuesWord (c : CodePoint) : Bool := c.isWord || c = .char '$'

def word? : Text → Option Nat
  | .char '@' :: c :: rest =>
    if startsWord c then some (2 + (rest.takeWhile continuesWord).length) else none
  | c :: rest =>
    if startsWord c then some (1 + (rest.takeWhile continuesWord).length)
    else if c = .char '$' then some 1
    else none
  | [] => none

/-- Operators of more than one sign, the first that fits counts. -/
def operators : List Text :=
  ["<<=", "??=", "...", "->", "=>", "==", "!=", "<=", "&&", "||", "??", "::", "++", "--", "+=",
    "-=", "*=", "/=", "%=", "&=", "|=", "^=", "<<", ".."]

def operator? (t : Text) : Option Nat := (operators.find? (·.isPrefixOf t)).map (·.length)

def blank? (t : Text) : Option Nat :=
  let n := (t.takeWhile CodePoint.isBlank).length
  if n = 0 then none else some n

/-- Kind and length of the lexeme at the start of a text. -/
def measure (t : Text) : Kind × Nat :=
  match comment? t with
  | some n => (.comment, n)
  | none => match literal? t with
    | some n => (.literal, n)
    | none => match number? t with
      | some n => (.number, n)
      | none => match word? t with
        | some n => (.word, n)
        | none => match operator? t with
          | some n => (.operator, n)
          | none => match blank? t with
            | some n => (.blank, n)
            | none => (.sign, 1)

/-- All lexemes of a text; each takes one code point at least. -/
def ofText : Text → List Lexeme
  | [] => []
  | c :: rest =>
    let (kind, n) := measure (c :: rest)
    ⟨kind, c :: rest.take (n - 1)⟩ :: ofText (rest.drop (n - 1))
  termination_by t => t.length
  decreasing_by
    simp only [List.length_cons, List.length_drop]
    omega

def isToken (l : Lexeme) : Bool := l.kind != .comment && l.kind != .blank

/-- The lexemes of a text make up the text. -/
theorem flatMap_ofText (t : Text) : (ofText t).flatMap (·.text) = t := by
  fun_induction ofText t with
  | case1 => rfl
  | case2 c rest kind n h ih => simp [List.flatMap_cons, ih]

end Lexeme

/-- The tokens of a text. -/
def tokens (t : Text) : List Text := ((Lexeme.ofText t).filter Lexeme.isToken).map (·.text)

end BodyDigest.Braced
