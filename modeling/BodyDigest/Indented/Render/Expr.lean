import BodyDigest.Indented.Operator
import BodyDigest.Indented.Render.Literal

/-!
Canonical text of expressions. Each expression is written for a level of binding strength, and is
put between parentheses when its own level is lower.
-/
namespace BodyDigest.Indented

namespace Render

def parenthesized (t : Text) : Text := .char '(' :: t ++ [.char ')']

def parenthesizedIf (condition : Bool) (t : Text) : Text :=
  if condition then parenthesized t else t

def bracketed (t : Text) : Text := .char '[' :: t ++ [.char ']']

def braced (t : Text) : Text := .char '\x7b' :: t ++ [.char '\x7d']

def commaSeparated (parts : List Text) : Text := Text.join ", " parts

/-- Parts separated by commas; a single one is followed by a comma. -/
def tupleElements : List Text → Text
  | [one] => one ++ ","
  | parts => commaSeparated parts

def around : Enclosure → Text → Text
  | .list => bracketed
  | .set => braced
  | .generator => parenthesized

/-- Whether a point directly behind the constant would be read as part of it. -/
def isIntegral : Expr → Bool
  | .constant (.integer _) => true
  | .constant (.bool _) => true
  | _ => false

/-- Literal text of a formatted literal, its braces doubled. -/
def doubledBraces (t : Text) : Text :=
  t.flatMap fun c => if c = .char '\x7b' || c = .char '\x7d' then [c, c] else [c]

/-- A field around the text of its expression. -/
def field (value : Text) (conversion : Option Char) (format : Text) : Except RenderError Text :=
  if value.contains (.char '\\') then .error .backslashInField
  else
    let gap : Text := if value.head? = some (.char '\x7b') then " " else []
    let converted : Text := match conversion with
      | some c => [.char '!', .char c]
      | none => []
    .ok (braced (gap ++ value ++ converted ++ format))

def defaulted (shown : Text) : Option Text → Text
  | none => shown
  | some value => shown ++ "=" ++ value

/-- Parameters from their texts; a slash follows the positional ones, a star precedes those given
by name only. -/
def parameters (positional regular : List Text) (rest : Option Text) (keywordOnly : List Text)
    (keywords : Option Text) : Text :=
  let slash : List Text := if positional.isEmpty then [] else ["/"]
  let star : List Text := match rest with
    | some r => [.char '*' :: r]
    | none => if keywordOnly.isEmpty then [] else ["*"]
  let double : List Text := match keywords with
    | some k => [("**" : Text) ++ k]
    | none => []
  commaSeparated (positional ++ slash ++ regular ++ star ++ keywordOnly ++ double)

mutual

/-- Text of an expression that binds at least as strongly as `level`. -/
def expr (inField : Bool) (level : Level) : Expr → Except RenderError Text
  | .constant c => constant inField c
  | .name id => .ok id
  | .named target value => do
    let t ← expr inField Level.atom target
    let v ← expr inField Level.atom value
    return parenthesizedIf (Level.named < level) (t ++ " := " ++ v)
  | .boolean op values => do
    let vs ← rising inField (Level.next op.level) values
    return parenthesizedIf (op.level < level) (Text.join op.symbol vs)
  | .binary left op right => do
    let l ← expr inField op.leftLevel left
    let r ← expr inField op.rightLevel right
    return parenthesizedIf (op.level < level) (l ++ " " ++ op.symbol ++ " " ++ r)
  | .unary op operand => do
    let e ← expr inField op.level operand
    return parenthesizedIf (op.level < level) (op.symbol ++ e)
  | .lambda ps body => do
    let shown ← params inField ps
    let gap : Text := if shown.isEmpty then [] else " "
    let b ← expr inField Level.test body
    return parenthesizedIf (Level.test < level) (("lambda" : Text) ++ gap ++ shown ++ ": " ++ b)
  | .conditional test body otherwise => do
    let b ← expr inField (Level.next Level.test) body
    let t ← expr inField (Level.next Level.test) test
    let o ← expr inField Level.test otherwise
    return parenthesizedIf (Level.test < level) (b ++ " if " ++ t ++ " else " ++ o)
  | .dict entries => return braced (commaSeparated (← items inField entries))
  | .set [] => return braced "*()"
  | .set elements => return braced (commaSeparated (← exprs inField Level.test elements))
  | .list elements => return bracketed (commaSeparated (← exprs inField Level.test elements))
  | .tuple elements => do
    let es ← exprs inField Level.test elements
    return parenthesizedIf (elements.isEmpty || Level.tuple < level) (tupleElements es)
  | .comprehension enclosure element cs => do
    let e ← expr inField Level.test element
    return around enclosure (e ++ (← clauses inField cs))
  | .dictComprehension key value cs => do
    let k ← expr inField Level.test key
    let v ← expr inField Level.test value
    return braced (k ++ ": " ++ v ++ (← clauses inField cs))
  | .await value => do
    let v ← expr inField Level.atom value
    return parenthesizedIf (Level.await < level) (("await " : Text) ++ v)
  | .yield none => return parenthesizedIf (Level.yield < level) "yield"
  | .yield (some value) => do
    let v ← expr inField Level.atom value
    return parenthesizedIf (Level.yield < level) (("yield " : Text) ++ v)
  | .yieldFrom value => do
    let v ← expr inField Level.atom value
    return parenthesizedIf (Level.yield < level) (("yield from " : Text) ++ v)
  | .compare left rest => do
    let l ← expr inField (Level.next Level.compare) left
    return parenthesizedIf (Level.compare < level) (l ++ (← comparisons inField rest))
  | .call function arguments named => do
    let f ← expr inField Level.atom function
    let as ← exprs inField Level.test arguments
    let ks ← keywords inField named
    return f ++ parenthesized (commaSeparated (as ++ ks))
  | .joined ps => do
    let texts ← parts ps
    if inField then return .char 'f' :: sparingLiteral allQuotes (texts.flatMap (·.1))
    else return .char 'f' :: formattedLiteral texts
  | .attribute value name => do
    let v ← expr inField Level.atom value
    return v ++ (if isIntegral value then " ." else ".") ++ name
  | .subscript value (.tuple (e :: es)) => do
    let v ← expr inField Level.atom value
    let first ← expr inField Level.test e
    let others ← exprs inField Level.test es
    return v ++ bracketed (tupleElements (first :: others))
  | .subscript value index => do
    let v ← expr inField Level.atom value
    return v ++ bracketed (← expr inField Level.test index)
  | .slice lower upper step => do
    let l ← optional inField lower
    let u ← optional inField upper
    let s ← optional inField step
    let tail : Text := match s with
      | some s => .char ':' :: s
      | none => []
    return l.getD [] ++ ":" ++ u.getD [] ++ tail
  | .starred value => return .char '*' :: (← expr inField Level.bitOr value)

def optional (inField : Bool) : Option Expr → Except RenderError (Option Text)
  | none => .ok none
  | some e => return some (← expr inField Level.test e)

def exprs (inField : Bool) (level : Level) : List Expr → Except RenderError (List Text)
  | [] => .ok []
  | e :: rest => return (← expr inField level e) :: (← exprs inField level rest)

/-- Each operand of a chain is written for a level above that of the operand before. -/
def rising (inField : Bool) (level : Level) : List Expr → Except RenderError (List Text)
  | [] => .ok []
  | e :: rest => return (← expr inField level e) :: (← rising inField (Level.next level) rest)

def items (inField : Bool) : List Item → Except RenderError (List Text)
  | [] => .ok []
  | .pair key value :: rest => do
    let k ← expr inField Level.test key
    let v ← expr inField Level.test value
    return (k ++ ": " ++ v) :: (← items inField rest)
  | .unpack value :: rest => do
    let v ← expr inField Level.bitOr value
    return (("**" : Text) ++ v) :: (← items inField rest)

def clauses (inField : Bool) : List Clause → Except RenderError Text
  | [] => .ok []
  | .mk async target iterable conditions :: rest => do
    let t ← expr inField Level.tuple target
    let i ← expr inField (Level.next Level.test) iterable
    let cs ← exprs inField (Level.next Level.test) conditions
    let lead : Text := if async then " async for " else " for "
    return lead ++ t ++ " in " ++ i ++ cs.flatMap (fun c => (" if " : Text) ++ c)
      ++ (← clauses inField rest)

def comparisons (inField : Bool) : List Comparison → Except RenderError Text
  | [] => .ok []
  | .mk op right :: rest => do
    let r ← expr inField (Level.next Level.compare) right
    return op.symbol ++ r ++ (← comparisons inField rest)

def keywords (inField : Bool) : List Keyword → Except RenderError (List Text)
  | [] => .ok []
  | .mk name value :: rest => do
    let v ← expr inField Level.test value
    let lead : Text := match name with
      | some n => n ++ "="
      | none => "**"
    return (lead ++ v) :: (← keywords inField rest)

/-- The parts of a formatted literal, and for each whether it is literal text. -/
def parts : List Part → Except RenderError (List (Text × Bool))
  | [] => .ok []
  | .literal t :: rest => return (doubledBraces t, true) :: (← parts rest)
  | .field value conversion :: rest => do
    let v ← expr true (Level.next Level.test) value
    let f ← field v conversion []
    return (f, false) :: (← parts rest)
  | .formatted value conversion format :: rest => do
    let v ← expr true (Level.next Level.test) value
    let inner ← parts format
    let f ← field v conversion (.char ':' :: inner.flatMap (·.1))
    return (f, false) :: (← parts rest)

def param (inField : Bool) : Param → Except RenderError Text
  | .mk name hint default => do
    let a ← optional inField hint
    let d ← optional inField default
    let shown : Text := match a with
      | some a => name ++ ": " ++ a
      | none => name
    return defaulted shown d

def paramList (inField : Bool) : List Param → Except RenderError (List Text)
  | [] => .ok []
  | p :: rest => return (← param inField p) :: (← paramList inField rest)

def paramOption (inField : Bool) : Option Param → Except RenderError (Option Text)
  | none => .ok none
  | some p => return some (← param inField p)

def params (inField : Bool) : Params → Except RenderError Text
  | .mk positional regular rest keywordOnly keywords => do
    let p ← paramList inField positional
    let r ← paramList inField regular
    let v ← paramOption inField rest
    let k ← paramList inField keywordOnly
    let d ← paramOption inField keywords
    return parameters p r v k d

end

end Render

end BodyDigest.Indented
