import BodyDigest.Indented.Escape
import BodyDigest.Indented.Field
import BodyDigest.Indented.Operator
import BodyDigest.Indented.Grammar.Cursor

/-!
Reading expressions. A reader yields the expression with the span that it covers, which leaves out
the parentheses around a lone expression. The readers call one another on ever less fuel; as each
token and each level of binding uses up a bounded part of it, `fuelFor` of the source suffices.
-/
namespace BodyDigest.Indented.Grammar

/-- `body` is the span of the body of a lambda. -/
structure Located where
  expr : Expr
  span : Span
  body : Option Span := none

/-- An expression that covers what was read since `start`. -/
def since (start : Pos) (e : Expr) : Reader Located := do return { expr := e, span := ⟨start, ← behind⟩ }

/-- More than the depth of calls that reading a source of this length can reach. -/
def fuelFor (source : List Char) : Nat := 64 * (source.length + 4)

mutual

/-- What may be assigned to: names, attributes, subscripts, and sequences of targets. -/
def isTarget : Expr → Bool
  | .name _ | .attribute _ _ | .subscript _ _ => true
  | .tuple es => areTargets es
  | .list es => areTargets es
  | .starred (.starred _) => false
  | .starred e => isTarget e
  | _ => false

def areTargets : List Expr → Bool
  | [] => true
  | e :: rest => isTarget e && areTargets rest

end

/-- A target of a type hint or of an assignment with an operator. -/
def isSingleTarget : Expr → Bool
  | .name _ | .attribute _ _ | .subscript _ _ => true
  | _ => false

def compareOp? : Reader (Option CompareOp) := do
  match ← peek with
  | some (.op s) =>
    let found := [("==", CompareOp.equal), ("!=", .notEqual), ("<", .less), ("<=", .lessEqual),
      (">", .greater), (">=", .greaterEqual)].lookup s
    if found.isSome then let _ ← advance
    return found
  | some (.keyword "in") =>
    let _ ← advance
    return some .in
  | some (.keyword "not") =>
    if (← peekSecond) == some (.keyword "in") then
      let _ ← advance
      let _ ← advance
      return some .notIn
    else return none
  | some (.keyword "is") =>
    let _ ← advance
    if ← takes (.keyword "not") then return some .isNot else return some .is
  | _ => return none

/-- The next lexeme as an operator between operands, if its level is at least `level`. -/
def binaryOp? (level : Level) : Reader (Option BinaryOp) := do
  match ← peek with
  | some (.op s) =>
    match BinaryOp.ofSymbol? s with
    | some .power => return none
    | some op => return if op.level < level then none else some op
    | none => return none
  | _ => return none

def unaryOp? : Lexeme → Option UnaryOp
  | .op "-" => some .minus
  | .op "+" => some .plus
  | .op "~" => some .invert
  | _ => none

/-- What the marks before a literal's quotes say. -/
structure Marks where
  raw : Bool
  bytes : Bool
  formatted : Bool

def marksOf (marks : List Char) : Marks :=
  let small := marks.map Char.toLower
  ⟨small.contains 'r', small.contains 'b', small.contains 'f'⟩

/-- The literals that follow one another. -/
def literalRun : List Token → List (List Char × List Char)
  | ⟨.literal marks body, _⟩ :: rest => (marks, body) :: literalRun rest
  | _ => []

def skipTokens : Nat → Reader Unit
  | 0 => return ()
  | n + 1 => do
    let _ ← advance
    skipTokens n

def plainText (raw : Bool) (body : List Char) : Option Text :=
  if raw then some (Text.ofChars body) else Escape.text body

def plainBytes (raw : Bool) (body : List Char) : Option (List UInt8) :=
  if raw then if body.all (·.toNat < 128) then some (body.map fun c => UInt8.ofNat c.toNat) else none
  else Escape.bytes body

/-- The conversion behind an exclamation mark. -/
def conversion (cs : List Char) : Option (Option Char × List Char) :=
  match cs with
  | '!' :: c :: rest => if ['s', 'r', 'a'].contains c then some (some c, rest) else none
  | '!' :: [] => none
  | _ => some (none, cs)

/-- What a field shows of its own text: everything up to an equals sign and the blanks behind. -/
def ownText (expression rest : List Char) : Option Text × List Char :=
  match rest with
  | '=' :: more =>
    let blanks := more.takeWhile fun c =>
      c = ' ' || c = '\t' || c = '\n' || c = '\r' || c = '\x0b' || c = '\x0c'
    (some (Text.ofChars (expression ++ '=' :: blanks)), more.drop blanks.length)
  | _ => (none, rest)

/-- The kinds of parameters read so far. -/
structure ParamState where
  positional : List Param := []
  regular : List Param := []
  rest : Option Param := none
  keywordOnly : List Param := []
  starred : Bool := false
  slashed : Bool := false
  defaulted : Bool := false

def ParamState.params (s : ParamState) (keywords : Option Param) : Params :=
  .mk s.positional s.regular s.rest s.keywordOnly keywords

def Param.hasDefault : Param → Bool
  | .mk _ _ d => d.isSome

/-- Adds a parameter; behind one with a default all need one, up to the star. -/
def ParamState.add (s : ParamState) (p : Param) : Option ParamState :=
  if s.starred then some { s with keywordOnly := s.keywordOnly ++ [p] }
  else if s.defaulted && !Param.hasDefault p then none
  else some { s with regular := s.regular ++ [p], defaulted := Param.hasDefault p }

/-- How far the arguments of a call have come: behind a named one no positional one may follow,
and behind an unpacked mapping no unpacked sequence. -/
inductive Stage where
  | positional
  | named
  | mapped
  deriving DecidableEq

/-- Fields stand in a literal, and in the format of a field there, but not deeper. -/
inductive Depth where
  | literal
  | format
  | innermost
  deriving DecidableEq

def Depth.deeper? : Depth → Option Depth
  | .literal => some .format
  | .format => some .innermost
  | .innermost => none

mutual

/-- One expression, or a tuple of elements without parentheses. -/
def elements : Nat → Reader Located
  | 0 => failure
  | n + 1 => do
    let start ← here
    let first ← element n
    if ← sees (.op ",") then
      let rest ← moreElements n
      since start (.tuple (first.expr :: rest))
    else return first

/-- Elements that each follow a comma; a last comma may stand alone. -/
def moreElements : Nat → Reader (List Expr)
  | 0 => failure
  | n + 1 => do
    if ← takes (.op ",") then
      if ← seesElement then
        let e ← element n
        return e.expr :: (← moreElements n)
      else return []
    else return []

/-- An expression or a starred one. -/
def element : Nat → Reader Located
  | 0 => failure
  | n + 1 => do
    let start ← here
    if ← takes (.op "*") then
      let e ← binary n Level.bitOr
      since start (.starred e.expr)
    else expression n

/-- An expression, one with a name given to it, or a starred one. -/
def namedElement : Nat → Reader Located
  | 0 => failure
  | n + 1 => do
    if ← sees (.op "*") then element n else namedExpression n

/-- Elements that each follow a comma and may be given names. -/
def moreNamedElements : Nat → Reader (List Expr)
  | 0 => failure
  | n + 1 => do
    if ← takes (.op ",") then
      if ← seesElement then
        let e ← namedElement n
        return e.expr :: (← moreNamedElements n)
      else return []
    else return []

def namedExpression : Nat → Reader Located
  | 0 => failure
  | n + 1 => do
    let start ← here
    if ← seesNameBefore ":=" then
      let id ← name
      expect (.op ":=")
      let e ← expression n
      since start (.named (.name id) e.expr)
    else expression n

def expression : Nat → Reader Located
  | 0 => failure
  | n + 1 => do
    let start ← here
    if ← takes (.keyword "lambda") then
      let ps ← parameters n false {}
      expect (.op ":")
      let body ← expression n
      return { ← since start (.lambda ps body.expr) with body := some body.span }
    else
      let body ← disjunction n
      if ← takes (.keyword "if") then
        let test ← disjunction n
        expect (.keyword "else")
        let otherwise ← expression n
        since start (.conditional test.expr body.expr otherwise.expr)
      else return body

def yieldExpression : Nat → Reader Located
  | 0 => failure
  | n + 1 => do
    let start ← here
    expect (.keyword "yield")
    if ← takes (.keyword "from") then
      let e ← expression n
      since start (.yieldFrom e.expr)
    else if ← seesElement then
      let e ← elements n
      since start (.yield (some e.expr))
    else since start (.yield none)

/-- Operands that each follow the keyword, read by `operand` of the level below. -/
def moreOperands (op : BoolOp) : Nat → Reader (List Expr)
  | 0 => failure
  | n + 1 => do
    match op with
    | .or =>
      if ← takes (.keyword "or") then
        let e ← conjunction n
        return e.expr :: (← moreOperands op n)
      else return []
    | .and =>
      if ← takes (.keyword "and") then
        let e ← inversion n
        return e.expr :: (← moreOperands op n)
      else return []

def disjunction : Nat → Reader Located
  | 0 => failure
  | n + 1 => do
    let start ← here
    let first ← conjunction n
    match ← moreOperands .or n with
    | [] => return first
    | rest => since start (.boolean .or (first.expr :: rest))

def conjunction : Nat → Reader Located
  | 0 => failure
  | n + 1 => do
    let start ← here
    let first ← inversion n
    match ← moreOperands .and n with
    | [] => return first
    | rest => since start (.boolean .and (first.expr :: rest))

def inversion : Nat → Reader Located
  | 0 => failure
  | n + 1 => do
    let start ← here
    if ← takes (.keyword "not") then
      let e ← inversion n
      since start (.unary .not e.expr)
    else comparison n

def comparison : Nat → Reader Located
  | 0 => failure
  | n + 1 => do
    let start ← here
    let left ← binary n Level.bitOr
    match ← moreComparisons n with
    | [] => return left
    | rest => since start (.compare left.expr rest)

def moreComparisons : Nat → Reader (List Comparison)
  | 0 => failure
  | n + 1 => do
    match ← compareOp? with
    | none => return []
    | some op =>
      let right ← binary n Level.bitOr
      return .mk op right.expr :: (← moreComparisons n)

/-- Operands joined by operators of at least the level. -/
def binary (fuel : Nat) (level : Level) : Reader Located :=
  match fuel with
  | 0 => failure
  | n + 1 => do
    let start ← here
    let left ← factor n
    moreBinary n level start left

def moreBinary (fuel : Nat) (level : Level) (start : Pos) (left : Located) : Reader Located :=
  match fuel with
  | 0 => failure
  | n + 1 => do
    match ← binaryOp? level with
    | none => return left
    | some op =>
      let _ ← advance
      let right ← binary n (Level.next op.level)
      moreBinary n level start (← since start (.binary left.expr op right.expr))

def factor : Nat → Reader Located
  | 0 => failure
  | n + 1 => do
    let start ← here
    match (← peek).bind unaryOp? with
    | some op =>
      let _ ← advance
      let e ← factor n
      since start (.unary op e.expr)
    | none =>
      let base ← awaited n
      if ← takes (.op "**") then
        let e ← factor n
        since start (.binary base.expr .power e.expr)
      else return base

def awaited : Nat → Reader Located
  | 0 => failure
  | n + 1 => do
    let start ← here
    if ← takes (.keyword "await") then
      let e ← primary n
      since start (.await e.expr)
    else primary n

def primary : Nat → Reader Located
  | 0 => failure
  | n + 1 => do
    let start ← here
    let a ← atom n
    trailers n start a

/-- The attributes, calls and subscripts behind an expression. -/
def trailers (fuel : Nat) (start : Pos) (e : Located) : Reader Located :=
  match fuel with
  | 0 => failure
  | n + 1 => do
    if ← takes (.op ".") then
      let id ← name
      trailers n start (← since start (.attribute e.expr id))
    else if ← takes (.op "(") then
      let (as, ks) ← callArguments n
      trailers n start (← since start (.call e.expr as ks))
    else if ← takes (.op "[") then
      let index ← slices n
      expect (.op "]")
      trailers n start (← since start (.subscript e.expr index.expr))
    else return e

/-- The arguments of a call and its closing parenthesis; a lone generator needs none of its own. -/
def callArguments : Nat → Reader (List Expr × List Keyword)
  | 0 => failure
  | n + 1 => do
    if ← takes (.op ")") then return ([], [])
    else
      let (as, ks, next) ← argument n .positional
      let plain := match as, ks with
        | [.starred _], _ => none
        | [e], [] => some e
        | _, _ => none
      match plain, (← sees (.keyword "for")) || (← sees (.keyword "async")) with
      | some e, true =>
        let cs ← clauses n
        expect (.op ")")
        return ([.comprehension .generator e cs], [])
      | _, _ =>
        let (bs, ls) ← if ← takes (.op ",") then arguments n next else pure ([], [])
        expect (.op ")")
        return (as ++ bs, ks ++ ls)

/-- Arguments up to the closing parenthesis, in the order that the stages allow. -/
def arguments (fuel : Nat) (stage : Stage) : Reader (List Expr × List Keyword) :=
  match fuel with
  | 0 => failure
  | n + 1 => do
    if ← sees (.op ")") then return ([], [])
    else
      let (as, ks, next) ← argument n stage
      if ← takes (.op ",") then
        let (bs, ls) ← arguments n next
        return (as ++ bs, ks ++ ls)
      else if ← sees (.op ")") then return (as, ks)
      else failure

def argument (fuel : Nat) (stage : Stage) : Reader (List Expr × List Keyword × Stage) :=
  match fuel with
  | 0 => failure
  | n + 1 => do
    if ← takes (.op "**") then
      let e ← expression n
      return ([], [.mk none e.expr], .mapped)
    else if ← seesNameBefore "=" then
      let id ← name
      expect (.op "=")
      let e ← expression n
      return ([], [.mk (some id) e.expr], if stage = .positional then .named else stage)
    else if ← takes (.op "*") then
      if stage = .mapped then failure
      else
        let e ← expression n
        return ([.starred e.expr], [], stage)
    else if stage = .positional then
      let e ← namedExpression n
      return ([e.expr], [], stage)
    else failure

/-- What stands between the brackets of a subscript. -/
def slices : Nat → Reader Located
  | 0 => failure
  | n + 1 => do
    let start ← here
    let (first, starred) ← slice n
    if starred || (← sees (.op ",")) then
      let rest ← moreSlices n
      since start (.tuple (first.expr :: rest))
    else return first

def moreSlices : Nat → Reader (List Expr)
  | 0 => failure
  | n + 1 => do
    if ← takes (.op ",") then
      if ← sees (.op "]") then return []
      else
        let (e, _) ← slice n
        return e.expr :: (← moreSlices n)
    else return []

/-- One index, range or starred expression, and whether it is starred. -/
def slice : Nat → Reader (Located × Bool)
  | 0 => failure
  | n + 1 => do
    let start ← here
    if ← takes (.op "*") then
      let e ← expression n
      return (← since start (.starred e.expr), true)
    else if ← takes (.op ":") then
      let (upper, step) ← sliceEnd n
      return (← since start (.slice none upper step), false)
    else
      let given ← seesNameBefore ":="
      let lower ← namedExpression n
      if !given && (← sees (.op ":")) then
        let _ ← advance
        let (upper, step) ← sliceEnd n
        return (← since start (.slice (some lower.expr) upper step), false)
      else return (lower, false)

/-- The upper end and the step behind the first colon of a range. -/
def sliceEnd : Nat → Reader (Option Expr × Option Expr)
  | 0 => failure
  | n + 1 => do
    let upper ← optionalExpression n
    if ← takes (.op ":") then
      let step ← optionalExpression n
      return (upper, step)
    else return (upper, none)

def optionalExpression : Nat → Reader (Option Expr)
  | 0 => failure
  | n + 1 => do
    if ← seesExpression then
      let e ← expression n
      return some e.expr
    else return none

def atom : Nat → Reader Located
  | 0 => failure
  | n + 1 => do
    let start ← here
    match ← peek with
    | some (.literal _ _) => literals n
    | _ =>
      match ← advance with
      | .name id => since start (.name (Text.ofString id))
      | .soft id => since start (.name (Text.ofString id))
      | .keyword "None" => since start (.constant .null)
      | .keyword "True" => since start (.constant (.bool true))
      | .keyword "False" => since start (.constant (.bool false))
      | .number (.integer v) => since start (.constant (.integer v))
      | .number (.real v) => since start (.constant (.real v))
      | .number (.imaginary v) => since start (.constant (.imaginary v))
      | .op "..." => since start (.constant .ellipsis)
      | .op "(" => parenthesized n start
      | .op "[" => bracketed n start
      | .op "\x7b" => braced n start
      | _ => failure

/-- Behind an opening parenthesis: a tuple, a generator, or a lone expression. -/
def parenthesized (fuel : Nat) (start : Pos) : Reader Located :=
  match fuel with
  | 0 => failure
  | n + 1 => do
    if ← takes (.op ")") then since start (.tuple [])
    else if ← sees (.keyword "yield") then
      let e ← yieldExpression n
      expect (.op ")")
      return e
    else
      let starred ← sees (.op "*")
      let first ← namedElement n
      if ← sees (.op ",") then
        let rest ← moreNamedElements n
        expect (.op ")")
        since start (.tuple (first.expr :: rest))
      else if starred then failure
      else if (← sees (.keyword "for")) || (← sees (.keyword "async")) then
        let cs ← clauses n
        expect (.op ")")
        since start (.comprehension .generator first.expr cs)
      else
        expect (.op ")")
        return first

def bracketed (fuel : Nat) (start : Pos) : Reader Located :=
  match fuel with
  | 0 => failure
  | n + 1 => do
    if ← takes (.op "]") then since start (.list [])
    else
      let starred ← sees (.op "*")
      let first ← namedElement n
      if !starred && ((← sees (.keyword "for")) || (← sees (.keyword "async"))) then
        let cs ← clauses n
        expect (.op "]")
        since start (.comprehension .list first.expr cs)
      else
        let rest ← moreNamedElements n
        expect (.op "]")
        since start (.list (first.expr :: rest))

/-- Behind an opening brace: a dictionary or a set. -/
def braced (fuel : Nat) (start : Pos) : Reader Located :=
  match fuel with
  | 0 => failure
  | n + 1 => do
    if ← takes (.op "\x7d") then since start (.dict [])
    else if ← sees (.op "**") then
      let all ← dictItems n
      expect (.op "\x7d")
      since start (.dict all)
    else
      let lone := !(← sees (.op "*")) && !(← seesNameBefore ":=")
      let starred ← sees (.op "*")
      let first ← namedElement n
      if lone && (← sees (.op ":")) then
        let _ ← advance
        let value ← expression n
        if (← sees (.keyword "for")) || (← sees (.keyword "async")) then
          let cs ← clauses n
          expect (.op "\x7d")
          since start (.dictComprehension first.expr value.expr cs)
        else
          let rest ← moreDictItems n
          expect (.op "\x7d")
          since start (.dict (.pair first.expr value.expr :: rest))
      else if !starred && ((← sees (.keyword "for")) || (← sees (.keyword "async"))) then
        let cs ← clauses n
        expect (.op "\x7d")
        since start (.comprehension .set first.expr cs)
      else
        let rest ← moreNamedElements n
        expect (.op "\x7d")
        since start (.set (first.expr :: rest))

def dictItems : Nat → Reader (List Item)
  | 0 => failure
  | n + 1 => do
    if ← takes (.op "**") then
      let e ← binary n Level.bitOr
      return .unpack e.expr :: (← moreDictItems n)
    else
      let key ← expression n
      expect (.op ":")
      let value ← expression n
      return .pair key.expr value.expr :: (← moreDictItems n)

def moreDictItems : Nat → Reader (List Item)
  | 0 => failure
  | n + 1 => do
    if ← takes (.op ",") then
      if ← sees (.op "\x7d") then return [] else dictItems n
    else return []

/-- One or more clauses of a comprehension. -/
def clauses : Nat → Reader (List Clause)
  | 0 => failure
  | n + 1 => do
    let async ← takes (.keyword "async")
    expect (.keyword "for")
    let target ← targets n
    expect (.keyword "in")
    let iterable ← disjunction n
    let tests ← conditions n
    let first : Clause := .mk async target.expr iterable.expr tests
    if (← sees (.keyword "for")) || (← sees (.keyword "async")) then
      return first :: (← clauses n)
    else return [first]

def conditions : Nat → Reader (List Expr)
  | 0 => failure
  | n + 1 => do
    if ← takes (.keyword "if") then
      let e ← disjunction n
      return e.expr :: (← conditions n)
    else return []

/-- The targets of a loop, one or several without parentheses. -/
def targets : Nat → Reader Located
  | 0 => failure
  | n + 1 => do
    let start ← here
    let first ← target n
    if ← sees (.op ",") then
      let rest ← moreTargets n
      since start (.tuple (first.expr :: rest))
    else return first

def moreTargets : Nat → Reader (List Expr)
  | 0 => failure
  | n + 1 => do
    if ← takes (.op ",") then
      if ← seesElement then
        let e ← target n
        return e.expr :: (← moreTargets n)
      else return []
    else return []

/-- A target, which may be starred. -/
def target : Nat → Reader Located
  | 0 => failure
  | n + 1 => do
    let start ← here
    let starred ← takes (.op "*")
    let e ← binary n Level.bitOr
    let t ← if starred then since start (.starred e.expr) else pure e
    if isTarget t.expr then return t else failure

/-- Parameters up to the closing parenthesis or colon, which stays ahead; type hints only where
`annotated`. -/
def parameters (fuel : Nat) (annotated : Bool) (s : ParamState) : Reader Params :=
  match fuel with
  | 0 => failure
  | n + 1 => do
    if ← takes (.op "**") then
      let p ← parameter n annotated false
      if Param.hasDefault p then failure
      else
        let _ ← takes (.op ",")
        return s.params (some p)
    else if ← takes (.op "*") then
      if s.starred then failure
      else if ← takes (.op ",") then
        if ← seesName then parameters n annotated { s with starred := true } else failure
      else
        let p ← parameter n annotated true
        if Param.hasDefault p then failure
        else moreParameters n annotated { s with starred := true, rest := some p }
    else if ← takes (.op "/") then
      if s.slashed || s.starred || s.regular.isEmpty then failure
      else
        moreParameters n annotated
          { s with slashed := true, positional := s.regular, regular := [] }
    else if ← seesName then
      let p ← parameter n annotated false
      match s.add p with
      | some s => moreParameters n annotated s
      | none => failure
    else return s.params none

def moreParameters (fuel : Nat) (annotated : Bool) (s : ParamState) : Reader Params :=
  match fuel with
  | 0 => failure
  | n + 1 => do
    if ← takes (.op ",") then parameters n annotated s else return s.params none

/-- A parameter with its type hint and default; a starred hint only where `starred`. -/
def parameter (fuel : Nat) (annotated starred : Bool) : Reader Param :=
  match fuel with
  | 0 => failure
  | n + 1 => do
    let id ← name
    let hint ←
      if annotated then
        if ← takes (.op ":") then
          let e ← if starred then element n else expression n
          pure (some e.expr)
        else pure none
      else pure none
    if ← takes (.op "=") then
      let e ← expression n
      return .mk id hint (some e.expr)
    else return .mk id hint none

/-- One or more neighbouring literals, which make one value. -/
def literals : Nat → Reader Located
  | 0 => failure
  | n + 1 => do
    let start ← here
    let run := literalRun (← get).ahead
    skipTokens run.length
    let kinds := run.map fun (marks, _) => marksOf marks
    if kinds.all (·.bytes) then
      match run.mapM fun (marks, body) => plainBytes (marksOf marks).raw body with
      | some all => since start (.constant (.bytes all.flatten))
      | none => failure
    else if kinds.any (·.bytes) then failure
    else
      let parts ← literalParts n run
      let merged := Field.mergeLiterals parts
      if kinds.any (·.formatted) then since start (.joined merged)
      else
        let marked := (run.head?.bind (·.1.head?)) = some 'u'
        match merged with
        | [.literal t] => since start (.constant (.text t marked))
        | _ => since start (.constant (.text [] marked))

def literalParts (fuel : Nat) (run : List (List Char × List Char)) : Reader (List Part) :=
  match fuel with
  | 0 => failure
  | n + 1 => do
    match run with
    | [] => return []
    | (marks, body) :: rest =>
      let kind := marksOf marks
      if kind.formatted then
        match formatParts n kind.raw .literal body with
        | some (ps, []) => return ps ++ (← literalParts n rest)
        | _ => failure
      else
        match plainText kind.raw body with
        | some t => return .literal t :: (← literalParts n rest)
        | none => failure

/-- The parts of a formatted literal or of a format, and what follows. -/
def formatParts (fuel : Nat) (raw : Bool) (depth : Depth) (cs : List Char) :
    Option (List Part × List Char) :=
  match fuel with
  | 0 => none
  | n + 1 => do
    let (lit, stop, rest) ← Field.literalRun raw (depth ≠ .literal) .plain cs
    let t ← plainText raw lit
    if stop = .doubledBrace then
      let (ps, rest) ← formatParts n raw depth rest
      return (.literal t :: ps, rest)
    else
      match rest with
      | '\x7b' :: more =>
        let (f, rest) ← fieldParts n raw depth more
        let (ps, rest) ← formatParts n raw depth rest
        return (.literal t :: f ++ ps, rest)
      | _ => return ([.literal t], rest)

/-- A field behind its opening brace; it may show its own text before its value. -/
def fieldParts (fuel : Nat) (raw : Bool) (depth : Depth) (cs : List Char) :
    Option (List Part × List Char) :=
  match fuel with
  | 0 => none
  | n + 1 => do
    match depth.deeper? with
    | none => none
    | some deeper =>
      let (inner, rest) ← Field.expressionRun none [] cs
      if Field.isVacant inner then none
      else
        let ts ← Lexer.tokens ('(' :: inner ++ [')'])
        let (e, _) ← (elements n).run ⟨ts, ⟨1, 0⟩⟩
        let (own, rest) := ownText inner rest
        let (conv, rest) ← conversion rest
        let shown := own.toList.map Part.literal
        match rest with
        | ':' :: more =>
          if more.isEmpty then none
          else
            let (format, rest) ← formatParts n raw deeper more
            match rest with
            | '\x7d' :: rest =>
              return (shown ++ [.formatted e.expr conv (Field.mergeLiterals format)], rest)
            | _ => none
        | '\x7d' :: rest =>
          let conv := if own.isSome && conv.isNone then some 'r' else conv
          return (shown ++ [.field e.expr conv], rest)
        | _ => none

end

end BodyDigest.Indented.Grammar
