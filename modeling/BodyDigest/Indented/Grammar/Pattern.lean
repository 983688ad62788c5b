import BodyDigest.Indented.Grammar.Expr

/-! Reading the patterns of `case`. -/
namespace BodyDigest.Indented.Grammar

/-- A number with an optional sign, and whether it is imaginary. -/
def signedNumber : Reader (Expr × Bool) := do
  let negative ← takes (.op "-")
  let (c, isImaginary) ← match ← advance with
    | .number (.integer v) => pure (Constant.integer v, false)
    | .number (.real v) => pure (Constant.real v, false)
    | .number (.imaginary v) => pure (Constant.imaginary v, true)
    | _ => failure
  return (if negative then .unary .minus (.constant c) else .constant c, isImaginary)

def sign? : Lexeme → Option BinaryOp
  | .op "+" => some .add
  | .op "-" => some .sub
  | _ => none

/-- A number, or a real number and an imaginary one joined by a sign. -/
def numberPattern : Reader Expr := do
  let (first, isImaginary) ← signedNumber
  match (← peek).bind sign? with
  | none => return first
  | some op =>
    if isImaginary then failure
    else
      let _ ← advance
      match ← advance with
      | .number (.imaginary v) => return .binary first op (.constant (.imaginary v))
      | _ => failure

def seesNumber : Reader Bool := do
  match ← peek with
  | some (.number _) => return true
  | some (.op "-") => return true
  | _ => return false

def seesLiteral : Reader Bool := do
  match ← peek with
  | some (.literal _ _) => return true
  | _ => return false

/-- `None`, `True` or `False`. -/
def singleton? : Lexeme → Option Constant
  | .keyword "None" => some .null
  | .keyword "True" => some (.bool true)
  | .keyword "False" => some (.bool false)
  | _ => none

/-- A name that a pattern may bind. -/
def captureName : Reader Text := do
  match ← advance with
  | .name id => if ← continues then failure else return Text.ofString id
  | .soft id =>
    if id = "_" then failure
    else if ← continues then failure else return Text.ofString id
  | _ => failure
where
  continues : Reader Bool := do
    return (← sees (.op ".")) || (← sees (.op "(")) || (← sees (.op "="))

/-- The attributes behind a name, on fuel. -/
def attributes : Nat → Expr → Reader Expr
  | 0, _ => failure
  | n + 1, e => do
    if ← takes (.op ".") then
      let id ← name
      attributes n (.attribute e id)
    else return e

/-- A name behind a star; none for the underscore. -/
def starName : Reader (Option Text) := do
  if ← takes (.soft "_") then return none else return some (← captureName)

mutual

/-- The pattern of a case: one, or a sequence without brackets. -/
def patterns : Nat → Reader Pattern
  | 0 => failure
  | n + 1 => do
    let starred ← sees (.op "*")
    let first ← starOrPattern n
    if ← sees (.op ",") then return .sequence (first :: (← morePatterns n))
    else if starred then failure
    else return first

/-- Patterns that each follow a comma, up to what ends a sequence. -/
def morePatterns : Nat → Reader (List Pattern)
  | 0 => failure
  | n + 1 => do
    if ← takes (.op ",") then
      if (← sees (.op ")")) || (← sees (.op "]")) || (← sees (.op ":"))
          || (← sees (.keyword "if")) then return []
      else
        let p ← starOrPattern n
        return p :: (← morePatterns n)
    else return []

def starOrPattern : Nat → Reader Pattern
  | 0 => failure
  | n + 1 => do
    if ← takes (.op "*") then return .star (← starName) else pattern n

def pattern : Nat → Reader Pattern
  | 0 => failure
  | n + 1 => do
    let p ← alternatives n
    if ← takes (.keyword "as") then return .binding p (← captureName) else return p

def alternatives : Nat → Reader Pattern
  | 0 => failure
  | n + 1 => do
    let first ← closedPattern n
    match ← moreAlternatives n with
    | [] => return first
    | rest => return .alternatives (first :: rest)

def moreAlternatives : Nat → Reader (List Pattern)
  | 0 => failure
  | n + 1 => do
    if ← takes (.op "|") then
      let p ← closedPattern n
      return p :: (← moreAlternatives n)
    else return []

def closedPattern : Nat → Reader Pattern
  | 0 => failure
  | n + 1 => do
    if ← seesNumber then return .value (← numberPattern)
    else if ← seesLiteral then
      let e ← literals n
      return .value e.expr
    else match (← peek).bind singleton? with
    | some c =>
      let _ ← advance
      return .singleton c
    | none =>
      if ← takes (.soft "_") then return .wildcard
      else if ← takes (.op "(") then
        if ← takes (.op ")") then return .sequence []
        else
          let p ← patterns n
          expect (.op ")")
          return p
      else if ← takes (.op "[") then
        if ← takes (.op "]") then return .sequence []
        else
          let first ← starOrPattern n
          let rest ← morePatterns n
          expect (.op "]")
          return .sequence (first :: rest)
      else if ← takes (.op "\x7b") then mappingPattern n [] []
      else
        let id ← name
        let e ← attributes n (.name id)
        if ← takes (.op "(") then classPattern n e [] [] []
        else if ← sees (.op "=") then failure
        else match e with
        | .name id => return .capture id
        | _ => return .value e

/-- The entries of a mapping pattern and its closing brace. -/
def mappingPattern (fuel : Nat) (keys : List Expr) (values : List Pattern) : Reader Pattern :=
  match fuel with
  | 0 => failure
  | n + 1 => do
    if ← takes (.op "\x7d") then return .mapping keys values none
    else if ← takes (.op "**") then
      let rest ← captureName
      let _ ← takes (.op ",")
      expect (.op "\x7d")
      return .mapping keys values (some rest)
    else
      let key ← mappingKey n
      expect (.op ":")
      let p ← pattern n
      if ← takes (.op ",") then mappingPattern n (keys ++ [key]) (values ++ [p])
      else
        expect (.op "\x7d")
        return .mapping (keys ++ [key]) (values ++ [p]) none

def mappingKey : Nat → Reader Expr
  | 0 => failure
  | n + 1 => do
    if ← seesNumber then numberPattern
    else if ← seesLiteral then
      let e ← literals n
      return e.expr
    else match (← peek).bind singleton? with
    | some c =>
      let _ ← advance
      return .constant c
    | none =>
      let id ← name
      match ← attributes n (.name id) with
      | .name _ => failure
      | e => return e

/-- The arguments of a class pattern and its closing parenthesis; named ones come last. -/
def classPattern (fuel : Nat) (type : Expr) (positional : List Pattern) (names : List Text)
    (named : List Pattern) : Reader Pattern :=
  match fuel with
  | 0 => failure
  | n + 1 => do
    if ← takes (.op ")") then return .object type positional names named
    else if ← seesNameBefore "=" then
      let id ← name
      expect (.op "=")
      let p ← pattern n
      let names := names ++ [id]
      let named := named ++ [p]
      if ← takes (.op ",") then classPattern n type positional names named
      else
        expect (.op ")")
        return .object type positional names named
    else if !names.isEmpty then failure
    else
      let p ← pattern n
      if ← takes (.op ",") then classPattern n type (positional ++ [p]) names named
      else
        expect (.op ")")
        return .object type (positional ++ [p]) names named

end

end BodyDigest.Indented.Grammar
