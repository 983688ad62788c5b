import BodyDigest.Text.CodePoint
import BodyDigest.Number.Binary64

/-!
Syntax trees of Python modules. Expressions hold no positions; a statement holds one value of
type `P`, which is its place in the source or nothing.
-/
namespace BodyDigest.Indented

inductive BinaryOp where
  | add | sub | mul | matMul | div | mod | floorDiv | power
  | shiftLeft | shiftRight | bitOr | bitXor | bitAnd
  deriving DecidableEq

inductive UnaryOp where
  | invert | not | plus | minus
  deriving DecidableEq

inductive BoolOp where
  | and | or
  deriving DecidableEq

inductive CompareOp where
  | equal | notEqual | less | lessEqual | greater | greaterEqual | is | isNot | in | notIn
  deriving DecidableEq

/-- `marked` tells a text whose first literal starts with a small `u`. -/
inductive Constant where
  | null
  | bool (value : Bool)
  | ellipsis
  | integer (value : Nat)
  | real (value : Binary64)
  | imaginary (value : Binary64)
  | text (value : Text) (marked : Bool)
  | bytes (octets : List UInt8)
  deriving DecidableEq

/-- What encloses a comprehension of single elements. -/
inductive Enclosure where
  | list | set | generator
  deriving DecidableEq

mutual

inductive Expr where
  | constant (value : Constant)
  | name (id : Text)
  | named (target value : Expr)
  | boolean (op : BoolOp) (values : List Expr)
  | binary (left : Expr) (op : BinaryOp) (right : Expr)
  | unary (op : UnaryOp) (operand : Expr)
  | lambda (params : Params) (body : Expr)
  | conditional (test body otherwise : Expr)
  | dict (items : List Item)
  | set (elements : List Expr)
  | list (elements : List Expr)
  | tuple (elements : List Expr)
  | comprehension (enclosure : Enclosure) (element : Expr) (clauses : List Clause)
  | dictComprehension (key value : Expr) (clauses : List Clause)
  | await (value : Expr)
  | yield (value : Option Expr)
  | yieldFrom (value : Expr)
  | compare (left : Expr) (rest : List Comparison)
  | call (function : Expr) (arguments : List Expr) (keywords : List Keyword)
  | joined (parts : List Part)
  | attribute (value : Expr) (name : Text)
  | subscript (value index : Expr)
  | slice (lower upper step : Option Expr)
  | starred (value : Expr)

/-- A key with its value, or a mapping that is unpacked. -/
inductive Item where
  | pair (key value : Expr)
  | unpack (value : Expr)

/-- One `for` of a comprehension with its conditions. -/
inductive Clause where
  | mk (async : Bool) (target iterable : Expr) (conditions : List Expr)

inductive Comparison where
  | mk (op : CompareOp) (right : Expr)

/-- An argument given by name, or, without a name, an unpacked mapping. -/
inductive Keyword where
  | mk (name : Option Text) (value : Expr)

/-- A part of a formatted text: literal, or a field with its conversion and format. -/
inductive Part where
  | literal (value : Text)
  | field (value : Expr) (conversion : Option Char)
  | formatted (value : Expr) (conversion : Option Char) (format : List Part)

inductive Param where
  | mk (name : Text) (hint default : Option Expr)

inductive Params where
  | mk (positional regular : List Param) (rest : Option Param) (keywordOnly : List Param)
      (keywords : Option Param)

end

/-- Patterns of `case`. -/
inductive Pattern where
  | value (e : Expr)
  | singleton (c : Constant)
  | sequence (patterns : List Pattern)
  | star (name : Option Text)
  | mapping (keys : List Expr) (patterns : List Pattern) (rest : Option Text)
  | object (type : Expr) (patterns : List Pattern) (names : List Text) (named : List Pattern)
  | wildcard
  | capture (name : Text)
  | binding (pattern : Pattern) (name : Text)
  | alternatives (patterns : List Pattern)

structure Alias where
  name : Text
  renamed : Option Text

structure WithItem where
  context : Expr
  target : Option Expr

/-- Statements that hold no other statements. -/
inductive Simple where
  | expression (value : Expr)
  | assign (targets : List Expr) (value : Expr)
  | augmented (target : Expr) (op : BinaryOp) (value : Expr)
  | annotated (target hint : Expr) (value : Option Expr) (bare : Bool)
  | return (value : Option Expr)
  | raise (exception cause : Option Expr)
  | delete (targets : List Expr)
  | assert (test : Expr) (message : Option Expr)
  | imports (names : List Alias)
  | importsFrom (level : Nat) (module : Option Text) (names : List Alias)
  | global (names : List Text)
  | nonlocal (names : List Text)
  | pass
  | break
  | continue

structure FunctionHead where
  async : Bool
  name : Text
  params : Params
  returns : Option Expr
  decorators : List Expr

structure ClassHead where
  name : Text
  bases : List Expr
  keywords : List Keyword
  decorators : List Expr

mutual

inductive Stmt (P : Type) where
  | simple (place : P) (form : Simple)
  | function (place : P) (head : FunctionHead) (body : List (Stmt P))
  | class (place : P) (head : ClassHead) (body : List (Stmt P))
  | if (place : P) (test : Expr) (body otherwise : List (Stmt P))
  | while (place : P) (test : Expr) (body otherwise : List (Stmt P))
  | for (place : P) (async : Bool) (target iterable : Expr) (body otherwise : List (Stmt P))
  | with (place : P) (async : Bool) (items : List WithItem) (body : List (Stmt P))
  | try (place : P) (star : Bool) (body : List (Stmt P)) (handlers : List (Handler P))
      (otherwise final : List (Stmt P))
  | match (place : P) (subject : Expr) (cases : List (Case P))

inductive Handler (P : Type) where
  | mk (type : Option Expr) (name : Option Text) (body : List (Stmt P))

inductive Case (P : Type) where
  | mk (pattern : Pattern) (guard : Option Expr) (body : List (Stmt P))

end

end BodyDigest.Indented
