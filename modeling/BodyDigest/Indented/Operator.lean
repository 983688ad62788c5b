import BodyDigest.Indented.Syntax

/-! Spelling and binding strength of operators. -/
namespace BodyDigest.Indented

/-- Levels of binding strength, from the weakest to the strongest. -/
inductive Level where
  | named | tuple | yield | test | or | and | not | compare | bitOr | bitXor | bitAnd | shift | sum
  | term | factor | power | await | atom
  deriving DecidableEq

namespace Level

def rank : Level → Nat
  | .named => 1 | .tuple => 2 | .yield => 3 | .test => 4 | .or => 5 | .and => 6
  | .not => 7 | .compare => 8 | .bitOr => 9 | .bitXor => 10 | .bitAnd => 11 | .shift => 12
  | .sum => 13 | .term => 14 | .factor => 15 | .power => 16 | .await => 17 | .atom => 18

instance : LT Level := ⟨fun a b => a.rank < b.rank⟩

instance (a b : Level) : Decidable (a < b) := inferInstanceAs (Decidable (a.rank < b.rank))

/-- The next stronger level. -/
def next : Level → Level
  | .named => .tuple | .tuple => .yield | .yield => .test | .test => .or
  | .or => .and | .and => .not | .not => .compare | .compare => .bitOr
  | .bitOr => .bitXor | .bitXor => .bitAnd | .bitAnd => .shift | .shift => .sum
  | .sum => .term | .term => .factor | .factor => .power | .power => .await
  | .await => .atom | .atom => .atom

end Level

def BinaryOp.symbol : BinaryOp → Text
  | .add => "+" | .sub => "-" | .mul => "*" | .matMul => "@" | .div => "/" | .mod => "%"
  | .floorDiv => "//" | .power => "**" | .shiftLeft => "<<" | .shiftRight => ">>"
  | .bitOr => "|" | .bitXor => "^" | .bitAnd => "&"

def BinaryOp.level : BinaryOp → Level
  | .add | .sub => Level.sum
  | .mul | .matMul | .div | .mod | .floorDiv => Level.term
  | .power => Level.power
  | .shiftLeft | .shiftRight => Level.shift
  | .bitOr => Level.bitOr
  | .bitXor => Level.bitXor
  | .bitAnd => Level.bitAnd

/-- Only the power operator groups to the right. -/
def BinaryOp.leftLevel (op : BinaryOp) : Level :=
  if op = .power then Level.next op.level else op.level

def BinaryOp.rightLevel (op : BinaryOp) : Level :=
  if op = .power then op.level else Level.next op.level

def UnaryOp.symbol : UnaryOp → Text
  | .invert => "~" | .not => "not " | .plus => "+" | .minus => "-"

def UnaryOp.level : UnaryOp → Level
  | .not => Level.not
  | _ => Level.factor

def BoolOp.symbol : BoolOp → Text
  | .and => " and " | .or => " or "

def BoolOp.level : BoolOp → Level
  | .and => Level.and | .or => Level.or

def CompareOp.symbol : CompareOp → Text
  | .equal => " == " | .notEqual => " != " | .less => " < " | .lessEqual => " <= "
  | .greater => " > " | .greaterEqual => " >= " | .is => " is " | .isNot => " is not "
  | .in => " in " | .notIn => " not in "

def BinaryOp.all : List BinaryOp :=
  [.add, .sub, .mul, .matMul, .div, .mod, .floorDiv, .power, .shiftLeft, .shiftRight, .bitOr,
    .bitXor, .bitAnd]

def BinaryOp.ofSymbol? (symbol : String) : Option BinaryOp :=
  BinaryOp.all.find? fun op => op.symbol = Text.ofString symbol

/-- The operator of an assignment such as `+=`. -/
def BinaryOp.ofAssignment? (symbol : String) : Option BinaryOp :=
  BinaryOp.all.find? fun op => op.symbol ++ "=" = Text.ofString symbol

end BodyDigest.Indented
