import BodyDigest.Text.Quoted
import BodyDigest.Registry
import BodyDigest.Indented.Source

/-! Values of literal expressions, and the registry that a generated module holds. -/
namespace BodyDigest.Indented

/-- The value of a literal; what is neither text nor a collection shows no more than its kind. -/
inductive Value where
  | text (t : Text)
  | octets (bs : List UInt8)
  | number
  | constant
  | tuple (items : List Value)
  | list (items : List Value)
  | set (items : List Value)
  | dict (entries : List (Value × Value))

/-- Why an expression has no literal value. -/
inductive ValueError where
  | malformed
  | unhashable
  deriving DecidableEq

mutual

/-- Whether a value may be a key. -/
def Value.isHashable : Value → Bool
  | .list _ | .set _ | .dict _ => false
  | .tuple items => areHashable items
  | _ => true

def areHashable : List Value → Bool
  | [] => true
  | v :: rest => v.isHashable && areHashable rest

end

/-- A number of any kind. -/
def isNumber : Expr → Bool
  | .constant (.integer _) | .constant (.real _) | .constant (.imaginary _) => true
  | _ => false

def isSignedNumber : Expr → Bool
  | .unary .plus e | .unary .minus e => isNumber e
  | e => isNumber e

def isImaginary : Expr → Bool
  | .constant (.imaginary _) => true
  | _ => false

def isRealSigned : Expr → Bool
  | .unary .plus e | .unary .minus e => isNumber e && !isImaginary e
  | e => isNumber e && !isImaginary e

def constantValue : Constant → Value
  | .text t _ => .text t
  | .bytes bs => .octets bs
  | .integer _ | .real _ | .imaginary _ => .number
  | _ => .constant

mutual

def valueOf : Expr → Except ValueError Value
  | .constant c => .ok (constantValue c)
  | .tuple es => return .tuple (← valuesOf es)
  | .list es => return .list (← valuesOf es)
  | .set es => return .set (← hashedValuesOf es)
  | .dict items => return .dict (← entriesOf items)
  | .unary .plus e | .unary .minus e => if isNumber e then .ok .number else .error .malformed
  | .binary left .add right | .binary left .sub right =>
    if isRealSigned left && isImaginary right then .ok .number else .error .malformed
  | .call (.name id) [] [] =>
    if id = ("set" : Text) then .ok (.set []) else .error .malformed
  | _ => .error .malformed

def valuesOf : List Expr → Except ValueError (List Value)
  | [] => .ok []
  | e :: rest => return (← valueOf e) :: (← valuesOf rest)

def hashedValuesOf : List Expr → Except ValueError (List Value)
  | [] => .ok []
  | e :: rest => do
    let v ← valueOf e
    if v.isHashable then return v :: (← hashedValuesOf rest) else throw .unhashable

def entriesOf : List Item → Except ValueError (List (Value × Value))
  | [] => .ok []
  | .pair key value :: rest => do
    let k ← valueOf key
    let v ← valueOf value
    if k.isHashable then return (k, v) :: (← entriesOf rest) else throw .unhashable
  | .unpack _ :: _ => .error .malformed

end

/-- Why a value is no mapping of stamps. -/
inductive MappingError where
  | notMapping
  | missing (key : Text)
  | notPair (count : Nat)
  | notSequence
  | notText
  | collision (c : Collision)
  deriving DecidableEq

def MappingError.message : MappingError → Text
  | .notMapping => "not a mapping"
  | .missing key => Text.quoted key
  | .notPair count =>
    if count < 2 then
      ("not enough values to unpack (expected 2, got " : Text) ++ Text.ofNat count ++ ")"
    else "too many values to unpack (expected 2)"
  | .notSequence => "not a sequence"
  | .notText => "not a text"
  | .collision c => c.message

def Value.entries : Value → Except MappingError (List (Value × Value))
  | .dict entries => .ok entries
  | _ => .error .notMapping

def Value.asText : Value → Except MappingError Text
  | .text t => .ok t
  | _ => .error .notText

/-- The entries of a mapping under texts; a later entry replaces an earlier one in its place. -/
def Value.textEntries (v : Value) : Except MappingError (List (Text × Value)) := do
  let pairs ← (← v.entries).mapM fun (k, w) => return (← k.asText, w)
  let keys := distinct (pairs.map (·.1))
  return keys.filterMap fun k => (pairs.reverse.find? fun p => p.1 = k).map fun p => (k, p.2)

def stampPair : List Value → Except MappingError Stamp
  | [d, s] => return ⟨← d.asText, ← s.asText⟩
  | values => .error (.notPair values.length)

/-- A stamp is written as a mapping with its two parts, or as a pair of them. -/
def stampOf : Value → Except MappingError Stamp
  | .dict entries => do
    let fields ← (Value.dict entries).textEntries
    match fields.lookup (Text.ofString "digest") with
    | none => throw (.missing "digest")
    | some d =>
      match fields.lookup (Text.ofString "signature") with
      | none => throw (.missing "signature")
      | some s => return ⟨← d.asText, ← s.asText⟩
  | .tuple items | .list items | .set items => stampPair items
  | .text t => stampPair (t.map fun c => .text [c])
  | .octets bs => stampPair (bs.map fun _ => .number)
  | _ => .error .notSequence

/-- Adds the entry of a member's leaf. -/
def addLeaf (scope type : Text) (r : Registry) (leaf : Text × Value) :
    Except MappingError Registry := do
  let stamp ← stampOf leaf.2
  (r.add ⟨⟨scope, type, leaf.1⟩, stamp⟩).mapError .collision

/-- The registry of a mapping of namespaces to types to members to stamps. -/
def registryOfValue (v : Value) : Except MappingError Registry := do
  (← v.textEntries).foldlM (fun r (scope, types) => do
    (← types.textEntries).foldlM (fun r (type, members) => do
      (← members.textEntries).foldlM (addLeaf scope type) r) r) Registry.empty

/-- Why a module yields no registry. -/
inductive ModuleError where
  | source (e : SourceError)
  | noRegistry
  | value (e : ValueError)
  | mapping (e : MappingError)
  deriving DecidableEq

def ModuleError.message : ModuleError → Text
  | .source .nullCharacter => nullCharacterMessage
  | .source _ => "invalid syntax"
  | .noRegistry => "does not contain a generated REGISTRY"
  | .value .malformed => "malformed node or string"
  | .value .unhashable => "unhashable type"
  | .mapping e => e.message

/-- The first argument of a call that a statement assigns to the name of the registry alone. -/
def registryArgument? {P : Type} : Stmt P → Option Expr
  | .simple _ (.assign [.name id] (.call _ (first :: _) _)) =>
    if id = ("REGISTRY" : Text) then some first else none
  | _ => none

/-- The registry written in a generated module, which is not executed. -/
def registryOfModule (source : List Char) : Except ModuleError Registry := do
  let cs ← (sourceChars (Text.ofChars source)).mapError .source
  let body ← (moduleOf cs).mapError .source
  match body.findSome? registryArgument? with
  | none => throw .noRegistry
  | some e =>
    let v ← (valueOf e).mapError .value
    (registryOfValue v).mapError .mapping

end BodyDigest.Indented
