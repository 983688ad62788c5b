import BodyDigest.Text.Lines
import BodyDigest.Text.Quoted
import BodyDigest.Text.Utf8

/-!
Templates of emitted texts: literal text, values, loops over lists, and inclusion of other
templates. A block takes the blanks before it on its line and one line feed behind it.
-/
namespace BodyDigest.Template

/-- A value named by a path, and the filters that it goes through. -/
structure Lookup where
  path : List Text
  filters : List Text

inductive Node where
  | text (t : Text)
  | value (l : Lookup)
  | each (name : Text) (l : Lookup) (body : List Node)
  | include (name : Text)

/-- What a template can show. -/
inductive Value where
  | text (t : Text)
  | number (n : Nat)
  | list (items : List Value)
  | record (fields : List (Text × Value))
  | missing

/-- Why a template has no text. -/
inductive Fault where
  | malformed
  | notFound (name : Text)
  | encoding (e : Utf8.DecodeError)
  deriving DecidableEq

/-! ### Cutting a template into texts and tags -/

inductive Tag where
  | value
  | block
  | comment
  deriving DecidableEq

inductive Piece where
  | text (cs : List Char)
  | tag (tag : Tag) (content : List Char)

def tagAt? : List Char → Option (Tag × List Char)
  | '\x7b' :: '\x7b' :: rest => some (.value, rest)
  | '\x7b' :: '%' :: rest => some (.block, rest)
  | '\x7b' :: '#' :: rest => some (.comment, rest)
  | _ => none

def closing : Tag → List Char
  | .value => ['\x7d', '\x7d']
  | .block => ['%', '\x7d']
  | .comment => ['#', '\x7d']

def isSpace (c : Char) : Bool := (CodePoint.char c).isBlank

/-- Takes the blanks before a block when nothing else stands on its line. -/
def stripLine (lineStart : Bool) (reversed : List Char) : List Char :=
  let rest := reversed.dropWhile fun c => c != '\n' && isSpace c
  match rest with
  | [] => if lineStart then [] else reversed
  | '\n' :: _ => rest
  | _ => reversed

/-- The text before a tag, which a minus sign strips of blanks. -/
def textBefore (tag : Tag) (content : List Char) (lineStart : Bool) (reversed : List Char) :
    List Char :=
  if content.head? = some '-' then (reversed.dropWhile isSpace).reverse
  else if tag = .value || content.head? = some '+' then reversed.reverse
  else (stripLine lineStart reversed).reverse

/-- What follows a tag: without blanks behind a minus sign, and without one line feed behind a
block. -/
def textAfter (tag : Tag) (content rest : List Char) : List Char :=
  if content.getLast? = some '-' then rest.dropWhile isSpace
  else match tag, rest with
    | .value, _ => rest
    | _, '\n' :: more => more
    | _, _ => rest

def inner (content : List Char) : List Char :=
  trimBoth (fun c => isSpace c || c = '-' || c = '+') content

/-- Cuts a template, on fuel of its length; `reversed` is the text since the last tag. -/
def cut (fuel : Nat) (lineStart : Bool) (reversed cs : List Char) : Except Fault (List Piece) :=
  match fuel, cs with
  | _, [] => .ok [.text reversed.reverse]
  | 0, _ => .error .malformed
  | n + 1, c :: rest =>
    match tagAt? (c :: rest) with
    | none => cut n lineStart (c :: reversed) rest
    | some (tag, behind) =>
      match cutAt? (closing tag) behind with
      | none => .error .malformed
      | some (content, rest) => do
        let after := textAfter tag content rest
        let fed := after.length < rest.length && content.getLast? != some '-'
        return .text (textBefore tag content lineStart reversed) :: .tag tag (inner content)
          :: (← cut n fed [] after)

/-! ### Reading -/

def splitWords (cs : List Char) : List (List Char) :=
  (pieces isSpace cs).filter (!·.isEmpty)

def trimmed (cs : List Char) : Text := Text.ofChars (trimBoth isSpace cs)

def lookupOf (cs : List Char) : Lookup :=
  match pieces (· = '|') cs with
  | [] => ⟨[], []⟩
  | path :: filters => ⟨(pieces (· = '.') path).map trimmed, filters.map trimmed⟩

def isQuote (c : Char) : Bool := c = '"' || c = '\''

/-- The nodes up to the end of the enclosing loop or of the template, and the pieces behind. -/
def read (fuel : Nat) : List Piece → Except Fault (List Node × List Piece)
  | [] => .ok ([], [])
  | piece :: rest =>
    match fuel with
    | 0 => .error .malformed
    | n + 1 =>
      match piece with
      | .text cs => do
        let (nodes, after) ← read n rest
        return (.text (Text.ofChars cs) :: nodes, after)
      | .tag .comment _ => read n rest
      | .tag .value cs => do
        let (nodes, after) ← read n rest
        return (.value (lookupOf cs) :: nodes, after)
      | .tag .block cs =>
        match splitWords cs with
        | ['e', 'n', 'd', 'f', 'o', 'r'] :: [] => .ok ([], .tag .block cs :: rest)
        | ['f', 'o', 'r'] :: name :: ['i', 'n'] :: value => do
          let (body, after) ← read n rest
          match after with
          | [] => .error .malformed
          | _ :: after =>
            let (nodes, after) ← read n after
            return (.each (Text.ofChars name) (lookupOf (List.intercalate [' '] value)) body
              :: nodes, after)
        | ['i', 'n', 'c', 'l', 'u', 'd', 'e'] :: [name] => do
          let (nodes, after) ← read n rest
          return (.include (Text.ofChars (trimBoth isQuote name)) :: nodes, after)
        | _ => .error .malformed

/-- One line feed at the end of a template is no part of it. -/
def withoutLastLineEnd (cs : List Char) : List Char :=
  if cs.getLast? = some '\n' then cs.dropLast else cs

def parse (source : List Char) : Except Fault (List Node) := do
  let cs := withoutLastLineEnd (Lines.unify source)
  let all ← cut (cs.length + 1) true [] cs
  let (nodes, after) ← read (all.length + 1) all
  if after.isEmpty then return nodes else throw .malformed

/-! ### Writing -/

abbrev Scope := List (Text × Value)

def Value.get : Value → Text → Value
  | .record fields, name => (fields.lookup name).getD .missing
  | _, _ => .missing

def filtered (v : Value) (name : Text) : Value :=
  if name = ("length" : Text) then
    match v with
    | .list items => .number items.length
    | .text t => .number t.length
    | .record fields => .number fields.length
    | _ => .number 0
  else if name = ("pyrepr" : Text) then
    match v with
    | .text t => .text (Text.quoted t)
    | .number n => .text (Text.ofNat n)
    | _ => .missing
  else .missing

def Lookup.value (l : Lookup) (scope : Scope) : Value :=
  let base := match l.path with
    | [] => .missing
    | first :: rest => rest.foldl Value.get ((scope.lookup first).getD .missing)
  l.filters.foldl filtered base

def Value.shown : Value → Text
  | .text t => t
  | .number n => Text.ofNat n
  | _ => []

def Value.items : Value → List Value
  | .list items => items
  | _ => []

/-- One text for each item, in order. -/
def eachItem (write : Value → Except Fault Text) : List Value → Except Fault Text
  | [] => .ok []
  | v :: rest => return (← write v) ++ (← eachItem write rest)

mutual

/-- The text of a node, where `included` gives the texts of other templates. -/
def writeNode (included : Scope → Text → Except Fault Text) (scope : Scope) :
    Node → Except Fault Text
  | .text t => .ok t
  | .value l => .ok (l.value scope).shown
  | .each name l body =>
    eachItem (fun v => writeNodes included ((name, v) :: scope) body) (l.value scope).items
  | .include name => included scope name

def writeNodes (included : Scope → Text → Except Fault Text) (scope : Scope) :
    List Node → Except Fault Text
  | [] => .ok []
  | n :: rest => return (← writeNode included scope n) ++ (← writeNodes included scope rest)

end

end BodyDigest.Template
