import BodyDigest.Yaml.Tag
import BodyDigest.Yaml.Token

/-!
The tree of a YAML document. An alias stays a leaf that names its anchor, since a node may contain
an alias of itself.
-/
namespace BodyDigest.Yaml

inductive Node where
  | scalar (tag : Tag) (text : Text)
  | sequence (tag : Tag) (items : List Node)
  | mapping (tag : Tag) (entries : List (Node × Node))
  | reference (name : Text)

/-- A tree with the nodes that its anchors stand for. -/
structure Document where
  root : Node
  anchors : List (Text × Node)

namespace Node

/-- Where the reading of a document stands. -/
structure Reading where
  ahead : List Token
  /-- What ended the tokens before the end of the text. -/
  fault : Option Fault
  /-- What the handles of tags stand for. -/
  handles : List (Text × Text) := []
  /-- The anchors whose nodes have begun. -/
  begun : List Text := []
  anchors : List (Text × Node) := []

abbrev Reader := StateT Reading (Except Fault)

/-- The next token; there is always one before the end of the stream. -/
def peek : Reader Token := do
  let s ← get
  match s.ahead with
  | t :: _ => return t
  | [] => throw (s.fault.getD .malformed)

def advance : Reader Unit := modify fun s => { s with ahead := s.ahead.drop 1 }

def sees (ts : List Token) : Reader Bool := do return ts.contains (← peek)

def takes (t : Token) : Reader Bool := do
  if (← peek) = t then
    advance
    return true
  else return false

/-- A scalar without a text. -/
def absent : Node := .scalar .null []

/-! ### Properties -/

def anchor? : Reader (Option Text) := do
  match ← peek with
  | .anchor name =>
    advance
    return some name
  | _ => return none

/-- A tag with its handle replaced; an exclamation mark alone is `none`. -/
def tag? : Reader (Option (Option Text)) := do
  match ← peek with
  | .tag handle suffix =>
    advance
    let text ←
      match handle with
      | none => pure suffix
      | some h =>
        match (← get).handles.lookup h with
        | some start => pure (start ++ suffix)
        | none => throw .malformed
    return some (if text = ("!" : Text) then none else some text)
  | _ => return none

/-- What stands before the content of a node. -/
structure Properties where
  anchor : Option Text
  tag : Option (Option Text)

def Properties.isEmpty (p : Properties) : Bool := p.anchor.isNone && p.tag.isNone

/-- An anchor and a tag in either order. -/
def properties : Reader Properties := do
  match ← anchor? with
  | some name => return ⟨some name, ← tag?⟩
  | none =>
    let tag ← tag?
    match tag with
    | some _ => return ⟨← anchor?, tag⟩
    | none => return ⟨none, none⟩

/-- The tag of a scalar: as given, else by its form if it is plain. A lone exclamation mark makes
any scalar count as plain. -/
def Properties.scalarTag (p : Properties) (plain : Bool) (t : Text) : Tag :=
  match p.tag with
  | some (some given) => Tag.ofText given
  | some none => Tag.ofPlain t
  | none => if plain then Tag.ofPlain t else .text

def Properties.collectionTag (p : Properties) (default : Tag) : Tag :=
  match p.tag with
  | some (some given) => Tag.ofText given
  | _ => default

/-- Begins the node of an anchor, which no other node may have. -/
def begin (p : Properties) : Reader Unit := do
  match p.anchor with
  | none => return ()
  | some name =>
    if (← get).begun.contains name then throw .malformed
    modify fun s => { s with begun := name :: s.begun }

def keep (p : Properties) (n : Node) : Reader Node := do
  match p.anchor with
  | none => return n
  | some name =>
    modify fun s => { s with anchors := (name, n) :: s.anchors }
    return n

/-! ### Nodes -/

/-- Where a node stands: which collections without brackets may start there. -/
inductive Position where
  | flow
  | block
  /-- The entries of a sequence may stand in the column of the key before them. -/
  | entry
  deriving DecidableEq

mutual

def node (p : Position) : Nat → Reader Node
  | 0 => throw .malformed
  | n + 1 => do
    match ← peek with
    | .reference name =>
      if !(← get).begun.contains name then throw .malformed
      advance
      return .reference name
    | _ =>
      let props ← properties
      begin props
      let made ← content p props n
      keep props made

def content (p : Position) (props : Properties) : Nat → Reader Node
  | 0 => throw .malformed
  | n + 1 => do
    match ← peek, p with
    | .blockEntry, .entry => return .sequence (props.collectionTag .sequence) (← bareEntries n)
    | .scalar plain t, _ =>
      advance
      return .scalar (props.scalarTag plain t) t
    | .flowSequenceStart, _ =>
      advance
      return .sequence (props.collectionTag .sequence) (← flowItems true n)
    | .flowMappingStart, _ =>
      advance
      return .mapping (props.collectionTag .mapping) (← flowPairs true n)
    | .blockSequenceStart, p =>
      if p = .flow then throw .malformed
      advance
      return .sequence (props.collectionTag .sequence) (← blockEntries n)
    | .blockMappingStart, p =>
      if p = .flow then throw .malformed
      advance
      return .mapping (props.collectionTag .mapping) (← blockPairs n)
    | _, _ => if props.isEmpty then throw .malformed else return .scalar (props.scalarTag true []) []

/-- A node, or an absent one before one of the tokens `ends`. -/
def optional (p : Position) (ends : List Token) : Nat → Reader Node
  | 0 => throw .malformed
  | n + 1 => do if ← sees ends then return absent else node p n

def blockEntries : Nat → Reader (List Node)
  | 0 => throw .malformed
  | n + 1 => do
    if ← takes .blockEntry then
      let item ← optional .block [.blockEntry, .blockEnd] n
      return item :: (← blockEntries n)
    else if ← takes .blockEnd then return []
    else throw .malformed

/-- Entries that no indentation sets off. -/
def bareEntries : Nat → Reader (List Node)
  | 0 => throw .malformed
  | n + 1 => do
    if ← takes .blockEntry then
      let item ← optional .block [.blockEntry, .key, .value, .blockEnd] n
      return item :: (← bareEntries n)
    else return []

/-- The value behind a key, absent without a colon. -/
def blockValue : Nat → Reader Node
  | 0 => throw .malformed
  | n + 1 => do
    if ← takes .value then optional .entry [.key, .value, .blockEnd] n else return absent

def blockPairs : Nat → Reader (List (Node × Node))
  | 0 => throw .malformed
  | n + 1 => do
    if ← takes .key then
      let k ← optional .entry [.key, .value, .blockEnd] n
      let v ← blockValue n
      return (k, v) :: (← blockPairs n)
    else if ← takes .blockEnd then return []
    else throw .malformed

/-- A value inside brackets, absent without a colon. -/
def flowValue (ends : List Token) : Nat → Reader Node
  | 0 => throw .malformed
  | n + 1 => do if ← takes .value then optional .flow ends n else return absent

def flowItems (first : Bool) : Nat → Reader (List Node)
  | 0 => throw .malformed
  | n + 1 => do
    if ← takes .flowSequenceEnd then return []
    if !first then
      if !(← takes .flowEntry) then throw .malformed
    if ← takes .key then
      let k ← optional .flow [.value, .flowEntry, .flowSequenceEnd] n
      let v ← flowValue [.flowEntry, .flowSequenceEnd] n
      return .mapping .mapping [(k, v)] :: (← flowItems false n)
    else if ← takes .flowSequenceEnd then return []
    else
      let item ← node .flow n
      return item :: (← flowItems false n)

def flowPairs (first : Bool) : Nat → Reader (List (Node × Node))
  | 0 => throw .malformed
  | n + 1 => do
    if ← takes .flowMappingEnd then return []
    if !first then
      if !(← takes .flowEntry) then throw .malformed
    if ← takes .key then
      let k ← optional .flow [.value, .flowEntry, .flowMappingEnd] n
      let v ← flowValue [.flowEntry, .flowMappingEnd] n
      return (k, v) :: (← flowPairs false n)
    else if ← takes .flowMappingEnd then return []
    else
      let k ← node .flow n
      return (k, absent) :: (← flowPairs false n)

end

/-! ### Documents -/

def standardHandles : List (Text × Text) := [("!", "!"), ("!!", Tag.standardPart)]

/-- What directives say: the handles they define, and whether a version was given. -/
def directives (version : Bool) (handles : List (Text × Text)) : Nat → Reader (List (Text × Text))
  | 0 => throw .malformed
  | n + 1 => do
    match ← peek with
    | .directive (.version major) =>
      if version || major ≠ 1 then throw .malformed
      advance
      directives true handles n
    | .directive (.tag handle start) =>
      if (handles.lookup handle).isSome then throw .malformed
      advance
      directives version ((handle, start) :: handles) n
    | .directive .other =>
      advance
      directives version handles n
    | _ => return handles

def skipEnds : Nat → Reader Unit
  | 0 => return ()
  | n + 1 => do if ← takes .documentEnd then skipEnds n

def setHandles (handles : List (Text × Text)) : Reader Unit :=
  modify fun s => { s with handles := handles ++ standardHandles }

def isDirective : Token → Bool
  | .directive _ => true
  | _ => false

/-- A document behind its directives and its starting line. -/
def explicitDocument (fuel : Nat) : Reader Node := do
  setHandles (← directives false [] fuel)
  if !(← takes .documentStart) then throw .malformed
  let t ← peek
  if isDirective t || [.documentStart, .documentEnd, .streamEnd].contains t then return absent
  else node .block fuel

/-- The only document of a text, if it has one. -/
def document? (fuel : Nat) : Reader (Option Node) := do
  let t ← peek
  let isImplicit := !isDirective t && t ≠ .documentStart && t ≠ .streamEnd
  if isImplicit then
    setHandles []
    let root ← node .block fuel
    skipEnds fuel
    if ← takes .streamEnd then return some root else throw .malformed
  else
    if ← takes .streamEnd then return none
    let root ← explicitDocument fuel
    skipEnds fuel
    if ← takes .streamEnd then return some root else throw .malformed

end Node

/-- The document of a text with unified line ends; `none` if the text holds none. -/
def Document.ofChars (cs : List Char) : Except Fault (Option Document) := do
  let stream := Lexer.stream cs
  let fuel := 4 * stream.tokens.length + 8
  let (root, s) ← (Node.document? fuel).run ⟨stream.tokens, stream.fault, [], [], []⟩
  return root.map fun r => ⟨r, s.anchors⟩

end BodyDigest.Yaml
