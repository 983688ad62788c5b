import BodyDigest.Text.Quoted

/-!
Paths: an anchor and parts. Empty parts and single points are dropped when a path is read; a step
upwards stays a part of its own until the path is settled.
-/
namespace BodyDigest

/-- Where a path starts. -/
inductive Anchor where
  | relative
  | top
  | doubled
  deriving DecidableEq

/-- The slashes in front of the parts. -/
def Anchor.text : Anchor → Text
  | .relative => []
  | .top => "/"
  | .doubled => "//"

structure Path where
  anchor : Anchor
  parts : List Text
  deriving DecidableEq

namespace Path

def slash : CodePoint := .char '/'

def point : CodePoint := .char '.'

/-- The part that steps upwards. -/
def upwards : Text := ".."

/-- Exactly two slashes are an anchor of their own; any other number counts as one. -/
def anchorOf (t : Text) : Anchor :=
  match (t.takeWhile (· = slash)).length with
  | 0 => .relative
  | 2 => .doubled
  | _ => .top

def ofText (t : Text) : Path :=
  ⟨anchorOf t, (pieces (· = slash) t).filter fun p => !p.isEmpty && p ≠ [point]⟩

/-- The parts with slashes between them. -/
def spelled (parts : List Text) : Text := Text.join [slash] parts

def bareText (p : Path) : Text := p.anchor.text ++ spelled p.parts

/-- The text of a path; the path that leads nowhere else is a point. -/
def text (p : Path) : Text := if p.bareText.isEmpty then [point] else p.bareText

def isAbsolute (p : Path) : Bool := p.anchor ≠ .relative

/-- The place that `q` names when it is read at `p`. -/
def join (p q : Path) : Path := if q.isAbsolute then q else ⟨p.anchor, p.parts ++ q.parts⟩

def child (p : Path) (name : Text) : Path := ⟨p.anchor, p.parts ++ [name]⟩

def parent (p : Path) : Path := ⟨p.anchor, p.parts.dropLast⟩

/-- The last part; the path of a top has an empty name. -/
def name (p : Path) : Text := p.parts.getLast?.getD []

/-- A name up to its last point, and the rest; a point at either end of the name cuts nothing. -/
def cutSuffix (name : Text) : Text × Text :=
  let behind := (name.reverse.takeWhile (· ≠ point)).reverse
  let stem := name.take (name.length - behind.length - 1)
  if stem.isEmpty || behind.isEmpty then (name, []) else (stem, point :: behind)

def suffix (p : Path) : Text := (cutSuffix p.name).2

/-- Why a path cannot be used. -/
inductive Fault where
  | outside (path root : Path)
  | nameless
  | nullCharacter
  | loneSurrogate
  deriving DecidableEq

def Fault.message : Fault → Text
  | .outside path root =>
    Text.quoted path.text ++ " is not in the subpath of " ++ Text.quoted root.bareText
      ++ " OR one path is relative and the other is absolute."
  | .nameless => "PosixPath('.') has an empty name"
  | .nullCharacter => "embedded null byte"
  | .loneSurrogate => "surrogates not allowed"

/-- The parts that lead from `root` to `p`. -/
def relativeTo (p root : Path) : Except Fault (List Text) :=
  if p.anchor = root.anchor && root.parts.isPrefixOf p.parts then
    .ok (p.parts.drop root.parts.length)
  else .error (.outside p root)

/-! ### Settled paths -/

/-- Takes every step upwards; `here` is where the walk has come, the last part first. -/
def settle (here : List Text) : List Text → List Text
  | [] => here.reverse
  | part :: rest =>
    if part = upwards then settle here.tail rest else settle (part :: here) rest

/-- Surrogates that stand for single octets in names of files. -/
def standsForOctet (c : CodePoint) : Bool := 0xdc80 ≤ c.val && c.val ≤ 0xdcff

def isUnnameable (c : CodePoint) : Bool := c.char?.isNone && !standsForOctet c

/-- The absolute path of the place that `p` names when it is read at `start`. -/
def settled (start p : Path) : Except Fault Path :=
  let whole := start.join p
  if whole.parts.any (·.contains (.char '\x00')) then .error .nullCharacter
  else if whole.parts.any (·.any isUnnameable) then .error .loneSurrogate
  else .ok ⟨.top, settle [] whole.parts⟩

/-- Order by parts. -/
def compareParts : List Text → List Text → Ordering
  | [], [] => .eq
  | [], _ :: _ => .lt
  | _ :: _, [] => .gt
  | a :: r, b :: s => (Text.compare a b).then (compareParts r s)

def partsLe (a b : List Text) : Bool := compareParts a b != .gt

end Path

end BodyDigest
