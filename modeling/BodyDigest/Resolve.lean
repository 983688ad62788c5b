import BodyDigest.Member
import BodyDigest.Text.Basic
import BodyDigest.Text.Word

/-!
Names under which records are registered. A member name that is unique in its namespace and type
stays; one that is not is replaced by its signature.
-/
namespace BodyDigest

/-- Names that still collide inside one type. -/
structure Collision where
  scope : Text
  type : Text
  signatures : List Text
  deriving DecidableEq

def Collision.message (c : Collision) : Text :=
  ("Unresolved member collision in " : Text) ++ c.scope ++ "." ++ c.type ++ ": "
    ++ Text.join ", " c.signatures

/-- Replaces what is no word character by underscores and drops the underscores at the end. -/
def identifierSafe (signature : Text) : Text :=
  trimEnd (· = .char '_')
    (signature.map fun c => if c.isWord then c else .char '_')

/-- Keys in order of first appearance. -/
def distinct {α : Type} [DecidableEq α] : List α → List α
  | [] => []
  | a :: rest => a :: (distinct rest).filter (· ≠ a)

/-- The name for a record in its group: its own if no other record of the group has it. -/
def resolvedName (group : List Record) (r : Record) : Text :=
  if (group.filter (·.member = r.member)).length = 1 then r.member else identifierSafe r.signature

def resolveGroup (group : List Record) : Except Collision (List Record) :=
  let resolved := group.map fun r => { r with resolved := resolvedName group r }
  let names := distinct (resolved.map (·.resolved))
  let holders := names.map fun n => resolved.filter (·.resolved = n)
  match holders.find? fun h => 1 < h.length with
  | some (first :: rest) =>
    .error ⟨first.scope, first.type, (first :: rest).map (·.signature)⟩
  | _ => .ok resolved

/-- The records of each namespace and type, groups in order of first appearance. -/
def groups (records : List Record) : List (List Record) :=
  (distinct (records.map Record.group)).map fun g => records.filter (·.group = g)

/-- Resolves every group; the first one with a collision decides. -/
def resolve (records : List Record) : Except Collision (List Record) := do
  return ((← (groups records).mapM resolveGroup)).flatten

end BodyDigest
