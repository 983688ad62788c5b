import BodyDigest.Resolve

/-!
The registry of stamps. Entries are kept as they were added, one for a key; they are listed by
namespace and type, each in the order of its first entry.
-/
namespace BodyDigest

/-- What a stamp is found under. -/
structure Key where
  scope : Text
  type : Text
  member : Text
  deriving DecidableEq

structure Entry where
  key : Key
  stamp : Stamp
  deriving DecidableEq

structure Registry where
  entries : List Entry
  nodup : (entries.map (·.key)).Nodup

namespace Registry

def empty : Registry := ⟨[], List.nodup_nil⟩

def find? (r : Registry) (k : Key) : Option Stamp :=
  (r.entries.find? fun e => e.key = k).map (·.stamp)

/-- The first part of a key that the registry does not hold. -/
def missing (r : Registry) (k : Key) : Text :=
  if r.entries.any fun e => e.key.scope = k.scope then
    if r.entries.any fun e => e.key.scope = k.scope && e.key.type = k.type then k.member else k.type
  else k.scope

/-- The stamp of a key, or the part of the key that is unknown. -/
def lookup (r : Registry) (k : Key) : Except Text Stamp :=
  match r.find? k with
  | some s => .ok s
  | none => .error (r.missing k)

theorem find?_eq_none {r : Registry} {k : Key} (h : r.find? k = none) :
    k ∉ r.entries.map (·.key) := by
  intro member
  obtain ⟨e, he, rfl⟩ := List.mem_map.1 member
  simp only [find?, Option.map_eq_none_iff, List.find?_eq_none, decide_eq_true_eq] at h
  exact h e he rfl

/-- Adds an entry under a new key. -/
def add (r : Registry) (e : Entry) : Except Collision Registry :=
  match h : r.find? e.key with
  | some old => .error ⟨e.key.scope, e.key.type, [old.signature, e.stamp.signature]⟩
  | none =>
    .ok ⟨r.entries ++ [e], by
      rw [List.map_append, List.nodup_append]
      refine ⟨r.nodup, by simp, ?_⟩
      intro k hk k' hk' same
      simp only [List.map_cons, List.map_nil, List.mem_singleton] at hk'
      exact find?_eq_none h (hk' ▸ same ▸ hk)⟩

def ofEntries (entries : List Entry) : Except Collision Registry := entries.foldlM add empty

def Record.entry (r : Record) : Entry :=
  ⟨⟨r.scope, r.type, r.resolved⟩, ⟨r.digest, r.signature⟩⟩

/-- The registry of resolved records. -/
def build (records : List Record) : Except Collision Registry :=
  ofEntries (records.map Record.entry)

/-- Entries grouped by `f`, groups in order of first appearance. -/
def groupedBy {α : Type} (f : Entry → Text) (each : Text → List Entry → List α)
    (entries : List Entry) : List α :=
  (distinct (entries.map f)).flatMap fun t => each t (entries.filter fun e => f e = t)

/-- All entries, by namespace and type. -/
def members (r : Registry) : List Entry :=
  groupedBy (·.key.scope) (fun _ es => groupedBy (·.key.type) (fun _ fs => fs) es) r.entries

def size (r : Registry) : Nat := r.entries.length

def scopes (r : Registry) : List Text := distinct (r.entries.map (·.key.scope))

/-- The namespaces with their types. -/
def types (r : Registry) : List (Text × Text) :=
  distinct (r.entries.map fun e => (e.key.scope, e.key.type))

def contains (r : Registry) (k : Key) : Bool := (r.find? k).isSome

/-- Whether two registries hold the same entries, in whatever order. -/
def agrees (r s : Registry) : Bool :=
  r.size = s.size && r.entries.all fun e => s.find? e.key = some e.stamp

def summary (r : Registry) : Text :=
  ("Registry(namespaces=" : Text) ++ Text.ofNat r.scopes.length ++ ", types="
    ++ Text.ofNat r.types.length ++ ", members=" ++ Text.ofNat r.size ++ ")"

end Registry

def Key.compare (a b : Key) : Ordering :=
  (Text.compare a.scope b.scope).then
    ((Text.compare a.type b.type).then (Text.compare a.member b.member))

def Key.le (a b : Key) : Bool := Key.compare a b != .gt

/-- The parts of a key joined by points. -/
def Key.path (k : Key) : Text := k.scope ++ "." ++ k.type ++ "." ++ k.member

/-- Keys that differ between two registries, each list in increasing order. -/
structure Diff where
  added : List Key
  removed : List Key
  changed : List Key
  deriving DecidableEq

namespace Diff

def sorted (keys : List Key) : List Key := keys.mergeSort Key.le

def keys (r : Registry) : List Key := r.entries.map (·.key)

def digest? (r : Registry) (k : Key) : Option Text := (r.find? k).map (·.digest)

/-- From `previous` to `current`. -/
def between (previous current : Registry) : Diff where
  added := sorted ((keys current).filter fun k => !previous.contains k)
  removed := sorted ((keys previous).filter fun k => !current.contains k)
  changed := sorted ((keys current).filter fun k =>
    previous.contains k && digest? previous k != digest? current k)

def isEmpty (d : Diff) : Bool := d.added.isEmpty && d.removed.isEmpty && d.changed.isEmpty

/-- One line for each key behind a sign of its change. -/
def lines (d : Diff) : List Text :=
  d.added.map (fun k => ("+ " : Text) ++ k.path) ++ d.removed.map (fun k => ("- " : Text) ++ k.path)
    ++ d.changed.map (fun k => ("~ " : Text) ++ k.path)

end Diff

end BodyDigest
