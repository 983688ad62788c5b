import BodyDigest.Project.Source
import BodyDigest.Resolve

/-!
Discovery of sources: the two that are built in, then those of entry points. Names are compared
without regard to case, and the first holder of a name keeps it.
-/
namespace BodyDigest

/-- What comes of loading an entry point: a source or what makes one, something else, or a failure. -/
inductive Loading where
  | makes (s : Source)
  | unfit
  | failure (reason : Text)
  deriving DecidableEq

/-- A source that is plugged in. -/
def Loading.source : Loading := .makes .plugin

structure EntryPoint where
  name : Text
  loading : Loading
  deriving DecidableEq

namespace Discovery

inductive Error where
  | notLoaded (name reason : Text)
  | unfit
  | unknown (names : List Text)
  deriving DecidableEq

def Error.message : Error → Text
  | .notLoaded name reason =>
    ("Failed to load source entry point '" : Text) ++ name ++ "': " ++ reason
  | .unfit => "Source entry point must be a DescriptorSource subclass or factory"
  | .unknown names => ("Unknown sources requested: " : Text) ++ Text.join ", " names

/-- The sources found so far, each under its name in lower case. -/
abbrev Found := List (Text × Source)

/-- Adds a source under a name that is wanted and not yet held. -/
def offer (wanted : Option (List Text)) (found : Found) (name : Text)
    (make : Except Error Source) : Except Error Found :=
  let key := name.lower
  if wanted.all (·.contains key) && !(found.map (·.1)).contains key then
    make.map fun s => found ++ [(key, s)]
  else .ok found

def builtIn (ignoreDocumentation : Bool) (defaultScope : Text) : List (Text × Source) :=
  [("python", .indented ignoreDocumentation), ("tree_sitter", .braced defaultScope true)]

/-- Offers the source of an entry point, which has to load even if it is not wanted. -/
def offerEntry (wanted : Option (List Text)) (found : Found) (e : EntryPoint) :
    Except Error Found :=
  match e.loading with
  | .failure reason => .error (.notLoaded e.name reason)
  | .unfit => offer wanted found e.name (.error .unfit)
  | .makes s => offer wanted found e.name (.ok s)

/-- The wanted names that no source holds, in order. -/
def unknown (wanted : Option (List Text)) (found : Found) : List Text :=
  ((distinct (wanted.getD [])).filter fun key => !(found.map (·.1)).contains key).mergeSort Text.le

/-- The sources with the wanted names; without any, all of them. -/
def sources (wanted : Option (List Text)) (ignoreDocumentation : Bool) (defaultScope : Text)
    (entries : List EntryPoint) : Except Error (List Source) := do
  let wanted := wanted.map (·.map Text.lower)
  let own ← (builtIn ignoreDocumentation defaultScope).foldlM
    (fun found s => offer wanted found s.1 (.ok s.2)) []
  let found ← entries.foldlM (offerEntry wanted) own
  match unknown wanted found with
  | [] => return found.map (·.2)
  | names => throw (.unknown names)

end Discovery

end BodyDigest
