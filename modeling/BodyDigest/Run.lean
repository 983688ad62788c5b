import BodyDigest.Emit.Basic
import BodyDigest.Log

/-! From descriptors to a registry and its emitted texts. -/
namespace BodyDigest

/-- What a run is told besides the descriptors. -/
structure RunOptions where
  rootClass : Text := "HashStamps"
  workers : Option Int := none
  templates : Emit.Templates := []

inductive RunError where
  | noWorkers
  | fingerprint (e : FingerprintError)
  | collision (c : Collision)
  | emission (e : Emit.EmitError)
  deriving DecidableEq

def RunError.message : RunError → Text
  | .noWorkers => "max_workers must be greater than 0"
  | .fingerprint e => e.message
  | .collision c => c.message
  | .emission e => e.message

structure Outcome where
  registry : Registry
  artifacts : Emit.Artifacts
  dropped : List Descriptor

/-- The records of the placed descriptors under their resolved names. -/
def resolvedRecords (ds : List Descriptor) : Except RunError (List Record) := do
  let records ← ((ds.filter Descriptor.isPlaced).mapM fingerprint).mapError .fingerprint
  (resolve records).mapError .collision

def registryOf (ds : List Descriptor) : Except RunError Registry := do
  (Registry.build (← resolvedRecords ds)).mapError .collision

/-- Descriptors without a known place are dropped; all others end up in the registry. -/
def run (options : RunOptions) (ds : List Descriptor) : Except RunError Outcome :=
  if options.workers.any (· < 1) then .error .noWorkers
  else do
    let registry ← registryOf ds
    let artifacts ← (Emit.emit options.templates options.rootClass registry).mapError .emission
    return ⟨registry, artifacts, ds.filter (!·.isPlaced)⟩

/-- What the run logs when it took `elapsed` seconds. -/
def Outcome.log (o : Outcome) (elapsed : Text) : List LogLine :=
  runSummary o.registry o.dropped elapsed

end BodyDigest
