import BodyDigest.Canonical
import BodyDigest.Digest.Basic
import BodyDigest.Text.Quoted

/-! The record of a descriptor: the digest of its body's canonical text. -/
namespace BodyDigest

/-- Why a descriptor has no record. -/
inductive FingerprintError where
  | unplaced (member : Text)
  | unreadable (label : Text) (cause : Canonical.FragmentError)
  | unencodable (label : Text) (run : Utf8.SurrogateRun)
  deriving DecidableEq

def Location.text (l : Location) : Text := l.path ++ ":" ++ Text.ofInt l.line

/-- A descriptor as messages name it; what is unknown shows as `None`. -/
def Descriptor.label (d : Descriptor) : Text :=
  let place : Text := match d.location with
    | some l => (" at " : Text) ++ l.text
    | none => []
  d.scope.getD "None" ++ "." ++ d.type.getD "None" ++ "." ++ d.signature ++ place

def FingerprintError.message : FingerprintError → Text
  | .unplaced member =>
    ("Descriptor " : Text) ++ Text.quoted member ++ " is missing symbol information"
  | .unreadable label cause => label ++ ": " ++ cause.message
  | .unencodable label run => label ++ ": " ++ run.failure

def fingerprint (d : Descriptor) : Except FingerprintError Record :=
  if !d.isPlaced then .error (.unplaced d.member)
  else match Canonical.text d.body with
    | .error e => .error (.unreadable d.label e)
    | .ok t =>
      match digest t with
      | .error run => .error (.unencodable d.label run)
      | .ok value =>
        .ok ⟨d.scope.getD [], d.type.getD [], d.member, d.member, d.signature, value, d.location⟩

end BodyDigest
