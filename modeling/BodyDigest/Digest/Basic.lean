import BodyDigest.Digest.Sha256
import BodyDigest.Text.Utf8

/-! The digest of a text: the hash of its UTF-8 form, as hexadecimal digits. -/
namespace BodyDigest

def octetsText (octets : List UInt8) : Text := octets.flatMap fun b => Text.hexadecimal 2 b.toNat

/-- A text with a lone surrogate has no digest. -/
def digest (t : Text) : Except Utf8.SurrogateRun Text :=
  (Utf8.encodeText t).map fun octets => octetsText (Sha256.hash octets)

/-- What is reported of a text without a digest. -/
def Utf8.SurrogateRun.failure (run : Utf8.SurrogateRun) : Text :=
  ("Canonical text is not encodable as UTF-8: " : Text) ++ run.message

/-- The digest that every member without a body has. -/
def emptyDigest : Text := octetsText (Sha256.hash [])

end BodyDigest
