import BodyDigest.Text.Basic

/-!
The UTF-8 form of texts. Writing fails on a lone surrogate and names the first run of them; reading
fails on the first octets that no character begins with.
-/
namespace BodyDigest.Utf8

def encode (cs : List Char) : List UInt8 := cs.flatMap String.utf8EncodeChar

/-- A run of lone surrogates: the position of the first and of the last, and the first itself. -/
structure SurrogateRun where
  first : Nat
  last : Nat
  code : Nat
  deriving DecidableEq

def runLength : Text → Nat
  | .surrogate _ :: rest => runLength rest + 1
  | _ => 0

def findSurrogates (position : Nat) : Text → Option SurrogateRun
  | [] => none
  | .char _ :: rest => findSurrogates (position + 1) rest
  | .surrogate offset :: rest =>
    some ⟨position, position + runLength rest, (CodePoint.surrogate offset).val⟩

def encodeText (t : Text) : Except SurrogateRun (List UInt8) :=
  match findSurrogates 0 t with
  | some run => .error run
  | none => .ok (encode (t.filterMap CodePoint.char?))

def SurrogateRun.message (run : SurrogateRun) : Text :=
  if run.first = run.last then
    ("'utf-8' codec can't encode character '\\u" : Text) ++ Text.hexadecimal 4 run.code
      ++ "' in position " ++ Text.ofNat run.first ++ ": surrogates not allowed"
  else
    ("'utf-8' codec can't encode characters in position " : Text) ++ Text.ofNat run.first
      ++ "-" ++ Text.ofNat run.last ++ ": surrogates not allowed"

inductive Fault where
  | start
  | continuation
  | truncated
  deriving DecidableEq

/-- Octets that are no character: where they start and end, the first of them, and why. -/
structure DecodeError where
  start : Nat
  stop : Nat
  octet : UInt8
  fault : Fault
  deriving DecidableEq

def DecodeError.message (e : DecodeError) : Text :=
  let place : Text :=
    if e.stop = e.start + 1 then
      ("byte 0x" : Text) ++ Text.hexadecimal 2 e.octet.toNat ++ " in position " ++ Text.ofNat e.start
    else
      ("bytes in position " : Text) ++ Text.ofNat e.start ++ "-" ++ Text.ofNat (e.stop - 1)
  let reason : Text := match e.fault with
    | .start => "invalid start byte"
    | .continuation => "invalid continuation byte"
    | .truncated => "unexpected end of data"
  ("'utf-8' codec can't decode " : Text) ++ place ++ ": " ++ reason

def isTail (b : UInt8) : Bool := 0x80 ≤ b && b < 0xc0

/-- Whether `b` may follow the first octet of three, without overlong forms and surrogates. -/
def isSecondOfThree (a b : UInt8) : Bool :=
  isTail b && !(a == 0xe0 && b < 0xa0) && !(a == 0xed && 0xa0 ≤ b)

/-- Whether `b` may follow the first octet of four, up to the last code point. -/
def isSecondOfFour (a b : UInt8) : Bool :=
  isTail b && !(a == 0xf0 && b < 0x90) && !(a == 0xf4 && 0x90 ≤ b)

def bits (b : UInt8) : Nat := b.toNat % 64

/-- Reads octets of which the first stands at `position`. -/
def decodeFrom (position : Nat) : List UInt8 → Except DecodeError (List Char)
  | [] => .ok []
  | a :: rest =>
    if a < 0x80 then do
      return Char.ofNat a.toNat :: (← decodeFrom (position + 1) rest)
    else if a < 0xc2 || 0xf5 ≤ a then .error ⟨position, position + 1, a, .start⟩
    else if a < 0xe0 then
      match rest with
      | [] => .error ⟨position, position + 1, a, .truncated⟩
      | b :: rest =>
        if isTail b then do
          return Char.ofNat ((a.toNat % 32) * 64 + bits b) :: (← decodeFrom (position + 2) rest)
        else .error ⟨position, position + 1, a, .continuation⟩
    else if a < 0xf0 then
      match rest with
      | [] => .error ⟨position, position + 1, a, .truncated⟩
      | b :: rest =>
        if !isSecondOfThree a b then .error ⟨position, position + 1, a, .continuation⟩
        else match rest with
          | [] => .error ⟨position, position + 2, a, .truncated⟩
          | c :: rest =>
            if isTail c then do
              return Char.ofNat ((a.toNat % 16) * 4096 + bits b * 64 + bits c)
                :: (← decodeFrom (position + 3) rest)
            else .error ⟨position, position + 2, a, .continuation⟩
    else
      match rest with
      | [] => .error ⟨position, position + 1, a, .truncated⟩
      | b :: rest =>
        if !isSecondOfFour a b then .error ⟨position, position + 1, a, .continuation⟩
        else match rest with
          | [] => .error ⟨position, position + 2, a, .truncated⟩
          | c :: rest =>
            if !isTail c then .error ⟨position, position + 2, a, .continuation⟩
            else match rest with
              | [] => .error ⟨position, position + 3, a, .truncated⟩
              | d :: rest =>
                if isTail d then do
                  return Char.ofNat ((a.toNat % 8) * 262144 + bits b * 4096 + bits c * 64 + bits d)
                    :: (← decodeFrom (position + 4) rest)
                else .error ⟨position, position + 3, a, .continuation⟩

def decode (octets : List UInt8) : Except DecodeError (List Char) := decodeFrom 0 octets

end BodyDigest.Utf8
