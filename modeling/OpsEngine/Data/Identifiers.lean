namespace OpsEngine

/-! # Identifiers

Every identifier carries what its `parse` established.  A UUID is kept as its 128
bits: the only text the source accepts for it is its canonical lowercase hyphenated
form, which the bits determine.
-/

/-- Text the source treats character by character. -/
abbrev Text := List Char

/-- Identifies one mutation attempt. -/
structure RequestId where
  uuid : BitVec 128
  notNil : uuid ≠ 0
deriving DecidableEq

theorem numbered_notNil (number : Nat) : BitVec.ofNat 128 (max 1 (number % 256)) ≠ 0 := by
  intro zero
  have value := congrArg BitVec.toNat zero
  simp only [BitVec.ofNat_eq_ofNat, BitVec.toNat_ofNat] at value
  omega

/-- The id of this number, from 1 to 255. -/
def RequestId.numbered (number : Nat) : RequestId :=
  ⟨.ofNat 128 (max 1 (number % 256)), numbered_notNil number⟩

structure SiteId where
  uuid : BitVec 128
  notNil : uuid ≠ 0
deriving DecidableEq

def SiteId.numbered (number : Nat) : SiteId :=
  ⟨.ofNat 128 (max 1 (number % 256)), numbered_notNil number⟩

/-- Identifies one prepared release directory: the request that created it. -/
structure ReleaseId where
  requestId : RequestId
deriving DecidableEq

def ReleaseId.ofRequest (requestId : RequestId) : ReleaseId := ⟨requestId⟩

inductive IdentifierError where
  | invalidRequestId
  | invalidIdempotencyKey
deriving DecidableEq

def isAsciiGraphic (byte : UInt8) : Bool := 0x21 ≤ byte && byte ≤ 0x7e

namespace IdempotencyKey

def maxLen : Nat := 128

def acceptable (bytes : List UInt8) : Bool :=
  !bytes.isEmpty && bytes.length ≤ maxLen && bytes.all isAsciiGraphic

end IdempotencyKey

/-- Opaque, caller-supplied token: bounded printable ASCII. -/
structure IdempotencyKey where
  bytes : List UInt8
  valid : IdempotencyKey.acceptable bytes = true
deriving DecidableEq

def isLowerHexDigit (c : Char) : Bool := ('0' ≤ c && c ≤ '9') || ('a' ≤ c && c ≤ 'f')

/-- A full Git object id, already lowercased. -/
structure GitCommitSha where
  text : Text
  valid : ((text.length == 40 || text.length == 64) && text.all isLowerHexDigit) = true
deriving DecidableEq

end OpsEngine
