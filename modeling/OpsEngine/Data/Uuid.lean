import Mathlib.Data.List.Basic
import OpsEngine.Data.Identifiers

namespace OpsEngine

/-! # The text of an identifier

The canonical spelling of a UUID, and reading it back.
-/

def hexDigit (digit : Nat) : Char := Char.ofNat (if digit < 10 then 48 + digit else 87 + digit)

def hexValue (c : Char) : Nat := if c.toNat < 97 then c.toNat - 48 else c.toNat - 87

/-- The last `count` hex digits of a number. -/
def hexDigits : Nat → Nat → Text
  | 0, _ => []
  | count + 1, value => hexDigits count (value / 16) ++ [hexDigit (value % 16)]

def hexNumber (digits : Text) : Nat :=
  digits.foldl (fun value digit => 16 * value + hexValue digit) 0

/-- Groups of eight, four, four, four and the rest. -/
def hyphenate (digits : Text) : Text :=
  digits.take 8 ++ '-' :: ((digits.drop 8).take 4 ++ '-' :: ((digits.drop 12).take 4 ++
    '-' :: ((digits.drop 16).take 4 ++ '-' :: digits.drop 20)))

def hyphenated (uuid : BitVec 128) : Text := hyphenate (hexDigits 32 uuid.toNat)

/-- The UUID whose digits the text has. -/
def uuidOfText (text : Text) : BitVec 128 :=
  BitVec.ofNat 128 (hexNumber (text.filter (· ≠ '-')))

namespace RequestId

def text (id : RequestId) : Text := hyphenated id.uuid

/-- `Uuid::parse_str` reads more spellings; only the canonical one passes the
comparison. -/
def parse (value : Text) : Except IdentifierError RequestId :=
  if notNil : uuidOfText value ≠ 0 then
    if value = hyphenated (uuidOfText value) then .ok ⟨uuidOfText value, notNil⟩
    else .error .invalidRequestId
  else .error .invalidRequestId

end RequestId

namespace ReleaseId

def text (release : ReleaseId) : Text := release.requestId.text

def parse (value : Text) : Except IdentifierError ReleaseId :=
  match RequestId.parse value with
  | .ok id => .ok ⟨id⟩
  | .error error => .error error

end ReleaseId

def SiteId.text (site : SiteId) : Text := hyphenated site.uuid

end OpsEngine
