import OpsEngine.Data.Identifiers

namespace OpsEngine

/-! # Domains and runtime pools

Both are checked character by character.  Every accepted character is ASCII, so
the length in bytes is the number of characters.
-/

def isLabelChar (c : Char) : Bool :=
  ('a' ≤ c && c ≤ 'z') || ('0' ≤ c && c ≤ '9') || c == '-'

def isLabel (label : Text) : Bool :=
  !label.isEmpty && label.length ≤ 63 && label.head? != some '-' && label.getLast? != some '-' &&
    label.all isLabelChar

namespace Domain

def acceptable (value : Text) : Bool :=
  !value.isEmpty && value.length ≤ 253 && value.head? != some '.' && value.getLast? != some '.' &&
    (value.splitOn '.').all isLabel

end Domain

structure Domain where
  text : Text
  valid : Domain.acceptable text = true
deriving DecidableEq

theorem shopTest_valid : Domain.acceptable "shop.test".toList = true := by decide

inductive ValidationError where
  | invalidDomain
  | invalidRuntimeId
deriving DecidableEq

namespace RuntimeId

def acceptable (value : Text) : Bool :=
  !value.isEmpty && value.length ≤ 64 && value.head? != some '-' && value.getLast? != some '-' &&
    value.all isLabelChar

end RuntimeId

structure RuntimeId where
  text : Text
  valid : RuntimeId.acceptable text = true
deriving DecidableEq

theorem php83_valid : RuntimeId.acceptable "php83".toList = true := by decide

theorem php84_valid : RuntimeId.acceptable "php84".toList = true := by decide

def RuntimeId.parse (value : Text) : Except ValidationError RuntimeId :=
  if valid : RuntimeId.acceptable value = true then .ok ⟨value, valid⟩
  else .error .invalidRuntimeId

theorem RuntimeId.parse_text (runtime : RuntimeId) : RuntimeId.parse runtime.text = .ok runtime := by
  simp [RuntimeId.parse, runtime.valid]

theorem RuntimeId.label_of_mem (runtime : RuntimeId) {c : Char} (member : c ∈ runtime.text) :
    isLabelChar c = true := by
  have valid := runtime.valid
  simp only [RuntimeId.acceptable, Bool.and_eq_true, List.all_eq_true] at valid
  exact valid.2 c member

end OpsEngine
