import OpsEngine.Data.Identifiers

namespace OpsEngine

/-- SHA-256 in hex digits.  Everything that compares digests has it as a parameter; what it
has to keep apart is said where it matters. -/
class Sha256 where
  hex : Text → Text

structure ConfigHash where
  text : Text
deriving DecidableEq

/-- `ConfigHash::of`. -/
def ConfigHash.of [Sha256] (content : Text) : ConfigHash := ⟨Sha256.hex content⟩

/-- A digest for examples: the content itself. -/
abbrev Sha256.verbatim : Sha256 := ⟨fun content => content⟩

end OpsEngine
