import OpsEngine.Data.Identifiers

namespace OpsEngine

/-- A JSON value.  Object fields keep the order they were written in; a lookup
takes the first of a name. -/
inductive Json where
  | null
  | bool (value : Bool)
  | number (value : Nat)
  | string (value : Text)
  | array (values : List Json)
  | object (fields : List (String × Json))

namespace Json

def field? : Json → String → Option Json
  | .object fields, name => fields.lookup name
  | _, _ => none

end Json

end OpsEngine
