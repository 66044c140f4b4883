import OpsEngine.Data.ConfigHash
import OpsEngine.Data.Records
import OpsEngine.Migrate.Route

namespace OpsEngine

namespace Migrate

/-! # The journal of a migration

`site_migrate_runtime`'s data: what it reads from the host, what it writes to
`pending/<request id>.json`, and how many bytes that file has.
-/

/-- An HTTP check to run instead of the control-token probe. -/
structure HealthCheck where
  path : Text
  expectedStatus : Nat
  expectedBody : Option Text
deriving DecidableEq

structure Request where
  domain : Domain
  target : RuntimeId
  health : Option HealthCheck
  stopIdleSource : Bool
  requestId : RequestId

/-- Which of the domain's route files the migration retargets. -/
inductive RouteKind where
  | live
  | backup
deriving DecidableEq

structure Route where
  kind : RouteKind
  content : Text
deriving DecidableEq

structure Identity where
  osUser : Text
  uid : Nat
  gid : Nat
  port : Nat
  root : Text
  workerMode : Bool
  workerCount : Int
deriving DecidableEq

structure StepError where
  code : ErrorCode
  message : String
deriving DecidableEq

inductive Phase where
  | preparing
  | cutover
  | cleanup
deriving DecidableEq

/-- Which target artifacts may exist.  Set before the step that creates them. -/
structure TargetArtifacts where
  identity : Bool
  service : Bool
  execConfig : Bool
deriving DecidableEq

structure Journal where
  requestId : RequestId
  domain : Domain
  fromRuntime : RuntimeId
  toRuntime : RuntimeId
  routeKind : RouteKind
  previousRoute : Text
  previousRouteSha256 : ConfigHash
  newRouteSha256 : ConfigHash
  phase : Phase
  target : TargetArtifacts
  stopIdleSource : Bool
deriving DecidableEq

def Journal.start [Sha256] (request : Request) (source : RuntimeId) (route : Route) (newRoute : Text) :
    Journal :=
  { requestId := request.requestId, domain := request.domain, fromRuntime := source
    toRuntime := request.target, routeKind := route.kind, previousRoute := route.content
    previousRouteSha256 := .of route.content, newRouteSha256 := .of newRoute
    phase := .preparing, target := ⟨false, false, false⟩
    stopIdleSource := request.stopIdleSource }

def Journal.mark (journal : Journal) (target : TargetArtifacts) : Journal := { journal with target }

def Journal.enter (journal : Journal) (phase : Phase) : Journal := { journal with phase }

structure MigrateResult where
  domain : Domain
  fromRuntimeId : RuntimeId
  toRuntimeId : RuntimeId
  port : Nat
  warnings : List String
  completedAtUnixSecs : Nat
deriving DecidableEq

/-! The size of the file.  `serde_json` writes no white space, escapes a double
quote, a backslash and the control characters, and copies everything else. -/

/-- The bytes one character of a JSON string takes. -/
def jsonCharBytes (c : Char) : Nat :=
  if c = '"' || c = '\\' then 2
  else if c.toNat = 8 || c.toNat = 9 || c.toNat = 10 || c.toNat = 12 || c.toNat = 13 then 2
  else if c.toNat < 0x20 then 6
  else c.utf8Size

def jsonTextBytes (text : Text) : Nat := (text.map jsonCharBytes).sum

def jsonStringBytes (text : Text) : Nat := jsonTextBytes text + 2

def jsonBoolBytes (value : Bool) : Nat := if value then 4 else 5

/-- The name of a field with its quotes and its colon, and the comma or brace
before it. -/
def jsonNameBytes (name : String) : Nat := jsonStringBytes name.toList + 2

def RouteKind.name : RouteKind → String
  | .live => "live"
  | .backup => "backup"

def Phase.name : Phase → String
  | .preparing => "preparing"
  | .cutover => "cutover"
  | .cleanup => "cleanup"

/-- A canonical UUID has 36 characters, a SHA-256 in hex 64. -/
def uuidBytes : Nat := 36

def sha256Bytes : Nat := 64

/-- The length of `serde_json::to_vec(journal)`. -/
def Journal.encodedBytes (journal : Journal) : Nat :=
  jsonNameBytes "requestId" + (uuidBytes + 2) +
  jsonNameBytes "domain" + jsonStringBytes journal.domain.text +
  jsonNameBytes "fromRuntime" + jsonStringBytes journal.fromRuntime.text +
  jsonNameBytes "toRuntime" + jsonStringBytes journal.toRuntime.text +
  jsonNameBytes "routeKind" + jsonStringBytes journal.routeKind.name.toList +
  jsonNameBytes "previousRoute" + jsonStringBytes journal.previousRoute +
  jsonNameBytes "previousRouteSha256" + (sha256Bytes + 2) +
  jsonNameBytes "newRouteSha256" + (sha256Bytes + 2) +
  jsonNameBytes "phase" + jsonStringBytes journal.phase.name.toList +
  jsonNameBytes "target" +
    (jsonNameBytes "identity" + jsonBoolBytes journal.target.identity +
     jsonNameBytes "service" + jsonBoolBytes journal.target.service +
     jsonNameBytes "execConfig" + jsonBoolBytes journal.target.execConfig + 1) +
  jsonNameBytes "stopIdleSource" + jsonBoolBytes journal.stopIdleSource + 1

/-- The most `recover` reads of a journal. -/
def maxJournalBytes : Nat := 65536

end Migrate

end OpsEngine
