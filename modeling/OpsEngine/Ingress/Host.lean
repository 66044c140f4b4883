import OpsEngine.Data.ConfigHash
import OpsEngine.Data.Domain
import OpsEngine.Data.Lines
import OpsEngine.Data.Search
import OpsEngine.Data.Uuid
import OpsEngine.Files.Plain

namespace OpsEngine.Ingress

open Effect Files

/-! # The route files

The files the ingress and the runtime pools are configured with, by the names
they have on disk, and what the engine asks outside them.  Every operation on
them holds the stack lock for its whole body, so they run one after another.
-/

inductive Dir where
  | routes
  | bans
  | pool (runtime : RuntimeId)
deriving DecidableEq

abbrev FilePath := Pathname Dir Text

/-- The containers that are reloaded: the ingress, and `runtime-<id>` of a pool. -/
inductive Service where
  | ingress
  | pool (runtime : RuntimeId)
deriving DecidableEq

inductive Query where
  | validate (service : Service) (path : FilePath)
  | reload (service : Service)
  | now

def Answer : Query → Type
  | .validate _ _ | .reload _ => Bool
  | .now => Nat

abbrev RouteOp := Op Dir Text Text Query

abbrev Action (α : Type) := Program RouteOp (Op.Result Answer) α

abbrev Routes := Disk Dir Text Text Unit

abbrev RouteChoice := Choice Text Query Answer

/-- What every path holds. -/
abbrev View := FilePath → Option (Option Text)

/-! ## What is served

A server reads the files its configuration imports when it is reloaded, and goes
on with what it had when it rejects them.
-/

/-- The globs of the configurations: `*.caddyfile` of the routes and `bans/*.caddy`
from within them, `*.caddyfile` of a pool. -/
def Service.imports : Service → FilePath → Bool
  | .ingress, ⟨.routes, name⟩ => Text.endsWith name ".caddyfile".toList
  | .ingress, ⟨.bans, name⟩ => Text.endsWith name ".caddy".toList
  | .pool runtime, ⟨.pool other, name⟩ =>
    runtime = other && Text.endsWith name ".caddyfile".toList
  | _, _ => false

/-- The files a service sees. -/
def Service.sees (service : Service) (view : View) : View :=
  fun path => if service.imports path then view path else none

abbrev Servers := Service → View

def Servers.reloaded (servers : Servers) (service : Service) (view : View) : Servers :=
  Function.update servers service (service.sees view)

/-- A successful reload loads the files as they are; nothing else reaches the
running servers. -/
def serve : (query : Query) → Answer query → Routes → Servers → Servers
  | .reload service, true, routes, servers => Servers.reloaded servers service routes.look
  | _, _, _, servers => servers

abbrev HostState := Hosted Dir Text Text Unit Servers

abbrev host : Machine RouteOp (Op.Result Answer) HostState Unit RouteChoice := Files.hosted serve

/-! The calls, as one-operation programs. -/

abbrev openDir (dir : Dir) : Action (Except IoError Unit) := Program.call (Op.openDir dir)

abbrev createDirAll (dir : Dir) : Action (Except IoError Unit) := Program.call (Op.createDirAll dir)

abbrev read (path : FilePath) : Action (Except IoError (Option Text)) := Program.call (Op.read path)

abbrev «exists» (path : FilePath) : Action Bool := Program.call (Op.present path)

abbrev removeFile (path : FilePath) : Action (Except IoError Unit) := Program.call (Op.remove path)

abbrev rename (source target : FilePath) : Action (Except IoError Unit) :=
  Program.call (Op.rename source target)

abbrev validate (service : Service) (path : FilePath) : Action Bool :=
  Program.call (Op.ask (Query.validate service path))

abbrev reload (service : Service) : Action Bool := Program.call (Op.ask (Query.reload service))

abbrev unixNowSecs : Action Nat := Program.call (Op.ask Query.now)

def tempSiblingPath (path : FilePath) : FilePath := { path with name := path.name ++ ".tmp".toList }

def writeAtomic (path : FilePath) (content : Text) : Action (Except IoError Unit) :=
  replace (tempSiblingPath path) path content

/-- `activate::read_optional`.  No name that is read here ever holds a file that
was not completely written. -/
def readOptional (path : FilePath) : Action (Except IoError (Option Text)) := do
  match ← read path with
  | .ok (some content) => return .ok (some content)
  | .ok none => return .error .other
  | .error .notFound => return .ok none
  | .error error => return .error error

/-! ## Names -/

def routePath (domain : Domain) : FilePath := ⟨.routes, domain.text ++ ".caddyfile".toList⟩

def disabledRoutePath (domain : Domain) : FilePath :=
  ⟨.routes, domain.text ++ ".caddyfile.disabled".toList⟩

def backupRoutePath (domain : Domain) : FilePath :=
  ⟨.routes, domain.text ++ ".maintenance-backup".toList⟩

/-- `runtime_config::route_path`. -/
def fragmentPath (runtime : RuntimeId) (domain : Domain) : FilePath :=
  ⟨.pool runtime, domain.text ++ ".caddyfile".toList⟩

def adminPath (domain : Domain) : FilePath :=
  ⟨.bans, "admin-".toList ++ domain.text ++ ".caddy".toList⟩

def sibling (path : FilePath) (suffix : Text) : FilePath := { path with name := path.name ++ suffix }

def rollbackSibling (path : FilePath) (suffix : Text) : FilePath :=
  sibling path (".rollback-".toList ++ suffix)

/-- The three files one activation touches. -/
structure RoutePaths where
  live : FilePath
  staged : FilePath
  backup : FilePath

def RoutePaths.new (live : FilePath) (backupSuffix : Text) : RoutePaths :=
  { live, staged := sibling live ".tmp".toList, backup := rollbackSibling live backupSuffix }

/-- The precondition a request states on the file it replaces. -/
inductive HashGuard where
  | absent
  | sha256 (expected : ConfigHash)
deriving DecidableEq

def HashGuard.isSatisfiedBy [Sha256] : HashGuard → Option Text → Bool
  | .absent, current => current.isNone
  | .sha256 expected, some content => ConfigHash.of content = expected
  | .sha256 _, none => false

end OpsEngine.Ingress
