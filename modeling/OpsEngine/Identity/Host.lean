import Mathlib.Data.List.AList
import OpsEngine.Data.Domain
import OpsEngine.Effect.Turns

namespace OpsEngine.Identity

open Effect

/-! # Identity records and accounts

The host as `site_identity` sees it: the record files of the pools, the two
counters, and the account database.  Requests run one after another under the stack
lock; in between, entries may appear in the account database.
-/

structure SiteSettings where
  root : Text
  workerMode : Bool
  workerCount : Int
deriving DecidableEq

structure IdentityRecord where
  osUser : Text
  uid : Nat
  gid : Nat
  port : Nat
  settings : SiteSettings
deriving DecidableEq

structure Account where
  name : Text
  uid : Nat
  gid : Nat
deriving DecidableEq

structure GroupEntry where
  name : Text
  gid : Nat
deriving DecidableEq

def uidStart : Nat := 10000

def uidMax : Nat := 60000

def minSiteIdentity : Nat := 1000

def portStart : Nat := 9000

def portMax : Nat := 32767

def userPrefix : Text := "wcp-site-".toList

/-- `<first 16 hex of sha256(domain)>` of the account names. -/
abbrev Slug := Domain → Text

def derivedUser (slug : Slug) (domain : Domain) : Text := userPrefix ++ slug domain

def validManagedUser (name : Text) : Bool :=
  userPrefix.isPrefixOf name &&
    let hash := name.drop userPrefix.length
    hash.length = 16 && hash.all isLowerHexDigit

/-- A record file.  Which allocation a record goes back to is not in the file; a
rename hands it on. -/
structure Stored where
  record : IdentityRecord
  origin : Nat

abbrev RecordFiles := AList fun _ : RuntimeId × Domain => Stored

structure Host where
  records : RecordFiles
  /-- The record files that could be read when all of them were last listed. -/
  readable : RuntimeId → Domain → Bool
  services : RuntimeId → Domain → Bool
  uidCounter : Option Nat
  portCounter : RuntimeId → Option Nat
  legacyCounter : Option Nat
  passwd : List Account
  groups : List GroupEntry
  /-- The uids handed out so far, the last one first. -/
  handed : List Nat
  /-- How many allocations have written a record. -/
  births : Nat
  /-- The renames, as pool, old and new domain, that have written the new record
  and whose two records are both still there. -/
  moving : List (RuntimeId × Domain × Domain)

def Host.record? (host : Host) (runtime : RuntimeId) (domain : Domain) : Option IdentityRecord :=
  (host.records.lookup (runtime, domain)).map Stored.record

/-- The record comes from a new allocation, or from the record of another domain
of the pool. -/
inductive Source where
  | allocation
  | record (domain : Domain)
deriving DecidableEq

inductive Admission where
  | proceed
  | replay
  | refused
deriving DecidableEq

inductive ToolCall where
  | groupadd (name : Text) (gid : Nat)
  | useradd (name : Text) (id : Nat)
  | userdel (name : Text)
  | groupdel (name : Text)
deriving DecidableEq

def ToolCall.label : ToolCall → String
  | .groupadd _ _ => "groupadd"
  | .useradd _ _ => "useradd"
  | .userdel _ => "userdel"
  | .groupdel _ => "groupdel"

inductive Step where
  /-- Time passes between two requests. -/
  | drift
  | admission
  | openRuntimeRoot
  | openServicesRoot
  | serviceExists (runtime : RuntimeId) (domain : Domain)
  | readRecord (runtime : RuntimeId) (domain : Domain)
  | createPoolDir (runtime : RuntimeId)
  | writeRecord (runtime : RuntimeId) (domain : Domain) (record : IdentityRecord) (source : Source)
  | removeRecord (runtime : RuntimeId) (domain : Domain)
  | allRecords
  | passwd
  | groups
  | readUidCounter
  | readLegacyCounter
  | writeUidCounter (handed : Nat)
  | readPortCounter (runtime : RuntimeId)
  | writePortCounter (runtime : RuntimeId) (handed : Nat)
  | tool (call : ToolCall)
  | saveRecord
  | now
deriving DecidableEq

inductive Error where
  | refused
  | io
  | recordMissing
  | conflict (message : String)
  | serviceStillPresent
  | exhausted (message : String)
  | tool (label : String)
  | postCommit
deriving DecidableEq

def Answer : Step → Type
  | .drift => Unit
  | .admission => Admission
  | .openRuntimeRoot | .openServicesRoot | .createPoolDir _ | .writeRecord _ _ _ _
  | .writeUidCounter _ | .writePortCounter _ _ => Except Error Unit
  | .tool _ | .serviceExists _ _ | .saveRecord => Bool
  | .readRecord _ _ => Except Error (Option IdentityRecord)
  | .removeRecord _ _ => Except Error Bool
  | .allRecords => Except Error (List ((RuntimeId × Domain) × IdentityRecord))
  | .passwd => Except Error (List Account)
  | .groups => Except Error (List GroupEntry)
  | .readUidCounter | .readPortCounter _ => Except Error (Option Nat)
  | .readLegacyCounter => Option Nat
  | .now => Nat

structure Chance where
  fails : Bool
  takes : Bool
  /-- `userdel` removes the group of the same name. -/
  group : Bool
  admission : Admission
  /-- The entries that appear. -/
  accounts : List Account
  groups : List GroupEntry
  readable : RuntimeId → Domain → Bool
  services : RuntimeId → Domain → Bool
  now : Nat

abbrev Action (α : Type) := Program Step Answer α

/-- A file operation: it fails without an effect. -/
def Chance.store (chance : Chance) (before after : Host) : Except Error Unit × Host :=
  if chance.fails then (.error .io, before) else (.ok (), after)

/-- An account tool, or a write whose last call sets the mode of the file. -/
def Chance.settle (chance : Chance) (before after : Host) : Bool × Host :=
  if chance.fails then (false, if chance.takes then after else before) else (true, after)

def Host.originOf (host : Host) (runtime : RuntimeId) : Source → Nat
  | .allocation => host.births
  | .record domain => ((host.records.lookup (runtime, domain)).map Stored.origin).getD 0

def Host.putRecord (host : Host) (runtime : RuntimeId) (domain : Domain) (record : IdentityRecord)
    (source : Source) : Host :=
  { host with
    records := host.records.insert (runtime, domain) ⟨record, host.originOf runtime source⟩
    births := if source = .allocation then host.births + 1 else host.births
    moving :=
      match source with
      | .allocation => host.moving
      | .record old => if old = domain then host.moving else (runtime, old, domain) :: host.moving }

def Host.dropRecord (host : Host) (runtime : RuntimeId) (domain : Domain) : Host :=
  { host with
    records := host.records.erase (runtime, domain)
    moving := host.moving.filter fun entry =>
      !(entry.1 = runtime && (entry.2.1 = domain || entry.2.2 = domain)) }

/-- `all_records`: what cannot be read is passed by. -/
def Host.readableRecords (host : Host) (readable : RuntimeId → Domain → Bool) :
    List ((RuntimeId × Domain) × IdentityRecord) :=
  (host.records.entries.filter fun entry => readable entry.1.1 entry.1.2).map
    fun entry => (entry.1, entry.2.record)

/-- A tool adds neither a name nor an id that is taken. -/
def Host.refuses (host : Host) : ToolCall → Bool
  | .groupadd name gid => host.groups.any fun entry => entry.name = name || entry.gid = gid
  | .useradd name id => host.passwd.any fun account => account.name = name || account.uid = id
  | .userdel _ | .groupdel _ => false

/-- What a call of a tool does.  `userdel` may take the group of the same name
along. -/
def Host.called (host : Host) (group : Bool) : ToolCall → Host
  | .groupadd name gid => { host with groups := host.groups ++ [⟨name, gid⟩] }
  | .useradd name id => { host with passwd := host.passwd ++ [⟨name, id, id⟩] }
  | .userdel name =>
    { host with
      passwd := host.passwd.filter (·.name ≠ name)
      groups := if group then host.groups.filter (·.name ≠ name) else host.groups }
  | .groupdel name => { host with groups := host.groups.filter (·.name ≠ name) }

def exec (chance : Chance) : (step : Step) → Host → Answer step × Host
  | .drift, host =>
    ((), { host with
      passwd := host.passwd ++ chance.accounts
      groups := host.groups ++ chance.groups
      services := chance.services })
  | .admission, host => (chance.admission, host)
  | .openRuntimeRoot, host | .openServicesRoot, host | .createPoolDir _, host =>
    chance.store host host
  | .serviceExists runtime domain, host => (host.services runtime domain, host)
  | .readRecord runtime domain, host =>
    (if chance.fails then .error .io else .ok (host.record? runtime domain), host)
  | .writeRecord runtime domain record source, host =>
    let settled := chance.settle host (host.putRecord runtime domain record source)
    (if settled.1 then .ok () else .error .io, settled.2)
  | .removeRecord runtime domain, host =>
    if chance.fails then (.error .io, host)
    else (.ok (host.record? runtime domain).isSome, host.dropRecord runtime domain)
  | .allRecords, host =>
    (if chance.fails then .error .io else .ok (host.readableRecords chance.readable),
      { host with readable := chance.readable })
  | .passwd, host => (if chance.fails then .error .io else .ok host.passwd, host)
  | .groups, host => (if chance.fails then .error .io else .ok host.groups, host)
  | .readUidCounter, host => (if chance.fails then .error .io else .ok host.uidCounter, host)
  | .readLegacyCounter, host => (if chance.fails then none else host.legacyCounter, host)
  | .writeUidCounter handed, host =>
    chance.store host
      { host with uidCounter := some (handed + 1), handed := handed :: host.handed }
  | .readPortCounter runtime, host =>
    (if chance.fails then .error .io else .ok (host.portCounter runtime), host)
  | .writePortCounter runtime handed, host =>
    chance.store host
      { host with portCounter := Function.update host.portCounter runtime (some (handed + 1)) }
  | .tool call, host =>
    if host.refuses call then (false, host)
    else chance.settle host (host.called chance.group call)
  | .saveRecord, host => (!chance.fails, host)
  | .now, host => (chance.now, host)

def machine : Machine Step Answer Host Unit Chance where
  exec _ chance step host := exec chance step host
  exit _ host := host

end OpsEngine.Identity
