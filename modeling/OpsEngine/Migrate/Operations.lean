import OpsEngine.Effect.Turns
import OpsEngine.Migrate.Journal
import OpsEngine.Transaction.Prune

namespace OpsEngine.Migrate

open Effect

/-! # `site.migrateRuntime`

The host as the migration of one domain sees it, and the programs of
`site_migrate_runtime`.  A step of the backend may fail, and may have had its
effect all the same.
-/

structure Artifacts where
  identity : Option Identity
  service : Bool
  execConfig : Option Text
deriving DecidableEq

/-- The pool has the domain's identity, service and exec config. -/
def Artifacts.Whole (artifacts : Artifacts) : Prop :=
  artifacts.identity.isSome ∧ artifacts.service = true ∧ artifacts.execConfig.isSome

instance (artifacts : Artifacts) : Decidable artifacts.Whole :=
  inferInstanceAs (Decidable (_ ∧ _ ∧ _))

/-- A file of `pending/`.  It is `torn` between its exclusive creation and its
content. -/
inductive JournalFile where
  | torn
  | whole (journal : Journal)

structure Record where
  status : TransactionStatus
  finishedAt : Option Nat
  outcome : Option (Except StepError MigrateResult)

structure Fleet where
  liveRoute : Option Text
  backupRoute : Option Text
  pools : RuntimeId → Artifacts
  journals : List (RequestId × JournalFile)
  records : RequestId → Option Record

/-- `Backend::read_route`: the maintenance backup first, then the live route. -/
def Fleet.route? (fleet : Fleet) : Option Route :=
  match fleet.backupRoute with
  | some content => some ⟨.backup, content⟩
  | none => fleet.liveRoute.map (⟨.live, ·⟩)

def Fleet.routeFile (fleet : Fleet) : RouteKind → Option Text
  | .live => fleet.liveRoute
  | .backup => fleet.backupRoute

def Fleet.setRoute (fleet : Fleet) (kind : RouteKind) (content : Text) : Fleet :=
  match kind with
  | .live => { fleet with liveRoute := some content }
  | .backup => { fleet with backupRoute := some content }

def Fleet.setPool (fleet : Fleet) (runtime : RuntimeId) (artifacts : Artifacts) : Fleet :=
  { fleet with pools := Function.update fleet.pools runtime artifacts }

def Fleet.dropJournal (fleet : Fleet) (id : RequestId) : Fleet :=
  { fleet with journals := fleet.journals.filter (·.1 ≠ id) }

def Fleet.setJournal (fleet : Fleet) (id : RequestId) (file : JournalFile) : Fleet :=
  { fleet with journals := (id, file) :: (fleet.dropJournal id).journals }

def Fleet.setRecord (fleet : Fleet) (id : RequestId) (record : Option Record) : Fleet :=
  { fleet with records := Function.update fleet.records id record }

/-- Which files of an expired transaction the retention sweep of a preflight
removes.  It skips what it cannot remove. -/
structure Swept where
  record : Bool
  journal : Bool

inductive Admission where
  | refused
  | replay (original : RequestId)
  | proceed

inductive Step where
  | admission (id : RequestId)
  | lock
  | readRoute
  | readIdentity (runtime : RuntimeId)
  | allocateIdentity (runtime : RuntimeId) (source : Identity)
  | writeService (runtime : RuntimeId) (identity : Identity)
  | activateExecConfig (runtime : RuntimeId) (content : Text)
  | probe (service : Text) (root : Text) (health : Option HealthCheck)
  | activateRoute (kind : RouteKind) (content : Text) (expected : ConfigHash)
  | removeExecConfig (runtime : RuntimeId)
  | removeService (runtime : RuntimeId)
  | releaseIdentity (runtime : RuntimeId)
  | stopIdlePool (runtime : RuntimeId)
  | createJournal (id : RequestId)
  | writeJournal (journal : Journal)
  | saveJournal (journal : Journal)
  | removeJournal (id : RequestId)
  | readJournal (id : RequestId)
  | loadRecord (id : RequestId)
  | saveRecord (id : RequestId) (record : Record)
  | now

def Answer : Step → Type
  | .admission _ => Admission
  | .lock => Bool
  | .readRoute => Except StepError Route
  | .readIdentity _ => Except StepError (Option Identity)
  | .allocateIdentity _ _ => Except StepError Identity
  | .readJournal _ => Option Journal
  | .loadRecord _ => Option Record
  | .now => Nat
  | _ => Except StepError Unit

structure Chance where
  fails : Option StepError
  /-- A step of the backend that fails has its effect all the same. -/
  takes : Bool
  /-- The identity the target pool allocates. -/
  identity : Identity
  now : Nat
  swept : RequestId → Swept
  replays : Option RequestId

def Chance.settle (chance : Chance) (before after : Fleet) : Except StepError Unit × Fleet :=
  match chance.fails with
  | none => (.ok (), after)
  | some error => (.error error, if chance.takes then after else before)

/-- As `settle`, for a file operation: it fails without an effect. -/
def Chance.store (chance : Chance) (before after : Fleet) : Except StepError Unit × Fleet :=
  match chance.fails with
  | none => (.ok (), after)
  | some error => (.error error, before)

/-- The record is finished and its retention is over. -/
def Record.expired (record : Record) (now : Nat) : Bool :=
  record.status ≠ .inProgress &&
    match record.finishedAt with
    | none => false
    | some finishedAt => Prune.defaultCompletedRetention ≤ now - finishedAt

/-- `prune_finished_transactions` on the scope of the migrations: with an expired
record goes `pending/<request id>.json`. -/
def Fleet.sweep (fleet : Fleet) (now : Nat) (swept : RequestId → Swept) : Fleet :=
  let expired := fun id => (fleet.records id).any (·.expired now)
  { fleet with
    records := fun id => if expired id && (swept id).record then none else fleet.records id
    journals := fleet.journals.filter fun entry => !(expired entry.1 && (swept entry.1).journal) }

/-- What `recover` makes of a journal file: at most `maxJournalBytes` of it are
read. -/
def JournalFile.read : JournalFile → Option Journal
  | .torn => none
  | .whole journal => if journal.encodedBytes ≤ maxJournalBytes then some journal else none

def hashMismatch : StepError := ⟨.configHashMismatch,
  "the configuration changed since it was read - re-read it and retry"⟩

def noRoute : StepError := ⟨.notFound, "no ingress route to migrate"⟩

def exec [Sha256] (chance : Chance) : (step : Step) → Fleet → Answer step × Fleet
  | .admission id, fleet =>
    let swept := fleet.sweep chance.now chance.swept
    match chance.fails, chance.replays, swept.records id with
    | none, none, none => (.proceed, swept.setRecord id (some ⟨.inProgress, none, none⟩))
    | none, some original, _ => (.replay original, swept)
    | _, _, _ => (.refused, swept)
  | .lock, fleet => (chance.fails.isNone, fleet)
  | .readRoute, fleet =>
    match chance.fails, fleet.route? with
    | none, some route => (.ok route, fleet)
    | none, none => (.error noRoute, fleet)
    | some error, _ => (.error error, fleet)
  | .readIdentity runtime, fleet =>
    match chance.fails with
    | none => (.ok (fleet.pools runtime).identity, fleet)
    | some error => (.error error, fleet)
  | .allocateIdentity runtime _, fleet =>
    let after := fleet.setPool runtime
      { fleet.pools runtime with identity := some chance.identity }
    match chance.fails with
    | none => (.ok chance.identity, after)
    | some error => (.error error, if chance.takes then after else fleet)
  | .writeService runtime _, fleet =>
    chance.settle fleet (fleet.setPool runtime { fleet.pools runtime with service := true })
  | .activateExecConfig runtime content, fleet =>
    match (fleet.pools runtime).execConfig with
    | some _ => (.error (chance.fails.getD hashMismatch), fleet)
    | none => chance.settle fleet
        (fleet.setPool runtime { fleet.pools runtime with execConfig := some content })
  | .probe _ _ _, fleet => chance.store fleet fleet
  | .activateRoute kind content expected, fleet =>
    if (fleet.routeFile kind).map ConfigHash.of = some expected then
      chance.settle fleet (fleet.setRoute kind content)
    else (.error (chance.fails.getD hashMismatch), fleet)
  | .removeExecConfig runtime, fleet =>
    chance.settle fleet (fleet.setPool runtime { fleet.pools runtime with execConfig := none })
  | .removeService runtime, fleet =>
    chance.settle fleet (fleet.setPool runtime { fleet.pools runtime with service := false })
  | .releaseIdentity runtime, fleet =>
    chance.settle fleet (fleet.setPool runtime { fleet.pools runtime with identity := none })
  | .stopIdlePool _, fleet => chance.store fleet fleet
  | .createJournal id, fleet =>
    match fleet.journals.lookup id with
    | some _ => (.error (chance.fails.getD ⟨.conflict, ""⟩), fleet)
    | none => chance.store fleet (fleet.setJournal id .torn)
  | .writeJournal journal, fleet =>
    chance.store fleet (fleet.setJournal journal.requestId (.whole journal))
  | .saveJournal journal, fleet =>
    chance.store fleet (fleet.setJournal journal.requestId (.whole journal))
  | .removeJournal id, fleet => chance.store fleet (fleet.dropJournal id)
  | .readJournal id, fleet =>
    match chance.fails with
    | none => ((fleet.journals.lookup id).bind JournalFile.read, fleet)
    | some _ => (none, fleet)
  | .loadRecord id, fleet =>
    match chance.fails with
    | none => (fleet.records id, fleet)
    | some _ => (none, fleet)
  | .saveRecord id record, fleet => chance.store fleet (fleet.setRecord id (some record))
  | .now, fleet => (chance.now, fleet)

/-- One process at a time works on the domain: it holds the scope's lock. -/
def machine [Sha256] : Machine Step Answer Fleet Unit Chance where
  exec _ := exec
  exit _ fleet := fleet

abbrev Task (α : Type) := Program Step Answer α

abbrev step (step : Step) : Task (Answer step) := Program.call step

namespace Store

def create (journal : Journal) : Task (Except StepError Unit) := do
  let conflict : StepError := ⟨.conflict, "a migration journal for this request already exists"⟩
  match ← step (.createJournal journal.requestId) with
  | .error _ => return .error conflict
  | .ok () =>
    match ← step (.writeJournal journal) with
    | .error _ => return .error conflict
    | .ok () => return .ok ()

def save (journal : Journal) : Task (Except StepError Unit) := do
  match ← step (.saveJournal journal) with
  | .error _ => return .error ⟨.internal, "the migration journal could not be saved"⟩
  | .ok () => return .ok ()

def remove (journal : Journal) : Task Unit := do
  let _ ← step (.removeJournal journal.requestId)
  return ()

end Store

/-- The first part of `roll_back`: the route goes back, if it is the journal's
own new route. -/
def restoreRoute [Sha256] (journal : Journal) : Task (Except String Unit) := do
  match ← step .readRoute with
  | .error error => return .error ("route could not be read: " ++ error.message)
  | .ok route =>
    if ConfigHash.of route.content = journal.previousRouteSha256 then return .ok ()
    else if ConfigHash.of route.content = journal.newRouteSha256 then
      match ← step (.activateRoute journal.routeKind journal.previousRoute (.of route.content)) with
      | .error error => return .error ("route restore failed: " ++ error.message)
      | .ok () => return .ok ()
    else return .error "the route was changed by someone else; left as it is"

/-- One removal of `roll_back`, if the journal says the artifact may exist:
whether it still may, and the error. -/
def removing (flag : Bool) (what : String) (removal : Task (Except StepError Unit)) :
    Task (Bool × List String) :=
  if flag then do
    match ← removal with
    | .ok () => return (false, [])
    | .error error => return (true, [what ++ ": " ++ error.message])
  else return (false, [])

/-- The second part of `roll_back`: the target's artifacts. -/
def removeArtifacts (journal : Journal) : Task (Except String Unit) := do
  let (execConfig, first) ← removing journal.target.execConfig "remove runtime config"
    (step (.removeExecConfig journal.toRuntime))
  let (service, second) ← removing journal.target.service "remove site service"
    (step (.removeService journal.toRuntime))
  let (identity, third) ← removing journal.target.identity "remove site identity"
    (step (.releaseIdentity journal.toRuntime))
  let errors := first ++ second ++ third
  let _ ← Store.save (journal.mark ⟨identity, service, execConfig⟩)
  if errors.isEmpty && !execConfig && !service && !identity then return .ok ()
  else return .error ("; ".intercalate errors)

def rollBack [Sha256] (journal : Journal) : Task (Except String Unit) :=
  if journal.phase = .cutover then do
    match ← restoreRoute journal with
    | .error problem => return .error problem
    | .ok () =>
      let journal := journal.enter .preparing
      let _ ← Store.save journal
      removeArtifacts journal
  else removeArtifacts journal

def noteFailure (what : String) : Except StepError Unit → List String
  | .ok () => []
  | .error error => ["oldPoolCleanupFailed: " ++ what ++ ": " ++ error.message]

def cleanOldPool (journal : Journal) : Task (List String) := do
  let first ← step (.removeExecConfig journal.fromRuntime)
  let second ← step (.removeService journal.fromRuntime)
  let third ← step (.releaseIdentity journal.fromRuntime)
  let warnings := noteFailure "remove runtime config" first ++
    noteFailure "remove site service" second ++ noteFailure "remove site identity" third
  if journal.stopIdleSource then
    let fourth ← step (.stopIdlePool journal.fromRuntime)
    return warnings ++ noteFailure "stop the idle pool" fourth
  else return warnings

def abort [Sha256] (journal : Journal) (error : StepError) : Task StepError := do
  match ← rollBack journal with
  | .ok () =>
    Store.remove journal
    return ⟨error.code, error.message ++ "; rolled back to " ++
      String.ofList journal.fromRuntime.text⟩
  | .error problem =>
    return ⟨.rollbackIncomplete, error.message ++
      "; the rollback is incomplete and needs site.reconcile: " ++ problem⟩

def poolReverseProxyCaddyfile (domain : Domain) (port : Nat) : Text :=
  let address := "127.0.0.1:".toList ++ port.repr.toList
  "http://".toList ++ domain.text ++ " \x7b\n    reverse_proxy ".toList ++ address ++
    " \x7b\n        header_up Host ".toList ++ address ++ "\n    \x7d\n\x7d\n".toList

/-- A step that creates an artifact, once the journal says that it may exist. -/
def announced {α : Type} (journal : Journal) (creation : Task (Except StepError α)) :
    Task (Except StepError α) := do
  match ← Store.save journal with
  | .error error => return .error error
  | .ok () => creation

def probeTarget (request : Request) (root : Text) : Task (Except StepError Unit) := do
  match ← step (.probe ("runtime-".toList ++ request.target.text) root request.health) with
  | .error error => return .error ⟨error.code, "target runtime pool runtime-" ++
      String.ofList request.target.text ++ " is not ready for " ++
      String.ofList request.domain.text ++ ": " ++ error.message⟩
  | .ok () => return .ok ()

/-- The target pool: identity, service, exec config, probe.  The journal as it
was last to be written comes with the answer. -/
def prepare (request : Request) (identity : Identity) (journal : Journal) :
    Task (Except StepError Identity × Journal) := do
  let journal := journal.mark { journal.target with identity := true }
  match ← announced journal (step (.allocateIdentity request.target identity)) with
  | .error error => return (.error error, journal)
  | .ok allocated =>
    if allocated.uid ≠ identity.uid ∨ allocated.gid ≠ identity.gid then
      return (.error ⟨.conflict, "the engine allocated a different identity for " ++
        String.ofList request.domain.text ++
        " on the target pool than the site already runs as"⟩, journal)
    else
      let journal := journal.mark { journal.target with service := true }
      match ← announced journal (step (.writeService request.target allocated)) with
      | .error error => return (.error error, journal)
      | .ok () =>
        let journal := journal.mark { journal.target with execConfig := true }
        match ← announced journal (step (.activateExecConfig request.target
            (poolReverseProxyCaddyfile request.domain allocated.port))) with
        | .error error => return (.error error, journal)
        | .ok () =>
          match ← probeTarget request identity.root with
          | .error error => return (.error error, journal)
          | .ok () => return (.ok allocated, journal)

/-- The cleanup phase: what follows never undoes the migration. -/
def finish (request : Request) (journal : Journal) (allocated : Identity) : Task MigrateResult := do
  let journal := journal.enter .cleanup
  let _ ← Store.save journal
  let warnings ← cleanOldPool journal
  let now ← step .now
  return { domain := request.domain, fromRuntimeId := journal.fromRuntime
           toRuntimeId := request.target, port := allocated.port, warnings
           completedAtUnixSecs := now }

def verify (request : Request) (kind : RouteKind) (root : Text) : Task (Except StepError Unit) :=
  if kind = .live then do
    match ← step (.probe "ingress".toList root request.health) with
    | .error error => return .error ⟨error.code, "Post-cutover check failed for " ++
        String.ofList request.domain.text ++ ": " ++ error.message⟩
    | .ok () => return .ok ()
  else return .ok ()

/-- The migration from its journal on. -/
def migrate [Sha256] (request : Request) (route : Route) (newRoute : Text) (identity : Identity)
    (journal : Journal) : Task (Except StepError MigrateResult) := do
  match ← prepare request identity journal with
  | (.error error, journal) => return .error (← abort journal error)
  | (.ok allocated, journal) =>
    let cutover := journal.enter .cutover
    match ← Store.save cutover with
    | .error error => return .error (← abort journal error)
    | .ok () =>
      match ← step (.activateRoute route.kind newRoute (.of route.content)) with
      | .error error => return .error (← abort cutover error)
      | .ok () =>
        match ← verify request route.kind identity.root with
        | .error error => return .error (← abort cutover error)
        | .ok () => return .ok (← finish request cutover allocated)

def run [Sha256] (request : Request) : Task (Except StepError MigrateResult) := do
  let domain := String.ofList request.domain.text
  match ← step .readRoute with
  | .error error => return .error error
  | .ok route =>
    match runtimeOfRoute route.content with
    | none =>
      return .error ⟨.invalidInput, domain ++ "'s route does not proxy to a runtime pool"⟩
    | some source =>
      if source = request.target then
        return .error ⟨.invalidInput, domain ++ " is already on runtime " ++
          String.ofList request.target.text⟩
      else
        match retargetRoute route.content request.target with
        | none =>
          return .error ⟨.invalidInput,
            "the ingress route has no reverse_proxy line to retarget"⟩
        | some newRoute =>
          match ← step (.readIdentity source) with
          | .error error => return .error error
          | .ok none =>
            return .error ⟨.notFound, domain ++ " has no identity record on runtime " ++
              String.ofList source.text⟩
          | .ok (some identity) =>
            let journal := Journal.start request source route newRoute
            match ← Store.create journal with
            | .error error => return .error error
            | .ok () => migrate request route newRoute identity journal

inductive Error where
  | io
  | preflight
  | replayInProgress
  | replayed (error : StepError)
  | failed (error : StepError)
  | postCommit (result : MigrateResult)
deriving DecidableEq

def replay (original : RequestId) : Task (Except Error MigrateResult) := do
  match ← step (.loadRecord original) with
  | none => return .error .io
  | some record =>
    match record.status, record.outcome with
    | .inProgress, _ => return .error .replayInProgress
    | .committed, some (.ok result) => return .ok result
    | .committed, _ => return .error .io
    | .failed, some (.error error) => return .error (.replayed error)
    | .failed, _ => return .error (.replayed ⟨.internal, "the original request failed"⟩)

def execute [Sha256] (request : Request) : Task (Except Error MigrateResult) := do
  match ← step (.admission request.requestId) with
  | .refused => return .error .preflight
  | .replay original => replay original
  | .proceed =>
    match ← run request with
    | .error error =>
      let now ← step .now
      let _ ← step (.saveRecord request.requestId ⟨.failed, some now, some (.error error)⟩)
      return .error (.failed error)
    | .ok result =>
      let now ← step .now
      let saved ← step (.saveRecord request.requestId ⟨.committed, some now, some (.ok result)⟩)
      let _ ← step (.removeJournal request.requestId)
      match saved with
      | .error _ => return .error (.postCommit result)
      | .ok () => return .ok result

/-- What `site.reconcile` made of one journal. -/
inductive Recovery where
  | rolledBack
  | completed
  | cleared
  | busy
  | attention (reason : String)
deriving DecidableEq

/-- The record of a migration that `recover` brought to an end, if it was still
in progress. -/
def closeRecord (id : RequestId) (status : TransactionStatus)
    (outcome : Except StepError MigrateResult) (record : Option Record) : Task Unit :=
  match record with
  | some record =>
    if record.status = .inProgress then do
      let now ← step .now
      let _ ← step (.saveRecord id ⟨status, some now, some outcome⟩)
      return ()
    else return ()
  | none => return ()

def act [Sha256] (id : RequestId) (journal : Journal) (record : Option Record) : Task Recovery :=
  if record.any (·.status = .committed) then do
    Store.remove journal
    return .cleared
  else if journal.phase = .cleanup then do
    let warnings ← cleanOldPool journal
    let now ← step .now
    closeRecord id .committed (.ok
      { domain := journal.domain, fromRuntimeId := journal.fromRuntime
        toRuntimeId := journal.toRuntime, port := 0, warnings, completedAtUnixSecs := now }) record
    Store.remove journal
    return .completed
  else do
    match ← rollBack journal with
    | .ok () =>
      Store.remove journal
      closeRecord id .failed (.error ⟨.internal, "interrupted; rolled back by site.reconcile"⟩)
        record
      return .rolledBack
    | .error problem => return .attention ("the rollback is incomplete: " ++ problem)

def recover [Sha256] (domain : Domain) (id : RequestId) : Task Recovery := do
  match ← step .lock with
  | false => return .busy
  | true =>
    match ← step (.readJournal id) with
    | none => return .attention "the journal cannot be read"
    | some journal =>
      if journal.domain ≠ domain ∨ journal.requestId ≠ id then
        return .attention "the journal does not match its scope"
      else
        let record ← step (.loadRecord id)
        act id journal record

end OpsEngine.Migrate
