import OpsEngine.Data.Uuid
import OpsEngine.Deploy.Releases
import OpsEngine.Mutation.Preflight

namespace OpsEngine

open Effect Files

/-! # Deployment recovery

`deployment_recovery`: the checkpoint written before a release is switched, and
what is made of it when the request that wrote it did not finish.
-/

namespace Recovery

inductive Error where
  | unavailable
  | conflict
  | unsupported
  | notFound
deriving DecidableEq

def Error.protocol : Error → ErrorCode × String
  | .conflict =>
    (.conflict, "deployment is active or its current release cannot be safely reconciled")
  | .unsupported =>
    (.invalidInput, "this request has no supported deployment recovery checkpoint")
  | .notFound => (.notFound, "deployment transaction was not found")
  | .unavailable => (.internal, "deployment recovery evidence is unavailable")

def checkpointPath (id : RequestId) : FilePath := ⟨.deploymentRecovery, .json id⟩

def decode : Except IoError (Option Content) → Except Error Checkpoint
  | .ok (some (.checkpoint checkpoint)) => .ok checkpoint
  | _ => .error .unavailable

def load (id : RequestId) : Action (Except Error Checkpoint) := do
  if !(← present (checkpointPath id)) then return .error .unsupported
  else return decode (← read (checkpointPath id))

/-- Whether the marker of a request may go: its transaction is finished. -/
def settled : Except StateError TransactionState → Except Error Unit
  | .error _ => .error .unavailable
  | .ok record => if record.status = .inProgress then .error .conflict else .ok ()

def clearMarker (name : Name) : Action (Except Error Unit) := do
  match name.requestId? with
  | none => return .error .unavailable
  | some id =>
    match settled (← TransactionState.load (statePath id)) with
    | .error error => return .error error
    | .ok () =>
      match ← removeFile (checkpointPath id) with
      | .error _ => return .error .unavailable
      | .ok () => return .ok ()

def clearMarkers : List Name → Action (Except Error Unit)
  | [] => return .ok ()
  | name :: names => do
    match ← clearMarker name with
    | .error error => return .error error
    | .ok () => clearMarkers names

/-- Every earlier marker must be settled before another release can switch. -/
def clear : Action (Except Error Unit) := do
  match ← createDirAll .deploymentRecovery with
  | .error _ => return .error .unavailable
  | .ok () =>
    match ← openDir .deploymentRecovery with
    | .error _ => return .error .unavailable
    | .ok () =>
      match ← fileNames .deploymentRecovery with
      | .error _ => return .error .unavailable
      | .ok names => clearMarkers names

def checkpoint (siteId : SiteId) (requestId : RequestId) (operation : Operation)
    (target : ReleaseId) (revision : Option GitCommitSha) (previous : Option ReleaseId) :
    Checkpoint :=
  { siteId, requestId, operation, target, previous, revision }

def prepare (siteId : SiteId) (requestId : RequestId) (operation : Operation)
    (target : ReleaseId) (revision : Option GitCommitSha) : Action (Except Error Unit) := do
  match ← clear with
  | .error error => return .error error
  | .ok () =>
    match ← Activate.currentRelease with
    | .error _ => return .error .unavailable
    | .ok previous =>
      match ← writeAtomic (checkpointPath requestId)
          (.checkpoint (checkpoint siteId requestId operation target revision previous)) with
      | .error _ => return .error .unavailable
      | .ok () => return .ok ()

/-- The operations a checkpoint is written for. -/
def recoverable (operation : Operation) : Bool :=
  operation = .siteDeploy || operation = .siteRollback

structure OperationStatus where
  transaction : TransactionState
  active : Bool
  recoveryAction : Option String

/-- The checkpoint is one that `prepare` writes for this record. -/
def consistent (siteId : SiteId) (requestId : RequestId) (record : TransactionState)
    (checkpoint : Checkpoint) : Bool :=
  checkpoint.siteId = siteId && checkpoint.requestId = requestId &&
    checkpoint.operation = record.operation &&
    !(record.operation = .siteDeploy &&
      (checkpoint.revision.isNone || checkpoint.target ≠ .ofRequest requestId)) &&
    !(record.operation = .siteRollback && checkpoint.revision.isSome)

def releaseJson : Option ReleaseId → Json
  | none => .null
  | some release => .string release.text

/-- The result recorded for a switch that recovery found done. -/
def recoveredResult (checkpoint : Checkpoint) (now : Nat) : Json :=
  .object ([("releaseId", .string checkpoint.target.text),
    ("previousReleaseId", releaseJson checkpoint.previous),
    ("activatedAtUnixSecs", .number now), ("recovered", .bool true)] ++
    match checkpoint.revision with
    | none => []
    | some revision => [("commit", .string revision.text)])

def interruptedMessage : String :=
  "interrupted before release activation; the previous release is unchanged"

def transition : Except TransitionError TransactionState → Except Error TransactionState
  | .ok record => .ok record
  | .error _ => .error .unavailable

/-- The verdict on an unfinished request from where `current` points. -/
def judge (record : TransactionState) (checkpoint : Checkpoint) (current : Option ReleaseId) :
    Action (Except Error TransactionState) :=
  if current = some checkpoint.target ∧ checkpoint.previous ≠ some checkpoint.target then do
    let now ← unixNowSecs
    let finishedAt ← unixNowSecs
    return transition (record.markCommitted (recoveredResult checkpoint now) finishedAt)
  else if current = checkpoint.previous then do
    let finishedAt ← unixNowSecs
    return transition (record.markFailed .cancelled interruptedMessage finishedAt)
  else return .error .conflict

/-- Audit before saving: an audit failure keeps the request recoverable. -/
def settle (requestId : RequestId) (record : TransactionState) :
    Action (Except Error TransactionState) := do
  let opening ← AuditRecord.mutationStart requestId none .siteRecoverDeployment
  match ← opening.append auditPath with
  | .error _ => return .error .unavailable
  | .ok () =>
    match ← record.save (statePath requestId) with
    | .error _ => return .error .unavailable
    | .ok () =>
      let closing ← AuditRecord.result requestId (record.status = .committed)
        (record.outcome.bind TransactionOutcome.errorCode)
      let _ ← closing.append auditPath
      return .ok record

/-- Reconcile a request that is still in progress. -/
def resume (siteId : SiteId) (requestId : RequestId) (record : TransactionState) :
    Action (Except Error TransactionState) := do
  match ← load requestId with
  | .error error => return .error error
  | .ok checkpoint =>
    if !consistent siteId requestId record checkpoint then return .error .unavailable
    else
      match ← Activate.currentRelease with
      | .error _ => return .error .conflict
      | .ok current =>
        match ← judge record checkpoint current with
        | .error error => return .error error
        | .ok finished => settle requestId finished

/-- The part of `execute` under the mutation lock. -/
def reconcile (siteId : SiteId) (requestId : RequestId) :
    Action (Except Error TransactionState) := do
  match ← TransactionState.load (statePath requestId) with
  | .error .notFound => return .error .notFound
  | .error _ => return .error .unavailable
  | .ok record =>
    if !recoverable record.operation then return .error .unsupported
    else if record.status ≠ .inProgress then return .ok record
    else resume siteId requestId record

def status : Except Error TransactionState → Except Error OperationStatus
  | .error error => .error error
  | .ok transaction => .ok { transaction, active := false, recoveryAction := none }

def execute (siteId : SiteId) (requestId : RequestId) : Action (Except Error OperationStatus) := do
  match ← openDir .scope with
  | .error _ => return .error .notFound
  | .ok () =>
    match ← Lock.acquire Preflight.lockPath requestId with
    | .error _ => return .error .conflict
    | .ok () =>
      let reconciled ← reconcile siteId requestId
      unlock Preflight.lockPath
      return status reconciled

/-- The operations of `prepare` stay with the markers. -/
abbrev AtMarkers (operation : SysOp) : Prop :=
  operation.Within fun path => path.dir = .deploymentRecovery

theorem currentRelease_every {region : FilePath → Prop} :
    Activate.currentRelease.Every fun operation => operation.Within region := by
  apply Program.every_call_bind ⟨fun _ => False.elim, fun _ => id⟩
  intro opened
  split
  · trivial
  · exact Program.every_call_bind ⟨fun _ => False.elim, fun _ => id⟩ fun _ => trivial

/-- The operations that clear the markers of finished requests. -/
inductive Clearing : SysOp → Prop where
  | createDirAll : Clearing (.createDirAll .deploymentRecovery)
  | openDir : Clearing (.openDir .deploymentRecovery)
  | look {operation : SysOp} (looking : Prune.Looking operation) : Clearing operation
  | remove (id : RequestId) : Clearing (.remove (checkpointPath id))

theorem Clearing.within {operation : SysOp} (clearing : Clearing operation) :
    AtMarkers operation := by
  cases clearing with
  | createDirAll | openDir => exact ⟨fun _ => False.elim, fun _ => id⟩
  | look looking => exact looking.within
  | remove id =>
    refine ⟨fun path same => ?_, fun _ => False.elim⟩
    rw [show path = checkpointPath id from same]
    rfl

theorem clearMarker_every {name : Name} : (clearMarker name).Every Clearing := by
  unfold clearMarker
  split
  · trivial
  apply (Prune.load_looking.mono fun _ => Clearing.look).bind
  intro loaded
  split
  · trivial
  apply Program.every_call_bind (.remove _)
  intro removed
  split <;> trivial

theorem clearMarkers_every {names : List Name} : (clearMarkers names).Every Clearing := by
  induction names with
  | nil => trivial
  | cons name names ih =>
    apply clearMarker_every.bind
    intro cleared
    split
    · trivial
    · exact ih

theorem clear_every : clear.Every Clearing := by
  apply Program.every_call_bind .createDirAll
  intro made
  split
  · trivial
  apply Program.every_call_bind .openDir
  intro opened
  split
  · trivial
  apply (Prune.fileNames_every.mono fun _ => Clearing.look).bind
  intro names
  split
  · trivial
  · exact clearMarkers_every

theorem replacing_checkpoint {id : RequestId} {content : Content} {operation : SysOp}
    (replacing : Replacing (checkpointPath id) content operation) : AtMarkers operation := by
  apply replacing.within.mono
  intro path same
  rcases same with rfl | rfl <;> rfl

theorem prepare_every {siteId : SiteId} {requestId : RequestId} {operation : Operation}
    {target : ReleaseId} {revision : Option GitCommitSha} :
    (prepare siteId requestId operation target revision).Every AtMarkers := by
  apply (clear_every.mono fun _ => Clearing.within).bind
  intro cleared
  split
  · trivial
  apply currentRelease_every.bind
  intro previous
  split
  · trivial
  apply (writeAtomic_every.mono fun _ => replacing_checkpoint).bind
  intro written
  split <;> trivial

end Recovery

end OpsEngine
