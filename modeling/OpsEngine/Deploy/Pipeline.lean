import OpsEngine.Deploy.Recovery
import OpsEngine.Deploy.Staging

namespace OpsEngine

open Effect Files

/-! # The release pipeline

`deploy::execute` and `rollback::execute` are the same function but for how the
release is obtained and for a few texts.  `Pipeline` is what they differ in.
-/

structure RepositoryPolicy where
  url : Text
  allowedBranches : List Text
  credentialId : SiteId

structure SiteManifest where
  siteId : SiteId
  contentRoot : Text
  siteUser : Text
  repository : RepositoryPolicy

/-- The only layout the pipeline works with. -/
def expectedCurrent (siteId : SiteId) : Text :=
  "sites/".toList ++ siteId.text ++ "/current".toList

/-- `DeployError` and `RollbackError`.  `source` is what obtaining the release
failed with; `panicked` stands for a record no operation writes. -/
inductive ReleaseError (σ ρ : Type) where
  | io
  | contentRootMismatch
  | preflight (error : Preflight.Error)
  | replayInProgress
  | identity (error : Staging.IdentityError)
  | source (error : σ)
  | validate (error : Validate.Error)
  | activate (error : Activate.Error)
  | state (error : StateError)
  | cancelled
  | recovery (error : Recovery.Error)
  | postCommitRecordFailed (result : ρ) (cause : StateError)
  | replayed (code : ErrorCode) (message : String)
  | panicked

/-- The texts and codes in which the two operations report a failure. -/
structure ErrorTexts (σ : Type) where
  internal : String
  source : σ → ErrorCode × String
  invalid : String

def ReleaseError.protocol {σ ρ : Type} (texts : ErrorTexts σ) :
    ReleaseError σ ρ → ErrorCode × String
  | .io | .contentRootMismatch | .state _ | .postCommitRecordFailed _ _ | .panicked =>
    (.internal, texts.internal)
  | .preflight (.lock _) => (.conflict, "another mutation is already in progress for this site")
  | .preflight _ => (.internal, "preflight failed")
  | .replayInProgress =>
    (.conflict, "the original request for this idempotency key is still in progress")
  | .identity (.run error) =>
    (spawnErrorCode error, "could not resolve the site's system identity")
  | .identity _ => (.internal, "could not resolve the site's system identity")
  | .source error => texts.source error
  | .validate (.run error) => (spawnErrorCode error, "validating the release failed")
  | .validate _ => (.subprocessFailed, texts.invalid)
  | .activate _ => (.internal, "activating the release failed")
  | .recovery error => error.protocol
  | .cancelled => (.cancelled, "cancelled before the commit point")
  | .replayed code message => (code, message)

inductive ReplayError where
  | inProgress
  | state (error : StateError)
  | replayed (code : ErrorCode) (message : String)
  | panicked
deriving DecidableEq

/-- What a stored record answers to a retry.  Which operation wrote it is not
looked at. -/
def replayed {ρ : Type} (decode : Json → Option ρ) (original : TransactionState) :
    Except ReplayError ρ :=
  match original.status with
  | .inProgress => .error .inProgress
  | .committed =>
    match original.outcome.bind TransactionOutcome.result with
    | none => .error .panicked
    | some result =>
      match decode result with
      | none => .error (.state .corrupt)
      | some result => .ok result
  | .failed =>
    match original.outcome with
    | none => .error .panicked
    | some outcome =>
      .error (.replayed (outcome.errorCode.getD .internal) (outcome.errorMessage.getD ""))

def replay {ρ : Type} (decode : Json → Option ρ) (original : RequestId) :
    Action (Except ReplayError ρ) := do
  match ← TransactionState.load (statePath original) with
  | .error error => return .error (.state error)
  | .ok record => return replayed decode record

def ReleaseError.ofReplay {σ ρ : Type} : ReplayError → ReleaseError σ ρ
  | .inProgress => .replayInProgress
  | .state error => .state error
  | .replayed code message => .replayed code message
  | .panicked => .panicked

def openSubdirs : List Dir → Action (Except IoError Unit)
  | [] => return .ok ()
  | dir :: dirs => do
    match ← createDirAll dir with
    | .error error => return .error error
    | .ok () => openSubdirs dirs

def openSiteState : Action (Except IoError Unit) := do
  match ← createDirAll .scope with
  | .error error => return .error error
  | .ok () =>
    match ← openDir .scope with
    | .error error => return .error error
    | .ok () => openSubdirs [.locks, .transactions, .audit]

structure Pipeline (σ ρ : Type) where
  manifest : SiteManifest
  operation : Operation
  siteId : SiteId
  requestId : RequestId
  idempotencyKey : Option IdempotencyKey
  target : ReleaseId
  revision : Option GitCommitSha
  /-- From the site's identity to the path of a release that is in place. -/
  source : SiteIdentity → Action (Except (ReleaseError σ ρ) FilePath)
  result : Option ReleaseId → Nat → ρ
  encode : ρ → Json
  decode : Json → Option ρ
  texts : ErrorTexts σ

def checkCancelled {σ ρ : Type} : Action (Except (ReleaseError σ ρ) Unit) := do
  if ← isCancelled then return .error .cancelled else return .ok ()

namespace Pipeline

variable {σ ρ : Type} (pipeline : Pipeline σ ρ)

def validated (path : FilePath) (identity : SiteIdentity) :
    Action (Except (ReleaseError σ ρ) Unit) := do
  match ← checkCancelled with
  | .error error => return .error error
  | .ok () =>
    match ← Validate.validateStagedRelease path identity with
    | .error error => return .error (.validate error)
    | .ok () => checkCancelled

/-- From the checkpoint to the switch. -/
def stage : Action (Except (ReleaseError σ ρ) Unit) := do
  match ← Staging.resolveSiteIdentity pipeline.manifest.siteUser with
  | .error error => return .error (.identity error)
  | .ok identity =>
    match ← checkCancelled with
    | .error error => return .error error
    | .ok () =>
      match ← pipeline.source identity with
      | .error error => return .error error
      | .ok path => validated path identity

/-- Everything up to and including the switch; an error is one before the
commit point. -/
def work : Action (Except (ReleaseError σ ρ) (Option ReleaseId)) := do
  match ← Recovery.prepare pipeline.siteId pipeline.requestId pipeline.operation pipeline.target
      pipeline.revision with
  | .error error => return .error (.recovery error)
  | .ok () =>
    match ← pipeline.stage with
    | .error error => return .error error
    | .ok () =>
      match ← Activate.activate pipeline.target with
      | .error error => return .error (.activate error)
      | .ok previous => return .ok previous

/-- A refused transition leaves the state as it is. -/
def failed (state : TransactionState) (error : ReleaseError σ ρ) (now : Nat) : TransactionState :=
  match state.markFailed (error.protocol pipeline.texts).1 (error.protocol pipeline.texts).2 now with
  | .ok failed => failed
  | .error _ => state

theorem failed_spec {state : TransactionState} (inProgress : state.status = .inProgress)
    (error : ReleaseError σ ρ) (now : Nat) :
    (pipeline.failed state error now).status = .failed ∧
      (pipeline.failed state error now).schemaVersion = state.schemaVersion ∧
      (pipeline.failed state error now).operation = state.operation := by
  simp [failed, TransactionState.markFailed, TransactionState.finish, inProgress]

/-- Records a failure before the commit point. -/
def fail (state : TransactionState) (error : ReleaseError σ ρ) : Action Unit := do
  let now ← unixNowSecs
  let _ ← (pipeline.failed state error now).save (statePath pipeline.requestId)
  let closing ← AuditRecord.result state.requestId false (some (error.protocol pipeline.texts).1)
  let _ ← closing.append auditPath
  return ()

/-- Records a switch that has happened. -/
def record (state : TransactionState) (previous : Option ReleaseId) :
    Action (Except (ReleaseError σ ρ) ρ) := do
  let result := pipeline.result previous (← unixNowSecs)
  match state.markCommitted (pipeline.encode result) (← unixNowSecs) with
  | .error _ => return .error .panicked
  | .ok committed =>
    match ← committed.save (statePath pipeline.requestId) with
    | .error cause => return .error (.postCommitRecordFailed result cause)
    | .ok () =>
      let closing ← AuditRecord.result pipeline.requestId true none
      let _ ← closing.append auditPath
      return .ok result

/-- An admitted request.  The lock is dropped on every return; after a success
it is dropped before the old releases are pruned. -/
def admitted (state : TransactionState) : Action (Except (ReleaseError σ ρ) ρ) := do
  match ← pipeline.work with
  | .error error =>
    pipeline.fail state error
    unlock Preflight.lockPath
    return .error error
  | .ok previous =>
    let recorded ← pipeline.record state previous
    unlock Preflight.lockPath
    match recorded with
    | .error error => return .error error
    | .ok result =>
      let _ ← Cleanup.pruneOldReleases pipeline.target Cleanup.defaultRetainCount
      return .ok result

def retried (original : RequestId) : Action (Except (ReleaseError σ ρ) ρ) := do
  match ← replay pipeline.decode original with
  | .error error => return .error (.ofReplay error)
  | .ok result => return .ok result

/-- The manifest is this site's and has the standard layout. -/
def addressed : Bool :=
  pipeline.manifest.siteId = pipeline.siteId &&
    pipeline.manifest.contentRoot = expectedCurrent pipeline.siteId

def execute : Action (Except (ReleaseError σ ρ) ρ) :=
  if !pipeline.addressed then return .error .contentRootMismatch
  else do
    match ← openSiteState with
    | .error _ => return .error .io
    | .ok () =>
      match ← Preflight.run pipeline.requestId pipeline.idempotencyKey pipeline.operation with
      | .error error => return .error (.preflight error)
      | .ok (.replay original) => pipeline.retried original
      | .ok (.proceed state) => pipeline.admitted state

end Pipeline

/-- The operations that write records stay with the transactions. -/
abbrev AtRecords (operation : SysOp) : Prop :=
  operation.Within fun path => path.dir = .transactions

theorem replacing_record {id : RequestId} {content : Content} {operation : SysOp}
    (replacing : Replacing (statePath id) content operation) : AtRecords operation := by
  apply replacing.within.mono
  intro path same
  rcases same with rfl | rfl <;> rfl

theorem save_atRecords {id : RequestId} {record : TransactionState} :
    (record.save (statePath id)).Every AtRecords :=
  TransactionState.save_every.mono fun _ => replacing_record

variable {region : FilePath → Prop}

theorem append_every {record : AuditRecord} :
    (record.append auditPath).Every fun operation => operation.Within region := by
  apply Program.every_call_bind ⟨fun _ => False.elim, fun _ => id⟩
  intro answer
  split <;> trivial

theorem result_every {id : RequestId} {ok : Bool} {code : Option ErrorCode} :
    (AuditRecord.result id ok code).Every fun operation => operation.Within region :=
  Program.every_call_bind within_ask fun _ => trivial

theorem safe_audited {State Actor α : Type}
    {machine : Machine SysOp (Op.Result Answer) State Actor SysChoice}
    {discipline : Discipline SysOp State Actor SysChoice} {actor : Actor} {state : State}
    {assertion : State → Prop} {post : α → State → Prop} {id : RequestId} {ok : Bool}
    {code : Option ErrorCode} {rest : Except AuditError Unit → Action α}
    (quiet : Preserves machine discipline actor (·.Within fun _ => False) assertion)
    (next : ∀ answer state, assertion state → Safe machine discipline actor post (rest answer) state)
    (holds : assertion state) : Safe machine discipline actor post
      (AuditRecord.result id ok code >>= fun closing => closing.append auditPath >>= rest) state := by
  apply (quiet.safe result_every holds).seq
  intro closing state holds
  exact (quiet.safe append_every holds).seq next

theorem openSubdirs_every {dirs : List Dir} :
    (openSubdirs dirs).Every fun operation => operation.Within region := by
  induction dirs with
  | nil => trivial
  | cons dir dirs ih =>
    apply Program.every_call_bind ⟨fun _ => False.elim, fun _ => id⟩
    intro made
    split
    · trivial
    · exact ih

theorem openSiteState_every :
    openSiteState.Every fun operation => operation.Within region := by
  apply Program.every_call_bind ⟨fun _ => False.elim, fun _ => id⟩
  intro made
  split
  · trivial
  apply Program.every_call_bind ⟨fun _ => False.elim, fun _ => id⟩
  intro opened
  split
  · trivial
  · exact openSubdirs_every

namespace Pipeline

variable {σ ρ : Type} (pipeline : Pipeline σ ρ)

theorem fail_every (state : TransactionState) (error : ReleaseError σ ρ) :
    (pipeline.fail state error).Every AtRecords := by
  apply Program.every_call_bind within_ask
  intro now
  apply save_atRecords.bind
  intro _
  apply result_every.bind
  intro closing
  exact append_every.bind fun _ => trivial

theorem record_every (state : TransactionState) (previous : Option ReleaseId) :
    (pipeline.record state previous).Every AtRecords := by
  apply Program.every_call_bind within_ask
  intro now
  apply Program.every_call_bind within_ask
  intro finishedAt
  split
  · trivial
  apply save_atRecords.bind
  intro saved
  split
  · trivial
  apply result_every.bind
  intro closing
  exact append_every.bind fun _ => trivial

theorem retried_every {region : FilePath → Prop} (original : RequestId) :
    (pipeline.retried original).Every fun operation => operation.Within region := by
  have loading : (TransactionState.load (statePath original)).Every
      fun operation => operation.Within region := by
    apply TransactionState.load_every.mono
    intro operation same
    rw [same]
    exact within_read
  apply Program.Every.bind
  · apply loading.bind
    intro loaded
    split <;> trivial
  · intro answer
    split <;> trivial

end Pipeline

end OpsEngine
