import OpsEngine.Data.Error
import OpsEngine.Data.Json

namespace OpsEngine

/-! # What the engine persists

The records of `transactions/`, `transactions/idempotency/`, `locks/`,
`audit/` and `deployment-recovery/`, with the fields the source gives them.
-/

/-- The operations the model executes; every other name a record can carry. -/
inductive Operation where
  | siteDeploy
  | siteRollback
  | siteRecoverDeployment
  | engineInstall
  | engineRollback
  | other (name : String)
deriving DecidableEq

inductive TransactionStatus where
  | inProgress
  | committed
  | failed
deriving DecidableEq

structure TransactionOutcome where
  ok : Bool
  result : Option Json
  errorCode : Option ErrorCode
  errorMessage : Option String

def stateSchemaVersion : Nat := 1

/-- A mutation attempt's durable record. -/
structure TransactionState where
  schemaVersion : Nat
  requestId : RequestId
  idempotencyKey : Option IdempotencyKey
  operation : Operation
  status : TransactionStatus
  startedAtUnixSecs : Nat
  finishedAtUnixSecs : Option Nat
  outcome : Option TransactionOutcome

inductive TransitionError where
  | alreadyFinished
deriving DecidableEq

namespace TransactionState

def start (requestId : RequestId) (idempotencyKey : Option IdempotencyKey)
    (operation : Operation) (now : Nat) : TransactionState :=
  { schemaVersion := stateSchemaVersion, requestId, idempotencyKey, operation
    status := .inProgress, startedAtUnixSecs := now, finishedAtUnixSecs := none, outcome := none }

def finish (state : TransactionState) (status : TransactionStatus)
    (outcome : TransactionOutcome) (now : Nat) : Except TransitionError TransactionState :=
  if state.status = .inProgress then
    .ok { state with status, outcome := some outcome, finishedAtUnixSecs := some now }
  else .error .alreadyFinished

def markCommitted (state : TransactionState) (result : Json) (now : Nat) :
    Except TransitionError TransactionState :=
  state.finish .committed
    { ok := true, result := some result, errorCode := none, errorMessage := none } now

def markFailed (state : TransactionState) (errorCode : ErrorCode) (message : String)
    (now : Nat) : Except TransitionError TransactionState :=
  state.finish .failed
    { ok := false, result := none, errorCode := some errorCode, errorMessage := some message } now

theorem finish_identity {state finished : TransactionState} {status : TransactionStatus}
    {outcome : TransactionOutcome} {now : Nat}
    (transition : state.finish status outcome now = .ok finished) :
    finished.schemaVersion = state.schemaVersion ∧ finished.requestId = state.requestId ∧
      finished.idempotencyKey = state.idempotencyKey ∧ finished.operation = state.operation ∧
      finished.status = status ∧ finished.outcome = some outcome := by
  unfold finish at transition
  split at transition
  · cases transition
    exact ⟨rfl, rfl, rfl, rfl, rfl, rfl⟩
  · contradiction

end TransactionState

def indexSchemaVersion : Nat := 1

/-- The lookup entry of an idempotency key. -/
structure IndexRecord where
  schemaVersion : Nat
  idempotencyKey : IdempotencyKey
  requestId : RequestId
  claimedAtUnixSecs : Nat

def lockSchemaVersion : Nat := 1

/-- Best-effort diagnostics about a lock's holder. -/
structure LockRecord where
  schemaVersion : Nat
  holder : RequestId
  acquiredAtUnixSecs : Nat

def auditSchemaVersion : Nat := 1

inductive AuditEvent where
  | mutationStart (requestId : RequestId) (idempotencyKey : Option IdempotencyKey)
      (operation : Operation)
  | result (requestId : RequestId) (ok : Bool) (errorCode : Option ErrorCode)

structure AuditRecord where
  schemaVersion : Nat
  recordedAtUnixSecs : Nat
  event : AuditEvent

def AuditRecord.new (event : AuditEvent) (now : Nat) : AuditRecord :=
  { schemaVersion := auditSchemaVersion, recordedAtUnixSecs := now, event }

/-- Evidence around the atomic release switch. -/
structure Checkpoint where
  siteId : SiteId
  requestId : RequestId
  operation : Operation
  target : ReleaseId
  previous : Option ReleaseId
  revision : Option GitCommitSha

end OpsEngine
