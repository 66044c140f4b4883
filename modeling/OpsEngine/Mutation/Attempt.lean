import OpsEngine.Mutation.Preflight

namespace OpsEngine

open Effect Files

/-! # A mutation attempt around its preflight

What every operation does with an admission: it works, records how it ended and
drops the lock.  The work itself touches nothing of the preflight scope.
-/

/-- How an admitted operation ends.  Most record the end and then drop the
lock; `engine.install` drops the lock first. -/
structure Ending where
  result : Except (ErrorCode × String) Json
  unlockFirst : Bool

/-- `mark_committed` or `mark_failed`; a refused transition leaves the state. -/
def Ending.mark (ending : Ending) (state : TransactionState) (now : Nat) : TransactionState :=
  let marked := match ending.result with
    | .ok result => state.markCommitted result now
    | .error (code, message) => state.markFailed code message now
  match marked with
  | .ok finished => finished
  | .error _ => state

def conclude (ending : Ending) (requestId : RequestId) (state : TransactionState) :
    Action Unit := do
  let finished := ending.mark state (← unixNowSecs)
  if ending.unlockFirst then do
    unlock Preflight.lockPath
    let _ ← finished.save (statePath requestId)
    return ()
  else do
    let _ ← finished.save (statePath requestId)
    unlock Preflight.lockPath

structure Attempt where
  requestId : RequestId
  idempotencyKey : Option IdempotencyKey
  operation : Operation
  ending : Ending

/-- The steps of an attempt in its preflight scope, with what `run` returned. -/
def Attempt.program (attempt : Attempt) : Action (Except Preflight.Error Preflight.Outcome) := do
  let outcome ← Preflight.run attempt.requestId attempt.idempotencyKey attempt.operation
  match outcome with
  | .ok (.proceed state) =>
    conclude attempt.ending attempt.requestId state
    return outcome
  | _ => return outcome

theorem Ending.mark_identity (ending : Ending) (state : TransactionState) (now : Nat) :
    (ending.mark state now).idempotencyKey = state.idempotencyKey ∧
      (ending.mark state now).schemaVersion = state.schemaVersion ∧
      (ending.mark state now).requestId = state.requestId := by
  unfold Ending.mark
  dsimp only
  split
  · rename_i finished marked
    cases outcome : ending.result with
    | ok result =>
      rw [outcome] at marked
      obtain ⟨schema, owner, key, _⟩ := TransactionState.finish_identity marked
      exact ⟨key, schema, owner⟩
    | error failure =>
      rw [outcome] at marked
      obtain ⟨schema, owner, key, _⟩ := TransactionState.finish_identity marked
      exact ⟨key, schema, owner⟩
  · exact ⟨rfl, rfl, rfl⟩

inductive Concluding (ending : Ending) (requestId : RequestId) (state : TransactionState) :
    SysOp → Prop where
  | now : Concluding ending requestId state (.ask .now)
  | unlock : Concluding ending requestId state (.unlock Preflight.lockPath)
  | save {step : SysOp} (now : Nat)
      (replacing : Replacing (statePath requestId) (.record (ending.mark state now)) step) :
      Concluding ending requestId state step

theorem conclude_every {ending : Ending} {requestId : RequestId} {state : TransactionState} :
    (conclude ending requestId state).Every (Concluding ending requestId state) := by
  apply Program.every_call_bind .now
  intro now
  have saves : ((ending.mark state now).save (statePath requestId)).Every
      (Concluding ending requestId state) :=
    TransactionState.save_every.mono fun _ => Concluding.save now
  split
  · exact Program.every_call_bind .unlock fun _ => saves.bind fun _ => trivial
  · exact saves.bind fun _ => Program.every_call.mpr .unlock

/-- Attempts side by side in one scope. -/
abbrev AttemptPool (ι : Type) :=
  Pool SysOp (Op.Result Answer) (System ι) ι (Except Preflight.Error Preflight.Outcome)

def AttemptPool.start {ι : Type} (state : System ι) (attempts : ι → Attempt) : AttemptPool ι :=
  { state, threads := fun actor => some (attempts actor).program }

/-! Values for concrete runs. -/

def sampleKey : IdempotencyKey := ⟨[0x6b], by decide⟩

def firstRequest : RequestId := .numbered 1

def secondRequest : RequestId := .numbered 2

def sampleAttempt (requestId : RequestId) (idempotencyKey : IdempotencyKey) : Attempt :=
  { requestId, idempotencyKey := some idempotencyKey, operation := .siteDeploy
    ending := { result := .ok .null, unlockFirst := false } }

/-- Two requests with one key. -/
def rivals (second : Bool) : Attempt :=
  sampleAttempt (if second then secondRequest else firstRequest) sampleKey

def steps {ι : Type} (actor : ι) (count : Nat) : List (Event ι SysChoice) :=
  List.replicate count (.step actor (healthyChoice 0))

end OpsEngine
