import OpsEngine.Transaction.Lock
import OpsEngine.Transaction.Prune

namespace OpsEngine

open Effect Files

/-! # Preflight

`mutation::preflight`: everything a mutation attempt establishes before it may
touch anything of its own.
-/

variable {reclaimKey : Option IdempotencyKey}

namespace Preflight

inductive Error where
  | idempotency (error : IndexError)
  | lock (error : LockError)
  | state (error : StateError)
  | audit (error : AuditError)
deriving DecidableEq

inductive Outcome where
  | proceed (state : TransactionState)
  | replay (requestId : RequestId)

def lockPath : FilePath := ⟨.locks, .mutationLock⟩

/-- What the idempotency index makes of an attempt. -/
inductive Admission where
  | fresh
  | orphaned (key : IdempotencyKey)
  | replay (requestId : RequestId)

/-- The first half of `run`: claim the key and look at whoever claimed it
before. -/
def resolve (requestId : RequestId) (idempotencyKey : Option IdempotencyKey) :
    Action (Except Error Admission) := do
  match idempotencyKey with
  | none => return .ok .fresh
  | some key =>
    match ← Idempotency.claim key requestId with
    | .error error => return .error (.idempotency error)
    | .ok .claimed => return .ok .fresh
    | .ok (.alreadyClaimed existing) =>
      match ← TransactionState.load (statePath existing) with
      | .ok _ => return .ok (.replay existing)
      | .error .notFound => return .ok (.orphaned key)
      | .error error => return .error (.state error)

/-- An error returned while the guard is held drops the guard. -/
def release (error : Error) : Action (Except Error Outcome) := do
  unlock lockPath
  return .error error

/-- The end of `run`, under the mutation lock: record the attempt and log it. -/
def register (requestId : RequestId) (idempotencyKey : Option IdempotencyKey)
    (operation : Operation) : Action (Except Error Outcome) := do
  let state := TransactionState.start requestId idempotencyKey operation (← unixNowSecs)
  match ← state.create (statePath requestId) with
  | .error error => release (.state error)
  | .ok () =>
    let record ← AuditRecord.mutationStart requestId idempotencyKey operation
    match ← record.append auditPath with
    | .error error => release (.audit error)
    | .ok () => return .ok (.proceed state)

/-- The second half of `run`: the mutation lock, and under it the claim of an
orphaned key. -/
def enter (requestId : RequestId) (idempotencyKey : Option IdempotencyKey)
    (operation : Operation) (reclaimKey : Option IdempotencyKey) :
    Action (Except Error Outcome) := do
  match ← Lock.acquire lockPath requestId with
  | .error error => return .error (.lock error)
  | .ok () =>
    match reclaimKey with
    | none => register requestId idempotencyKey operation
    | some key =>
      match ← Idempotency.reclaim key requestId with
      | .error error => release (.idempotency error)
      | .ok () => register requestId idempotencyKey operation

def run (requestId : RequestId) (idempotencyKey : Option IdempotencyKey)
    (operation : Operation) : Action (Except Error Outcome) := do
  Prune.pruneCompleted Prune.defaultCompletedRetention
  match ← resolve requestId idempotencyKey with
  | .error error => return .error error
  | .ok (.replay existing) => return .ok (.replay existing)
  | .ok .fresh => enter requestId idempotencyKey operation none
  | .ok (.orphaned key) => enter requestId idempotencyKey operation (some key)

/-- The operations of an attempt that goes for the lock. -/
inductive Entering (requestId : RequestId) (idempotencyKey : Option IdempotencyKey)
    (operation : Operation) : SysOp → Prop where
  | now : Entering requestId idempotencyKey operation (.ask .now)
  | acquire {step : SysOp} (acquiring : Lock.Acquiring lockPath step) :
      Entering requestId idempotencyKey operation step
  | reclaim {step : SysOp} {key : IdempotencyKey} (keyed : idempotencyKey = some key)
      (reclaiming : Idempotency.Reclaiming key requestId step) :
      Entering requestId idempotencyKey operation step
  | create {step : SysOp} (now : Nat) (creating : Creating (statePath requestId)
      (.record (TransactionState.start requestId idempotencyKey operation now)) step) :
      Entering requestId idempotencyKey operation step
  | audit (record : AuditRecord) :
      Entering requestId idempotencyKey operation (.append auditPath (.audit record))

inductive Step (requestId : RequestId) (idempotencyKey : Option IdempotencyKey)
    (operation : Operation) : SysOp → Prop where
  | sweep {step : SysOp} (sweeping : Prune.Sweeping step) :
      Step requestId idempotencyKey operation step
  | claim {step : SysOp} {key : IdempotencyKey} (keyed : idempotencyKey = some key)
      (claiming : Idempotency.Claiming key requestId step) :
      Step requestId idempotencyKey operation step
  | enter {step : SysOp} (entering : Entering requestId idempotencyKey operation step) :
      Step requestId idempotencyKey operation step

section Every

variable {requestId : RequestId} {idempotencyKey : Option IdempotencyKey} {operation : Operation}

theorem resolve_steps :
    (resolve requestId idempotencyKey).Every fun step =>
      (∃ key, idempotencyKey = some key ∧ Idempotency.Claiming key requestId step) ∨
        ∃ path, step = .read path := by
  cases idempotencyKey with
  | none => trivial
  | some key =>
  refine (Idempotency.claim_every.mono
    fun _ claiming => .inl ⟨key, rfl, claiming⟩).bind fun claimed => ?_
  split
  · trivial
  · trivial
  · refine (TransactionState.load_every.mono fun _ same => .inr ⟨_, same⟩).bind
      fun loaded => ?_
    split <;> trivial

theorem resolve_every :
    (resolve requestId idempotencyKey).Every
      fun step => step.Within fun path => path.dir = .idempotency := by
  refine resolve_steps.mono ?_
  rintro step (⟨key, _, claiming⟩ | ⟨path, rfl⟩)
  · exact claiming.within
  · exact within_read

theorem resolve_returns :
    (resolve requestId idempotencyKey).Returns fun resolved =>
      ∀ key, resolved = .ok (.orphaned key) → idempotencyKey = some key := by
  cases idempotencyKey with
  | none => exact fun key impossible => by simp at impossible
  | some key =>
  refine Program.returns_trivial.bind fun claimed _ => ?_
  split
  · exact fun key impossible => by simp at impossible
  · exact fun key impossible => by simp at impossible
  refine Program.returns_trivial.bind fun loaded _ => ?_
  split
  · exact fun key impossible => by simp at impossible
  · intro found same
    cases same
    rfl
  · exact fun key impossible => by simp at impossible

theorem release_every {error : Error} :
    (release error).Every (Entering requestId idempotencyKey operation) :=
  Program.every_call_bind (.acquire .unlock) fun _ => trivial

theorem register_every :
    (register requestId idempotencyKey operation).Every
      (Entering requestId idempotencyKey operation) := by
  refine Program.every_call_bind .now fun now => ?_
  refine (TransactionState.create_every.mono fun _ => Entering.create now).bind fun created => ?_
  split
  · exact release_every
  refine Program.Every.bind (Program.every_call_bind .now fun _ => trivial) fun record => ?_
  refine Program.Every.bind (Program.every_call_bind (.audit record) fun logged => ?_) fun logged => ?_
  · split <;> trivial
  · split
    · exact release_every
    · trivial

theorem enter_every (own : ∀ key, reclaimKey = some key → idempotencyKey = some key) :
    (enter requestId idempotencyKey operation reclaimKey).Every
      (Entering requestId idempotencyKey operation) := by
  refine (Lock.acquire_every.mono fun _ => Entering.acquire).bind fun acquired => ?_
  split
  · trivial
  cases reclaimKey with
  | none => exact register_every
  | some key =>
  refine (Idempotency.reclaim_every.mono
    fun _ => Entering.reclaim (own key rfl)).bind fun reclaimed => ?_
  split
  · exact release_every
  · exact register_every

theorem run_every :
    (run requestId idempotencyKey operation).Every (Step requestId idempotencyKey operation) := by
  refine (Prune.pruneCompleted_every.mono fun _ => Step.sweep).bind fun _ => ?_
  refine (resolve_steps.mono ?_).bind_returns resolve_returns fun resolved own => ?_
  · rintro step (⟨key, keyed, claiming⟩ | ⟨path, rfl⟩)
    · exact .claim keyed claiming
    · exact .sweep (.look (.read path))
  split
  · trivial
  · trivial
  · exact (enter_every fun key impossible => by contradiction).mono fun _ => Step.enter
  · exact (enter_every fun key same => own key (by rw [Option.some.inj same])).mono
      fun _ => Step.enter

theorem register_returns :
    (register requestId idempotencyKey operation).Returns fun result =>
      ∀ outcome, result = .ok outcome →
        ∃ now, outcome = .proceed (TransactionState.start requestId idempotencyKey operation now) := by
  refine Program.returns_call_bind fun now => ?_
  refine Program.returns_trivial.bind fun created _ => ?_
  split
  · exact fun _ outcome impossible => by simp at impossible
  refine Program.returns_trivial.bind fun record _ => ?_
  refine Program.returns_trivial.bind fun logged _ => ?_
  split
  · exact fun _ outcome impossible => by simp at impossible
  · intro outcome same
    cases same
    exact ⟨now, rfl⟩

/-- Once it goes for the lock, an attempt either fails or proceeds with the
record it started. -/
theorem enter_returns :
    (enter requestId idempotencyKey operation reclaimKey).Returns fun result =>
      ∀ outcome, result = .ok outcome →
        ∃ now, outcome = .proceed (TransactionState.start requestId idempotencyKey operation now) := by
  refine Program.returns_trivial.bind fun acquired _ => ?_
  split
  · exact fun outcome impossible => by simp at impossible
  cases reclaimKey with
  | none => exact register_returns
  | some key =>
    refine Program.returns_trivial.bind fun reclaimed _ => ?_
    split
    · exact fun _ outcome impossible => by simp at impossible
    · exact register_returns

end Every

end Preflight

end OpsEngine
