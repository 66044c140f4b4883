import OpsEngine.Mutation.Preflight

namespace OpsEngine.Preflight

open Effect Files

/-! # The contract of a preflight run

A caller of `run` says what holds before the mutation lock is taken, what holds
under it, and what holds once its record exists.
-/

variable {requestId : RequestId} {idempotencyKey : Option IdempotencyKey} {operation : Operation}

/-- The directories of a preflight scope in which a run changes files. -/
def InScope (path : FilePath) : Prop :=
  path.dir = .transactions ∨ path.dir = .idempotency ∨ path.dir = .locks ∨
    path.dir = .deploymentRecovery ∨ path.dir = .plans ∨ path.dir = .pending

variable {step : SysOp}

theorem sweep_inScope (sweeping : Prune.Sweeping step) : step.Within InScope := by
  cases sweeping with
  | look looking => exact looking.within
  | remove path swept =>
    refine ⟨fun other same => ?_, fun _ => id⟩
    rw [show other = path from same]
    rcases swept with dir | dir | dir | dir | dir <;> simp [InScope, dir]

theorem Step.inScope (taken : Step requestId idempotencyKey operation step)
    {path : FilePath} (touched : step.Touches path) : InScope path := by
  cases taken with
  | sweep sweeping => exact (sweep_inScope sweeping).nodes path touched
  | claim _ claiming =>
    have dir := claiming.within.nodes path touched
    simp [InScope, dir]
  | enter entering =>
  cases entering with
  | now | audit => exact touched.elim
  | acquire acquiring =>
    cases acquiring with
    | diagnose diagnosing =>
      have same := diagnosing.within.nodes path touched
      simp [InScope, same, lockPath]
    | lock | unlock => exact touched.elim
  | reclaim _ reclaiming =>
    have dir := reclaiming.within.nodes path touched
    simp [InScope, dir]
  | create _ creating =>
    have same := creating.within.nodes path touched
    simp [InScope, same, statePath]

/-- The operations of a run that stay with the claims and the lock file, and take
or drop no lock. -/
structure Calm (step : SysOp) : Prop where
  within : step.Within fun path => path.dir = .idempotency ∨ path = lockPath
  diagnosing : step.Touches lockPath → Lock.Diagnosing lockPath step

theorem calm_of_claiming (within : step.Within fun path => path.dir = .idempotency) :
    Calm step :=
  ⟨within.mono fun _ => .inl, fun touched => by cases within.nodes _ touched⟩

theorem calm_diagnose (diagnosing : Lock.Diagnosing lockPath step) : Calm step :=
  ⟨diagnosing.within.mono fun _ => .inr, fun _ => diagnosing⟩

theorem resolve_calm : (resolve requestId idempotencyKey).Every Calm := by
  apply resolve_steps.mono
  intro step taken
  rcases taken with ⟨key, _, claiming⟩ | ⟨path, rfl⟩
  · exact calm_of_claiming claiming.within
  · exact calm_of_claiming within_read

theorem reclaim_calm (key : IdempotencyKey) : (Idempotency.reclaim key requestId).Every Calm :=
  Idempotency.reclaim_every.mono fun _ reclaiming =>
    calm_of_claiming reclaiming.within

section Contract

variable {Actor : Type} [DecidableEq Actor] {actor : Actor}
  {discipline : Discipline SysOp (System Actor) Actor SysChoice}
  {before held : System Actor → Prop} {registered : TransactionState → System Actor → Prop}

structure Contract (discipline : Discipline SysOp (System Actor) Actor SysChoice) (actor : Actor)
    (requestId : RequestId) (idempotencyKey : Option IdempotencyKey) (operation : Operation)
    (before held : System Actor → Prop) (registered : TransactionState → System Actor → Prop) :
    Prop where
  swept : ∀ state, before state →
    Safe host discipline actor (fun _ => before)
      (Prune.pruneCompleted Prune.defaultCompletedRetention) state
  calmBefore : Preserves host discipline actor Calm before
  calmHeld : Preserves host discipline actor Calm held
  refused : ∀ choice state error, before state →
    discipline.admits actor choice (.lock lockPath) state →
    host.exec actor choice (.lock lockPath) state = (.error error, state) →
    discipline.keeps actor choice (.lock lockPath) state
  granted : ∀ choice state, before state → discipline.admits actor choice (.lock lockPath) state →
    state.locks lockPath = none → choice.fault = false →
    host.exec actor choice (.lock lockPath) state = (.ok (), state.grant actor lockPath) →
    discipline.keeps actor choice (.lock lockPath) state ∧ held (state.grant actor lockPath)
  released : ∀ choice state, held state → discipline.admits actor choice (.unlock lockPath) state →
    discipline.keeps actor choice (.unlock lockPath) state ∧ before (state.unlock actor lockPath)
  created : ∀ now state, held state →
    Safe host discipline actor
      (Outcomes (fun _ => registered (.start requestId idempotencyKey operation now)) fun _ => held)
      ((TransactionState.start requestId idempotencyKey operation now).create (statePath requestId))
      state
  calmRegistered : ∀ record,
    Preserves host discipline actor (·.Within fun _ => False) (registered record)
  unregistered : ∀ record state, registered record state → held state

/-- What a run leaves its caller with. -/
def Entered (before : System Actor → Prop) (registered : TransactionState → System Actor → Prop) :
    Except Error Outcome → System Actor → Prop
  | .ok (.proceed record), state => registered record state
  | _, state => before state

variable (contract : Contract discipline actor requestId idempotencyKey operation before held
  registered)
include contract

theorem Contract.lock : Lock.Contract discipline actor lockPath before held before where
  stableBefore := contract.calmBefore.stable
  stableHeld := contract.calmHeld.stable
  quietBefore step choice state diagnosing :=
    contract.calmBefore.step step choice state (calm_diagnose diagnosing)
  quietHeld step choice state diagnosing :=
    contract.calmHeld.step step choice state (calm_diagnose diagnosing)
  refused := contract.refused
  granted := contract.granted
  released := contract.released
  gaveUp _ holds := holds

variable {state : System Actor}

theorem Contract.safe_release (error : Error) (holds : held state) :
    Safe host discipline actor (Entered before registered) (release error) state := by
  apply safe_call_bind held contract.calmHeld.stable holds
  intro now choice holds admitted
  obtain ⟨kept, after⟩ := contract.released choice now holds admitted
  refine ⟨kept, ?_⟩
  rw [machine_unlock]
  exact after

theorem Contract.safe_register (holds : held state) :
    Safe host discipline actor (Entered before registered)
      (register requestId idempotencyKey operation) state := by
  apply contract.calmHeld.call_bind (calm_of_claiming within_ask) holds
  intro now state holds
  refine (contract.created now state holds).attempt (fun _ _ holds => contract.safe_release _ holds) ?_
  intro _ state holds
  have quiet := contract.calmRegistered (.start requestId idempotencyKey operation now)
  have stamped : (AuditRecord.mutationStart requestId idempotencyKey operation).Every
      (·.Within fun _ => False) :=
    Program.every_call_bind within_ask fun _ => trivial
  apply (quiet.safe stamped holds).seq
  intro record state holds
  have appended : (record.append auditPath).Every (·.Within fun _ => False) := by
    apply Program.every_call_bind ⟨fun _ => False.elim, fun _ => id⟩
    intro answer
    split <;> trivial
  refine (quiet.safe appended holds).attempt
    (fun _ _ holds => contract.safe_release _ (contract.unregistered _ _ holds)) ?_
  intro _ state holds
  exact holds

theorem Contract.safe_enter {reclaimKey : Option IdempotencyKey} (holds : before state) :
    Safe host discipline actor (Entered before registered)
      (enter requestId idempotencyKey operation reclaimKey) state := by
  refine (Lock.safe_acquire contract.lock holds).attempt (fun _ _ holds => holds) ?_
  intro _ state holds
  cases reclaimKey with
  | none => exact contract.safe_register holds
  | some key =>
    refine (contract.calmHeld.safe (reclaim_calm key) holds).attempt
      (fun _ _ holds => contract.safe_release _ holds) ?_
    intro _ state holds
    exact contract.safe_register holds

/-- A caller that keeps its contract is registered under the lock when `run`
lets it proceed, and is where it was otherwise. -/
theorem Contract.safe_run (holds : before state) :
    Safe host discipline actor (Entered before registered)
      (run requestId idempotencyKey operation) state := by
  apply (contract.swept state holds).seq
  intro _ state holds
  apply (contract.calmBefore.safe resolve_calm holds).seq
  intro resolved state holds
  rcases resolved with error | (_ | key | existing)
  · exact holds
  · exact contract.safe_enter holds
  · exact contract.safe_enter holds
  · exact holds

end Contract

end OpsEngine.Preflight
