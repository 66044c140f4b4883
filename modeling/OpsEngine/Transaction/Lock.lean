import OpsEngine.Transaction.State

namespace OpsEngine

open Effect Files

/-! # Kernel locks

`transaction::lock`.  The kernel decides who holds a lock; the record in the
file is for diagnostics only.  A guard is the right to `unlock` the path, which
is what dropping it does.
-/

inductive LockError where
  | held (holder : Option RequestId) (heldForSecs : Nat)
  | io
deriving DecidableEq

namespace Lock

/-- The diagnostic record a lock file's content parses to. -/
def currentRecord : Option Content → Option LockRecord
  | some (.lock record) => if record.schemaVersion = lockSchemaVersion then some record else none
  | _ => none

/-- Who the lock file says holds it, and for how long. -/
def readLock (path : FilePath) : Action (Except LockError (RequestId × Nat)) := do
  match ← read path with
  | .error _ => return .error .io
  | .ok content =>
    match currentRecord content with
    | none => return .error .io
    | some record => return .ok (record.holder, (← unixNowSecs) - record.acquiredAtUnixSecs)

/-- Every failure after the kernel granted the lock closes the file, which
gives the lock back. -/
def failAcquire (path : FilePath) : Action (Except LockError Unit) := do
  unlock path
  return .error .io

def writeRecord (inode : Nat) (path : FilePath) (holder : RequestId) :
    Action (Except LockError Unit) := do
  let record : LockRecord :=
    { schemaVersion := lockSchemaVersion, holder, acquiredAtUnixSecs := ← unixNowSecs }
  match ← truncate inode path with
  | .error _ => failAcquire path
  | .ok () =>
    match ← write inode path (.lock record) with
    | .error _ => failAcquire path
    | .ok () =>
      match ← sync path with
      | .error _ => failAcquire path
      | .ok () => return .ok ()

def acquire (path : FilePath) (holder : RequestId) : Action (Except LockError Unit) := do
  match ← openOrCreate path with
  | .error _ => return .error .io
  | .ok inode =>
    match ← flock path with
    | .error .wouldBlock =>
      match ← readLock path with
      | .ok (holder, heldFor) => return .error (.held (some holder) heldFor)
      | .error _ => return .error (.held none 0)
    | .error _ => return .error .io
    | .ok () => writeRecord inode path holder

inductive Diagnosing (path : FilePath) : SysOp → Prop where
  | openOrCreate : Diagnosing path (.openOrCreate path)
  | read : Diagnosing path (.read path)
  | now : Diagnosing path (.ask .now)
  | truncate (inode : Nat) : Diagnosing path (.truncate inode path)
  | write (inode : Nat) (record : LockRecord) : Diagnosing path (.write inode path (.lock record))
  | sync : Diagnosing path (.sync path)

inductive Acquiring (path : FilePath) : SysOp → Prop where
  | diagnose {operation : SysOp} (diagnosing : Diagnosing path operation) :
      Acquiring path operation
  | lock : Acquiring path (.lock path)
  | unlock : Acquiring path (.unlock path)

variable {path : FilePath}

theorem Diagnosing.within {operation : SysOp}
    (diagnosing : Diagnosing path operation) : operation.Within (· = path) := by
  cases diagnosing with
  | openOrCreate => exact within_openOrCreate
  | read => exact within_read
  | now => exact within_ask
  | truncate => exact within_truncate
  | write => exact within_write
  | sync => exact within_sync

theorem Diagnosing.regular {Actor : Type} [DecidableEq Actor] {actor : Actor} {choice : SysChoice}
    {operation : SysOp} {state : System Actor}
    (diagnosing : Diagnosing path operation) (regular : state.Regular path) :
    (host.exec actor choice operation state).2.Regular path := by
  cases diagnosing with
  | openOrCreate =>
    exact machine_openOrCreate regular (fun _ => regular) (Disk.Regular.createFile state path)
  | truncate inode =>
    exact machine_truncate regular (regular.fill inode none)
  | write inode record =>
    exact machine_write regular (regular.fill inode _)
  | read | now | sync =>
    intro node found
    exact regular node ((Disk.exec_node id).symm.trans found)

theorem readLock_every {path : FilePath} : (readLock path).Every (Diagnosing path) := by
  refine Program.every_call_bind .read fun content => ?_
  split
  · trivial
  · split
    · trivial
    · exact Program.every_call_bind .now fun _ => trivial

theorem failAcquire_every {path : FilePath} : (failAcquire path).Every (Acquiring path) :=
  Program.every_call_bind .unlock fun _ => trivial

theorem writeRecord_every {inode : Nat} {path : FilePath} {holder : RequestId} :
    (writeRecord inode path holder).Every (Acquiring path) := by
  refine Program.every_call_bind (.diagnose .now) fun now => ?_
  refine Program.every_call_bind (.diagnose (.truncate inode)) fun truncated => ?_
  split
  · exact failAcquire_every
  refine Program.every_call_bind (.diagnose (.write inode _)) fun written => ?_
  split
  · exact failAcquire_every
  refine Program.every_call_bind (.diagnose .sync) fun synced => ?_
  split
  · exact failAcquire_every
  · trivial

theorem acquire_every {path : FilePath} {holder : RequestId} :
    (acquire path holder).Every (Acquiring path) := by
  refine Program.every_call_bind (.diagnose .openOrCreate) fun opened => ?_
  split
  · trivial
  refine Program.every_call_bind .lock fun locked => ?_
  split
  · refine (readLock_every.mono fun _ => Acquiring.diagnose).bind fun holder => ?_
    split <;> trivial
  · trivial
  · exact writeRecord_every

section Safety

variable {Actor : Type} [DecidableEq Actor] {actor : Actor} {path : FilePath} {holder : RequestId}
  {discipline : Discipline SysOp (System Actor) Actor SysChoice}
  {before held after : System Actor → Prop}

/-- What a caller of `acquire` owes: `before` and `held` survive the calls that
only touch the lock file, the kernel's grant turns `before` into `held`, and
giving the lock back turns `held` into `after`. -/
structure Contract (discipline : Discipline SysOp (System Actor) Actor SysChoice) (actor : Actor)
    (path : FilePath) (before held after : System Actor → Prop) : Prop where
  stableBefore : Stable (discipline.rely actor) before
  stableHeld : Stable (discipline.rely actor) held
  quietBefore : ∀ operation choice state, Diagnosing path operation → before state →
    discipline.admits actor choice operation state →
    discipline.keeps actor choice operation state ∧
      before (host.exec actor choice operation state).2
  quietHeld : ∀ operation choice state, Diagnosing path operation → held state →
    discipline.admits actor choice operation state →
    discipline.keeps actor choice operation state ∧
      held (host.exec actor choice operation state).2
  refused : ∀ choice state error, before state →
    discipline.admits actor choice (.lock path) state →
    host.exec actor choice (.lock path) state = (.error error, state) →
    discipline.keeps actor choice (.lock path) state
  granted : ∀ choice state, before state → discipline.admits actor choice (.lock path) state →
    state.locks path = none → choice.fault = false →
    host.exec actor choice (.lock path) state = (.ok (), state.grant actor path) →
    discipline.keeps actor choice (.lock path) state ∧ held (state.grant actor path)
  released : ∀ choice state, held state → discipline.admits actor choice (.unlock path) state →
    discipline.keeps actor choice (.unlock path) state ∧ after (state.unlock actor path)
  gaveUp : ∀ state, before state → after state

variable (contract : Contract discipline actor path before held after)
include contract

theorem safe_failAcquire {state : System Actor} (holds : held state) :
    Safe host discipline actor (Outcomes (fun _ => held) fun _ => after) (failAcquire path) state := by
  refine safe_call_bind held contract.stableHeld holds fun before choice asserted admitted => ?_
  obtain ⟨kept, freed⟩ := contract.released choice before asserted admitted
  rw [machine_unlock]
  exact ⟨kept, freed⟩

theorem safe_writeRecord {inode : Nat} {state : System Actor} (holds : held state) :
    Safe host discipline actor (Outcomes (fun _ => held) fun _ => after)
      (writeRecord inode path holder) state := by
  refine safe_call_bind held contract.stableHeld holds fun before choice asserted admitted => ?_
  obtain ⟨kept, still⟩ := contract.quietHeld _ choice before .now asserted admitted
  refine ⟨kept, ?_⟩
  refine safe_call_bind held contract.stableHeld still fun before choice asserted admitted => ?_
  obtain ⟨kept, still⟩ := contract.quietHeld _ choice before (.truncate inode) asserted admitted
  refine ⟨kept, ?_⟩
  split
  · exact safe_failAcquire contract still
  refine safe_call_bind held contract.stableHeld still fun before choice asserted admitted => ?_
  obtain ⟨kept, still⟩ := contract.quietHeld _ choice before (.write inode _) asserted admitted
  refine ⟨kept, ?_⟩
  split
  · exact safe_failAcquire contract still
  refine safe_call_bind held contract.stableHeld still fun before choice asserted admitted => ?_
  obtain ⟨kept, still⟩ := contract.quietHeld _ choice before .sync asserted admitted
  refine ⟨kept, ?_⟩
  split
  · exact safe_failAcquire contract still
  · exact still

theorem safe_readLock {state : System Actor} (holds : before state) :
    Safe host discipline actor (fun _ => before) (readLock path) state :=
  Safe.of_every contract.stableBefore contract.quietBefore readLock_every holds

/-- A caller that keeps its contract holds the lock when `acquire` returned it,
and has given it back otherwise. -/
theorem safe_acquire {state : System Actor} (holds : before state) :
    Safe host discipline actor (Outcomes (fun _ => held) fun _ => after)
      (acquire path holder) state := by
  refine safe_call_bind before contract.stableBefore holds fun now choice asserted admitted => ?_
  obtain ⟨kept, still⟩ := contract.quietBefore _ choice now .openOrCreate asserted admitted
  refine ⟨kept, ?_⟩
  split
  · exact contract.gaveUp _ still
  refine safe_call_bind before contract.stableBefore still fun now choice asserted admitted => ?_
  rcases machine_lock actor choice now path with ⟨error, refused⟩ | ⟨free, healthy, granted⟩
  · refine ⟨contract.refused choice now error asserted admitted refused, ?_⟩
    rw [refused]
    cases error with
    | wouldBlock =>
      refine Safe.bind ((safe_readLock contract asserted).mono fun result state still => ?_)
      cases result <;> exact contract.gaveUp _ still
    | notFound | alreadyExists | other => exact contract.gaveUp _ asserted
  · obtain ⟨kept, taken⟩ := contract.granted choice now asserted admitted free healthy granted
    refine ⟨kept, ?_⟩
    rw [granted]
    exact safe_writeRecord contract taken

end Safety

theorem healthy_acquire {Actor : Type} [DecidableEq Actor] {actor : Actor}
    {holder : RequestId} {state : System Actor} (regular : state.Regular path)
    (free : state.locks path = none) :
    Safe host uninterrupted actor (fun result _ => result = .ok ()) (acquire path holder) state := by
  apply alone_call_bind trivial
  intro choice healthy
  obtain ⟨inode, after, opened, locks⟩ := healthy_openOrCreate actor healthy regular
  rw [opened]
  apply alone_call_bind trivial
  intro choice healthy
  rw [healthy_lock healthy (by rw [locks]; exact free)]
  apply alone_call_bind trivial
  intro choice _
  refine alone_exec_bind trivial healthy_truncate ?_
  refine alone_exec_bind trivial healthy_write ?_
  refine alone_exec_bind trivial healthy_sync ?_
  rfl

end Lock

end OpsEngine
