import OpsEngine.System

namespace OpsEngine

open Effect Files

/-! # Transaction records and the audit log

`transaction::state` and `transaction::audit`.
-/

def statePath (requestId : RequestId) : FilePath := ⟨.transactions, .json requestId⟩

def auditPath : FilePath := ⟨.audit, .events⟩

inductive StateError where
  | alreadyExists
  | notFound
  | corrupt
  | io
deriving DecidableEq

namespace TransactionState

def create (path : FilePath) (state : TransactionState) : Action (Except StateError Unit) := do
  match ← createNew path (.record state) with
  | .ok () => return .ok ()
  | .error .alreadyExists => return .error .alreadyExists
  | .error _ => return .error .io

def save (path : FilePath) (state : TransactionState) : Action (Except StateError Unit) := do
  match ← writeAtomic path (.record state) with
  | .ok () => return .ok ()
  | .error _ => return .error .io

/-- What a state file's content parses to.  A file that was never completely
written, or that holds something else, is no record. -/
def decode : Option Content → Except StateError TransactionState
  | some (.record state) =>
    if state.schemaVersion = stateSchemaVersion then .ok state else .error .corrupt
  | _ => .error .corrupt

def load (path : FilePath) : Action (Except StateError TransactionState) := do
  match ← read path with
  | .ok content => return decode content
  | .error .notFound => return .error .notFound
  | .error _ => return .error .io

theorem create_every {path : FilePath} {state : TransactionState} :
    (create path state).Every (Creating path (.record state)) := by
  refine createNew_every.bind fun answer => ?_
  split <;> trivial

theorem save_every {path : FilePath} {state : TransactionState} :
    (save path state).Every (Replacing path (.record state)) := by
  refine writeAtomic_every.bind fun answer => ?_
  split <;> trivial

theorem load_every {path : FilePath} : (load path).Every (· = Op.read path) := by
  refine Program.every_call_bind rfl fun answer => ?_
  split <;> trivial

theorem decode_ok {content : Option Content} {state : TransactionState}
    (decoded : decode content = .ok state) :
    content = some (.record state) ∧ state.schemaVersion = stateSchemaVersion := by
  unfold decode at decoded
  split at decoded
  · split at decoded
    · rename_i current
      cases decoded
      exact ⟨rfl, current⟩
    · contradiction
  · contradiction

theorem decode_ne_notFound (content : Option Content) : decode content ≠ .error .notFound := by
  unfold decode
  split
  · split <;> simp
  · simp

/-- What the file at `path` held when `load` answered. -/
def Loaded {Actor : Type} (path : FilePath) (state : System Actor) :
    Except StateError TransactionState → Prop
  | .ok record =>
    record.schemaVersion = stateSchemaVersion ∧
      ∃ inode, state.node path = some (.file inode (some (.record record)))
  | .error .notFound => state.node path = none
  | .error _ => True

theorem safe_load {Actor : Type} [DecidableEq Actor] {actor : Actor}
    {discipline : Discipline SysOp (System Actor) Actor SysChoice} {path : FilePath}
    {assertion : System Actor → Prop} (stable : Stable (discipline.rely actor) assertion)
    (kept : ∀ choice state, assertion state → discipline.admits actor choice (.read path) state →
      discipline.keeps actor choice (.read path) state)
    {state : System Actor} (holds : assertion state) :
    Safe host discipline actor (fun result after => assertion after ∧ Loaded path after result)
      (load path) state := by
  apply safe_call_bind _ stable holds
  intro now choice holds admitted
  refine ⟨kept choice now holds admitted, ?_⟩
  refine machine_read ⟨holds, trivial⟩ (fun absent => ⟨holds, absent⟩)
    fun inode content found => ⟨holds, ?_⟩
  cases decoded : decode content with
  | ok record =>
    obtain ⟨rfl, current⟩ := decode_ok decoded
    exact ⟨current, inode, found⟩
  | error error =>
    have parsed := decode_ne_notFound content
    cases error with
    | notFound => exact absurd decoded parsed
    | alreadyExists | corrupt | io => trivial

end TransactionState

inductive AuditError where
  | serialization
  | io
deriving DecidableEq

namespace AuditRecord

def append (path : FilePath) (record : AuditRecord) : Action (Except AuditError Unit) := do
  match ← appendFile path (.audit record) with
  | .ok () => return .ok ()
  | .error _ => return .error .io

def mutationStart (requestId : RequestId) (idempotencyKey : Option IdempotencyKey)
    (operation : Operation) : Action AuditRecord := do
  return .new (.mutationStart requestId idempotencyKey operation) (← unixNowSecs)

def result (requestId : RequestId) (ok : Bool) (errorCode : Option ErrorCode) :
    Action AuditRecord := do
  return .new (.result requestId ok errorCode) (← unixNowSecs)

end AuditRecord

end OpsEngine
