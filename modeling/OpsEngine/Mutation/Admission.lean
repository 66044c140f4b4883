import Mathlib.Data.Set.Subsingleton
import OpsEngine.Mutation.Attempt

namespace OpsEngine.Admission

open Effect Files Preflight

/-! # At most one admission for a key

Any number of attempts with one idempotency key and distinct request ids run
side by side in one scope.  Nothing between taking the mutation lock and creating
the record looks for a record under the key, so an admission stays unique exactly
as far as no attempt takes the lock while there is one.
-/

variable {ι : Type}

def Recorded (key : IdempotencyKey) (state : System ι) (requestId : RequestId) : Prop :=
  ∃ inode record, state.node (statePath requestId) = some (.file inode (some (.record record))) ∧
    record.idempotencyKey = some key

def isRecordUnder (key : IdempotencyKey) : FilePath → Node Dir Name Content → Bool
  | ⟨.transactions, .json _⟩, .file _ (some (.record record)) => record.idempotencyKey = some key
  | _, _ => false

/-- The step is a sweep removing a claim or a transaction record. -/
def expires (choice : SysChoice) (operation : SysOp) (state : System ι) : Bool :=
  match operation with
  | .remove path =>
    (path.dir = .transactions || path.dir = .idempotency) && !choice.fault &&
      (state.node path).isSome
  | _ => false

def takesLock (choice : SysChoice) (operation : SysOp) (state : System ι) : Bool :=
  match operation with
  | .lock path => path = lockPath && !choice.fault && (state.locks lockPath).isNone
  | _ => false

def NothingExpires (_ : ι) (choice : SysChoice) (operation : SysOp) (state : System ι) : Prop :=
  expires choice operation state = false

/-- No retention period expires, and the mutation lock is only taken while no
transaction record is stored under `key`. -/
def Orderly (key : IdempotencyKey) (_ : ι) (choice : SysChoice) (operation : SysOp)
    (state : System ι) : Prop :=
  expires choice operation state = false ∧
    (takesLock choice operation state = true → state.anyNode (isRecordUnder key) = false)

instance (actor : ι) (choice : SysChoice) (operation : SysOp) (state : System ι) :
    Decidable (NothingExpires actor choice operation state) :=
  inferInstanceAs (Decidable (_ = false))

instance (key : IdempotencyKey) (actor : ι) (choice : SysChoice) (operation : SysOp)
    (state : System ι) : Decidable (Orderly key actor choice operation state) :=
  inferInstanceAs (Decidable (_ = false ∧ (_ = true → _ = false)))

variable {state : System ι} {record : TransactionState}

theorem not_recorded {key : IdempotencyKey}
    (none : state.anyNode (isRecordUnder key) = false) (requestId : RequestId) :
    ¬ Recorded key state requestId := by
  rintro ⟨inode, record, found, stored⟩
  have some : state.anyNode (isRecordUnder key) = true :=
    Disk.anyNode_eq_true.mpr ⟨_, _, found, by simp [isRecordUnder, statePath, stored]⟩
  rw [none] at some
  contradiction

/-- What the others may rely on at each step of `actor`: records under the key
stay, a new one only appears while `actor` holds the lock and there is none,
and the locks and files of the others are theirs. -/
structure Guarantee (key : IdempotencyKey) (ids : ι → RequestId) (actor : ι)
    (before after : System ι) : Prop where
  kept : ∀ requestId, Recorded key before requestId → Recorded key after requestId
  fresh : ∀ requestId, Recorded key after requestId → ¬ Recorded key before requestId →
    before.locks lockPath = some actor ∧ ∀ other, ¬ Recorded key before other
  locks : ∀ other, other ≠ actor → before.locks lockPath = some other →
    after.locks lockPath = some other
  record : ∀ other, other ≠ actor →
    after.node (statePath (ids other)) = before.node (statePath (ids other))
  temp : ∀ other, other ≠ actor →
    after.node (tempSiblingPath (statePath (ids other))) =
      before.node (tempSiblingPath (statePath (ids other)))

/-- `actor` holds the mutation lock and there is no record under the key. -/
def Holding (key : IdempotencyKey) (actor : ι) (state : System ι) : Prop :=
  state.locks lockPath = some actor ∧ ∀ requestId, ¬ Recorded key state requestId

/-- The one record under the key is that of `requestId`. -/
def Sole (key : IdempotencyKey) (requestId : RequestId) (state : System ι) : Prop :=
  Recorded key state requestId ∧ ∀ other, Recorded key state other → other = requestId

variable {key : IdempotencyKey} {ids : ι → RequestId} {actor : ι} {before after : System ι}

theorem Guarantee.of_nodes
    (records : ∀ requestId, after.node (statePath requestId) = before.node (statePath requestId))
    (temps : ∀ other, other ≠ actor → after.node (tempSiblingPath (statePath (ids other))) =
      before.node (tempSiblingPath (statePath (ids other))))
    (locks : ∀ other, other ≠ actor → before.locks lockPath = some other →
      after.locks lockPath = some other) : Guarantee key ids actor before after := by
  have same : ∀ requestId, Recorded key after requestId ↔ Recorded key before requestId := by
    intro requestId
    simp only [Recorded, records]
  exact
    { kept := fun requestId => (same requestId).mpr
      fresh := fun requestId now earlier => absurd ((same requestId).mp now) earlier
      locks := locks
      record := fun other _ => records (ids other)
      temp := temps }

theorem Guarantee.refl (state : System ι) : Guarantee key ids actor state state :=
  .of_nodes (fun _ => rfl) (fun _ _ => rfl) fun _ _ held => held

theorem statePath_inj {first second : RequestId} :
    statePath first = statePath second ↔ first = second := by
  simp [statePath]

theorem statePath_ne_temp (first second : RequestId) :
    statePath first ≠ tempSiblingPath (statePath second) := by
  simp [statePath, tempSiblingPath]

theorem tempSiblingPath_inj {first second : FilePath} :
    tempSiblingPath first = tempSiblingPath second ↔ first = second := by
  cases first
  cases second
  simp [tempSiblingPath]

theorem Guarantee.of_own (distinct : Function.Injective ids)
    (frame : ∀ path, path ≠ statePath (ids actor) → path ≠ tempSiblingPath (statePath (ids actor)) →
      after.node path = before.node path) (locks : after.locks = before.locks)
    (kept : Recorded key before (ids actor) → Recorded key after (ids actor))
    (fresh : Recorded key after (ids actor) → ¬ Recorded key before (ids actor) →
      Holding key actor before) : Guarantee key ids actor before after := by
  have others : ∀ requestId, requestId ≠ ids actor →
      after.node (statePath requestId) = before.node (statePath requestId) :=
    fun requestId apart =>
      frame _ (fun same => apart (statePath_inj.mp same)) (statePath_ne_temp _ _)
  have apart : ∀ other, other ≠ actor → ids other ≠ ids actor :=
    fun other apart same => apart (distinct same)
  constructor
  · intro requestId recorded
    by_cases own : requestId = ids actor
    · subst own
      exact kept recorded
    · simpa only [Recorded, others requestId own] using recorded
  · intro requestId recorded unrecorded
    by_cases own : requestId = ids actor
    · subst own
      exact fresh recorded unrecorded
    · exact absurd (by simpa only [Recorded, others requestId own] using recorded) unrecorded
  · intro other _ held
    rw [locks]
    exact held
  · exact fun other differs => others _ (apart other differs)
  · intro other differs
    refine frame _ (statePath_ne_temp _ _).symm fun same => apart other differs ?_
    exact statePath_inj.mp (tempSiblingPath_inj.mp same)

theorem Holding.createFile (holding : Holding key actor before) (path : FilePath) :
    Holding key actor (before.createFile path).2 := by
  refine ⟨holding.1, ?_⟩
  rintro requestId ⟨inode, record, found, stored⟩
  rw [Disk.node_createFile] at found
  split at found
  · simp at found
  · exact holding.2 requestId ⟨inode, record, found, stored⟩

variable {requestId : RequestId} {α : Type}

theorem Holding.fill (holding : Holding key actor before) {inode : Nat}
    {old : Option Content} (opened : before.node (statePath requestId) = some (.file inode old))
    (stored : record.idempotencyKey = some key) :
    Sole key requestId (before.fill inode (statePath requestId) (some (.record record))) := by
  refine ⟨⟨inode, record, Disk.node_fill_opened opened _, stored⟩, ?_⟩
  rintro other ⟨found, content, holds, under⟩
  by_contra apart
  rw [Disk.node_fill_of_ne fun same => apart (statePath_inj.mp same)] at holds
  exact holding.2 other ⟨found, content, holds, under⟩

theorem Holding.guaranteed {other : ι} (distinct : other ≠ actor)
    (moved : Guarantee key ids other before after) (holding : Holding key actor before) :
    Holding key actor after := by
  refine ⟨moved.locks actor distinct.symm holding.1, fun requestId recorded => ?_⟩
  obtain ⟨held, _⟩ := moved.fresh requestId recorded (holding.2 requestId)
  rw [holding.1] at held
  exact distinct (Option.some.inj held).symm

theorem Sole.guaranteed (moved : Guarantee key ids actor before after)
    (sole : Sole key requestId before) : Sole key requestId after := by
  refine ⟨moved.kept requestId sole.1, fun other recorded => ?_⟩
  by_contra distinct
  obtain ⟨_, none⟩ := moved.fresh other recorded fun earlier => distinct (sole.2 other earlier)
  exact none requestId sole.1

def Harmless (ids : ι → RequestId) (actor : ι) (path : FilePath) : Prop :=
  path.dir ≠ .transactions ∨ path = tempSiblingPath (statePath (ids actor))

theorem not_harmless_statePath (requestId : RequestId) :
    ¬ Harmless ids actor (statePath requestId) := by
  rintro (outside | temp)
  · exact outside rfl
  · simp [statePath, tempSiblingPath] at temp

theorem guarantee_lock (free : before.locks lockPath = none) :
    Guarantee key ids actor before (before.grant actor lockPath) := by
  refine .of_nodes (fun _ => rfl) (fun _ _ => rfl) fun other _ held => ?_
  rw [free] at held
  contradiction

theorem harmless_lockPath (ids : ι → RequestId) {operation : SysOp}
    (diagnosing : Lock.Diagnosing lockPath operation) : operation.Within (Harmless ids actor) :=
  diagnosing.within.mono fun path same => .inl (by simp [same, lockPath])

variable [DecidableEq ι] {choice : SysChoice} {operation : SysOp}

theorem guarantee_within (distinct : Function.Injective ids)
    (within : operation.Within (Harmless ids actor)) :
    Guarantee key ids actor before (host.exec actor choice operation before).2 := by
  refine .of_nodes (fun requestId => ?_) (fun other apart => ?_) fun other _ held => ?_
  · exact Disk.exec_node fun touched =>
      not_harmless_statePath requestId (within.nodes _ touched)
  · refine Disk.exec_node fun touched => ?_
    rcases within.nodes _ touched with outside | temp
    · exact outside rfl
    · simp only [tempSiblingPath, statePath, Pathname.mk.injEq, Name.tmp.injEq, Name.json.injEq,
        true_and] at temp
      exact apart (distinct temp)
  · rw [show (host.exec actor choice operation before).2.locks lockPath = before.locks lockPath from
      Disk.exec_locks (within.locks lockPath)]
    exact held

theorem guarantee_unlock : Guarantee key ids actor before (before.unlock actor lockPath) := by
  refine .of_nodes (fun _ => Disk.unlock_node) (fun _ _ => Disk.unlock_node) fun other apart held => ?_
  simp [Disk.unlock, held, apart]

/-- A sweep under which nothing expires removes nothing that matters here. -/
theorem guarantee_sweep (distinct : Function.Injective ids) (sweeping : Prune.Sweeping operation)
    (steady : expires choice operation before = false) :
    Guarantee key ids actor before (host.exec actor choice operation before).2 := by
  cases sweeping with
  | look looking => exact guarantee_within distinct looking.within
  | remove path swept =>
  refine machine_remove (fun _ => .refl before) fun node found healthy => ?_
  have outside : path.dir ≠ .transactions := by
    intro inside
    simp [expires, inside, healthy, found] at steady
  have kept : ∀ other : FilePath, other.dir = .transactions →
      (before.drop path).node other = before.node other := by
    intro other inside
    rw [Disk.node_drop, if_neg fun same : other = path => outside (same ▸ inside)]
  exact .of_nodes (fun _ => kept _ rfl) (fun _ _ => kept _ rfl) fun _ _ held => held

def discipline (key : IdempotencyKey) (ids : ι → RequestId) :
    Discipline SysOp (System ι) ι SysChoice :=
  .guaranteed host (Orderly key) (Guarantee key ids)

theorem sound : (discipline key ids).Sound host := by
  refine Discipline.guaranteed_sound fun actor state => ?_
  refine .of_nodes (fun _ => rfl) (fun _ _ => rfl) fun other apart held => ?_
  show (if state.locks lockPath = some actor then none else state.locks lockPath) = some other
  simp [held, apart]

theorem stable_holding : Stable ((discipline key ids).rely actor) (Holding key actor) :=
  stable_of_guarantee fun _ _ _ apart moved => Holding.guaranteed apart moved

theorem stable_sole : Stable ((discipline key ids).rely actor) (Sole key (ids actor)) :=
  stable_of_guarantee fun _ _ _ _ moved => Sole.guaranteed moved

theorem stable_record (node : Option (Node Dir Name Content)) :
    Stable ((discipline key ids).rely actor) fun state =>
      state.node (statePath (ids actor)) = node :=
  stable_of_guarantee fun _ _ _ apart moved holds => (moved.record actor apart.symm).trans holds

theorem stable_temp (node : Option (Node Dir Name Content)) :
    Stable ((discipline key ids).rely actor) fun state =>
      state.node (tempSiblingPath (statePath (ids actor))) = node :=
  stable_of_guarantee fun _ _ _ apart moved holds => (moved.temp actor apart.symm).trans holds

theorem holding_within (within : operation.Within (Harmless ids actor))
    (holding : Holding key actor before) :
    Holding key actor (host.exec actor choice operation before).2 := by
  refine ⟨?_, fun requestId => ?_⟩
  · exact (Disk.exec_locks (within.locks lockPath)).trans holding.1
  have same : (host.exec actor choice operation before).2.node (statePath requestId) =
      before.node (statePath requestId) :=
    Disk.exec_node fun touched => not_harmless_statePath requestId (within.nodes _ touched)
  rintro ⟨inode, record, found, stored⟩
  exact holding.2 requestId ⟨inode, record, same ▸ found, stored⟩

variable (distinct : Function.Injective ids)
include distinct

theorem safe_holding {program : Action α}
    (every : program.Every fun operation => operation.Within (Harmless ids actor))
    (holding : Holding key actor state) :
    Safe host (discipline key ids) actor (fun _ => Holding key actor) program state :=
  Safe.of_every stable_holding
    (fun _ _ _ within asserted _ => ⟨guarantee_within distinct within, holding_within within asserted⟩)
    every holding

theorem safe_sole {program : Action α}
    (every : program.Every fun operation => operation.Within (Harmless ids actor))
    (sole : Sole key (ids actor) state) :
    Safe host (discipline key ids) actor (fun _ => Sole key (ids actor)) program state :=
  Safe.of_every stable_sole
    (fun _ _ _ within asserted _ =>
      ⟨guarantee_within distinct within, asserted.guaranteed (guarantee_within distinct within)⟩)
    every sole

/-- Creating the record under the lock makes it the only one. -/
theorem safe_create (stored : record.idempotencyKey = some key)
    (holding : Holding key actor state) :
    Safe host (discipline key ids) actor
      (Outcomes (fun _ => Sole key (ids actor)) fun _ _ => True)
      (record.create (statePath (ids actor))) state := by
  refine Safe.bind ?_
  refine safe_call_bind _ stable_holding holding fun now choice asserted _ => ?_
  show Guarantee key ids actor now (host.exec actor choice _ now).2 ∧ _
  refine machine_openNew (fun error => ⟨.refl now, by cases error <;> trivial⟩) ?_
  -- Between creating the file and writing it, the file is empty and the lock still ours.
  have holding := asserted.createFile (statePath (ids actor))
  have opened : Guarantee key ids actor now (now.createFile (statePath (ids actor))).2 :=
    .of_own distinct (fun path apart _ => by simp [apart]) rfl
      (fun recorded => absurd recorded (asserted.2 _)) fun recorded => absurd recorded (holding.2 _)
  refine ⟨opened, ?_⟩
  refine safe_call _ (stable_holding.and (stable_record (some (.file now.nextInode none))))
    ⟨holding, by simp⟩ fun now choice asserted _ => ?_
  show Guarantee key ids actor now (host.exec actor choice _ now).2 ∧ _
  refine machine_write ⟨.refl now, trivial⟩ ⟨?_, ?_⟩
  · exact .of_own distinct (fun path apart _ => Disk.node_fill_of_ne apart)
      Disk.locks_fill (fun recorded => absurd recorded (asserted.1.2 _))
      fun _ _ => asserted.1
  · exact asserted.1.fill asserted.2 stored

omit distinct in
theorem safe_unlock {rest : Unit → Action α} {post : α → System ι → Prop}
    (assertion : System ι → Prop) (stable : Stable ((discipline key ids).rely actor) assertion)
    (holds : assertion state) (continues : ∀ now, assertion now →
      Safe host (discipline key ids) actor post (rest ()) (now.unlock actor lockPath)) :
    Safe host (discipline key ids) actor post (unlock lockPath >>= rest) state := by
  refine safe_call_bind assertion stable holds fun now choice asserted _ => ?_
  refine ⟨guaranteed_keeps machine_unlock guarantee_unlock, ?_⟩
  rw [machine_unlock]
  exact continues now asserted

def Granted (key : IdempotencyKey) (requestId : RequestId) (result : Except Error Outcome)
    (state : System ι) : Prop :=
  ∀ record, result = .ok (.proceed record) →
    Sole key requestId state ∧ record.idempotencyKey = some key

omit [DecidableEq ι] distinct in
theorem granted_replay {requestId existing : RequestId} (state : System ι) :
    Granted key requestId (.ok (.replay existing)) state :=
  fun _ impossible => by simp at impossible

omit [DecidableEq ι] distinct in
theorem granted_error (error : Error) (state : System ι) :
    Granted key requestId (.error error) state :=
  fun _ impossible => by contradiction

omit distinct in
theorem safe_release (error : Error) (state : System ι) :
    Safe host (discipline key ids) actor (Granted key (ids actor)) (release error) state :=
  safe_unlock _ (stable_true _) trivial fun _ _ => granted_error error _

theorem safe_register {operation : Operation} (holding : Holding key actor state) :
    Safe host (discipline key ids) actor (Granted key (ids actor))
      (register (ids actor) (some key) operation) state := by
  refine Safe.bind ((safe_holding distinct (Program.every_call.mpr within_ask) holding).mono
    fun now state holding => ?_)
  refine Safe.bind ((safe_create distinct rfl holding).mono fun created state sole => ?_)
  cases created with
  | error error => exact safe_release _ state
  | ok _ =>
  refine Safe.bind ((safe_sole distinct ?_ sole).mono fun record state sole => ?_)
  · exact Program.every_call_bind within_ask fun _ => trivial
  refine Safe.bind ((safe_sole distinct ?_ sole).mono fun logged state sole => ?_)
  · refine Program.every_call_bind ⟨fun _ => False.elim, fun _ => id⟩ fun answer => ?_
    split <;> trivial
  cases logged with
  | error error => exact safe_release _ state
  | ok _ =>
    intro record returned
    cases returned
    exact ⟨sole, rfl⟩

theorem acquireContract :
    Lock.Contract (discipline key ids) actor lockPath (fun _ => True) (Holding key actor)
      fun _ => True where
  stableBefore := stable_true _
  stableHeld := stable_holding
  quietBefore _ _ _ diagnosing _ _ :=
    ⟨guarantee_within distinct (harmless_lockPath ids diagnosing), trivial⟩
  quietHeld _ _ _ diagnosing holding _ :=
    ⟨guarantee_within distinct (harmless_lockPath ids diagnosing),
      holding_within (harmless_lockPath ids diagnosing) holding⟩
  refused _ state _ _ _ failed := guaranteed_keeps failed (.refl state)
  granted choice state _ orderly free healthy taken :=
    ⟨guaranteed_keeps taken (guarantee_lock free), Disk.locks_grant_self,
      not_recorded (orderly.2 (by simp [takesLock, free, healthy]))⟩
  released choice state _ _ :=
    ⟨guaranteed_keeps machine_unlock guarantee_unlock,
      trivial⟩
  gaveUp _ _ := trivial

theorem safe_enter {operation : Operation} {reclaimKey : Option IdempotencyKey} (state : System ι) :
    Safe host (discipline key ids) actor (Granted key (ids actor))
      (enter (ids actor) (some key) operation reclaimKey) state := by
  refine Safe.bind ((Lock.safe_acquire (acquireContract distinct) trivial).mono
    fun acquired state holding => ?_)
  cases acquired with
  | error error => exact granted_error _ state
  | ok _ =>
  cases reclaimKey with
  | none => exact safe_register distinct holding
  | some reclaimed =>
  have every : (Idempotency.reclaim reclaimed (ids actor)).Every
      fun operation => operation.Within (Harmless ids actor) :=
    Idempotency.reclaim_every.mono
      fun operation reclaiming => reclaiming.within.mono fun path inside => .inl (by simp [inside])
  refine Safe.bind ((safe_holding distinct every holding).mono fun done state holding => ?_)
  cases done with
  | error error => exact safe_release _ state
  | ok _ => exact safe_register distinct holding

theorem safe_unheld {program : Action α} (every : program.Every fun operation =>
      operation.Within (Harmless ids actor) ∨ Prune.Sweeping operation) (state : System ι) :
    Safe host (discipline key ids) actor (fun _ _ => True) program state := by
  refine Safe.of_every (stable_true _) (fun operation choice now allowed _ orderly => ?_) every trivial
  refine ⟨?_, trivial⟩
  rcases allowed with within | sweeping
  · exact guarantee_within distinct within
  · exact guarantee_sweep distinct sweeping orderly.1

theorem safe_run {operation : Operation} (state : System ι) :
    Safe host (discipline key ids) actor (Granted key (ids actor))
      (run (ids actor) (some key) operation) state := by
  refine Safe.bind ((safe_unheld distinct ?_ state).mono fun _ state _ => ?_)
  · exact Prune.pruneCompleted_every.mono fun _ => .inr
  refine Safe.bind ((safe_unheld distinct ?_ state).mono fun resolved state _ => ?_)
  · exact resolve_every.mono fun operation within => .inl (within.mono fun _ inside => .inl (by simp [inside]))
  rcases resolved with error | (_ | reclaimed | existing)
  · exact granted_error _ state
  · exact safe_enter distinct state
  · exact safe_enter distinct state
  · exact granted_replay state

section

variable (stored : record.idempotencyKey = some key)
include stored

theorem replaceContract :
    ReplaceContract (discipline key ids) actor (statePath (ids actor)) (.record record)
      (Sole key (ids actor)) (Sole key (ids actor)) where
  stable := stable_sole
  stableTemp := stable_temp
  quiet _ _ _ preparing sole _ :=
    have moved := guarantee_within distinct (preparing.within.mono fun _ => .inr)
    ⟨moved, sole.guaranteed moved⟩
  refused _ state _ _ _ failed := guaranteed_keeps failed (.refl state)
  replaced choice state inode sole _ renamed := by
    have moved : Guarantee key ids actor state
        ((state.drop (tempSiblingPath (statePath (ids actor)))).put (statePath (ids actor))
          (.file inode (some (.record record)))) :=
      .of_own distinct (fun path apart temp => by simp [apart, temp]) rfl
        (fun _ => ⟨inode, record, by simp, stored⟩) fun _ unrecorded => absurd sole.1 unrecorded
    exact ⟨guaranteed_keeps renamed moved, sole.guaranteed moved⟩

theorem safe_save (sole : Sole key (ids actor) state) :
    Safe host (discipline key ids) actor (fun _ => Sole key (ids actor))
      (record.save (statePath (ids actor))) state := by
  refine Safe.bind ((safe_writeAtomic (replaceContract distinct stored) sole).mono
    fun written state sole => ?_)
  cases written <;> exact sole

theorem safe_conclude {ending : Ending} (sole : Sole key (ids actor) state) :
    Safe host (discipline key ids) actor (fun _ => Sole key (ids actor))
      (conclude ending (ids actor) record) state := by
  have unlocked : ∀ now : System ι, Sole key (ids actor) now →
      Sole key (ids actor) (now.unlock actor lockPath) :=
    fun now sole => sole.guaranteed (guarantee_unlock : Guarantee key ids actor now _)
  refine Safe.bind ((safe_sole distinct (Program.every_call.mpr within_ask) sole).mono
    fun now state sole => ?_)
  have marked := (ending.mark_identity record now).1.trans stored
  split
  · refine safe_unlock _ stable_sole sole fun now sole => ?_
    refine Safe.bind ((safe_save distinct marked (unlocked now sole)).mono fun _ state sole => ?_)
    exact sole
  · refine Safe.bind ((safe_save distinct marked sole).mono fun _ state sole => ?_)
    exact safe_unlock _ stable_sole sole fun now sole => unlocked now sole

end

theorem safe_program {attempt : Attempt} (owner : attempt.requestId = ids actor)
    (keyed : attempt.idempotencyKey = some key) (state : System ι) :
    Safe host (discipline key ids) actor (Granted key (ids actor)) attempt.program state := by
  unfold Attempt.program
  rw [owner, keyed]
  refine Safe.bind ((safe_run distinct state).mono fun outcome state granted => ?_)
  rcases outcome with error | (record | existing)
  · exact granted
  · obtain ⟨sole, stored⟩ := granted record rfl
    refine Safe.bind ((safe_conclude distinct stored sole).mono fun _ state sole => ?_)
    intro _ returned
    cases returned
    exact ⟨sole, stored⟩
  · exact granted

end OpsEngine.Admission

namespace OpsEngine

open Effect Files Preflight Admission

theorem orderly_faulty {key : IdempotencyKey} (actor : ι) (operation : SysOp) (state : System ι) :
    Orderly key actor faultyChoice operation state := by
  cases operation <;> simp [Orderly, expires, takesLock, faultyChoice]

variable {ι : Type} [DecidableEq ι]

/-- `run` has returned `Proceed` to the attempt, which may still have to record
its end and drop the lock. -/
def AttemptPool.Proceeded (pool : AttemptPool ι) (actor : ι) : Prop :=
  ∃ program, pool.threads actor = some program ∧
    program.Returns fun result => ∃ record, result = .ok (.proceed record)

/-- In every run in which nothing expires and the mutation lock is only taken
while no transaction record is stored under the key, at most one of the
attempts with that key is admitted. -/
theorem admitted_at_most_once (key : IdempotencyKey) (attempts : ι → Attempt)
    (keyed : ∀ actor, (attempts actor).idempotencyKey = some key)
    (distinct : Function.Injective fun actor => (attempts actor).requestId)
    (state : System ι) (events : List (Event ι SysChoice))
    (orderly : (AttemptPool.start state attempts).Respects host (Orderly key) events) :
    {actor | AttemptPool.Proceeded
      ((AttemptPool.start state attempts).run host events) actor}.Subsingleton := by
  intro first firstProceeded second secondProceeded
  let ids := fun actor => (attempts actor).requestId
  obtain ⟨running, settled⟩ : (AttemptPool.start state attempts).Running host (discipline key ids)
      (fun actor => Granted key (ids actor)) ∧
      (AttemptPool.start state attempts).Settled fun actor => Granted key (ids actor) := by
    refine Pool.safe_start fun actor program started => ?_
    rw [← Option.some.inj started]
    exact safe_program distinct rfl (keyed actor) state
  have stable : ∀ actor result, Stable ((discipline key ids).rely actor)
      (Granted key (ids actor) result) :=
    fun actor result => stable_of_guarantee fun _ _ _ _ moved granted record returned =>
      ⟨(granted record returned).1.guaranteed moved, (granted record returned).2⟩
  have always : ∀ actor operation state,
      (discipline key ids).admits actor faultyChoice operation state :=
    fun actor operation state => orderly_faulty actor operation state
  -- Bring both attempts to their end: each then has the only record under the key.
  by_contra apart
  obtain ⟨program, found, returns⟩ := firstProceeded
  obtain ⟨later, running, settled, ⟨_, firstDone, record, rfl⟩, others⟩ :=
    Pool.exists_settled sound stable (Pool.running_run sound running orderly)
      (Pool.settled_run sound stable running settled orderly) found returns (always first)
  obtain ⟨program, found, returns⟩ := secondProceeded
  obtain ⟨last, running, settled, ⟨_, secondDone, record, rfl⟩, others⟩ :=
    Pool.exists_settled sound stable running settled
      ((others second (Ne.symm apart)).trans found) returns (always second)
  have firstSole := (settled first _ ((others first apart).trans firstDone) _ rfl).1
  have secondSole := (settled second _ secondDone _ rfl).1
  exact apart (distinct (secondSole.2 _ firstSole.1))

def AttemptPool.proceeded (pool : AttemptPool ι) (actor : ι) : Bool :=
  match pool.threads actor with
  | some (.done (.ok (.proceed _))) => true
  | _ => false

omit [DecidableEq ι] in
theorem AttemptPool.proceeded_sound {pool : AttemptPool ι} {actor : ι}
    (proceeded : pool.proceeded actor = true) : pool.Proceeded actor := by
  unfold AttemptPool.proceeded at proceeded
  split at proceeded
  · rename_i record found
    exact ⟨_, found, record, rfl⟩
  · contradiction

theorem rivals_distinct : Function.Injective fun actor => (rivals actor).requestId :=
  Bool.injective_iff.mpr (by decide)

theorem admitted_in_turn :
    {actor | AttemptPool.Proceeded ((AttemptPool.start Disk.empty rivals).run host
      (steps false 40 ++ steps true 40)) actor} = {false} :=
  (admitted_at_most_once sampleKey rivals (fun _ => rfl) rivals_distinct Disk.empty _
    (by decide +kernel)).eq_singleton_of_mem (AttemptPool.proceeded_sound (by decide +kernel))

/-- The first attempt claims the key and is overtaken before it takes the lock:
the second finds the claim without a record, takes the lock, and has recorded
its end and dropped the lock when the first goes on and takes it too. -/
theorem admitted_twice :
    (∀ actor, (rivals actor).idempotencyKey = some sampleKey) ∧
    (Function.Injective fun actor => (rivals actor).requestId) ∧
    ∃ events : List (Event Bool SysChoice),
      (∀ event ∈ events, ∃ actor choice, event = .step actor choice) ∧
      (AttemptPool.start Disk.empty rivals).Respects host NothingExpires events ∧
      AttemptPool.Proceeded ((AttemptPool.start Disk.empty rivals).run host events) false ∧
      AttemptPool.Proceeded ((AttemptPool.start Disk.empty rivals).run host events) true := by
  refine ⟨fun _ => rfl, rivals_distinct, steps false 8 ++ steps true 40 ++ steps false 40,
    ?_, by decide +kernel, AttemptPool.proceeded_sound (by decide +kernel),
    AttemptPool.proceeded_sound (by decide +kernel)⟩
  intro event member
  simp only [steps, List.mem_append, List.mem_replicate] at member
  rcases member with (⟨_, rfl⟩ | ⟨_, rfl⟩) | ⟨_, rfl⟩ <;> exact ⟨_, _, rfl⟩

end OpsEngine
