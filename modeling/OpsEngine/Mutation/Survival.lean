import OpsEngine.Mutation.Attempt

namespace OpsEngine.Survival

open Effect Files Preflight
open Idempotency (indexPath indexRecord)

/-! # What a killed preflight run leaves to the next one

A run is killed between two of its system calls.  All it can leave behind is a
file it created and had not written: an empty claim, or an empty transaction
record that the claim points at.
-/

variable {ι : Type} {key : IdempotencyKey} {owner : RequestId} {state : System ι}
  {mine : RequestId → Prop}

attribute [local simp] lockPath statePath indexPath tempSiblingPath

def IsRecord (node : Node Dir Name Content) : Prop :=
  ∃ inode record, node = .file inode (some (.record record)) ∧
    record.schemaVersion = stateSchemaVersion

/-- A complete claim of `key` by one of the requests in question. -/
def IsClaim (key : IdempotencyKey) (mine : RequestId → Prop) (node : Node Dir Name Content) : Prop :=
  ∃ inode record, node = .file inode (some (.claim record)) ∧
    record.schemaVersion = indexSchemaVersion ∧ record.idempotencyKey = key ∧ mine record.requestId

/-- What may stand at a path for `key` to be usable. -/
structure Good (key : IdempotencyKey) (mine : RequestId → Prop) (path : FilePath)
    (node : Node Dir Name Content) : Prop where
  record : ∀ requestId, mine requestId → path = statePath requestId → IsRecord node
  claim : path = indexPath key → IsClaim key mine node
  regular : path = tempSiblingPath (indexPath key) ∨ path = lockPath → node.isFile = true

/-- The records of the requests in question are completely written, the key's bucket is
free or completely written for this key by one of them, and the key's temp file and the
lock file are regular files if they exist. -/
def Usable (key : IdempotencyKey) (mine : RequestId → Prop) (state : System ι) : Prop :=
  ∀ path node, state.node path = some node → Good key mine path node

theorem Usable.update (usable : Usable key mine state) {after : System ι} (path : FilePath)
    (frame : ∀ other, other ≠ path → after.node other = state.node other)
    (good : ∀ node, after.node path = some node → Good key mine path node) : Usable key mine after := by
  intro other node stored
  by_cases same : other = path
  · subst same
    exact good node stored
  · rw [frame other same] at stored
    exact usable other node stored

theorem Usable.drop (usable : Usable key mine state) (path : FilePath) :
    Usable key mine (state.drop path) := by
  apply usable.update path
  · intro other apart
    rw [Disk.node_drop, if_neg apart]
  · intro node found
    simp at found

theorem Usable.of_nodes (usable : Usable key mine state) {after : System ι}
    (same : ∀ path, after.node path = state.node path) : Usable key mine after := by
  intro path node stored
  exact usable path node ((same path).symm.trans stored)

/-- A path on which only being a regular file matters. -/
def Plain (key : IdempotencyKey) (path : FilePath) : Prop :=
  (∀ requestId, path ≠ statePath requestId) ∧ path ≠ indexPath key

theorem Good.plain {path : FilePath} {node : Node Dir Name Content} (plain : Plain key path)
    (isFile : node.isFile = true) : Good key mine path node :=
  ⟨fun requestId _ same => absurd same (plain.1 requestId), fun same => absurd same plain.2,
    fun _ => isFile⟩

theorem Good.claimed (inode : Nat) (own : mine owner) (now : Nat) :
    Good key mine (indexPath key) (.file inode (some (.claim (indexRecord key owner now)))) := by
  refine ⟨fun other _ same => ?_, fun _ => ⟨inode, _, rfl, rfl, rfl, own⟩, fun _ => rfl⟩
  simp at same

theorem Good.recorded (inode : Nat) {record : TransactionState}
    (current : record.schemaVersion = stateSchemaVersion) :
    Good key mine (statePath owner) (.file inode (some (.record record))) := by
  refine ⟨fun _ _ _ => ⟨inode, record, rfl, current⟩, fun same => ?_, fun _ => rfl⟩
  simp at same

def Claims (key : IdempotencyKey) (owner : RequestId) (state : System ι) : Prop :=
  ∃ inode record, state.node (indexPath key) = some (.file inode (some (.claim record))) ∧
    record.schemaVersion = indexSchemaVersion ∧ record.idempotencyKey = key ∧
    record.requestId = owner

/-- A claim created and not written, or a claimed record created and not
written. -/
def Stuck (key : IdempotencyKey) (owner : RequestId) (state : System ι) : Prop :=
  (∃ inode, state.node (indexPath key) = some (.file inode none)) ∨
    Claims key owner state ∧ ∃ inode, state.node (statePath owner) = some (.file inode none)

/-- About to write the content of a file just created. -/
def Torn (key : IdempotencyKey) (owner : RequestId) : SysOp → Prop
  | .write _ path _ => path = indexPath key ∨ path = statePath owner
  | _ => False

instance (key : IdempotencyKey) (owner : RequestId) : DecidablePred (Torn key owner) := by
  intro operation
  unfold Torn
  split <;> infer_instance

/-- What a run of `owner` leaves when it is killed before `operation`. -/
def Crash (key : IdempotencyKey) (mine : RequestId → Prop) (owner : RequestId) (operation : SysOp)
    (state : System ι) :
    Prop :=
  (Torn key owner operation → Stuck key owner state) ∧
    (¬ Torn key owner operation → Usable key mine state)

theorem Usable.crash (usable : Usable key mine state) {operation : SysOp}
    (calm : ¬ Torn key owner operation) : Crash key mine owner operation state :=
  ⟨fun torn => absurd torn calm, fun _ => usable⟩

/-- The lock is free and the request has no record yet. -/
structure Ready (owner : RequestId) (state : System ι) : Prop where
  free : state.locks lockPath = none
  spare : state.node (statePath owner) = none

variable [DecidableEq ι] {actor : ι} {choice : SysChoice} {operation : SysOp}

/-- A healthy run of `owner`, with what it leaves wherever it is killed. -/
abbrev killable (key : IdempotencyKey) (mine : RequestId → Prop) (owner : RequestId) :
    Discipline SysOp (System ι) ι SysChoice :=
  .alone Healthy (Crash key mine owner)

theorem Usable.unchanged (usable : Usable key mine state) (within : operation.Within fun _ => False) :
    Usable key mine (host.exec actor choice operation state).2 :=
  usable.of_nodes fun path => Disk.exec_node fun touched => within.nodes path touched

theorem Ready.unchanged (ready : Ready owner state) (within : operation.Within fun _ => False) :
    Ready owner (host.exec actor choice operation state).2 :=
  ⟨(Disk.exec_locks (within.locks lockPath)).trans ready.free,
    (Disk.exec_node fun touched => within.nodes _ touched).trans ready.spare⟩

theorem sweep_usable (sweeping : Prune.Sweeping operation) (usable : Usable key mine state) :
    Usable key mine (host.exec actor choice operation state).2 := by
  cases sweeping with
  | look looking => exact usable.unchanged looking.within
  | remove path swept =>
    exact machine_remove (fun _ => usable) fun _ _ _ => usable.drop path

theorem sweep_ready (sweeping : Prune.Sweeping operation) (ready : Ready owner state) :
    Ready owner (host.exec actor choice operation state).2 := by
  cases sweeping with
  | look looking => exact ready.unchanged looking.within
  | remove path swept =>
  refine machine_remove (fun _ => ready) fun _ _ _ => ⟨ready.free, ?_⟩
  rw [Disk.node_drop]
  split
  · rfl
  · exact ready.spare

/-- A usable key before the lock is taken; `ready` says what the caller knows
besides. -/
structure Prepared (key : IdempotencyKey) (mine : RequestId → Prop) (owner : RequestId)
    (ready : Prop) (state : System ι) : Prop where
  usable : Usable key mine state
  ready : ready → Ready owner state

variable {ready : Prop}

section

variable (prepared : Prepared key mine owner ready state)
include prepared

theorem safe_prune {retainFor : Nat} :
    Safe host (killable key mine owner) actor (fun _ => Prepared key mine owner ready)
      (Prune.pruneCompleted retainFor) state := by
  apply Safe.of_every (stable_alone _) _ Prune.pruneCompleted_every prepared
  intro operation choice now sweeping prepared _
  have calm : ¬ Torn key owner operation := by
    cases sweeping with
    | look looking => cases looking <;> exact id
    | remove => exact id
  exact ⟨prepared.usable.crash calm, sweep_usable sweeping prepared.usable,
    fun given => sweep_ready sweeping (prepared.ready given)⟩

theorem safe_claim (own : mine owner) :
    Safe host (killable key mine owner) actor
      (fun result after => Prepared key mine owner ready after ∧ ∃ resolution, result = .ok resolution ∧
        (resolution = .claimed → Claims key owner after) ∧
        ∀ existing, resolution = .alreadyClaimed existing → mine existing)
      (Idempotency.claim key owner) state := by
  have usable := prepared.usable
  refine alone_exec_bind (usable.crash id) healthy_createDirAll ?_
  apply alone_call_bind (usable.crash id)
  intro clock _
  rw [machine_ask]
  apply Safe.bind
  apply alone_call_bind (usable.crash id)
  intro choice healthy
  cases found : state.node (indexPath key) with
  | none =>
    rw [healthy_openNew healthy found]
    have opened : (state.createFile (indexPath key)).2.node (indexPath key) =
        some (.file state.nextInode none) := by simp
    apply alone_call
    · exact ⟨fun _ => .inl ⟨_, opened⟩, fun calm => absurd (.inl rfl) calm⟩
    intro choice healthy
    rw [healthy_write healthy]
    have written := Disk.node_fill_opened opened
      (some (.claim (indexRecord key owner (clock.answer .now))))
    have frame : ∀ other, other ≠ indexPath key →
        ((state.createFile (indexPath key)).2.fill state.nextInode (indexPath key)
          (some (.claim (indexRecord key owner (clock.answer .now))))).node other =
        state.node other := by
      intro other apart
      rw [Disk.node_fill_of_ne apart, Disk.node_createFile, if_neg apart]
    refine ⟨⟨usable.update (indexPath key) frame ?_, fun given => ⟨?_, ?_⟩⟩, .claimed, rfl, ?_⟩
    · intro node stored
      rw [← Option.some.inj (written.symm.trans stored)]
      exact .claimed _ own _
    · rw [Disk.locks_fill]
      exact (prepared.ready given).free
    · rw [frame _ (by simp)]
      exact (prepared.ready given).spare
    · exact ⟨fun _ => ⟨_, _, written, rfl, rfl, rfl⟩, nofun⟩
  | some node =>
    rw [healthy_openNew_exists healthy found]
    obtain ⟨inode, record, rfl, current, same, known⟩ := (usable _ node found).claim rfl
    refine alone_exec_bind (usable.crash id)
      (healthy_read · found) ?_
    refine ⟨prepared, .alreadyClaimed record.requestId, ?_, by simp, ?_⟩
    · simp [Idempotency.resolution, current, same]
    · rintro _ ⟨⟩
      exact known

theorem safe_resolve (own : mine owner) :
    Safe host (killable key mine owner) actor
      (fun result after => Prepared key mine owner ready after ∧ ∃ admission, result = .ok admission ∧
        (admission = .fresh → Claims key owner after))
      (resolve owner (some key)) state := by
  apply (safe_claim prepared own).seq
  rintro claimed state ⟨prepared, resolution, rfl, claims, known⟩
  cases resolution with
  | claimed => exact ⟨prepared, .fresh, rfl, fun _ => claims rfl⟩
  | alreadyClaimed existing =>
  apply Safe.bind
  apply alone_call_bind (prepared.usable.crash id)
  intro choice healthy
  cases found : state.node (statePath existing) with
  | none =>
    rw [healthy_read_absent healthy found]
    exact ⟨prepared, .orphaned key, rfl, by simp⟩
  | some node =>
    obtain ⟨inode, record, rfl, current⟩ :=
      (prepared.usable _ node found).record existing (known existing rfl) rfl
    rw [healthy_read healthy found]
    simp only [TransactionState.decode, current, if_true]
    exact ⟨prepared, .replay existing, rfl, by simp⟩

end

/-- Usable, and the same but for the lock file. -/
def Locking (key : IdempotencyKey) (mine : RequestId → Prop) (state after : System ι) : Prop :=
  Usable key mine after ∧ ∀ other, other ≠ lockPath → after.node other = state.node other

theorem acquireContract (state : System ι) :
    Lock.Contract (killable key mine owner) actor lockPath (Locking key mine state)
      (Locking key mine state) (Locking key mine state) := by
  have quiet : ∀ (operation : SysOp) (choice : SysChoice) (now : System ι),
      Lock.Diagnosing lockPath operation → Locking key mine state now →
      Crash key mine owner operation now ∧
        Locking key mine state (host.exec actor choice operation now).2 := by
    rintro operation choice now diagnosing ⟨usable, same⟩
    have frame : ∀ other, other ≠ lockPath →
        (host.exec actor choice operation now).2.node other = now.node other :=
      fun other apart => Disk.exec_node fun touched => apart (diagnosing.within.nodes _ touched)
    have regular : now.Regular lockPath := fun node found => (usable _ node found).regular (.inr rfl)
    refine ⟨usable.crash ?_, usable.update lockPath frame ?_, fun other apart => ?_⟩
    · cases diagnosing with
      | write => simp [Torn]
      | openOrCreate | read | now | truncate | sync => exact id
    · exact fun node found => .plain (by simp [Plain]) (diagnosing.regular regular node found)
    · exact (frame other apart).trans (same other apart)
  constructor
  · exact stable_alone _
  · exact stable_alone _
  · exact fun operation choice now diagnosing holds _ => quiet operation choice now diagnosing holds
  · exact fun operation choice now diagnosing holds _ => quiet operation choice now diagnosing holds
  · exact fun _ now _ holds _ _ => holds.1.crash id
  · exact fun _ now holds _ _ _ _ => ⟨holds.1.crash id, holds.1.of_nodes fun _ => rfl, holds.2⟩
  · rintro _ now ⟨usable, same⟩ _
    refine ⟨usable.crash id, usable.of_nodes fun _ => Disk.unlock_node, fun other apart => ?_⟩
    rw [Disk.unlock_node]
    exact same other apart
  · exact fun now holds => holds

theorem safe_acquire (usable : Usable key mine state) (given : ready → state.locks lockPath = none) :
    Safe host (killable key mine owner) actor
      (fun result after => Locking key mine state after ∧ (ready → result = .ok ()))
      (Lock.acquire lockPath owner) state := by
  have kept : Safe host (killable key mine owner) actor _ (Lock.acquire lockPath owner) state :=
    Lock.safe_acquire (acquireContract state) ⟨usable, fun _ _ => rfl⟩
  by_cases known : ready
  · have regular : state.Regular lockPath := fun node found => (usable _ node found).regular (.inr rfl)
    apply (kept.and_alone (Lock.healthy_acquire regular (given known))).mono
    rintro result after ⟨holds, succeeded⟩
    cases result with
    | ok => exact ⟨holds, fun _ => succeeded⟩
    | error => contradiction
  · apply kept.mono
    intro result after holds
    refine ⟨?_, fun impossible => absurd impossible known⟩
    cases result <;> exact holds

theorem reclaimContract (own : mine owner) (now : Nat) (record : Option (Node Dir Name Content)) :
    ReplaceContract (killable key mine owner) actor (indexPath key)
      (.claim (indexRecord key owner now))
      (fun after : System ι => Usable key mine after ∧ after.node (statePath owner) = record)
      (fun after => Usable key mine after ∧ after.node (statePath owner) = record ∧
        Claims key owner after) where
  stable := stable_alone _
  stableTemp _ := stable_alone _
  quiet operation choice state preparing holds _ := by
    obtain ⟨usable, spare⟩ := holds
    have frame : ∀ other, other ≠ tempSiblingPath (indexPath key) →
        (host.exec actor choice operation state).2.node other = state.node other :=
      fun other apart => Disk.exec_node fun touched => apart (preparing.within.nodes _ touched)
    have regular : state.Regular (tempSiblingPath (indexPath key)) :=
      fun node found => (usable _ node found).regular (.inl rfl)
    refine ⟨usable.crash ?_, usable.update _ frame ?_, ?_⟩
    · cases preparing with
      | write => simp [Torn]
      | openTruncate | sync => exact id
    · exact fun node found => .plain (by simp [Plain]) (preparing.regular regular node found)
    · exact (frame _ (by simp)).trans spare
  refused _ state _ holds _ _ := holds.1.crash id
  replaced _ state inode holds _ _ := by
    obtain ⟨usable, spare⟩ := holds
    refine ⟨usable.crash id, ?_, ?_, ⟨inode, indexRecord key owner now, by simp, rfl, rfl, rfl⟩⟩
    · refine (usable.drop (tempSiblingPath (indexPath key))).update (indexPath key)
        (fun other apart => by rw [Disk.node_put, if_neg apart]) ?_
      intro node found
      rw [Disk.node_put, if_pos rfl] at found
      rw [← Option.some.inj found]
      exact .claimed inode own now
    · simpa [statePath, indexPath, tempSiblingPath] using spare

theorem safe_reclaim (own : mine owner) (usable : Usable key mine state) :
    Safe host (killable key mine owner) actor
      (fun result after => result = .ok () ∧ Usable key mine after ∧
        after.node (statePath owner) = state.node (statePath owner) ∧ Claims key owner after)
      (Idempotency.reclaim key owner) state := by
  have regular : state.Regular (tempSiblingPath (indexPath key)) :=
    fun node found => (usable _ node found).regular (.inl rfl)
  have free : state.node (indexPath key) ≠ some .directory := by
    intro found
    obtain ⟨inode, record, impossible, _⟩ := (usable _ _ found).claim rfl
    contradiction
  apply alone_call_bind (usable.crash id)
  intro clock _
  rw [machine_ask]
  apply ((safe_writeAtomic (reclaimContract own _ _) ⟨usable, rfl⟩).and_alone
    (healthy_writeAtomic regular free)).seq
  rintro result after ⟨holds, rfl⟩
  obtain ⟨usable, spare, claims⟩ := holds
  exact ⟨rfl, usable, spare, claims⟩

theorem safe_release (usable : Usable key mine state) (error : Error) :
    Safe host (killable key mine owner) actor
      (fun result after => Usable key mine after ∧ result = .error error) (release error) state := by
  apply alone_call_bind (usable.crash id)
  intro choice _
  rw [machine_unlock]
  exact ⟨usable.of_nodes fun _ => Disk.unlock_node, rfl⟩

/-- The key is usable, and the run succeeded if it was `ready`. -/
def Served (key : IdempotencyKey) (mine : RequestId → Prop) (ready : Prop)
    (result : Except Error Outcome) (after : System ι) : Prop :=
  Usable key mine after ∧ (ready → ∃ outcome, result = .ok outcome)

/-- Under the lock and with the claim in place, the record is the last thing
that can be left half written. -/
theorem safe_register {operation : Operation} (usable : Usable key mine state)
    (claims : Claims key owner state) (given : ready → state.node (statePath owner) = none) :
    Safe host (killable key mine owner) actor (Served key mine ready)
      (register owner (some key) operation) state := by
  apply alone_call_bind (usable.crash id)
  intro clock _
  rw [machine_ask]
  apply Safe.bind
  apply Safe.bind
  apply alone_call_bind (usable.crash id)
  intro choice healthy
  cases found : state.node (statePath owner) with
  | some node =>
    rw [healthy_openNew_exists healthy found]
    apply (safe_release usable _).mono
    rintro result after ⟨usable, _⟩
    refine ⟨usable, fun known => ?_⟩
    rw [given known] at found
    contradiction
  | none =>
  rw [healthy_openNew healthy found]
  have opened : (state.createFile (statePath owner)).2.node (statePath owner) =
      some (.file state.nextInode none) := by simp
  have claimed : Claims key owner (state.createFile (statePath owner)).2 := by
    obtain ⟨inode, record, stored, rest⟩ := claims
    exact ⟨inode, record, by simpa [statePath, indexPath] using stored, rest⟩
  apply alone_call
  · exact ⟨fun _ => .inr ⟨claimed, _, opened⟩, fun calm => absurd (.inr rfl) calm⟩
  intro choice healthy
  rw [healthy_write healthy]
  have written := Disk.node_fill_opened opened
    (some (.record (TransactionState.start owner (some key) operation (clock.answer .now))))
  have recorded : Usable key mine ((state.createFile (statePath owner)).2.fill state.nextInode
      (statePath owner) (some (.record
        (TransactionState.start owner (some key) operation (clock.answer .now))))) := by
    refine usable.update (statePath owner) (fun other apart => ?_) fun node stored => ?_
    · rw [Disk.node_fill_of_ne apart, Disk.node_createFile, if_neg apart]
    · rw [← Option.some.inj (written.symm.trans stored)]
      exact .recorded _ rfl
  apply Safe.bind
  apply alone_call_bind (recorded.crash id)
  intro choice _
  rw [machine_ask]
  apply Safe.bind
  refine alone_exec_bind (recorded.crash id) healthy_append ?_
  exact ⟨recorded.of_nodes fun _ => rfl, fun _ => ⟨_, rfl⟩⟩

theorem safe_enter {operation : Operation} {reclaimKey : Option IdempotencyKey}
    (known : mine owner) (own : reclaimKey = none ∧ Claims key owner state ∨ reclaimKey = some key)
    (prepared : Prepared key mine owner ready state) :
    Safe host (killable key mine owner) actor (Served key mine ready)
      (enter owner (some key) operation reclaimKey) state := by
  apply (safe_acquire prepared.usable fun known => (prepared.ready known).free).seq
  rintro acquired after ⟨⟨usable, same⟩, granted⟩
  cases acquired with
  | error error => exact ⟨usable, fun known => by simp at granted; exact absurd known granted⟩
  | ok _ =>
  have spare : ready → after.node (statePath owner) = none := by
    intro known
    rw [same _ (by simp)]
    exact (prepared.ready known).spare
  rcases own with ⟨rfl, inode, record, stored, rest⟩ | rfl
  · have claims : Claims key owner after := by
      refine ⟨inode, record, ?_, rest⟩
      rw [same _ (by simp)]
      exact stored
    exact safe_register usable claims spare
  · apply (safe_reclaim known usable).seq
    rintro _ later ⟨rfl, usable, unchanged, claims⟩
    exact safe_register usable claims fun given => unchanged.trans (spare given)

/-- A healthy run from a usable key keeps it usable, is usable or stuck wherever
it is killed, and succeeds if the lock is free and its request id is new. -/
theorem safe_run {operation : Operation} (known : mine owner)
    (prepared : Prepared key mine owner ready state) :
    Safe host (killable key mine owner) actor (Served key mine ready)
      (run owner (some key) operation) state := by
  apply (safe_prune prepared).seq
  intro _ state prepared
  apply ((safe_resolve prepared known).returns resolve_returns).seq
  rintro _ state ⟨⟨prepared, admission, rfl, claims⟩, own⟩
  cases admission with
  | fresh => exact safe_enter known (.inl ⟨rfl, claims rfl⟩) prepared
  | orphaned found => exact safe_enter known (.inr (own found rfl).symm) prepared
  | replay existing => exact ⟨prepared.usable, fun _ => ⟨_, rfl⟩⟩

/-- Nothing makes a system call fail, and the clock stands at zero. -/
structure AtZero (choice : SysChoice) : Prop where
  healthy : Healthy choice
  clock : choice.answer .now = (0 : Nat)

abbrev atZero : Discipline SysOp (System ι) ι SysChoice :=
  .alone AtZero fun _ _ => True

def SameNodes (state after : System ι) : Prop :=
  ∀ path, after.node path = state.node path

theorem looking_zero {α : Type} {program : Action α} (every : program.Every Prune.Looking)
    {now : System ι} (same : SameNodes state now) :
    Safe host atZero actor (fun _ => SameNodes state) program now := by
  apply Safe.of_every (stable_alone _) _ every same
  intro operation choice now looking same _
  refine ⟨trivial, fun path => ?_⟩
  have within : operation.Within fun _ => False := looking.within
  have framed : (host.exec actor choice operation now).2.node path = now.node path :=
    Disk.exec_node fun touched => within.nodes path touched
  exact framed.trans (same path)

theorem prune_zero :
    Safe host atZero actor (fun _ => SameNodes state)
      (Prune.pruneCompleted Prune.defaultCompletedRetention) state := by
  have clock : ∀ {rest : Nat → Action Unit} {now : System ι},
      Safe host atZero actor (fun _ => SameNodes state) (rest 0) now →
      Safe host atZero actor (fun _ => SameNodes state) (unixNowSecs >>= rest) now := by
    intro rest now safe
    apply alone_call_bind trivial
    intro choice still
    rw [machine_ask, still.clock]
    exact safe
  have finished : Safe host atZero actor (fun _ => SameNodes state)
      (Prune.pruneFinishedTransactions Prune.defaultCompletedRetention) state := by
    apply (looking_zero Prune.fileNames_every fun _ => rfl).seq
    intro names now same
    split
    · exact same
    · exact clock (looking_zero (Prune.pruneFinished_zero (by decide) _) same)
  apply finished.seq
  intro _ now same
  apply clock
  apply (looking_zero Prune.list_every same).seq
  intro entries now same
  exact looking_zero (Prune.pruneOrphans_zero (by decide) entries) same

theorem claim_occupied {other : RequestId} {inode : Nat} {content : Option Content}
    (found : state.node (indexPath key) = some (.file inode content)) :
    Safe host atZero actor
      (fun result after => result = Idempotency.resolution key content ∧ after = state)
      (Idempotency.claim key other) state := by
  refine alone_exec_bind trivial (healthy_createDirAll ·.healthy) ?_
  apply alone_call_bind trivial
  intro choice _
  rw [machine_ask]
  apply Safe.bind
  refine alone_exec_bind trivial
    (healthy_openNew_exists ·.healthy found) ?_
  refine alone_exec_bind trivial
    (healthy_read ·.healthy found) ?_
  exact ⟨rfl, rfl⟩

theorem stuck_run {other : RequestId} {operation : Operation} (stuck : Stuck key owner state) :
    Safe host atZero actor (fun result _ => ∃ error, result = .error error)
      (run other (some key) operation) state := by
  apply prune_zero.seq
  intro _ now same
  apply Safe.bind
  apply Safe.bind
  rcases stuck with ⟨inode, empty⟩ | ⟨⟨inode, record, stored, current, own, rfl⟩, torn, empty⟩
  · apply (claim_occupied ((same _).trans empty)).mono
    rintro _ after ⟨rfl, _⟩
    exact ⟨_, rfl⟩
  apply (claim_occupied ((same _).trans stored)).mono
  have resolved : Idempotency.resolution key (some (.claim record)) =
      .ok (.alreadyClaimed record.requestId) := by
    simp [Idempotency.resolution, current, own]
  rintro _ after ⟨rfl, rfl⟩
  rw [resolved]
  apply Safe.bind
  refine alone_exec_bind trivial
    (healthy_read ·.healthy ((same _).trans empty)) ?_
  exact ⟨_, rfl⟩

/-- What the killed run leaves alone: others' locks and others' records. -/
structure Untouched (actor : ι) (spare : RequestId) (state : System ι) : Prop where
  holder : ∀ other, state.locks lockPath = some other → other = actor
  spare : state.node (statePath spare) = none

theorem untouched_step {spare : RequestId} (apart : spare ≠ owner) {operation : Operation}
    {step : SysOp} (taken : Step owner (some key) operation step)
    (untouched : Untouched actor spare state) :
    Untouched actor spare (host.exec actor choice step state).2 := by
  refine ⟨fun other held => ?_, ?_⟩
  · rcases machine_holder held with same | held
    · exact same
    · exact untouched.holder other held
  have outside : ∀ region : FilePath → Prop, step.Within region → ¬ region (statePath spare) →
      (host.exec actor choice step state).2.node (statePath spare) = none :=
    fun region within beyond =>
      (Disk.exec_node fun touched => beyond (within.nodes _ touched)).trans untouched.spare
  cases taken with
  | sweep sweeping =>
    cases sweeping with
    | look looking => exact outside (fun _ => False) looking.within id
    | remove path swept =>
    refine machine_remove (fun _ => untouched.spare) fun _ _ _ => ?_
    rw [Disk.node_drop]
    split
    · rfl
    · exact untouched.spare
  | claim _ claiming => exact outside _ claiming.within (by simp)
  | enter entering =>
  cases entering with
  | now => exact (Disk.exec_node id).trans untouched.spare
  | acquire acquiring =>
    cases acquiring with
    | diagnose diagnosing => exact outside _ diagnosing.within (by simp)
    | lock | unlock => exact (Disk.exec_node id).trans untouched.spare
  | reclaim _ reclaiming => exact outside _ reclaiming.within (by simp)
  | create _ creating => exact outside _ creating.within (by simp [apart])
  | audit => exact (Disk.exec_node id).trans untouched.spare

theorem Untouched.exit {spare : RequestId} (untouched : Untouched actor spare state) :
    Ready spare (Disk.exit actor state) := by
  refine ⟨?_, untouched.spare⟩
  show (if state.locks lockPath = some actor then none else state.locks lockPath) = none
  cases held : state.locks lockPath with
  | none => simp
  | some other => simp [untouched.holder other held]

theorem stopped_run {spare : RequestId} (known : mine owner) (apart : spare ≠ owner)
    (operation : Operation) (usable : Usable key mine state)
    (untouched : Untouched actor spare state) {choices : List SysChoice}
    (healthy : ∀ choice ∈ choices, Healthy choice) :
    let stopped := host.advance actor choices (run owner (some key) operation) state
    Untouched actor spare stopped.2 ∧
      (∀ step ∈ stopped.1.pending?, Crash key mine owner step stopped.2) ∧
      (stopped.1.pending? = none → Usable key mine stopped.2) := by
  have safe : Safe host (killable key mine owner) actor _ (run owner (some key) operation) state :=
    safe_run known ⟨usable, False.elim⟩
  have alone : Safe host (.alone Healthy fun _ now => Untouched actor spare now) actor
      (fun _ now => Untouched actor spare now) (run owner (some key) operation) state := by
    apply Safe.of_every (stable_alone _) _ run_every untouched
    exact fun _ _ _ taken holds _ => ⟨holds, untouched_step apart taken holds⟩
  have crashed := safe.stopped healthy ⟨healthyChoice 0, rfl⟩
  have kept := alone.stopped healthy ⟨healthyChoice 0, rfl⟩
  intro stopped
  cases rest : stopped.1 with
  | done result =>
    rw [show (host.advance actor choices (run owner (some key) operation) state).1 = _ from rest]
      at crashed kept
    exact ⟨kept, by simp [Program.pending?], fun _ => crashed.1⟩
  | perform step next =>
    rw [show (host.advance actor choices (run owner (some key) operation) state).1 = _ from rest]
      at crashed kept
    refine ⟨kept, ?_, by simp [Program.pending?]⟩
    intro pending member
    cases member
    exact crashed

/-- The record of the request is absent or complete. -/
abbrev Whole (state : System ι) (requestId : RequestId) : Prop :=
  ∀ node, state.node (statePath requestId) = some node → IsRecord node

/-- What the key needs of the scope: its bucket is free or holds a complete claim of the
key whose record is absent or complete, the record of the request that will be killed is
absent or complete, and the key's temp file and the lock file are regular. -/
structure KeyUsable (key : IdempotencyKey) (killed : RequestId) (state : System ι) : Prop where
  claim : ∀ node, state.node (indexPath key) = some node → IsClaim key (Whole state) node
  record : Whole state killed
  temp : state.Regular (tempSiblingPath (indexPath key))
  lock : state.Regular lockPath

omit [DecidableEq ι] in
theorem KeyUsable.usable {killed : RequestId} (usable : KeyUsable key killed state) :
    Usable key (Whole state) state := by
  intro path node found
  refine ⟨?_, ?_, ?_⟩
  · rintro requestId whole rfl
    exact whole node found
  · rintro rfl
    exact usable.claim node found
  · rintro (rfl | rfl)
    · exact usable.temp node found
    · exact usable.lock node found

end OpsEngine.Survival

namespace OpsEngine

open Effect Files Preflight Survival

theorem keyUsable_empty (key : IdempotencyKey) (killed : RequestId) :
    KeyUsable key killed (Disk.empty : System ι) := by
  constructor <;> exact fun node found => by simp at found

variable {ι : Type} [DecidableEq ι]

/-- Where the key is usable, a healthy run is killed after any number of its system
calls.  Every later healthy run with the same key and a new request id succeeds exactly
if the kill did not come between creating a file and writing it: the claim of the key,
or the killed run's transaction record. -/
theorem survives_kill_iff (first second : ι) (key : IdempotencyKey) (killed fresh : RequestId)
    (firstOperation secondOperation : Operation) (state : System ι)
    (usable : KeyUsable key killed state)
    (free : state.locks lockPath = none) (unused : state.node (statePath fresh) = none)
    (apart : fresh ≠ killed) (choices : List SysChoice)
    (healthy : ∀ choice ∈ choices, Healthy choice) :
    (∀ later : Nat → SysChoice, (∀ index, Healthy (later index)) →
      ∃ outcome, (host.solo second later (run fresh (some key) secondOperation)
        (host.exit first
          (host.advance first choices (run killed (some key) firstOperation) state).2)).1 =
        .ok outcome) ↔ ∀ operation ∈
    (host.advance first choices (run killed (some key) firstOperation) state).1.pending?,
      ¬ Torn key killed operation := by
  have before : Untouched first fresh state :=
    ⟨fun other held => by rw [free] at held; contradiction, unused⟩
  obtain ⟨untouched, crash, ended⟩ :=
    stopped_run usable.record apart firstOperation usable.usable before healthy
  constructor
  · intro survives operation member torn
    have stuck : Stuck key killed (host.exit first
        (host.advance first choices (run killed (some key) firstOperation) state).2) :=
      (crash operation member).1 torn
    have failing : Safe host atZero second (fun result _ => ∃ error, result = .error error)
        (run fresh (some key) secondOperation) _ := stuck_run stuck
    have still : AtZero (healthyChoice 0) := ⟨rfl, rfl⟩
    obtain ⟨outcome, succeeded⟩ := survives (fun _ => healthyChoice 0) fun _ => rfl
    obtain ⟨error, failed⟩ := failing.solo fun _ _ _ => still
    rw [succeeded] at failed
    contradiction
  · intro calm later sane
    have still : Usable key (Whole state)
        (host.advance first choices (run killed (some key) firstOperation) state).2 := by
      cases pending : (host.advance first choices
          (run killed (some key) firstOperation) state).1.pending? with
      | none => exact ended pending
      | some operation => exact (crash operation pending).2 (calm operation pending)
    have prepared : Prepared key (Whole state) fresh True (host.exit first
        (host.advance first choices (run killed (some key) firstOperation) state).2) :=
      ⟨still.of_nodes fun _ => rfl, fun _ => untouched.exit⟩
    have safe : Safe host (killable key (Whole state) fresh) second _
        (run fresh (some key) secondOperation) _ :=
      safe_run (fun node found => by simp [unused] at found) prepared
    exact (safe.solo fun index _ _ => sane index).2 trivial

theorem survives_kill_after_claim :
    ∃ outcome, (host.solo true (fun _ => healthyChoice 0)
      (run secondRequest (some sampleKey) .siteDeploy)
      (host.exit false (host.advance false (List.replicate 8 (healthyChoice 0))
        (run firstRequest (some sampleKey) .siteDeploy) Disk.empty).2)).1 = .ok outcome :=
  (survives_kill_iff false true sampleKey firstRequest secondRequest .siteDeploy .siteDeploy
    Disk.empty (keyUsable_empty sampleKey firstRequest) rfl (Disk.node_empty _) (by decide)
    (List.replicate 8 (healthyChoice 0)) fun _ member => by
      rw [List.eq_of_mem_replicate member]; rfl).mpr
    (by decide +kernel) (fun _ => healthyChoice 0) fun _ => rfl

theorem isOk_of_ok {result : Except Preflight.Error Preflight.Outcome} {outcome : Outcome}
    (succeeded : result = .ok outcome) : result.isOk = true := by
  rw [succeeded]
  rfl

/-- Killed between creating the claim file and writing it, the run leaves an
empty file that the next run with the key refuses. -/
theorem stuck_after_kill :
    ∃ choices : List SysChoice, (∀ choice ∈ choices, Healthy choice) ∧
      ∃ later : Nat → SysChoice, (∀ index, Healthy (later index)) ∧
        ¬ ∃ outcome, (host.solo true later (run secondRequest (some sampleKey) .siteDeploy)
          (host.exit false (host.advance false choices
            (run firstRequest (some sampleKey) .siteDeploy) Disk.empty).2)).1 = .ok outcome := by
  refine ⟨List.replicate 7 (healthyChoice 0), ?_, fun _ => healthyChoice 0, fun _ => rfl, ?_⟩
  · intro choice member
    rw [List.eq_of_mem_replicate member]
    rfl
  · rintro ⟨outcome, succeeded⟩
    have passed := isOk_of_ok succeeded
    revert passed
    decide +kernel

end OpsEngine
