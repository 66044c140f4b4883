import OpsEngine.Deploy.Phases
import OpsEngine.Effect.Reach
import OpsEngine.Mutation.Contract

namespace OpsEngine.Verdict

open Effect Files
open Recovery (checkpointPath)

/-! # Recovery tells the truth

What recovery makes of a request that stopped half way is read off three files:
`current`, the request's record and its checkpoint.
-/

abbrev SysNode := Node Dir Name Content

structure Switch where
  siteId : SiteId
  requestId : RequestId
  operation : Operation
  target : ReleaseId
  revision : Option GitCommitSha

def Switch.checkpoint (switch : Switch) (previous : Option ReleaseId) : Checkpoint :=
  Recovery.checkpoint switch.siteId switch.requestId switch.operation switch.target switch.revision
    previous

abbrev Switch.prepare (switch : Switch) : Action (Except Recovery.Error Unit) :=
  Recovery.prepare switch.siteId switch.requestId switch.operation switch.target switch.revision

/-- The checkpoint passes the checks recovery makes. -/
structure Switch.Supported (switch : Switch) : Prop where
  recoverable : Recovery.recoverable switch.operation = true
  consistent : ∀ record previous, record.operation = switch.operation →
    Recovery.consistent switch.siteId switch.requestId record (switch.checkpoint previous) = true

/-- The nodes recovery looks at. -/
structure Facts where
  current : Option SysNode
  record : Option SysNode
  marker : Option SysNode

def Holds (node : Option SysNode) (content : Content) : Prop :=
  ∃ inode, node = some (.file inode (some content))

theorem Holds.inj {node : Option SysNode} {first second : Content} (one : Holds node first)
    (two : Holds node second) : first = second := by
  obtain ⟨inode, rfl⟩ := one
  obtain ⟨other, same⟩ := two
  simp only [Option.some.injEq, Node.file.injEq] at same
  exact same.2

variable {ι : Type}

def facts (switch : Switch) (state : System ι) : Facts :=
  ⟨state.node currentPath, state.node (statePath switch.requestId),
    state.node (checkpointPath switch.requestId)⟩

/-- What others may do to these files: they leave `current` alone, the record
too until its retention is over, and the checkpoint of a record in progress. -/
structure Facts.Spared (before after : Facts) : Prop where
  current : after.current = before.current
  record : after.record = before.record ∨ after.record = none ∧
    ∃ record, Holds before.record (.record record) ∧ record.status ≠ .inProgress
  marker : ∀ record, Holds before.record (.record record) → record.status = .inProgress →
    after.marker = before.marker

/-- Others also leave the temporary files of the request alone. -/
structure Spares (switch : Switch) (before after : System ι) : Prop where
  facts : (facts switch before).Spared (facts switch after)
  link : after.node (tempLinkPath switch.target) = before.node (tempLinkPath switch.target)
  recordTemp : after.node (tempSiblingPath (statePath switch.requestId)) =
    before.node (tempSiblingPath (statePath switch.requestId))
  markerTemp : after.node (tempSiblingPath (checkpointPath switch.requestId)) =
    before.node (tempSiblingPath (checkpointPath switch.requestId))

variable {switch : Switch} {start : Option SysNode} {previous : Option ReleaseId}
  {switched : Bool} {before after : Facts}

def readNode : Option SysNode → Except IoError FilePath
  | some (.link target) => .ok target
  | some _ => .error .other
  | none => .error .notFound

theorem readLink_eq (state : System ι) (path : FilePath) :
    state.readLink path = readNode (state.node path) := by
  unfold Disk.readLink readNode
  cases state.node path with
  | none => rfl
  | some node => cases node <;> rfl

/-- `current` named `previous`. -/
def Named (node : Option SysNode) (previous : Option ReleaseId) : Prop :=
  Activate.previousRelease (readNode node) = .ok previous

theorem named_release (release : ReleaseId) :
    Named (some (.link (releasePath release))) (some release) := rfl

theorem Named.link {node : Option SysNode} {release : ReleaseId}
    (named : Named node (some release)) : node = some (.link (releasePath release)) := by
  unfold Named readNode at named
  split at named
  · rename_i target
    simp only [Activate.previousRelease] at named
    split at named
    · rename_i found parsed
      have same : found = release := by simpa using named
      subst same
      unfold Activate.parseReleaseSymlinkTarget at parsed
      split at parsed
      · rename_i inReleases
        obtain ⟨dir, name⟩ := target
        simp only at inReleases parsed
        unfold Name.releaseId? at parsed
        split at parsed
        · cases parsed
          rw [inReleases]
          rfl
        · contradiction
      · contradiction
    · contradiction
  · cases named
  · cases named

/-- The record is one of this request. -/
structure Own (switch : Switch) (record : TransactionState) : Prop where
  operation : record.operation = switch.operation
  current : record.schemaVersion = stateSchemaVersion

def verdict (switched : Bool) : TransactionStatus := if switched then .committed else .failed

/-- Where `current` points, by whether the switch happened. -/
def currentNode (switch : Switch) (start : Option SysNode) (switched : Bool) : Option SysNode :=
  if switched then some (.link (releasePath switch.target)) else start

/-- The request is in progress under `record`, with its checkpoint written. -/
structure Pending (switch : Switch) (start : Option SysNode) (previous : Option ReleaseId)
    (switched : Bool) (record : TransactionState) (facts : Facts) : Prop where
  current : facts.current = currentNode switch start switched
  stored : Holds facts.record (.record record)
  own : Own switch record
  inProgress : record.status = .inProgress
  marker : Holds facts.marker (.checkpoint (switch.checkpoint previous))

/-- The request is marked as it ended, or its retention is over. -/
structure Settled (switch : Switch) (start : Option SysNode) (switched : Bool) (facts : Facts) :
    Prop where
  current : facts.current = currentNode switch start switched
  record : facts.record = none ∨ ∃ record, Holds facts.record (.record record) ∧ Own switch record ∧
    record.status = verdict switched

/-- Recovery can tell, or has told, whether the switch happened. -/
def Truth (switch : Switch) (start : Option SysNode) (previous : Option ReleaseId)
    (switched : Bool) (facts : Facts) : Prop :=
  (∃ record, Pending switch start previous switched record facts) ∨
    Settled switch start switched facts

theorem verdict_ne_inProgress (switched : Bool) : verdict switched ≠ .inProgress := by
  cases switched <;> simp [verdict]

theorem Facts.Spared.held (spared : before.Spared after) {record : TransactionState}
    (stored : Holds before.record (.record record)) (inProgress : record.status = .inProgress) :
    Holds after.record (.record record) := by
  rcases spared.record with same | ⟨_, other, found, finished⟩
  · rw [same]
    exact stored
  · have same := Content.record.inj (stored.inj found)
    exact absurd (same ▸ inProgress) finished

theorem Pending.spared {record : TransactionState} (spared : before.Spared after)
    (pending : Pending switch start previous switched record before) :
    Pending switch start previous switched record after where
  current := spared.current.trans pending.current
  stored := spared.held pending.stored pending.inProgress
  own := pending.own
  inProgress := pending.inProgress
  marker := by
    rw [spared.marker record pending.stored pending.inProgress]
    exact pending.marker

theorem Settled.spared (spared : before.Spared after)
    (settled : Settled switch start switched before) : Settled switch start switched after where
  current := spared.current.trans settled.current
  record := by
    rcases spared.record with same | ⟨gone, _⟩
    · rw [same]
      exact settled.record
    · exact .inl gone

theorem Truth.spared (spared : before.Spared after)
    (truth : Truth switch start previous switched before) :
    Truth switch start previous switched after := by
  rcases truth with ⟨record, pending⟩ | settled
  · exact .inl ⟨record, pending.spared spared⟩
  · exact .inr (settled.spared spared)

/-- The operation leaves the three files alone. -/
def Aside (switch : Switch) (operation : SysOp) : Prop :=
  ∀ path, operation.Touches path → path ≠ currentPath ∧ path ≠ statePath switch.requestId ∧
    path ≠ checkpointPath switch.requestId

theorem aside_within {region : FilePath → Prop} {operation : SysOp}
    (outside : ∀ path, region path → path ≠ currentPath ∧ path ≠ statePath switch.requestId ∧
      path ≠ checkpointPath switch.requestId)
    (within : operation.Within region) : Aside switch operation :=
  fun path touched => outside path (within.nodes path touched)

theorem aside_looking {operation : SysOp} (within : operation.Within fun _ => False) :
    Aside switch operation :=
  aside_within (fun _ => False.elim) within

theorem finish_own (own : Own switch record) (inProgress : record.status = .inProgress)
    (status : TransactionStatus) (outcome : TransactionOutcome) (now : Nat) :
    ∃ finished, Recovery.transition (record.finish status outcome now) = .ok finished ∧
      Own switch finished ∧ finished.status = status := by
  simp only [TransactionState.finish, inProgress, if_pos]
  exact ⟨_, rfl, ⟨own.operation, own.current⟩, rfl⟩

attribute [local simp] Preflight.lockPath statePath currentPath checkpointPath tempSiblingPath

theorem facts_recorded {inode : Nat} :
    facts switch ((state.drop (tempSiblingPath (statePath switch.requestId))).put
      (statePath switch.requestId) (.file inode (some (.record finished)))) =
    { facts switch state with record := some (.file inode (some (.record finished))) } := by
  simp [facts]

theorem facts_locked {state after : System ι}
    (same : ∀ path, path ≠ Preflight.lockPath → after.node path = state.node path) :
    facts switch after = facts switch state := by
  simp only [facts, same currentPath (by simp),
    same (statePath switch.requestId) (by simp),
    same (checkpointPath switch.requestId) (by simp)]

variable [DecidableEq ι] {actor : ι} {choice : SysChoice} {operation : SysOp}

theorem facts_aside {state : System ι} (aside : Aside switch operation) :
    facts switch (host.exec actor choice operation state).2 = facts switch state := by
  have kept : ∀ path, (path = currentPath ∨ path = statePath switch.requestId ∨
      path = checkpointPath switch.requestId) →
      (host.exec actor choice operation state).2.node path = state.node path := by
    intro path watched
    apply Disk.exec_node
    intro touched
    obtain ⟨one, two, three⟩ := aside path touched
    rcases watched with same | same | same <;> contradiction
  simp only [facts, kept _ (.inl rfl), kept _ (.inr (.inl rfl)), kept _ (.inr (.inr rfl))]

theorem preserves_facts {crash : System ι → Prop} {assertion : Facts → Prop}
    (spared : ∀ before after : Facts, before.Spared after → assertion before → assertion after)
    (implies : ∀ state, assertion (facts switch state) → crash state) :
    Preserves host (.amid (Spares switch) crash) actor (Aside switch)
      fun state => assertion (facts switch state) := by
  apply Preserves.amid
  · exact fun before after moved holds => spared _ _ moved.facts holds
  · exact implies
  · intro operation choice state aside holds
    rw [facts_aside aside]
    exact holds

section Recovering

variable {record : TransactionState}

/-- Where recovery of the request may be killed. -/
abbrev recovering (switch : Switch) (start : Option SysNode) (previous : Option ReleaseId)
    (switched : Bool) : Discipline SysOp (System ι) ι SysChoice :=
  .amid (Spares switch) fun state => Truth switch start previous switched (facts switch state)

theorem preserves_truth :
    Preserves host (recovering switch start previous switched) actor (Aside switch)
      fun state => Truth switch start previous switched (facts switch state) :=
  preserves_facts (fun _ _ => Truth.spared) fun _ truth => truth

theorem preserves_pending :
    Preserves host (recovering switch start previous switched) actor (Aside switch)
      fun state => Pending switch start previous switched record (facts switch state) :=
  preserves_facts (fun _ _ => Pending.spared) fun _ pending => .inl ⟨record, pending⟩

theorem preserves_settled :
    Preserves host (recovering switch start previous switched) actor (Aside switch)
      fun state => Settled switch start switched (facts switch state) :=
  preserves_facts (fun _ _ => Settled.spared) fun _ settled => .inr settled

def Told (switch : Switch) (start : Option SysNode) (previous : Option ReleaseId)
    (switched : Bool) : Except Recovery.Error TransactionState → System ι → Prop
  | .ok record, state =>
    record.status = verdict switched ∧ Settled switch start switched (facts switch state)
  | .error _, state => Truth switch start previous switched (facts switch state)

variable {state : System ι} {finished : TransactionState}

theorem safe_loadCheckpoint
    (pending : Pending switch start previous switched record (facts switch state)) :
    Safe host (recovering switch start previous switched) actor
      (fun result after => Pending switch start previous switched record (facts switch after) ∧
        ∀ checkpoint, result = .ok checkpoint → checkpoint = switch.checkpoint previous)
      (Recovery.load switch.requestId) state := by
  apply preserves_pending.call_bind (fun _ => False.elim) pending
  intro found state pending
  cases found with
  | false => exact ⟨pending, fun _ impossible => by contradiction⟩
  | true =>
  apply preserves_pending.step_bind (fun _ => False.elim) pending
  intro now choice pending _
  obtain ⟨inode, stored⟩ := pending.marker
  refine machine_read ⟨pending, nofun⟩ (fun absent => nomatch absent.symm.trans stored)
    fun other content found => ⟨pending, fun checkpoint decoded => ?_⟩
  cases found.symm.trans stored
  cases decoded
  rfl

theorem safe_currentRelease {crash assertion : System ι → Prop} {node : Option SysNode}
    (preserves : Preserves host (.amid (Spares switch) crash) actor (·.Within fun _ => False)
      assertion) (named : ∀ state, assertion state → state.node currentPath = node)
    (holds : assertion state) :
    Safe host (.amid (Spares switch) crash) actor
      (fun result after => assertion after ∧ ∀ release, result = .ok release → Named node release)
      Activate.currentRelease state := by
  apply preserves.call_bind ⟨fun _ => False.elim, fun _ => id⟩ holds
  intro opened state holds
  split
  · exact ⟨holds, fun _ impossible => by contradiction⟩
  apply preserves.step_bind ⟨fun _ => False.elim, fun _ => id⟩ holds
  intro now choice holds _
  have there := named now holds
  rcases machine_readLink actor choice now currentPath with
    failed | ⟨absent, answered⟩ | ⟨target, found, answered⟩
  · rw [failed]
    exact ⟨holds, fun _ impossible => by contradiction⟩
  · rw [answered]
    refine ⟨holds, fun release same => ?_⟩
    rw [← there, absent]
    exact same
  · rw [answered]
    refine ⟨holds, fun release same => ?_⟩
    rw [← there, found]
    exact same

variable {release : Option ReleaseId}

theorem safe_judge (apart : start ≠ some (.link (releasePath switch.target)))
    (was : Named start previous)
    (pending : Pending switch start previous switched record (facts switch state))
    (named : Named (currentNode switch start switched) release) :
    Safe host (recovering switch start previous switched) actor
      (fun result after => Pending switch start previous switched record (facts switch after) ∧
        ∃ finished, result = .ok finished ∧ Own switch finished ∧ finished.status = verdict switched)
      (Recovery.judge record (switch.checkpoint previous) release) state := by
  have moved : previous ≠ some switch.target := by
    intro same
    rw [same] at was
    exact apart was.link
  have quiet : Aside switch (.ask .now) := fun _ => False.elim
  cases switched with
  | true =>
    have same : release = some switch.target :=
      (Except.ok.inj (named.symm.trans (named_release switch.target)))
    unfold Recovery.judge
    rw [if_pos ⟨same, moved⟩]
    apply preserves_pending.call_bind quiet pending
    intro now state pending
    apply preserves_pending.call_bind quiet pending
    intro finishedAt state pending
    exact ⟨pending, finish_own pending.own pending.inProgress _ _ _⟩
  | false =>
    have same : release = previous := Except.ok.inj (named.symm.trans was)
    have still : ¬ (release = some (switch.checkpoint previous).target ∧
        (switch.checkpoint previous).previous ≠ some (switch.checkpoint previous).target) := by
      rintro ⟨other, _⟩
      exact moved (same.symm.trans other)
    unfold Recovery.judge
    rw [if_neg still, if_pos (show release = (switch.checkpoint previous).previous from same)]
    apply preserves_pending.call_bind quiet pending
    intro finishedAt state pending
    exact ⟨pending, finish_own pending.own pending.inProgress _ _ _⟩

theorem aside_preparing {content : Content} {operation : SysOp}
    (preparing : Preparing (statePath switch.requestId) content operation) :
    Aside switch operation := by
  apply aside_within _ preparing.within
  rintro path rfl
  exact ⟨by simp,
    (tempSiblingPath_ne (statePath switch.requestId)).symm,
    by simp⟩

theorem safe_saveVerdict (own : Own switch finished) (status : finished.status = verdict switched)
    (pending : Pending switch start previous switched record (facts switch state)) :
    Safe host (recovering switch start previous switched) actor
      (Outcomes (fun _ after => Settled switch start switched (facts switch after))
        fun _ after => Pending switch start previous switched record (facts switch after))
      (writeAtomic (statePath switch.requestId) (.record finished)) state := by
  have quiet : Preserves host (recovering switch start previous switched) actor (Aside switch)
    fun state : System ι => Pending switch start previous switched record (facts switch state) :=
    preserves_pending
  refine safe_writeAtomic ⟨quiet.stable, ?_, ?_, ?_, ?_⟩ pending
  · intro node before after moved same
    exact moved.recordTemp.trans same
  · intro operation choice state preparing pending admitted
    exact quiet.step operation choice state (aside_preparing preparing) pending admitted
  · exact fun _ _ _ pending _ _ => .inl ⟨record, pending⟩
  · intro choice state inode pending _ _
    refine ⟨.inl ⟨record, pending⟩, ?_⟩
    rw [facts_recorded]
    exact ⟨pending.current, .inr ⟨finished, ⟨inode, rfl⟩, own, status⟩⟩

theorem append_aside (entry : AuditRecord) : (entry.append auditPath).Every (Aside switch) :=
  append_every.mono fun _ => aside_looking

theorem safe_settle (own : Own switch finished) (status : finished.status = verdict switched)
    (pending : Pending switch start previous switched record (facts switch state)) :
    Safe host (recovering switch start previous switched) actor
      (Told switch start previous switched) (Recovery.settle switch.requestId finished) state := by
  apply Safe.bind
  apply preserves_pending.call_bind (fun _ => False.elim) pending
  intro now state pending
  refine (preserves_pending.safe (append_aside _) pending).attempt
    (fun _ _ pending => .inl ⟨record, pending⟩) ?_
  intro _ state pending
  apply Safe.bind
  refine (safe_saveVerdict own status pending).attempt (fun _ _ holds => .inl ⟨record, holds⟩) ?_
  intro _ state holds
  exact safe_audited (preserves_settled.mono fun _ => aside_looking)
    (fun _ _ settled => ⟨status, settled⟩) holds

structure Saved (switch : Switch) (finished : TransactionState) (state after : System ι) : Prop where
  stored : Holds (after.node (statePath switch.requestId)) (.record finished)
  temp : after.Regular (tempSiblingPath (statePath switch.requestId))
  frame : ∀ path, path ≠ statePath switch.requestId →
    path ≠ tempSiblingPath (statePath switch.requestId) → after.node path = state.node path

section

variable (temp : state.Regular (tempSiblingPath (statePath switch.requestId)))
  (free : state.node (statePath switch.requestId) ≠ some .directory)
include temp free

theorem healthy_save :
    Safe host uninterrupted actor
    (fun result after => result = .ok () ∧ Saved switch finished state after)
      (writeAtomic (statePath switch.requestId) (.record finished)) state := by
  let Beside := fun now : System ι => now.Regular (tempSiblingPath (statePath switch.requestId)) ∧
    ∀ path, path ≠ tempSiblingPath (statePath switch.requestId) → now.node path = state.node path
  have replaced : Safe host uninterrupted actor
      (Outcomes (fun _ => Saved switch finished state) fun _ => Beside)
      (writeAtomic (statePath switch.requestId) (.record finished)) state := by
    refine safe_writeAtomic ⟨stable_alone Beside, fun _ => stable_alone _, ?_, ?_, ?_⟩
      ⟨temp, fun _ _ => rfl⟩
    · rintro operation choice now preparing ⟨regular, same⟩ _
      refine ⟨trivial, preparing.regular regular, fun path apart => ?_⟩
      rw [← same path apart]
      exact Disk.exec_node fun touched => apart (preparing.within.nodes _ touched)
    · exact fun _ _ _ _ _ _ => trivial
    rintro choice now inode ⟨_, same⟩ _ _
    refine ⟨trivial, ⟨inode, by simp⟩, fun node found => ?_, fun path apart beside => ?_⟩
    · simp at found
    · rw [Disk.node_put, if_neg apart, Disk.node_drop, if_neg beside]
      exact same path beside
  apply (replaced.and_alone (healthy_writeAtomic temp free)).mono
  rintro _ after ⟨saved, rfl⟩
  exact ⟨rfl, saved⟩

theorem healthy_settle :
    Safe host uninterrupted actor
      (fun result after => result = .ok finished ∧ Saved switch finished state after)
      (Recovery.settle switch.requestId finished) state := by
  apply Safe.bind
  apply alone_call_bind trivial
  intro choice _
  rw [machine_ask]
  apply Safe.bind
  refine alone_exec_bind trivial healthy_append ?_
  have saving : ∀ appended, Safe host uninterrupted actor _
      (writeAtomic (statePath switch.requestId) (.record finished)) { state with appended } :=
    fun _ => healthy_save temp free
  apply Safe.bind
  apply (saving _).seq
  rintro _ after ⟨rfl, saved⟩
  apply Safe.bind
  apply alone_call_bind trivial
  intro choice _
  rw [machine_ask]
  apply Safe.bind
  refine alone_exec_bind trivial healthy_append ?_
  exact ⟨rfl, saved.stored, saved.temp, saved.frame⟩

end

theorem healthy_loadCheckpoint {checkpoint : Checkpoint} {id : RequestId} {inode : Nat}
    (marker : state.node (checkpointPath id) = some (.file inode (some (.checkpoint checkpoint)))) :
    Answers host uninterrupted actor (Recovery.load id) (.ok checkpoint) state := by
  apply alone_call_bind trivial
  intro choice healthy
  rw [healthy_present healthy, marker]
  refine alone_exec_bind trivial (healthy_read · marker) ?_
  exact ⟨rfl, rfl⟩

theorem healthy_currentRelease (named : Named (state.node currentPath) release) :
    Answers host uninterrupted actor Activate.currentRelease (.ok release) state := by
  refine alone_exec_bind trivial healthy_openDir ?_
  apply alone_call_bind trivial
  intro choice healthy
  rw [healthy_readLink healthy, readLink_eq]
  exact ⟨named, rfl⟩

theorem healthy_judge (own : Own switch record) (inProgress : record.status = .inProgress)
    (known : release = some switch.target ∨ release = previous) :
    Safe host uninterrupted actor
      (fun result after => state = after ∧ ∃ finished, result = .ok finished ∧
        Own switch finished ∧ finished.status ≠ .inProgress)
      (Recovery.judge record (switch.checkpoint previous) release) state := by
  have finishing : ∀ status outcome now, status ≠ .inProgress → ∃ finished,
      Recovery.transition (record.finish status outcome now) = .ok finished ∧
        Own switch finished ∧ finished.status ≠ .inProgress := by
    intro status outcome now proper
    obtain ⟨finished, settled, still, same⟩ := finish_own own inProgress status outcome now
    exact ⟨finished, settled, still, same ▸ proper⟩
  unfold Recovery.judge
  split
  · apply alone_call_bind trivial
    intro choice _
    rw [machine_ask]
    apply alone_call_bind trivial
    intro choice _
    rw [machine_ask]
    exact ⟨rfl, finishing _ _ _ (by simp)⟩
  rename_i elsewhere
  have same : release = (switch.checkpoint previous).previous := by
    rcases known with moved | same
    · by_contra different
      exact elsewhere ⟨moved, fun stayed => different (moved.trans stayed.symm)⟩
    · exact same
  rw [if_pos same]
  apply alone_call_bind trivial
  intro choice _
  rw [machine_ask]
  exact ⟨rfl, finishing _ _ _ (by simp)⟩

variable (supported : switch.Supported)
  (apart : start ≠ some (.link (releasePath switch.target))) (was : Named start previous)
include supported apart was

theorem safe_resume (pending : Pending switch start previous switched record (facts switch state)) :
    Safe host (recovering switch start previous switched) actor
      (Told switch start previous switched)
      (Recovery.resume switch.siteId switch.requestId record) state := by
  apply (safe_loadCheckpoint pending).seq
  rintro loaded state ⟨pending, own⟩
  cases loaded with
  | error error => exact .inl ⟨record, pending⟩
  | ok checkpoint =>
  rw [own checkpoint rfl]
  have fits := supported.consistent record previous pending.own.operation
  simp only [fits, Bool.not_true, Bool.false_eq_true, if_false]
  apply (safe_currentRelease (preserves_pending.mono fun _ => aside_looking)
    (fun _ pending => pending.current) pending).seq
  rintro named state ⟨pending, found⟩
  cases named with
  | error error => exact .inl ⟨record, pending⟩
  | ok release =>
    apply (safe_judge apart was pending (found release rfl)).seq
    rintro _ state ⟨pending, finished, rfl, own, status⟩
    exact safe_settle own status pending

theorem safe_reconcile (truth : Truth switch start previous switched (facts switch state)) :
    Safe host (recovering switch start previous switched) actor
      (Told switch start previous switched)
      (Recovery.reconcile switch.siteId switch.requestId) state := by
  have stable : Stable (Spares switch) fun state : System ι =>
      Truth switch start previous switched (facts switch state) :=
    fun _ _ moved truth => truth.spared moved.facts
  apply (TransactionState.safe_load stable (fun _ _ truth _ => truth) truth).seq
  rintro loaded state ⟨truth, read⟩
  cases loaded with
  | error error => cases error <;> exact truth
  | ok found =>
  obtain ⟨_, stored⟩ := read
  have supportedRecord : ∀ record, Own switch record →
      Recovery.recoverable record.operation = true := by
    intro record own
    rw [own.operation]
    exact supported.recoverable
  rcases truth with ⟨record, pending⟩ | settled
  · have same : found = record := Content.record.inj (Holds.inj stored pending.stored)
    subst same
    simp only [supportedRecord found pending.own, pending.inProgress, Bool.not_true,
      Bool.false_eq_true, if_false, ne_eq, not_true_eq_false]
    exact safe_resume supported apart was pending
  obtain ⟨inode, there⟩ := stored
  rcases settled.record with gone | ⟨record, kept, own, status⟩
  · cases gone.symm.trans there
  have same : found = record := Content.record.inj (Holds.inj ⟨inode, there⟩ kept)
  subst same
  have finished : found.status ≠ .inProgress := by
    rw [status]
    exact verdict_ne_inProgress switched
  simp only [supportedRecord found own, finished, Bool.not_true, Bool.false_eq_true,
    if_false, ne_eq, not_false_eq_true, if_true]
  exact ⟨status, settled⟩

theorem safe_execute (truth : Truth switch start previous switched (facts switch state)) :
    Safe host (recovering switch start previous switched) actor
      (fun result after => Truth switch start previous switched (facts switch after) ∧
        ∀ status, result = .ok status → status.transaction.status = verdict switched ∧
          Settled switch start switched (facts switch after))
      (Recovery.execute switch.siteId switch.requestId) state := by
  have lockFile : (Lock.acquire Preflight.lockPath switch.requestId).Every (Aside switch) := by
    apply Lock.acquire_every.mono
    intro operation acquiring path touched
    cases acquiring with
    | diagnose diagnosing =>
      have same : path = Preflight.lockPath := diagnosing.within.nodes path touched
      simp [same]
    | lock | unlock => exact touched.elim
  apply preserves_truth.call_bind (fun _ => False.elim) truth
  intro opened state truth
  split
  · exact ⟨truth, fun _ impossible => by contradiction⟩
  refine (preserves_truth.safe lockFile truth).attempt
    (fun _ _ truth => ⟨truth, fun _ impossible => by contradiction⟩) ?_
  intro _ state truth
  apply (safe_reconcile supported apart was truth).seq
  intro reconciled state told
  cases reconciled with
  | error error =>
    apply preserves_truth.call_bind (fun _ => False.elim) told
    exact fun _ state truth => ⟨truth, fun _ impossible => by contradiction⟩
  | ok record =>
  apply preserves_settled.call_bind (fun _ => False.elim) told.2
  intro _ state settled
  refine ⟨.inr settled, fun status same => ?_⟩
  cases same
  exact ⟨told.1, settled⟩

/-- The request is recorded as finished, and as its own. -/
def Resumed (switch : Switch) (state : System ι) (result : Except Error TransactionState)
    (after : System ι) : Prop :=
  ∃ finished, result = .ok finished ∧ Own switch finished ∧ finished.status ≠ .inProgress ∧
    Saved switch finished state after

omit apart in
theorem healthy_resume
    (pending : Pending switch start previous switched record (facts switch state))
    (temp : state.Regular (tempSiblingPath (statePath switch.requestId))) :
    Safe host uninterrupted actor (Resumed switch state)
      (Recovery.resume switch.siteId switch.requestId record) state := by
  obtain ⟨inode, marked⟩ := pending.marker
  have marker : state.node (checkpointPath switch.requestId) =
      some (.file inode (some (.checkpoint (switch.checkpoint previous)))) := marked
  refine (healthy_loadCheckpoint marker).bind ?_
  have fits := supported.consistent record previous pending.own.operation
  simp only [fits, Bool.not_true, Bool.false_eq_true, if_false]
  obtain ⟨release, named, known⟩ : ∃ release, Named (currentNode switch start switched) release ∧
      (release = some switch.target ∨ release = previous) := by
    cases switched with
    | true => exact ⟨_, named_release switch.target, .inl rfl⟩
    | false => exact ⟨previous, was, .inr rfl⟩
  have current : Named (state.node currentPath) release := by
    rw [show state.node currentPath = _ from pending.current]
    exact named
  refine (healthy_currentRelease current).bind ?_
  apply (healthy_judge pending.own pending.inProgress known).seq
  rintro _ _ ⟨rfl, finished, rfl, own, settled⟩
  obtain ⟨stateInode, stored⟩ := pending.stored
  have free : state.node (statePath switch.requestId) ≠ some .directory := by
    rw [show state.node _ = _ from stored]
    simp
  have settling : Safe host uninterrupted actor _ (Recovery.settle switch.requestId finished) state :=
    healthy_settle temp free
  apply settling.mono
  rintro _ after ⟨rfl, saved⟩
  exact ⟨finished, rfl, own, settled, saved⟩

omit supported apart was in
theorem healthy_load {record : TransactionState}
    (stored : Holds (state.node (statePath switch.requestId)) (.record record))
    (own : Own switch record) :
    Answers host uninterrupted actor (TransactionState.load (statePath switch.requestId))
      (.ok record) state := by
  obtain ⟨inode, stored⟩ := stored
  refine alone_exec_bind trivial (healthy_read · stored) ?_
  simp only [TransactionState.decode, own.current, if_pos]
  exact ⟨rfl, rfl⟩

omit apart in
theorem healthy_reconcile_pending
    (pending : Pending switch start previous switched record (facts switch state))
    (temp : state.Regular (tempSiblingPath (statePath switch.requestId))) :
    Safe host uninterrupted actor (Resumed switch state)
      (Recovery.reconcile switch.siteId switch.requestId) state := by
  have known : Recovery.recoverable record.operation = true := by
    rw [pending.own.operation]
    exact supported.recoverable
  refine (healthy_load pending.stored pending.own).bind ?_
  simp only [known, pending.inProgress, Bool.not_true, Bool.false_eq_true, if_false, ne_eq,
    not_true_eq_false]
  exact healthy_resume supported was pending temp

omit apart in
theorem healthy_reconcile (truth : Truth switch start previous switched (facts switch state))
    (recorded : state.node (statePath switch.requestId) ≠ none)
    (temp : state.Regular (tempSiblingPath (statePath switch.requestId))) :
    Safe host uninterrupted actor (fun result _ => ∃ record, result = .ok record)
      (Recovery.reconcile switch.siteId switch.requestId) state := by
  rcases truth with ⟨record, pending⟩ | settled
  · apply (healthy_reconcile_pending supported was pending temp).mono
    rintro _ _ ⟨finished, rfl, _⟩
    exact ⟨finished, rfl⟩
  rcases settled.record with gone | ⟨record, stored, own, status⟩
  · exact absurd gone recorded
  have known : Recovery.recoverable record.operation = true := by
    rw [own.operation]
    exact supported.recoverable
  have finished : record.status ≠ .inProgress := by
    rw [status]
    exact verdict_ne_inProgress switched
  refine (healthy_load stored own).bind ?_
  simp only [known, finished, Bool.not_true, Bool.false_eq_true, if_false, ne_eq,
    not_false_eq_true, if_true]
  exact ⟨record, rfl⟩

omit apart supported was in
theorem healthy_acquire {holder : RequestId}
    (lockFile : state.Regular Preflight.lockPath) (free : state.locks Preflight.lockPath = none) :
    Safe host uninterrupted actor
      (fun result after => result = .ok () ∧ after.Regular Preflight.lockPath ∧
        ∀ path, path ≠ Preflight.lockPath → after.node path = state.node path)
      (Lock.acquire Preflight.lockPath holder) state := by
  have elsewhere : Safe host uninterrupted actor
      (fun _ after => after.Regular Preflight.lockPath ∧
        ∀ path, path ≠ Preflight.lockPath → after.node path = state.node path)
      (Lock.acquire Preflight.lockPath holder) state := by
    apply Safe.of_every (stable_alone _) _ Lock.acquire_every ⟨lockFile, fun _ _ => rfl⟩
    rintro operation choice now acquiring ⟨regular, same⟩ _
    cases acquiring with
    | diagnose diagnosing =>
      refine ⟨trivial, diagnosing.regular regular, fun path apart => ?_⟩
      rw [← same path apart]
      exact Disk.exec_node fun touched => apart (diagnosing.within.nodes path touched)
    | lock | unlock =>
      exact ⟨trivial, fun node found => regular node ((Disk.exec_node id).symm.trans found),
        fun path apart => (Disk.exec_node id).trans (same path apart)⟩
  apply ((Lock.healthy_acquire lockFile free).and_alone elsewhere).mono
  rintro _ after ⟨rfl, regular, same⟩
  exact ⟨rfl, regular, same⟩

omit apart in
theorem healthy_execute (truth : Truth switch start previous switched (facts switch state))
    (recorded : state.node (statePath switch.requestId) ≠ none)
    (temp : state.Regular (tempSiblingPath (statePath switch.requestId)))
    (lockFile : state.Regular Preflight.lockPath) (free : state.locks Preflight.lockPath = none) :
    Safe host uninterrupted actor (fun result _ => ∃ status, result = .ok status)
      (Recovery.execute switch.siteId switch.requestId) state := by
  refine alone_exec_bind trivial healthy_openDir ?_
  apply (healthy_acquire lockFile free).seq
  rintro _ after ⟨rfl, _, same⟩
  have record := same (statePath switch.requestId) (by simp)
  have temp : after.Regular (tempSiblingPath (statePath switch.requestId)) := by
    intro node found
    rw [same _ (by simp)] at found
    exact temp node found
  apply (healthy_reconcile supported was (facts_locked same ▸ truth) (record ▸ recorded) temp).seq
  rintro _ state ⟨record, rfl⟩
  apply alone_call_bind trivial
  exact fun _ _ => ⟨_, rfl⟩

end Recovering

end OpsEngine.Verdict
