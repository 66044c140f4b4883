import OpsEngine.Deploy.Verdict

namespace OpsEngine.Verdict

open Effect Files
open Recovery (checkpointPath)

/-! # Where a deploy or a rollback can stop

The request's own journal says whether it has written its checkpoint and
whether it has switched `current`.
-/

def wroteCheckpoint (id : RequestId) : SysEntry → Bool
  | ⟨.rename source target, .ok _⟩ =>
    source = tempSiblingPath (checkpointPath id) && target = checkpointPath id
  | _ => false

def switchedTo (release : ReleaseId) : SysEntry → Bool
  | ⟨.rename source target, .ok _⟩ => source = tempLinkPath release && target = currentPath
  | _ => false

variable {ι : Type} {switch : Switch} {start : Option SysNode} {actor : ι}

/-- Where the request is killed, recovery can tell. -/
structure Final (switch : Switch) (start : Option SysNode) (actor : ι)
    (recorded : RecordedSystem ι) : Prop where
  current : recorded.state.node currentPath =
    currentNode switch start ((recorded.journals actor).any (switchedTo switch.target))
  truth : (recorded.journals actor).any (wroteCheckpoint switch.requestId) = true →
    ∃ previous, Named start previous ∧
      Truth switch start previous ((recorded.journals actor).any (switchedTo switch.target))
        (facts switch recorded.state)

/-- Under way with `record`, and with the checkpoint if it was written. -/
structure Live (switch : Switch) (start : Option SysNode) (wrote switched : Bool)
    (record : TransactionState) (facts : Facts) : Prop where
  current : facts.current = currentNode switch start switched
  stored : Holds facts.record (.record record)
  own : Own switch record
  inProgress : record.status = .inProgress
  marker : wrote = true → ∃ previous, Named start previous ∧
    Holds facts.marker (.checkpoint (switch.checkpoint previous))

/-- What the journal says the request has done. -/
structure Marks (switch : Switch) (actor : ι) (wrote switched : Bool)
    (recorded : RecordedSystem ι) : Prop where
  wrote : (recorded.journals actor).any (wroteCheckpoint switch.requestId) = wrote
  switched : (recorded.journals actor).any (switchedTo switch.target) = switched

/-- What the journal and the files say. -/
structure At (switch : Switch) (actor : ι) (wrote switched : Bool) (assertion : Facts → Prop)
    (recorded : RecordedSystem ι) : Prop where
  marks : Marks switch actor wrote switched recorded
  holds : assertion (facts switch recorded.state)

variable {wrote switched : Bool} {record : TransactionState} {assertion : Facts → Prop}
  {recorded : RecordedSystem ι}

theorem Live.spared {before after : Facts} (spared : before.Spared after)
    (live : Live switch start wrote switched record before) :
    Live switch start wrote switched record after where
  current := spared.current.trans live.current
  stored := spared.held live.stored live.inProgress
  own := live.own
  inProgress := live.inProgress
  marker written := by
    obtain ⟨previous, named, marked⟩ := live.marker written
    refine ⟨previous, named, ?_⟩
    rw [spared.marker record live.stored live.inProgress]
    exact marked

theorem At.final_of_live (live : At switch actor wrote switched
    (Live switch start wrote switched record) recorded) : Final switch start actor recorded := by
  refine ⟨?_, fun written => ?_⟩
  · rw [live.marks.switched]
    exact live.holds.current
  · obtain ⟨previous, named, marked⟩ := live.holds.marker (live.marks.wrote.symm.trans written)
    refine ⟨previous, named, .inl ⟨record, ?_⟩⟩
    rw [live.marks.switched]
    exact ⟨live.holds.current, live.holds.stored, live.holds.own, live.holds.inProgress, marked⟩

/-- Before the request has a record of its own. -/
def Untouched (start : Option SysNode) (facts : Facts) : Prop := facts.current = start

theorem At.final_of_untouched (idle : At switch actor false false (Untouched start) recorded) :
    Final switch start actor recorded := by
  refine ⟨?_, fun written => ?_⟩
  · rw [idle.marks.switched]
    exact idle.holds
  · rw [idle.marks.wrote] at written
    contradiction

theorem At.final_of_settled
    (settled : At switch actor wrote switched (Settled switch start switched) recorded)
    (named : wrote = true → ∃ previous, Named start previous) :
    Final switch start actor recorded := by
  refine ⟨?_, fun written => ?_⟩
  · rw [settled.marks.switched]
    exact settled.holds.current
  · obtain ⟨previous, was⟩ := named (settled.marks.wrote.symm.trans written)
    refine ⟨previous, was, .inr ?_⟩
    rw [settled.marks.switched]
    exact settled.holds

theorem Final.spared {before after : RecordedSystem ι}
    (moved : Beside actor (Spares switch) before after)
    (final : Final switch start actor before) : Final switch start actor after := by
  obtain ⟨shared, journal⟩ := moved
  refine ⟨?_, fun written => ?_⟩
  · rw [journal]
    exact shared.facts.current.trans final.current
  · rw [journal] at written ⊢
    obtain ⟨previous, named, truth⟩ := final.truth written
    exact ⟨previous, named, truth.spared shared.facts⟩

/-- The operation is never the one the check looks for. -/
def Unmarked (check : SysEntry → Bool) (operation : SysOp) : Prop :=
  ∀ answer, check ⟨operation, answer⟩ = false

theorem unmarked_wrote {id : RequestId} {operation : SysOp}
    (other : operation ≠ .rename (tempSiblingPath (checkpointPath id)) (checkpointPath id)) :
    Unmarked (wroteCheckpoint id) operation := by
  intro answer
  unfold wroteCheckpoint
  split
  · rename_i same
    cases same
    simpa using other
  · rfl

theorem unmarked_switched {release : ReleaseId} {operation : SysOp}
    (other : operation ≠ .rename (tempLinkPath release) currentPath) :
    Unmarked (switchedTo release) operation := by
  intro answer
  unfold switchedTo
  split
  · rename_i same
    cases same
    simpa using other
  · rfl

/-- The operation is neither of the two renames that matter. -/
def Plain (switch : Switch) (operation : SysOp) : Prop :=
  Unmarked (wroteCheckpoint switch.requestId) operation ∧
    Unmarked (switchedTo switch.target) operation

theorem plain_of_untouched {operation : SysOp}
    (marker : ¬ operation.Touches (checkpointPath switch.requestId))
    (current : ¬ operation.Touches currentPath) : Plain switch operation := by
  refine ⟨unmarked_wrote ?_, unmarked_switched ?_⟩
  · rintro rfl
    exact marker (.inr rfl)
  · rintro rfl
    exact current (.inr rfl)

theorem plain_of_not_rename {operation : SysOp}
    (other : ∀ source target, operation ≠ .rename source target) : Plain switch operation :=
  ⟨unmarked_wrote (other _ _), unmarked_switched (other _ _)⟩

theorem Aside.plain {operation : SysOp} (aside : Aside switch operation) :
    Plain switch operation :=
  plain_of_untouched (fun touched => (aside _ touched).2.2 rfl) fun touched => (aside _ touched).1 rfl

theorem Marks.beside {rely : System ι → System ι → Prop} {before after : RecordedSystem ι}
    (moved : Beside actor rely before after) (marks : Marks switch actor wrote switched before) :
    Marks switch actor wrote switched after := by
  refine ⟨?_, ?_⟩
  · rw [moved.2]
    exact marks.wrote
  · rw [moved.2]
    exact marks.switched

theorem plain_step {step : SysOp}
    (taken : Preflight.Step switch.requestId idempotencyKey switch.operation step) :
    Plain switch step := by
  cases taken with
  | sweep sweeping =>
    cases sweeping with
    | look looking => cases looking <;> exact plain_of_not_rename (by simp)
    | remove => exact plain_of_not_rename (by simp)
  | claim _ claiming => cases claiming <;> exact plain_of_not_rename (by simp)
  | enter entering =>
  cases entering with
  | now | audit => exact plain_of_not_rename (by simp)
  | acquire acquiring =>
    cases acquiring with
    | diagnose diagnosing => cases diagnosing <;> exact plain_of_not_rename (by simp)
    | lock | unlock => exact plain_of_not_rename (by simp)
  | create now creating => cases creating <;> exact plain_of_not_rename (by simp)
  | reclaim _ reclaiming =>
    have inside := reclaiming.within.nodes
    exact plain_of_untouched (fun touched => by cases inside _ touched)
      fun touched => by cases inside _ touched

attribute [local simp] Preflight.lockPath statePath currentPath checkpointPath tempSiblingPath
  tempLinkPath releasePath

theorem calm_current {step : SysOp} (calm : Preflight.Calm step) : ¬ step.Touches currentPath := by
  intro touched
  rcases calm.within.nodes _ touched with dir | same
  · simp at dir
  · simp at same

theorem sweep_current {step : SysOp} (sweeping : Prune.Sweeping step) :
    ¬ step.Touches currentPath := by
  intro touched
  rcases (Preflight.sweep_inScope sweeping).nodes _ touched with
    dir | dir | dir | dir | dir | dir <;> simp at dir

theorem facts_checkpointed {state : System ι} {checkpoint : Checkpoint} {inode : Nat} :
    facts switch ((state.drop (tempSiblingPath (checkpointPath switch.requestId))).put
      (checkpointPath switch.requestId) (.file inode (some (.checkpoint checkpoint)))) =
    { facts switch state with marker := some (.file inode (some (.checkpoint checkpoint))) } := by
  simp [facts]

variable [DecidableEq ι] {choice : SysChoice} {operation : SysOp}

theorem answer_recorded {answer : operation.Result Answer} {after : System ι}
    (answered : host.exec actor choice operation recorded.state = (answer, after)) :
    (host.recorded.exec actor choice operation recorded).1 = answer :=
  congrArg Prod.fst answered

theorem any_answered {check : SysEntry → Bool} {answer : operation.Result Answer} {after : System ι}
    (answered : host.exec actor choice operation recorded.state = (answer, after)) :
    ((host.recorded.exec actor choice operation recorded).2.journals actor).any check =
      (check ⟨operation, answer⟩ || (recorded.journals actor).any check) := by
  rw [journal_self, List.any_cons, answered]

theorem any_unmarked {check : SysEntry → Bool} (unmarked : Unmarked check operation) :
    ((host.recorded.exec actor choice operation recorded).2.journals actor).any check =
      (recorded.journals actor).any check := by
  rw [journal_self, List.any_cons, unmarked, Bool.false_or]

/-- The request amid others that spare its files. -/
abbrev requesting (switch : Switch) (start : Option SysNode) (actor : ι) :
    Discipline SysOp (RecordedSystem ι) ι SysChoice :=
  .amid (Beside actor (Spares switch)) (Final switch start actor)

theorem Marks.plain (plain : Plain switch operation)
    (marks : Marks switch actor wrote switched recorded) :
    Marks switch actor wrote switched (host.recorded.exec actor choice operation recorded).2 :=
  ⟨(any_unmarked plain.1).trans marks.wrote, (any_unmarked plain.2).trans marks.switched⟩

theorem preserves_marks :
    Preserves host.recorded
      (.amid (Beside actor (Spares switch)) (Marks switch actor wrote switched)) actor
    (Plain switch)
      (Marks switch actor wrote switched) :=
  Preserves.amid (fun _ _ => Marks.beside) (fun _ marks => marks) fun _ _ _ plain => Marks.plain plain

theorem safe_lifted {α : Type} {crash : System ι → Prop} {post : α → System ι → Prop}
    {marked : α → RecordedSystem ι → Prop} {program : Action α}
    (files : Safe host (.amid (Spares switch) crash) actor post program recorded.state)
    (journal : Safe host.recorded
      (.amid (Beside actor (Spares switch)) (Marks switch actor wrote switched)) actor marked program
      recorded)
    (final : ∀ recorded, crash recorded.state → Marks switch actor wrote switched recorded →
      Final switch start actor recorded) :
    Safe host.recorded (requesting switch start actor) actor
      (fun result after => post result after.state ∧ marked result after) program recorded :=
  (files.recorded.and journal).weaken fun recorded holds => final recorded holds.1 holds.2

theorem preserves_at
    (spared : ∀ before after : Facts, before.Spared after → assertion before → assertion after)
    (final : ∀ recorded, At switch actor wrote switched assertion recorded →
      Final switch start actor recorded) :
    Preserves host.recorded (requesting switch start actor) actor (Aside switch)
      (At switch actor wrote switched assertion) := by
  apply Preserves.amid
  · exact fun _ _ moved here => ⟨here.marks.beside moved, spared _ _ moved.1.facts here.holds⟩
  · exact final
  · intro operation choice recorded aside here
    refine ⟨here.marks.plain aside.plain, ?_⟩
    rw [recorded_state, facts_aside aside]
    exact here.holds

theorem preserves_live :
    Preserves host.recorded (requesting switch start actor) actor (Aside switch)
      (At switch actor wrote switched (Live switch start wrote switched record)) :=
  preserves_at (fun _ _ => Live.spared) fun _ => At.final_of_live

theorem preserves_untouched :
    Preserves host.recorded (requesting switch start actor) actor (Aside switch)
      (At switch actor false false (Untouched start)) :=
  preserves_at (fun _ _ spared same => spared.current.trans same) fun _ => At.final_of_untouched

theorem preserves_final :
    Preserves host.recorded (requesting switch start actor) actor (Aside switch)
      (Final switch start actor) := by
  apply Preserves.amid
  · exact fun _ _ moved final => final.spared moved
  · exact fun _ final => final
  intro operation choice recorded aside final
  refine ⟨?_, fun written => ?_⟩
  · rw [any_unmarked aside.plain.2]
    have same := congrArg Facts.current (facts_aside aside : facts switch
      (host.exec actor choice operation recorded.state).2 = facts switch recorded.state)
    exact same.trans final.current
  · rw [any_unmarked aside.plain.1] at written
    obtain ⟨previous, named, truth⟩ := final.truth written
    refine ⟨previous, named, ?_⟩
    rw [any_unmarked aside.plain.2, recorded_state, facts_aside aside]
    exact truth

section Preflight

variable {idempotencyKey : Option IdempotencyKey}

abbrev entering (switch : Switch) (start : Option SysNode) :
    Discipline SysOp (System ι) ι SysChoice :=
  .amid (Spares switch) fun state => state.node currentPath = start

theorem preserves_current :
    Preserves host (entering switch start) actor (fun operation => ¬ operation.Touches currentPath)
      fun state : System ι => state.node currentPath = start := by
  apply Preserves.amid
  · exact fun _ _ moved same => moved.facts.current.trans same
  · exact fun _ same => same
  · exact fun _ _ _ untouched same => (Disk.exec_node untouched).trans same

theorem safe_create (now : Nat) {state : System ι} (same : state.node currentPath = start) :
    Safe host (entering switch start) actor
      (Outcomes
        (fun _ after => Live switch start false false
          (.start switch.requestId idempotencyKey switch.operation now) (facts switch after))
        fun _ after => after.node currentPath = start)
      ((TransactionState.start switch.requestId idempotencyKey switch.operation now).create
        (statePath switch.requestId)) state := by
  have apart : currentPath ≠ statePath switch.requestId := by simp
  apply Safe.bind
  have untouched : ¬ (Op.openNew (statePath switch.requestId) : SysOp).Touches currentPath := apart
  apply preserves_current.step_bind untouched same
  intro before choice same _
  refine machine_openNew (fun error => by cases error <;> exact same) ?_
  -- An empty record file is none that a retention sweep would take away.
  let Empty := fun state : System ι => state.node currentPath = start ∧
    state.node (statePath switch.requestId) = some (.file before.nextInode none)
  have stable : Stable (Spares switch) Empty := by
    rintro first second moved ⟨same, empty⟩
    refine ⟨moved.facts.current.trans same, ?_⟩
    rcases moved.facts.record with kept | ⟨_, record, ⟨inode, stored⟩, _⟩
    · exact kept.trans empty
    · cases stored.symm.trans empty
  have opened : Empty (before.createFile (statePath switch.requestId)).2 :=
    ⟨by simpa using same, by simp⟩
  refine safe_call Empty stable opened ?_
  rintro state choice ⟨same, empty⟩ _
  refine ⟨same, ?_⟩
  refine machine_write same ?_
  refine ⟨?_, ⟨_, Disk.node_fill_opened empty _⟩, ⟨rfl, rfl⟩, rfl, by simp⟩
  exact (Disk.node_fill_of_ne apart).trans same

theorem preflight_contract :
    Preflight.Contract (entering switch start) actor switch.requestId idempotencyKey
      switch.operation (fun state => state.node currentPath = start)
      (fun state => state.node currentPath = start)
      (fun record state => Live switch start false false record (facts switch state)) where
  swept _ same := preserves_current.safe
    (Prune.pruneCompleted_every.mono fun _ => sweep_current) same
  calmBefore := preserves_current.mono fun _ => calm_current
  calmHeld := preserves_current.mono fun _ => calm_current
  refused _ _ _ same _ _ := same
  granted _ _ same _ _ _ _ := ⟨same, same⟩
  released _ _ same _ := ⟨same, Disk.unlock_node.trans same⟩
  created now _ same := safe_create now same
  calmRegistered record := by
    have preserves : Preserves host (entering switch start) actor (Aside switch)
        fun state : System ι => Live switch start false false record (facts switch state) :=
      preserves_facts (fun _ _ => Live.spared) fun _ live => live.current
    exact preserves.mono fun _ => aside_looking
  unregistered _ _ live := live.current

theorem safe_preflight (idle : At switch actor false false (Untouched start) recorded) :
    Safe host.recorded (requesting switch start actor) actor
      (fun entered after => match entered with
        | .ok (.proceed record) =>
          At switch actor false false (Live switch start false false record) after
        | _ => At switch actor false false (Untouched start) after)
      (Preflight.run switch.requestId idempotencyKey switch.operation) recorded := by
  have files : Safe host (entering switch start) actor _
      (Preflight.run switch.requestId idempotencyKey switch.operation) recorded.state :=
    preflight_contract.safe_run idle.holds
  have every : (Preflight.run switch.requestId idempotencyKey switch.operation).Every
      (Plain switch) := Preflight.run_every.mono fun _ => plain_step
  apply (safe_lifted files (preserves_marks.safe every idle.marks) ?_).mono
  · rintro entered after ⟨holds, marks⟩
    rcases entered with error | (record | original)
    · exact ⟨marks, holds⟩
    · exact ⟨marks, holds⟩
    · exact ⟨marks, holds⟩
  · exact fun recorded same marks => At.final_of_untouched ⟨marks, same⟩

end Preflight

section Switching

theorem clearing_plain {operation : SysOp} (clearing : Recovery.Clearing operation) :
    Plain switch operation := by
  cases clearing with
  | look looking => cases looking <;> exact plain_of_not_rename (by simp)
  | createDirAll | openDir | remove => exact plain_of_not_rename (by simp)

/-- Until the checkpoint is written, only `current` and the record matter. -/
abbrev preparing (switch : Switch) (start : Option SysNode) (record : TransactionState) :
    Discipline SysOp (System ι) ι SysChoice :=
  .amid (Spares switch) fun state => Live switch start false false record (facts switch state)

theorem preserves_preparing :
    Preserves host (preparing switch start record) actor Recovery.AtMarkers
      fun state : System ι => Live switch start false false record (facts switch state) := by
  apply Preserves.amid
  · exact fun _ _ moved live => live.spared moved.facts
  · exact fun _ live => live
  intro operation choice state within live
  have current : (host.exec actor choice operation state).2.node currentPath =
      state.node currentPath := Disk.exec_node fun touched => by cases within.nodes _ touched
  have kept : (host.exec actor choice operation state).2.node (statePath switch.requestId) =
      state.node (statePath switch.requestId) :=
    Disk.exec_node fun touched => by cases within.nodes _ touched
  refine ⟨current.trans live.current, ?_, live.own, live.inProgress, by simp⟩
  show Holds ((host.exec actor choice operation state).2.node _) _
  rw [kept]
  exact live.stored

theorem safe_writeCheckpoint {previous : Option ReleaseId} (was : Named start previous)
    {state : System ι} (live : Live switch start false false record (facts switch state)) :
    Safe host (preparing switch start record) actor
      (Outcomes (fun _ after => Live switch start true false record (facts switch after))
        fun _ after => Live switch start false false record (facts switch after))
      (writeAtomic (checkpointPath switch.requestId) (.checkpoint (switch.checkpoint previous)))
      state := by
  have quiet : Preserves host (preparing switch start record) actor Recovery.AtMarkers
    fun state : System ι => Live switch start false false record (facts switch state) :=
    preserves_preparing
  refine safe_writeAtomic ⟨quiet.stable, ?_, ?_, ?_, ?_⟩ live
  · intro node before after moved same
    exact moved.markerTemp.trans same
  · intro operation choice state preparing live admitted
    exact quiet.step operation choice state (Recovery.replacing_checkpoint (.prepare preparing)) live
      admitted
  · exact fun _ _ _ live _ _ => live
  · intro choice state inode live _ _
    refine ⟨live, ?_⟩
    rw [facts_checkpointed]
    exact ⟨live.current, live.stored, live.own, live.inProgress, fun _ => ⟨previous, was, inode, rfl⟩⟩

theorem marked_writeCheckpoint {content : Content}
    (marks : Marks switch actor false false recorded) :
    Safe host.recorded (.amid (Beside actor (Spares switch)) (Marks switch actor false false)) actor
      (Outcomes (fun _ => Marks switch actor true false) fun _ => Marks switch actor false false)
      (writeAtomic (checkpointPath switch.requestId) content) recorded := by
  apply preserves_marks.call_bind (plain_of_not_rename (by simp)) marks
  intro opened recorded marks
  split
  · exact marks
  apply preserves_marks.call_bind (plain_of_not_rename (by simp)) marks
  intro written recorded marks
  split
  · exact marks
  apply preserves_marks.call_bind (plain_of_not_rename (by simp)) marks
  intro synced recorded marks
  split
  · exact marks
  refine safe_call (Marks switch actor false false) (fun _ _ => Marks.beside) marks ?_
  intro recorded choice marks _
  refine ⟨marks, ?_⟩
  rcases machine_rename actor choice recorded.state
    (tempSiblingPath (checkpointPath switch.requestId)) (checkpointPath switch.requestId) with
    ⟨error, failed⟩ | ⟨node, _, _, renamed⟩
  · rw [answer_recorded failed]
    exact ⟨(any_answered failed).trans marks.wrote, (any_answered failed).trans marks.switched⟩
  · rw [answer_recorded renamed]
    refine ⟨?_, ?_⟩
    · rw [any_answered renamed]
      simp [wroteCheckpoint]
    · rw [any_answered renamed, marks.switched]
      simp [switchedTo]

theorem safe_prepare
    (here : At switch actor false false (Live switch start false false record) recorded) :
    Safe host.recorded (requesting switch start actor) actor
      (Outcomes (fun _ => At switch actor true false (Live switch start true false record))
        fun _ => At switch actor false false (Live switch start false false record))
      switch.prepare recorded := by
  have files : Safe host (preparing switch start record) actor
      (Outcomes (fun _ after => Live switch start true false record (facts switch after))
        fun _ after => Live switch start false false record (facts switch after))
      switch.prepare recorded.state := by
    refine (preserves_preparing.safe (Recovery.clear_every.mono fun _ => Recovery.Clearing.within)
      here.holds).attempt (fun _ _ live => live) ?_
    intro _ state live
    apply (safe_currentRelease (preserves_preparing.mono fun _ within =>
      within.mono fun _ => False.elim) (fun _ live => live.current) live).seq
    rintro named state ⟨live, found⟩
    cases named with
    | error error => exact live
    | ok previous =>
      apply (safe_writeCheckpoint (found previous rfl) live).seq
      intro written state live
      cases written <;> exact live
  have journal : Safe host.recorded
      (.amid (Beside actor (Spares switch)) (Marks switch actor false false)) actor
      (Outcomes (fun _ => Marks switch actor true false) fun _ => Marks switch actor false false)
      switch.prepare recorded := by
    refine (preserves_marks.safe (Recovery.clear_every.mono fun _ => clearing_plain) here.marks).attempt
      (fun _ _ marks => marks) ?_
    intro _ recorded marks
    have looking : Activate.currentRelease.Every (Plain switch) :=
      Recovery.currentRelease_every.mono fun _ within => (aside_looking within).plain
    refine (preserves_marks.safe looking marks).attempt (fun _ _ marks => marks) ?_
    intro previous recorded marks
    apply (marked_writeCheckpoint marks).seq
    intro written recorded marks
    cases written <;> exact marks
  apply (safe_lifted files journal fun recorded live marks => At.final_of_live ⟨marks, live⟩).mono
  rintro prepared recorded ⟨live, marks⟩
  cases prepared with
  | error error => exact ⟨marks, live⟩
  | ok _ => exact ⟨marks, live⟩

theorem safe_switch
    (here : At switch actor true false (Live switch start true false record) recorded) :
    Safe host.recorded (requesting switch start actor) actor
      (Outcomes (fun _ => At switch actor true true (Live switch start true true record))
        fun _ => At switch actor true false (Live switch start true false record))
      (Activate.switch switch.target) recorded := by
  have linkPath : Aside switch (.symlink (tempLinkPath switch.target) (releasePath switch.target)) := by
    intro path same
    rw [show path = tempLinkPath switch.target from same]
    simp
  apply preserves_live.step_bind linkPath here
  intro now choice here _
  obtain ⟨_, after⟩ := preserves_live.step _ choice now linkPath here trivial
  rcases machine_symlink actor choice now.state (tempLinkPath switch.target)
    (releasePath switch.target) with ⟨error, failed⟩ | ⟨_, linked⟩
  · rw [answer_recorded failed]
    exact after
  rw [answer_recorded linked]
  let Linked := fun recorded : RecordedSystem ι =>
    At switch actor true false (Live switch start true false record) recorded ∧
      recorded.state.node (tempLinkPath switch.target) = some (.link (releasePath switch.target))
  have stable : Stable (Beside actor (Spares switch)) Linked := by
    rintro first second moved ⟨here, link⟩
    exact ⟨preserves_live.stable first second moved here, moved.1.link.trans link⟩
  have beside : Linked (host.recorded.exec actor choice
      (.symlink (tempLinkPath switch.target) (releasePath switch.target)) now).2 := by
    refine ⟨after, ?_⟩
    rw [recorded_state, linked]
    simp
  apply safe_call_bind Linked stable beside
  rintro now choice ⟨here, link⟩ _
  refine ⟨here.final_of_live, ?_⟩
  rcases machine_rename actor choice now.state (tempLinkPath switch.target) currentPath with
    ⟨error, failed⟩ | ⟨node, found, _, renamed⟩
  · rw [answer_recorded failed]
    refine ⟨⟨(any_answered failed).trans here.marks.wrote,
      (any_answered failed).trans here.marks.switched⟩, ?_⟩
    rw [recorded_state, failed]
    exact here.holds
  rw [answer_recorded renamed]
  cases found.symm.trans link
  have written : ((host.recorded.exec actor choice
      (.rename (tempLinkPath switch.target) currentPath) now).2.journals actor).any
      (wroteCheckpoint switch.requestId) = true := by
    rw [any_answered renamed, here.marks.wrote, Bool.or_true]
  have done : ((host.recorded.exec actor choice
      (.rename (tempLinkPath switch.target) currentPath) now).2.journals actor).any
      (switchedTo switch.target) = true := by
    rw [any_answered renamed]
    simp [switchedTo]
  have nodes : facts switch ((now.state.drop (tempLinkPath switch.target)).put currentPath
      (.link (releasePath switch.target))) =
      { facts switch now.state with current := some (.link (releasePath switch.target)) } := by
    simp [facts]
  refine ⟨⟨written, done⟩, ?_⟩
  rw [recorded_state, renamed, nodes]
  exact ⟨rfl, here.holds.stored, here.holds.own, here.holds.inProgress, here.holds.marker⟩

theorem safe_save {finished : TransactionState} (own : Own switch finished)
    (status : finished.status = verdict switched)
    (here : At switch actor wrote switched (Live switch start wrote switched record) recorded) :
    Safe host.recorded (requesting switch start actor) actor (fun _ => Final switch start actor)
      (finished.save (statePath switch.requestId)) recorded := by
  let Under := fun state : System ι => Live switch start wrote switched record (facts switch state)
  have quiet : Preserves host (.amid (Spares switch) Under) actor (Aside switch) Under :=
    preserves_facts (fun _ _ => Live.spared) fun _ live => live
  have files : Safe host (.amid (Spares switch) Under) actor
      (Outcomes (fun _ after => Settled switch start switched (facts switch after)) fun _ => Under)
      (writeAtomic (statePath switch.requestId) (.record finished)) recorded.state := by
    refine safe_writeAtomic ⟨quiet.stable, ?_, ?_, ?_, ?_⟩ here.holds
    · exact fun node before after moved same => moved.recordTemp.trans same
    · exact fun operation choice state preparing =>
        quiet.step operation choice state (aside_preparing preparing)
    · exact fun _ _ _ live _ _ => live
    · intro choice state inode live _ _
      refine ⟨live, ?_⟩
      rw [facts_recorded]
      exact ⟨live.current, .inr ⟨finished, ⟨inode, rfl⟩, own, status⟩⟩
  have journal : Safe host.recorded
      (.amid (Beside actor (Spares switch)) (Marks switch actor wrote switched)) actor
      (fun _ => Marks switch actor wrote switched)
      (writeAtomic (statePath switch.requestId) (.record finished)) recorded := by
    have every : (writeAtomic (statePath switch.requestId) (.record finished)).Every
        (Plain switch) := by
      apply writeAtomic_every.mono
      intro operation replacing
      have inside := (replacing_record replacing).nodes
      exact plain_of_untouched (fun touched => by cases inside _ touched)
        fun touched => by cases inside _ touched
    exact preserves_marks.safe every here.marks
  apply (safe_lifted files journal fun recorded live marks => At.final_of_live ⟨marks, live⟩).seq
  rintro saved recorded ⟨holds, marks⟩
  cases saved with
  | error error => exact At.final_of_live ⟨marks, holds⟩
  | ok _ =>
  have named : wrote = true → ∃ previous, Named start previous := by
    intro written
    obtain ⟨previous, was, _⟩ := here.holds.marker written
    exact ⟨previous, was⟩
  exact At.final_of_settled ⟨marks, holds⟩ named

end Switching

section Pipeline

variable {σ ρ : Type} {pipeline : Pipeline σ ρ}

/-- What the pipeline puts into its checkpoint. -/
def switchOf (pipeline : Pipeline σ ρ) : Switch :=
  { siteId := pipeline.siteId, requestId := pipeline.requestId, operation := pipeline.operation
    target := pipeline.target, revision := pipeline.revision }

def phases (switch : Switch) (start : Option SysNode) (actor : ι) (σ ρ : Type) :
    Phases (RecordedSystem ι) σ ρ where
  idle := At switch actor false false (Untouched start)
  admitted record := At switch actor false false (Live switch start false false record)
  prepared record := At switch actor true false (Live switch start true false record)
  ready record := At switch actor true false (Live switch start true false record)
  switched record _ := At switch actor true true (Live switch start true true record)
  aborted record _ recorded :=
    ∃ wrote, At switch actor wrote false (Live switch start wrote false record) recorded
  closing _ := Final switch start actor
  ended _ := Final switch start actor

theorem stage_every {allowed : SysOp → Prop}
    (asking : ∀ operation, Asking operation → allowed operation)
    (sourced : ∀ identity, (pipeline.source identity).Every allowed) :
    pipeline.stage.Every allowed := by
  have checked : (checkCancelled : Action (Except (ReleaseError σ ρ) Unit)).Every allowed := by
    apply Program.every_call_bind (asking _ ⟨_, rfl⟩)
    intro cancelled
    split <;> trivial
  apply (Staging.resolveSiteIdentity_every.mono asking).bind
  intro identified
  split
  · trivial
  apply checked.bind
  intro cancelled
  split
  · trivial
  apply (sourced _).bind
  intro obtained
  split
  · trivial
  apply checked.bind
  intro cancelled
  split
  · trivial
  apply (Validate.validateStagedRelease_every.mono asking).bind
  intro validated
  split
  · trivial
  · exact checked

theorem safe_fail {error : ReleaseError σ ρ} {wrote : Bool}
    (here : At (switchOf pipeline) actor wrote false
      (Live (switchOf pipeline) start wrote false record) recorded) :
    Safe host.recorded (requesting (switchOf pipeline) start actor) actor
      (fun _ => Final (switchOf pipeline) start actor) (pipeline.fail record error) recorded := by
  apply preserves_live.call_bind (fun _ => False.elim) here
  intro now recorded here
  obtain ⟨status, version, operation⟩ := pipeline.failed_spec here.holds.inProgress error now
  have own : Own (switchOf pipeline) record := here.holds.own
  have failed : (pipeline.failed record error now).status = verdict false := status
  apply (safe_save ⟨operation.trans own.operation, version.trans own.current⟩ failed here).seq
  intro _ recorded final
  exact safe_audited (preserves_final.mono fun _ => aside_looking) (fun _ _ final => final) final

theorem safe_record {previous : Option ReleaseId} (here : At (switchOf pipeline) actor true true
      (Live (switchOf pipeline) start true true record) recorded) :
    Safe host.recorded (requesting (switchOf pipeline) start actor) actor
      (fun _ => Final (switchOf pipeline) start actor) (pipeline.record record previous) recorded := by
  apply preserves_live.call_bind (fun _ => False.elim) here
  intro now recorded here
  apply preserves_live.call_bind (fun _ => False.elim) here
  intro finishedAt recorded here
  simp only [TransactionState.markCommitted, TransactionState.finish, here.holds.inProgress, if_pos]
  have own : Own (switchOf pipeline) record := here.holds.own
  apply Safe.bind
  refine Safe.mono ?_ (safe_save ?_ ?_ here)
  rotate_left
  · exact ⟨own.operation, own.current⟩
  · rfl
  intro saved recorded final
  cases saved with
  | error error => exact final
  | ok _ =>
  exact safe_audited (preserves_final.mono fun _ => aside_looking) (fun _ _ final => final) final

theorem obligations
    (sourced : ∀ identity, (pipeline.source identity).Every (Aside (switchOf pipeline))) :
    pipeline.Obligations host.recorded (requesting (switchOf pipeline) start actor) actor
      (phases (switchOf pipeline) start actor σ ρ) where
  mismatched _ idle := idle.final_of_untouched
  unopened _ idle := idle.final_of_untouched
  opened _ idle := preserves_untouched.safe (openSiteState_every.mono fun _ => aside_looking) idle
  entered _ idle := by
    apply (safe_preflight idle).mono
    intro entered recorded here
    rcases entered with error | (record | original)
    · exact here.final_of_untouched
    · exact here
    · exact here
  retried original _ idle := by
    apply (preserves_untouched.safe
      ((pipeline.retried_every original).mono fun _ => aside_looking) idle).mono
    exact fun _ _ idle => idle.final_of_untouched
  prepared _ _ here := by
    apply (safe_prepare here).mono
    intro prepared recorded here
    cases prepared with
    | error error => exact ⟨false, here⟩
    | ok _ => exact here
  staged _ _ here := by
    have every := stage_every (fun operation (asking : Asking operation) => by
      obtain ⟨query, rfl⟩ := asking
      exact aside_looking within_ask) sourced
    apply (preserves_live.safe every here).mono
    intro staged recorded here
    cases staged with
    | error error => exact ⟨true, here⟩
    | ok _ => exact here
  activated _ _ here := by
    apply (safe_activating (preserves_live.mono fun _ => aside_looking) (fun _ here => here)
      (fun _ => safe_switch) here).mono
    intro activated recorded here
    cases activated with
    | error error => exact ⟨true, here⟩
    | ok previous => exact here
  failed _ _ _ here := by
    obtain ⟨wrote, here⟩ := here
    exact safe_fail here
  recorded _ _ _ here := safe_record here
  unlocked _ _ final := by
    have every : (unlock Preflight.lockPath).Every (Aside (switchOf pipeline)) :=
      Program.every_call.mpr fun _ => False.elim
    exact preserves_final.safe every final
  pruned _ _ final := by
    refine preserves_final.safe (Cleanup.pruneOldReleases_every.mono fun _ pruning => ?_) final
    cases pruning with
    | openDir | list | modified => exact fun _ => False.elim
    | remove release =>
      intro path same
      rw [show path = releasePath release from same]
      simp

end Pipeline

end OpsEngine.Verdict
