import OpsEngine.Deploy.Interrupted

namespace OpsEngine

open Effect Files Verdict
open Preflight (lockPath)

/-! # What a deployment recovery says is what happened -/

variable {ι : Type}

def SiteRequest.switch : SiteRequest → Switch
  | .deploy manifest request => switchOf (Deploy.pipeline manifest request)
  | .rollback manifest request => switchOf (Rollback.pipeline manifest request)

theorem SiteRequest.supported (request : SiteRequest) : request.switch.Supported := by
  cases request with
  | deploy manifest request =>
    refine ⟨rfl, fun record previous same => ?_⟩
    have deploys : record.operation = .siteDeploy := same
    simp [Recovery.consistent, Switch.checkpoint, Recovery.checkpoint, SiteRequest.switch, switchOf,
      Deploy.pipeline, deploys]
  | rollback manifest request =>
    refine ⟨rfl, fun record previous same => ?_⟩
    have rollsBack : record.operation = .siteRollback := same
    simp [Recovery.consistent, Switch.checkpoint, Recovery.checkpoint, SiteRequest.switch, switchOf,
      Rollback.pipeline, rollsBack]

theorem SiteRequest.switch_ids (request : SiteRequest) :
    request.switch.siteId = request.siteId ∧ request.switch.requestId = request.requestId ∧
      request.switch.target = request.target := by
  cases request <;> exact ⟨rfl, rfl, rfl⟩

theorem deploy_source_every {repository : RepositoryPolicy} {request : Deploy.Request}
    {identity : SiteIdentity} :
    (Deploy.source repository request identity).Every (·.Within fun path => path.dir = .releases) := by
  have asking : ∀ operation : SysOp, Asking operation →
      operation.Within fun path => path.dir = .releases := by
    rintro _ ⟨query, rfl⟩
    exact within_ask
  apply (Resolve.resolveAllowedRevision_every.mono asking).bind
  intro resolved
  split
  · trivial
  apply (Program.every_call_bind within_ask fun cancelled => by split <;> trivial).bind
  intro checked
  split
  · trivial
  refine Program.Every.bind ?_ fun prepared => by split <;> trivial
  unfold Staging.prepare
  split
  · trivial
  apply Program.every_call_bind ⟨fun _ => False.elim, fun _ => id⟩
  intro opened
  split
  · trivial
  apply Program.every_call_bind ⟨fun _ => False.elim, fun _ => id⟩
  intro made
  split
  · trivial
  refine Program.every_call_bind ⟨fun path same => ?_, fun _ => id⟩ fun created => ?_
  · rw [show path = _ from same]
    rfl
  split
  · trivial
  · trivial
  apply Program.every_call_bind ⟨fun _ => False.elim, fun _ => id⟩
  intro found
  split
  · trivial
  · exact Staging.populate_every.mono asking

theorem rollback_source_every {request : Rollback.Request} :
    (Rollback.source request).Every (·.Within fun path => path.dir = .releases) := by
  refine Program.Every.bind ?_ fun found => by split <;> trivial
  apply Program.every_call_bind ⟨fun _ => False.elim, fun _ => id⟩
  intro opened
  split
  · trivial
  apply Program.every_call_bind ⟨fun _ => False.elim, fun _ => id⟩
  intro found
  split
  · trivial
  apply Program.every_call_bind ⟨fun _ => False.elim, fun _ => id⟩
  intro again
  split <;> trivial

theorem releases_aside {switch : Switch} {operation : SysOp}
    (within : operation.Within fun path => path.dir = .releases) : Aside switch operation :=
  aside_within (fun path dir => by
    refine ⟨?_, ?_, ?_⟩ <;> rintro rfl <;> cases dir) within

instance : Nonempty SysChoice := ⟨healthyChoice 0⟩

variable [DecidableEq ι]

theorem safe_request {request : SiteRequest} {actor : ι} {recorded : RecordedSystem ι}
    {start : Option SysNode}
    (idle : At request.switch actor false false (Untouched start) recorded) :
    Safe host.recorded (requesting request.switch start actor) actor
      (fun _ => Final request.switch start actor) request.program recorded := by
  cases request with
  | deploy manifest request =>
    apply Safe.bind
    exact (obligations fun identity =>
      deploy_source_every.mono fun _ => releases_aside).safe_execute idle
  | rollback manifest request =>
    apply Safe.bind
    exact (obligations fun _ =>
      rollback_source_every.mono fun _ => releases_aside).safe_execute idle

/-- What may happen after the request was killed: others that spare its files,
and recoveries of it, each killed anywhere or run to its end. -/
inductive Afterwards (request : SiteRequest) (crashed : System ι) : System ι → Prop where
  | refl : Afterwards request crashed crashed
  | spared {before after : System ι} (since : Afterwards request crashed before)
      (moved : Spares request.switch before after) : Afterwards request crashed after
  | recovered {before after : System ι} {rest : Action (Except Recovery.Error Recovery.OperationStatus)}
      (recoverer : ι) (since : Afterwards request crashed before)
      (reached : Reaches host (Spares request.switch) recoverer
        (Recovery.execute request.siteId request.requestId) before rest after) :
      Afterwards request crashed (host.exit recoverer after)

/-- The request's record has the status, or its retention is over. -/
def Marked (request : SiteRequest) (status : TransactionStatus) (state : System ι) : Prop :=
  state.node (statePath request.requestId) = none ∨
    ∃ record, Holds (state.node (statePath request.requestId)) (.record record) ∧
      record.status = status

/-- Recovery of the request, from here on, tells whether the switch happened. -/
structure Truthful (request : SiteRequest) (current : Option SysNode) (switched : Bool)
    (later : System ι) : Prop where
  unchanged : later.node currentPath = current
  verdict : ∀ recoverer status after,
    Reaches host (Spares request.switch) recoverer
      (Recovery.execute request.siteId request.requestId) later (.done (.ok status)) after →
    status.transaction.status = verdict switched ∧ Marked request (verdict switched) after ∧
      after.node currentPath = current
  /-- On a healthy machine, with the lock free and the record still there. -/
  returns : ∀ recoverer choices, (∀ index, Healthy (choices index)) →
    later.locks lockPath = none → later.Regular lockPath →
    later.Regular (tempSiblingPath (statePath request.requestId)) →
    later.node (statePath request.requestId) ≠ none →
    ∃ status, (host.solo recoverer choices
      (Recovery.execute request.siteId request.requestId) later).1 = .ok status

section Truthful

variable {request : SiteRequest} {start : Option SysNode} {previous : Option ReleaseId}
  {switched : Bool} {crashed later : System ι}
  (apart : start ≠ some (.link (releasePath request.switch.target))) (was : Named start previous)
include apart was

theorem safe_recovery {recoverer : ι}
    (truth : Truth request.switch start previous switched (facts request.switch later)) :
    Safe host (recovering request.switch start previous switched) recoverer
      (fun result after =>
        Truth request.switch start previous switched (facts request.switch after) ∧
        ∀ status, result = .ok status → status.transaction.status = verdict switched ∧
          Settled request.switch start switched (facts request.switch after))
      (Recovery.execute request.siteId request.requestId) later := by
  have safe : Safe host (recovering request.switch start previous switched) recoverer _
      (Recovery.execute request.switch.siteId request.switch.requestId) later :=
    safe_execute request.supported apart was truth
  rw [request.switch_ids.1, request.switch_ids.2.1] at safe
  exact safe

theorem truth_afterwards
    (truth : Truth request.switch start previous switched (facts request.switch crashed))
    (since : Afterwards request crashed later) :
    Truth request.switch start previous switched (facts request.switch later) := by
  induction since with
  | refl => exact truth
  | spared _ moved ih => exact ih.spared moved.facts
  | recovered recoverer _ reached ih =>
    rename_i before after rest _
    have left := (safe_recovery apart was ih).reached reached
    cases rest with
    | done result => exact left.1
    | perform operation next => exact left

omit apart was [DecidableEq ι] in
theorem current_of_truth
    (truth : Truth request.switch start previous switched (facts request.switch later)) :
    later.node currentPath = currentNode request.switch start switched := by
  rcases truth with ⟨_, pending⟩ | settled
  · exact pending.current
  · exact settled.current

theorem truthful_of_truth
    (truth : Truth request.switch start previous switched (facts request.switch later)) :
    Truthful request (currentNode request.switch start switched) switched later where
  unchanged := current_of_truth truth
  verdict recoverer status after reached := by
    obtain ⟨kept, told⟩ := (safe_recovery apart was truth).reached reached
    obtain ⟨same, settled⟩ := told status rfl
    refine ⟨same, ?_, current_of_truth kept⟩
    have record := settled.record
    simp only [facts, request.switch_ids.2.1] at record
    rcases record with gone | ⟨record, stored, _, marked⟩
    · exact .inl gone
    · exact .inr ⟨record, stored, marked⟩
  returns recoverer choices healthy free lockFile temp recorded := by
    rw [← request.switch_ids.1, ← request.switch_ids.2.1]
    rw [← request.switch_ids.2.1] at temp recorded
    exact (healthy_execute request.supported was truth recorded temp lockFile free).solo
      fun index _ _ => healthy index

end Truthful

/-- A deploy or rollback, amid others that leave `current` and its own files
alone, is killed anywhere after it has written its checkpoint; what it has done
is what its journal says.  Then, whatever recoveries of it were started and
killed since, `current` is where it was, and a recovery that returns a verdict
says committed exactly if the request had switched `current`, and failed
otherwise. -/
theorem recovery_truthful (request : SiteRequest) (actor : ι) (state : System ι)
    (moves : state.node currentPath ≠ some (.link (releasePath request.target)))
    (rest : Action SiteResponse) (crashed : RecordedSystem ι)
    (reached : Reaches host.recorded (Beside actor (Spares request.switch)) actor request.program
      (.start state) rest crashed)
    (written : (crashed.journals actor).any (wroteCheckpoint request.requestId) = true)
    (later : System ι) (since : Afterwards request (host.exit actor crashed.state) later) :
    (crashed.state.node currentPath = some (.link (releasePath request.target)) ↔
      (crashed.journals actor).any (switchedTo request.target) = true) ∧
    Truthful request (crashed.state.node currentPath)
      ((crashed.journals actor).any (switchedTo request.target)) later := by
  obtain ⟨_, sameId, sameTarget⟩ := request.switch_ids
  rw [← sameTarget] at moves ⊢
  rw [← sameId] at written
  have idle : At request.switch actor false false (Untouched (state.node currentPath))
      (Recorded.start state) := ⟨⟨rfl, rfl⟩, rfl⟩
  have final : Final request.switch (state.node currentPath) actor crashed := by
    have left := (safe_request idle).reached reached
    cases rest with
    | done result => exact left
    | perform operation next => exact left
  obtain ⟨previous, was, truth⟩ := final.truth written
  refine ⟨?_, ?_⟩
  · rw [final.current]
    cases (crashed.journals actor).any (switchedTo request.switch.target) with
    | true => simp [currentNode]
    | false => simpa [currentNode] using moves
  · have exited : Truth request.switch (state.node currentPath) previous
        ((crashed.journals actor).any (switchedTo request.switch.target))
        (facts request.switch (host.exit actor crashed.state)) := truth
    rw [final.current]
    exact truthful_of_truth moves was (truth_afterwards moves was exited since)

def firstDeploy : SiteRequest :=
  .deploy sampleManifest
    { siteId := sampleSite, revision := sampleRevision, requestId := .numbered 6
      idempotencyKey := none }

def killedDeploy (count : Nat) : RecordedSystem Bool :=
  (host.recorded.advance false (List.replicate count siteChoice) firstDeploy.program
    (.start Disk.empty)).2

def killedRecovery (count : Nat) (state : System Bool) : System Bool :=
  host.exit true (host.advance true (List.replicate count siteChoice)
    (Recovery.execute firstDeploy.siteId firstDeploy.requestId) state).2

/-- Killed between the switch and saving its record, and its recovery killed
while it holds the lock. -/
theorem killed_after_switch :
    ((killedDeploy 55).journals false).any (switchedTo firstDeploy.target) = true ∧
    Truthful firstDeploy ((killedDeploy 55).state.node currentPath) true
      (killedRecovery 12 (host.exit false (killedDeploy 55).state)) := by
  have switched : ((killedDeploy 55).journals false).any (switchedTo firstDeploy.target) = true := by
    decide +kernel
  have told := recovery_truthful firstDeploy false Disk.empty (by simp) _ (killedDeploy 55)
    (.advance _ _ _) (by decide +kernel)
    (killedRecovery 12 (host.exit false (killedDeploy 55).state))
    (.recovered true .refl (.advance _ _ _))
  exact ⟨switched, told.2⟩

end OpsEngine
