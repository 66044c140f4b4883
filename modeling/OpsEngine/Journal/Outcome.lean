import OpsEngine.Journal.Append
import OpsEngine.Mutation.Attempt
import OpsEngine.Mutation.Contract

namespace OpsEngine.ChangeLog

open Effect Files Preflight

/-! # What the journal tells of admitted requests

A request is admitted by the keys and records of its scope: its site's, the one of all
manifests, or the engine's.  The journal is one for all of them.
-/

inductive Scope where
  | site (site : SiteId)
  | manifests
  | engine
deriving DecidableEq

/-- Only the engine's operations name no site. -/
def Plan.scope (plan : Plan) : Scope :=
  if plan.action = .siteRenameManifest then .manifests else plan.site.elim .engine .site

def Action.operation : Action → Operation
  | .siteDeploy => .siteDeploy
  | .siteRollback => .siteRollback
  | .siteRenameManifest => .other "site.renameManifest"
  | .siteUnenroll => .other "site.unenroll"
  | .engineInstall => .engineInstall
  | .engineRollback => .engineRollback

def Response.success : Response := ⟨true, none⟩

def Response.failure (code : ErrorCode) : Response := ⟨false, some code⟩

/-- What the work of a request comes to. -/
abbrev WorkResult : Type := Except (ErrorCode × String) Json

/-- A result whose record could not be saved is answered as a success too. -/
def Response.of : WorkResult → Response
  | .ok _ => .success
  | .error (code, _) => .failure code

/-- An answer, and whether the request was admitted and did its work for it. -/
structure Answered where
  plan : Plan
  response : Response
  admitted : Bool

/-- An answer of this kind gets an entry. -/
def Answered.journaled (answered : Answered) : Bool :=
  answered.response.ok || answered.response.error != some .invalidInput

def Plan.attempt (plan : Plan) (result : WorkResult) : Attempt where
  requestId := plan.requestId
  idempotencyKey := plan.idempotencyKey
  operation := plan.action.operation
  ending :=
    { result, unlockFirst := plan.action ∈ [.engineInstall, .engineRollback] && result.isOk }

section Source

-- whether the result that some operation stored reads as a result of this one
variable (decodes : Action → Json → Bool)

def replay (action : Action) (original : RequestId) : OpsEngine.Action Response := do
  match ← TransactionState.load (statePath original) with
  | .error _ => return .failure .internal
  | .ok loaded =>
    -- the others take the record of any operation of their scope
    if action ∈ [.siteRenameManifest, .siteUnenroll] ∧ loaded.operation ≠ action.operation then
      return .failure .internal
    else
      match loaded.status, loaded.outcome with
      | .inProgress, _ => return .failure .conflict
      | .committed, some { result := some result, .. } =>
        return if decodes action result then .success else .failure .internal
      | .failed, some outcome => return .failure (outcome.errorCode.getD .internal)
      | _, _ => return .failure .internal

/-- One of the operations, from its preflight on. -/
def answer (plan : Plan) (result : WorkResult) : OpsEngine.Action Answered := do
  match ← (plan.attempt result).program with
  | .error (.lock _) => return ⟨plan, .failure .conflict, false⟩
  | .error _ => return ⟨plan, .failure .internal, false⟩
  | .ok (.replay original) => return ⟨plan, ← replay decodes plan.action original, false⟩
  | .ok (.proceed _) => return ⟨plan, .of result, true⟩

structure World where
  scopes : Scope → System Bool
  log : Segments
  /-- what was answered so far -/
  answers : List Answered

inductive Event where
  | request (plan : Plan) (result : WorkResult) (choices : Nat → SysChoice)
  /-- a request that fails before its preflight -/
  | refuse (plan : Plan) (code : ErrorCode)
  /-- another process takes the mutation lock of a scope, or drops it -/
  | hold (scope : Scope)
  | release (scope : Scope)

variable (size : Entry → Nat)

def World.enter (world : World) (scope : Scope) (disk : System Bool) : World :=
  { world with scopes := Function.update world.scopes scope disk }

def World.record (world : World) (answered : Answered) : World :=
  { world with
    log := write size world.log answered.plan answered.response
    answers := answered :: world.answers }

def World.answer (world : World) (plan : Plan) (result : WorkResult) (choices : Nat → SysChoice) :
    Answered × System Bool :=
  host.solo false choices (ChangeLog.answer decodes plan result) (world.scopes plan.scope)

def World.step (world : World) : Event → World
  | .request plan result choices =>
    let answered := world.answer decodes plan result choices
    (world.enter plan.scope answered.2).record size answered.1
  | .refuse plan code => world.record size ⟨plan, .failure code, false⟩
  | .hold scope => world.enter scope ((world.scopes scope).grant true lockPath)
  | .release scope => world.enter scope ((world.scopes scope).unlock true lockPath)

def World.run (world : World) (events : List Event) : World :=
  events.foldl (World.step decodes size) world

end Source

/-- The transaction of the request is Committed. -/
def committed (disk : System Bool) (requestId : RequestId) : Bool :=
  match disk.node (statePath requestId) with
  | some (.file _ (some (.record record))) => record.status = .committed
  | _ => false

section History

variable (decodes : Action → Json → Bool) (size : Entry → Nat)

end History

/-- Every entry is that of an answer given before. -/
def World.Heard (world : World) : Prop :=
  ∀ entry ∈ world.log.active ++ world.log.rotated, ∃ earlier ∈ world.answers,
    earlier.journaled = true ∧ entry.id = earlier.plan.requestId ∧
      entry.idempotencyKey = earlier.plan.idempotencyKey

variable {decodes : Action → Json → Bool} {size : Entry → Nat} {world : World} {plan : Plan}
  {result : WorkResult} {requestId : RequestId}

/-! ## A failed request leaves no committed record -/

/-- One request at a time in its scope, whatever fails. -/
abbrev alone : Discipline SysOp (System Bool) Bool SysChoice := .alone (fun _ => True) fun _ _ => True

theorem committed_congr {before after : System Bool}
    (same : after.node (statePath requestId) = before.node (statePath requestId)) :
    committed after requestId = committed before requestId := by
  unfold committed
  rw [same]

theorem committed_of_record {disk : System Bool} {inode : Nat} {record : TransactionState}
    (stored : disk.node (statePath requestId) = some (.file inode (some (.record record))))
    (ended : record.status ≠ .committed) : committed disk requestId = false := by
  simp [committed, stored, ended]

/-- The request is registered and its record says so. -/
structure Registered (requestId : RequestId) (record : TransactionState) (disk : System Bool) :
    Prop where
  running : record.status = .inProgress
  uncommitted : committed disk requestId = false

theorem preserves_anything {actor : Bool} {allowed : SysOp → Prop} :
    Preserves host alone actor allowed fun _ => True :=
  ⟨stable_alone _, fun _ _ _ _ _ _ => ⟨trivial, trivial⟩⟩

theorem safe_anything {α : Type} {actor : Bool} (program : OpsEngine.Action α) (disk : System Bool) :
    Safe host alone actor (fun _ _ => True) program disk :=
  safe_of_keeps (fun _ _ _ => trivial) program disk

theorem preserves_uncommitted {actor : Bool} :
    Preserves host alone actor (fun step => ¬ step.Touches (statePath requestId))
      fun disk => committed disk requestId = false :=
  ⟨stable_alone _, fun _ _ _ untouched open_ _ =>
    ⟨trivial, (committed_congr (Disk.exec_node untouched)).trans open_⟩⟩

theorem safe_create {actor : Bool} {disk : System Bool} {record : TransactionState}
    (running : record.status = .inProgress) :
    Safe host alone actor
      (Outcomes (fun _ => Registered requestId record) fun _ _ => True)
      (record.create (statePath requestId)) disk := by
  apply Safe.bind
  apply alone_call_bind trivial
  intro choice _
  refine machine_openNew (fun error => by cases error <;> trivial) ?_
  apply alone_call trivial
  intro choice _
  refine machine_write trivial ⟨running, ?_⟩
  have opened : (disk.createFile (statePath requestId)).2.node (statePath requestId) =
      some (.file disk.nextInode none) := by simp
  exact committed_of_record (Disk.node_fill_opened opened _) (by simp [running])

theorem contract {actor : Bool} {key : Option IdempotencyKey} {operation : Operation} :
    Preflight.Contract alone actor requestId key operation (fun _ => True) (fun _ => True)
      (Registered requestId) where
  swept _ _ := safe_anything _ _
  calmBefore := preserves_anything
  calmHeld := preserves_anything
  refused _ _ _ _ _ _ := trivial
  granted _ _ _ _ _ _ _ := ⟨trivial, trivial⟩
  released _ _ _ _ := ⟨trivial, trivial⟩
  created _ _ _ := safe_create rfl
  calmRegistered _ :=
    ⟨stable_alone _, fun step choice disk within registered admitted =>
      ⟨trivial, registered.running,
        (preserves_uncommitted.step step choice disk (fun touched => within.nodes _ touched)
          registered.uncommitted admitted).2⟩⟩
  unregistered _ _ _ := trivial

theorem replaceContract {actor : Bool} {record : TransactionState}
    (ended : record.status ≠ .committed) :
    ReplaceContract alone actor (statePath requestId) (.record record)
      (fun disk => committed disk requestId = false)
      (fun disk => committed disk requestId = false) where
  stable := stable_alone _
  stableTemp _ := stable_alone _
  quiet step choice disk preparing uncommitted admitted :=
    preserves_uncommitted.step step choice disk
      (fun touched => tempSiblingPath_ne _ (preparing.within.nodes _ touched)) uncommitted admitted
  refused _ _ _ _ _ _ := trivial
  replaced _ disk inode _ _ _ := by
    have stored : ((disk.drop (tempSiblingPath (statePath requestId))).put (statePath requestId)
        (.file inode (some (.record record)))).node (statePath requestId) =
          some (.file inode (some (.record record))) := by simp
    exact ⟨trivial, committed_of_record stored ended⟩

theorem mark_failed {ending : Ending} {failure : ErrorCode × String} {record : TransactionState}
    (failed : ending.result = .error failure) (running : record.status = .inProgress) (now : Nat) :
    (ending.mark record now).status = .failed := by
  simp [Ending.mark, failed, TransactionState.markFailed, TransactionState.finish, running]

theorem safe_conclude {actor : Bool} {ending : Ending} {failure : ErrorCode × String}
    {record : TransactionState} {disk : System Bool} (failed : ending.result = .error failure)
    (registered : Registered requestId record disk) :
    Safe host alone actor (fun _ disk => committed disk requestId = false)
      (conclude ending requestId record) disk := by
  have quiet : Preserves host alone actor _ fun disk : System Bool =>
    committed disk requestId = false := preserves_uncommitted
  have saves : ∀ now disk, committed disk requestId = false →
      Safe host alone actor (fun _ disk => committed disk requestId = false)
        ((ending.mark record now).save (statePath requestId)) disk := by
    intro now disk uncommitted
    have ended : (ending.mark record now).status ≠ .committed := by
      simp [mark_failed failed registered.running]
    apply Safe.bind
    refine (safe_writeAtomic (replaceContract ended) uncommitted).mono fun written disk left => ?_
    cases written <;> exact left
  refine quiet.call_bind id registered.uncommitted ?_
  intro now disk uncommitted
  split
  · refine quiet.call_bind id uncommitted ?_
    intro _ disk uncommitted
    exact (saves now disk uncommitted).seq fun _ _ left => left
  · exact (saves now disk uncommitted).seq fun _ _ left =>
      quiet.safe (Program.every_call.mpr id) left

/-- An admitted request is answered by what its work came to, and leaves no committed record
where it failed. -/
structure Settled (plan : Plan) (result : WorkResult) (answered : Answered)
    (after : System Bool) : Prop where
  own : answered.plan = plan
  told : answered.admitted = true → answered.response = .of result
  uncommitted : answered.admitted = true → (Response.of result).ok = false →
    committed after plan.requestId = false

theorem safe_answer (disk : System Bool) :
    Safe host alone false (Settled plan result) (answer decodes plan result) disk := by
  have refused : ∀ response disk, Settled plan result ⟨plan, response, false⟩ disk :=
    fun _ _ => ⟨rfl, nofun, nofun⟩
  unfold answer Attempt.program
  apply Safe.bind
  refine Safe.seq (contract.safe_run trivial) ?_
  intro entered disk holds
  rcases entered with error | (record | original)
  · cases error <;> exact refused _ _
  · cases result with
    | ok value =>
      refine (safe_anything _ _).seq fun _ disk _ => ?_
      exact ⟨rfl, fun _ => rfl, nofun⟩
    | error failure =>
      refine (safe_conclude rfl holds).seq fun _ disk uncommitted => ?_
      exact ⟨rfl, fun _ => rfl, fun _ _ => uncommitted⟩
  · exact (safe_anything _ _).seq fun _ disk _ => refused _ disk

theorem settled (world : World) (plan : Plan) (result : WorkResult) (choices : Nat → SysChoice) :
    Settled plan result (world.answer decodes plan result choices).1
      (world.answer decodes plan result choices).2 :=
  (safe_answer _).solo fun _ _ _ => trivial

/-! ## Whole histories -/

theorem World.Heard.record (heard : world.Heard) (answered : Answered) :
    (world.record size answered).Heard := by
  intro entry stored
  rcases mem_write.mp stored with before | ⟨_, made, some, rfl⟩
  · obtain ⟨earlier, member, rest⟩ := heard entry before
    exact ⟨earlier, List.mem_cons_of_mem _ member, rest⟩
  · refine ⟨answered, List.mem_cons_self, ?_, rfl, rfl⟩
    by_contra silent
    simp_all [Answered.journaled, ChangeLog.entry]

theorem World.Heard.step (heard : world.Heard) (event : Event) :
    (world.step decodes size event).Heard := by
  cases event with
  | request plan result choices =>
    have entered : (world.enter plan.scope (world.answer decodes plan result choices).2).Heard := heard
    exact entered.record _
  | refuse plan code => exact heard.record _
  | hold scope | release scope => exact heard

end OpsEngine.ChangeLog
