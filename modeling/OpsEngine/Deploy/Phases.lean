import OpsEngine.Deploy.Operations

namespace OpsEngine

open Effect Files

/-! # The phases of a release pipeline

One walk through the pipeline for every property of it: a property names what
holds in each phase and shows that each step leads from its phase to the next.
-/

/-- What holds in each phase.  `aborted` is a failure before the commit point,
`closing` is the end of the work under the lock, `ended` is after the lock. -/
structure Phases (State σ ρ : Type) where
  idle : State → Prop
  admitted : TransactionState → State → Prop
  prepared : TransactionState → State → Prop
  ready : TransactionState → State → Prop
  switched : TransactionState → Option ReleaseId → State → Prop
  aborted : TransactionState → ReleaseError σ ρ → State → Prop
  closing : Except (ReleaseError σ ρ) ρ → State → Prop
  ended : Except (ReleaseError σ ρ) ρ → State → Prop

section Walk

variable {State Actor σ ρ : Type}
  {machine : Machine SysOp (Op.Result Answer) State Actor SysChoice}
  {discipline : Discipline SysOp State Actor SysChoice} {actor : Actor}
  {pipeline : Pipeline σ ρ} {phases : Phases State σ ρ}

/-- What preflight leaves a pipeline with. -/
def Phases.Entered (phases : Phases State σ ρ) : Except Preflight.Error Preflight.Outcome →
    State → Prop
  | .ok (.proceed record), state => phases.admitted record state
  | .ok (.replay _), state => phases.idle state
  | .error error, state => phases.ended (.error (.preflight error)) state

/-- Every step of the pipeline leads from its phase to the next. -/
structure Pipeline.Obligations (machine : Machine SysOp (Op.Result Answer) State Actor SysChoice)
    (discipline : Discipline SysOp State Actor SysChoice) (actor : Actor) (pipeline : Pipeline σ ρ)
    (phases : Phases State σ ρ) : Prop where
  mismatched : ∀ state, phases.idle state → phases.ended (.error .contentRootMismatch) state
  unopened : ∀ state, phases.idle state → phases.ended (.error .io) state
  opened : ∀ state, phases.idle state →
    Safe machine discipline actor (fun _ => phases.idle) openSiteState state
  entered : ∀ state, phases.idle state →
    Safe machine discipline actor phases.Entered
      (Preflight.run pipeline.requestId pipeline.idempotencyKey pipeline.operation) state
  retried : ∀ original state, phases.idle state →
    Safe machine discipline actor phases.ended (pipeline.retried original) state
  prepared : ∀ record state, phases.admitted record state →
    Safe machine discipline actor
      (Outcomes (fun _ => phases.prepared record) fun error => phases.aborted record (.recovery error))
      (Recovery.prepare pipeline.siteId pipeline.requestId pipeline.operation pipeline.target
        pipeline.revision) state
  staged : ∀ record state, phases.prepared record state →
    Safe machine discipline actor
      (Outcomes (fun _ => phases.ready record) (phases.aborted record)) pipeline.stage state
  activated : ∀ record state, phases.ready record state →
    Safe machine discipline actor
      (Outcomes (phases.switched record) fun error => phases.aborted record (.activate error))
      (Activate.activate pipeline.target) state
  failed : ∀ record error state, phases.aborted record error state →
    Safe machine discipline actor (fun _ => phases.closing (.error error))
      (pipeline.fail record error) state
  recorded : ∀ record previous state, phases.switched record previous state →
    Safe machine discipline actor phases.closing (pipeline.record record previous) state
  unlocked : ∀ result state, phases.closing result state →
    Safe machine discipline actor (fun _ => phases.ended result) (unlock Preflight.lockPath) state
  pruned : ∀ result state, phases.ended (.ok result) state →
    Safe machine discipline actor (fun _ => phases.ended (.ok result))
      (Cleanup.pruneOldReleases pipeline.target Cleanup.defaultRetainCount) state

variable (obligations : pipeline.Obligations machine discipline actor phases)
include obligations

variable {state : State} {record : TransactionState}

theorem Pipeline.Obligations.safe_work (holds : phases.admitted record state) :
    Safe machine discipline actor (Outcomes (phases.switched record) (phases.aborted record))
      pipeline.work state := by
  refine (obligations.prepared record state holds).attempt (fun _ _ holds => holds) ?_
  intro _ state holds
  refine (obligations.staged record state holds).attempt (fun _ _ holds => holds) ?_
  intro _ state holds
  refine (obligations.activated record state holds).attempt (fun _ _ holds => holds) ?_
  intro previous state holds
  exact holds

theorem Pipeline.Obligations.safe_admitted (holds : phases.admitted record state) :
    Safe machine discipline actor phases.ended (pipeline.admitted record) state := by
  apply (obligations.safe_work holds).seq
  intro worked state holds
  cases worked with
  | error error =>
    apply (obligations.failed record error state holds).seq
    intro _ state holds
    apply Safe.bind
    exact obligations.unlocked _ state holds
  | ok previous =>
  apply (obligations.recorded record previous state holds).seq
  intro recorded state holds
  apply (obligations.unlocked recorded state holds).seq
  intro _ state holds
  cases recorded with
  | error error => exact holds
  | ok result =>
    apply Safe.bind
    exact obligations.pruned result state holds

theorem Pipeline.Obligations.safe_execute (holds : phases.idle state) :
    Safe machine discipline actor phases.ended pipeline.execute state := by
  unfold Pipeline.execute
  split
  · exact obligations.mismatched state holds
  refine (obligations.opened state holds).attempt
    (fun _ state holds => obligations.unopened state holds) ?_
  intro _ state holds
  apply (obligations.entered state holds).seq
  intro entered state holds
  rcases entered with error | (record | original)
  · exact holds
  · exact obligations.safe_admitted holds
  · exact obligations.retried original state holds

end Walk

section Stage

variable {State Actor σ ρ : Type}
  {machine : Machine SysOp (Op.Result Answer) State Actor SysChoice}
  {discipline : Discipline SysOp State Actor SysChoice} {actor : Actor}
  {pipeline : Pipeline σ ρ} {before after : State → Prop}
  {aborted : ReleaseError σ ρ → State → Prop}

/-- The errors of `stage` that do not come from obtaining the release. -/
inductive StageError : ReleaseError σ ρ → Prop where
  | identity (error : Staging.IdentityError) : StageError (.identity error)
  | cancelled : StageError .cancelled
  | validate (error : Validate.Error) : StageError (.validate error)

variable {state : State} {assertion : State → Prop}

theorem safe_checkCancelled (asking : Preserves machine discipline actor Asking assertion)
    (aborts : ∀ error state, StageError error → assertion state → aborted error state)
    (holds : assertion state) :
    Safe machine discipline actor (Outcomes (fun _ => assertion) aborted)
      (checkCancelled : Action (Except (ReleaseError σ ρ) Unit)) state := by
  apply asking.call_bind ⟨_, rfl⟩ holds
  intro cancelled state holds
  cases cancelled with
  | true => exact aborts _ state .cancelled holds
  | false => exact holds

variable {identity : SiteIdentity}

theorem safe_validated (asking : Preserves machine discipline actor Asking assertion)
    (aborts : ∀ error state, StageError error → assertion state → aborted error state)
    {path : FilePath} (holds : assertion state) :
    Safe machine discipline actor (Outcomes (fun _ => assertion) aborted)
      (Pipeline.validated path identity : Action (Except (ReleaseError σ ρ) Unit)) state := by
  refine (safe_checkCancelled asking aborts holds).attempt (fun _ _ holds => holds) ?_
  intro _ state holds
  refine (asking.safe Validate.validateStagedRelease_every holds).attempt
    (fun error state holds => aborts _ state (.validate error) holds) ?_
  intro _ state holds
  exact safe_checkCancelled asking aborts holds

theorem safe_stage {obtained : FilePath → State → Prop}
    (asking : Preserves machine discipline actor Asking before)
    (aborts : ∀ error state, StageError error → before state → aborted error state)
    (sourced : ∀ identity state, before state →
      Safe machine discipline actor (Outcomes obtained aborted) (pipeline.source identity) state)
    (validated : ∀ path identity state, obtained path state →
      Safe machine discipline actor (Outcomes (fun _ => after) aborted)
        (Pipeline.validated path identity) state) (holds : before state) :
    Safe machine discipline actor (Outcomes (fun _ => after) aborted) pipeline.stage state := by
  refine (asking.safe Staging.resolveSiteIdentity_every holds).attempt
    (fun error state holds => aborts _ state (.identity error) holds) ?_
  intro identity state holds
  refine (safe_checkCancelled asking aborts holds).attempt (fun _ _ holds => holds) ?_
  intro _ state holds
  refine (sourced identity state holds).attempt (fun _ _ holds => holds) ?_
  intro path state holds
  exact validated path identity state holds

theorem safe_activating {ready done failed : State → Prop} {release : ReleaseId}
    (quiet : Preserves machine discipline actor (·.Within fun _ => False) ready)
    (fails : ∀ state, ready state → failed state)
    (switched : ∀ state, ready state → Safe machine discipline actor
      (Outcomes (fun _ => done) fun _ => failed) (Activate.switch release) state)
    (holds : ready state) : Safe machine discipline actor
      (Outcomes (fun _ => done) fun _ => failed) (Activate.activate release) state := by
  apply quiet.call_bind ⟨fun _ => False.elim, fun _ => id⟩ holds
  intro opened state holds
  split
  · exact fails state holds
  apply quiet.call_bind ⟨fun _ => False.elim, fun _ => id⟩ holds
  intro made state holds
  split
  · exact fails state holds
  have reading : Activate.readPreviousRelease.Every (·.Within fun _ => False) :=
    Program.every_call_bind ⟨fun _ => False.elim, fun _ => id⟩ fun _ => trivial
  refine (quiet.safe reading holds).attempt (fun _ state holds => fails state holds) ?_
  intro previous state holds
  exact (switched state holds).attempt (fun _ _ holds => holds) fun _ _ holds => holds

/-! How a release is obtained, from what is kept until it is in place and what is
kept after. -/

variable {ready : State → Prop}

theorem asking_within {operation : SysOp} (asking : Asking operation) {region : FilePath → Prop} :
    operation.Within region := by
  obtain ⟨query, rfl⟩ := asking
  exact within_ask

variable (quiet : Preserves machine discipline actor (·.Within fun _ => False) before)
  (kept : Preserves machine discipline actor (·.Within fun _ => False) ready)
  (unready : ∀ state, ready state → before state)
include quiet kept unready

theorem safe_deploy {aborted : Deploy.Error → State → Prop} {repository : RepositoryPolicy}
    {request : Deploy.Request} (fails : ∀ error state, before state → aborted (.source error) state)
    (aborts : ∀ error state, StageError error → before state → aborted error state)
    (created : ∀ state, before state →
      Safe machine discipline actor (Outcomes (fun _ => ready) fun _ => before)
        (createDir (releasePath (.ofRequest request.requestId))) state) (holds : before state) :
    Safe machine discipline actor (Outcomes (fun _ => ready) aborted)
      (Deploy.source repository request identity) state := by
  have asking : Preserves machine discipline actor Asking before :=
    quiet.mono fun _ asking => asking_within asking
  apply (asking.safe Resolve.resolveAllowedRevision_every holds).seq
  intro resolved state holds
  split
  · exact fails _ state holds
  refine (safe_checkCancelled asking aborts holds).attempt (fun _ _ aborted => aborted) ?_
  intro _ state holds
  apply Safe.bind
  unfold Staging.prepare
  split
  · exact fails _ state holds
  apply quiet.call_bind ⟨fun _ => False.elim, fun _ => id⟩ holds
  intro opened state holds
  split
  · exact fails _ state holds
  apply quiet.call_bind ⟨fun _ => False.elim, fun _ => id⟩ holds
  intro made state holds
  split
  · exact fails _ state holds
  refine (created state holds).attempt (fun error state holds => ?_) ?_
  · cases error <;> exact fails _ state holds
  intro _ state holds
  apply kept.call_bind ⟨fun _ => False.elim, fun _ => id⟩ holds
  intro found state holds
  cases found with
  | false => exact fails _ state (unready state holds)
  | true =>
  have asking : Preserves machine discipline actor Asking ready :=
    kept.mono fun _ asking => asking_within asking
  apply (asking.safe Staging.populate_every holds).mono
  intro populated state holds
  cases populated with
  | error error => exact fails _ state (unready state holds)
  | ok path => exact holds

theorem safe_rollback {aborted : Rollback.Error → State → Prop} {request : Rollback.Request}
    (fails : ∀ error state, before state → aborted (.source error) state)
    (found : ∀ state, before state →
      Safe machine discipline actor (fun there => if there then ready else before)
        (present (releasePath request.releaseId)) state) (holds : before state) :
    Safe machine discipline actor (Outcomes (fun _ => ready) aborted) (Rollback.source request)
      state := by
  apply Safe.bind
  apply quiet.call_bind ⟨fun _ => False.elim, fun _ => id⟩ holds
  intro opened state holds
  split
  · exact fails _ state holds
  apply (found state holds).seq
  intro there state holds
  cases there with
  | false => exact fails _ state holds
  | true =>
  apply kept.call_bind ⟨fun _ => False.elim, fun _ => id⟩ holds
  intro again state holds
  cases again with
  | false => exact fails _ state (unready state holds)
  | true => exact holds

end Stage

end OpsEngine
