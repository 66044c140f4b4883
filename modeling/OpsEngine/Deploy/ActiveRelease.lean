import OpsEngine.Deploy.Phases
import OpsEngine.Mutation.Contract

namespace OpsEngine.ActiveRelease

open Effect Files
open Preflight (lockPath)

/-! # The active release exists

`current` only changes under the mutation lock, to a release that was seen in place
under that lock.  What can break it is a retention sweep, which runs after the lock
is dropped: it removes a release that has become active, or is about to, meanwhile.
-/

variable {ι : Type}

/-- `current` names a release directory, and the directory is there. -/
def Serving (state : System ι) : Prop :=
  ∃ release, state.node currentPath = some (.link (releasePath release)) ∧
    state.node (releasePath release) = some .directory

/-- Whatever stands under a release's name is a directory. -/
def Layout (state : System ι) : Prop :=
  ∀ release node, state.node (releasePath release) = some node → node = .directory

def currentIs (state : System ι) (path : FilePath) : Bool :=
  match state.node currentPath with
  | some (.link target) => target = path
  | _ => false

variable {state : System ι} {path : FilePath}

theorem currentIs_iff :
    currentIs state path = true ↔ state.node currentPath = some (.link path) := by
  unfold currentIs
  split
  · rename_i target found
    simp [found]
  · rename_i other
    simp only [Bool.false_eq_true, false_iff]
    exact other path

/-- The release is active, or the target of the request that holds the mutation
lock. -/
def Needed (targets : ι → ReleaseId) (release : ReleaseId) (state : System ι) : Prop :=
  state.node currentPath = some (.link (releasePath release)) ∨
    ∃ holder, state.locks lockPath = some holder ∧ targets holder = release

/-- A request that removes a release has `current` still where it switched it
to, or at least not at that release, and nobody who holds the mutation lock is
about to switch to it. -/
def Harmless (targets : ι → ReleaseId) (actor : ι) (_ : SysChoice) (operation : SysOp)
    (state : System ι) : Prop :=
  match operation with
  | .removeDirAll path =>
    (currentIs state (releasePath (targets actor)) = true ∨ currentIs state path = false) ∧
      ∀ holder ∈ state.locks lockPath, path ≠ releasePath (targets holder)
  | _ => True

instance (targets : ι → ReleaseId) (actor : ι) (choice : SysChoice) (operation : SysOp)
    (state : System ι) : Decidable (Harmless targets actor choice operation state) := by
  unfold Harmless
  split <;> infer_instance

theorem releasePath_inj {first second : ReleaseId} :
    releasePath first = releasePath second ↔ first = second := by
  simp [releasePath]

/-- What the others may rely on at each step of `actor`. -/
structure Guarantee (targets : ι → ReleaseId) (actor : ι) (before after : System ι) : Prop where
  held : ∀ other, other ≠ actor →
    (after.locks lockPath = some other ↔ before.locks lockPath = some other)
  site : before.locks lockPath ≠ some actor →
    ∀ path : FilePath, path.dir = .site → after.node path = before.node path
  releases : ∀ release, Needed targets release before →
    before.node (releasePath release) = some .directory →
    after.node (releasePath release) = some .directory
  layout : Layout before → Layout after
  serving : Serving before → Serving after
  appears : before.node currentPath = none → after.node currentPath = none ∨ Serving after

variable {targets : ι → ReleaseId} {actor : ι} {before after : System ι}

theorem Guarantee.of_site (site : ∀ path : FilePath, path.dir = .site →
      after.node path = before.node path)
    (releases : ∀ release, Needed targets release before →
      before.node (releasePath release) = some .directory →
      after.node (releasePath release) = some .directory)
    (layout : Layout before → Layout after) (held : ∀ other, other ≠ actor →
      (after.locks lockPath = some other ↔ before.locks lockPath = some other)) :
    Guarantee targets actor before after := by
  have current : after.node currentPath = before.node currentPath := site _ rfl
  refine ⟨held, fun _ => site, releases, layout, ?_, fun absent => .inl (current.trans absent)⟩
  rintro ⟨release, named, found⟩
  exact ⟨release, current.trans named, releases release (.inl named) found⟩

theorem Guarantee.of_nodes (site : ∀ path : FilePath, path.dir = .site →
      after.node path = before.node path)
    (releases : ∀ release, after.node (releasePath release) = before.node (releasePath release))
    (held : ∀ other, other ≠ actor →
      (after.locks lockPath = some other ↔ before.locks lockPath = some other)) :
    Guarantee targets actor before after := by
  refine .of_site site (fun release _ => ?_) (fun layout release node => ?_) held <;> rw [releases]
  · exact id
  · exact layout release node

/-- Paths that are neither a release nor in the site's own directory. -/
def Elsewhere (path : FilePath) : Prop := path.dir ≠ .site ∧ path.dir ≠ .releases

theorem Guarantee.refl (state : System ι) : Guarantee targets actor state state :=
  .of_nodes (fun _ _ => rfl) (fun _ => rfl) fun _ _ => Iff.rfl

theorem guarantee_createDir (release : ReleaseId) :
    Guarantee targets actor before (before.put (releasePath release) .directory) := by
  refine .of_site (fun path inside => ?_) (fun other _ found => ?_)
    (fun layout other node found => ?_) fun _ _ => Iff.rfl
  · rw [Disk.node_put, if_neg fun same => by simp [same, releasePath] at inside]
  · rw [Disk.node_put]
    split
    · rfl
    · exact found
  · rw [Disk.node_put] at found
    split at found
    · exact (Option.some.inj found).symm
    · exact layout other node found

theorem guarantee_removeDirAll {release : ReleaseId} (spare : ¬ Needed targets release before) :
    Guarantee targets actor before (before.drop (releasePath release)) := by
  refine .of_site (fun path inside => ?_) (fun other needed found => ?_)
    (fun layout other node found => ?_) fun _ _ => Iff.rfl
  · rw [Disk.node_drop, if_neg fun same => by simp [same, releasePath] at inside]
  · have apart : other ≠ release := fun same => spare (same ▸ needed)
    rw [Disk.node_drop, if_neg fun same => apart (releasePath_inj.mp same)]
    exact found
  · rw [Disk.node_drop] at found
    split at found
    · contradiction
    · exact layout other node found

theorem guarantee_site (holding : before.locks lockPath = some actor)
    (releases : ∀ release, after.node (releasePath release) = before.node (releasePath release))
    (locks : after.locks = before.locks) (serving : Serving before → Serving after)
    (appears : before.node currentPath = none → after.node currentPath = none ∨ Serving after) :
    Guarantee targets actor before after := by
  refine ⟨fun _ _ => by rw [locks], fun without => absurd holding without, fun release _ => ?_,
    fun layout release node => ?_, serving, appears⟩
  · rw [releases]
    exact id
  · rw [releases]
    exact layout release node

structure Free (actor : ι) (state : System ι) : Prop where
  free : state.locks lockPath ≠ some actor
  layout : Layout state

structure Held (actor : ι) (state : System ι) : Prop where
  holding : state.locks lockPath = some actor
  layout : Layout state

structure Ready (targets : ι → ReleaseId) (actor : ι) (state : System ι) : Prop where
  held : Held actor state
  found : state.node (releasePath (targets actor)) = some .directory

/-- Under the lock, with the target in place and the new link beside `current`. -/
structure Linked (targets : ι → ReleaseId) (actor : ι) (state : System ι) : Prop where
  ready : Ready targets actor state
  link : state.node (tempLinkPath (targets actor)) = some (.link (releasePath (targets actor)))

variable {other : ι}

theorem Free.guaranteed (apart : other ≠ actor)
    (moved : Guarantee targets other before after) (free : Free actor before) :
    Free actor after :=
  ⟨fun held => free.free ((moved.held actor apart.symm).mp held), moved.layout free.layout⟩

theorem Held.guaranteed (apart : other ≠ actor)
    (moved : Guarantee targets other before after) (held : Held actor before) :
    Held actor after :=
  ⟨(moved.held actor apart.symm).mpr held.holding, moved.layout held.layout⟩

theorem Ready.guaranteed (apart : other ≠ actor)
    (moved : Guarantee targets other before after) (ready : Ready targets actor before) :
    Ready targets actor after :=
  ⟨ready.held.guaranteed apart moved,
    moved.releases _ (.inr ⟨actor, ready.held.holding, rfl⟩) ready.found⟩

theorem Linked.guaranteed (apart : other ≠ actor)
    (moved : Guarantee targets other before after) (linked : Linked targets actor before) :
    Linked targets actor after := by
  have without : before.locks lockPath ≠ some other := by
    rw [linked.ready.held.holding]
    exact fun same => apart (Option.some.inj same).symm
  exact ⟨linked.ready.guaranteed apart moved, (moved.site without _ rfl).trans linked.link⟩

theorem guarantee_grant (free : before.locks lockPath = none) :
    Guarantee targets actor before (before.grant actor lockPath) := by
  refine .of_nodes (fun _ _ => rfl) (fun _ => rfl) fun other apart => ?_
  rw [Disk.locks_grant_self, free]
  simp [apart.symm]

variable [DecidableEq ι] {choice : SysChoice} {operation : SysOp}

def discipline (targets : ι → ReleaseId) : Discipline SysOp (System ι) ι SysChoice :=
  .guaranteed host (Harmless targets) (Guarantee targets)

theorem sound : (discipline targets).Sound host := by
  apply Discipline.guaranteed_sound
  intro actor state
  refine .of_nodes (fun _ _ => rfl) (fun _ => rfl) fun other apart => ?_
  show (if state.locks lockPath = some actor then none else state.locks lockPath) = some other ↔ _
  split
  · rename_i held
    simp [held, apart.symm]
  · rfl

theorem stable_free : Stable ((discipline targets).rely actor) (Free actor) :=
  stable_of_guarantee fun _ _ _ apart moved => Free.guaranteed apart moved

theorem stable_held : Stable ((discipline targets).rely actor) (Held actor) :=
  stable_of_guarantee fun _ _ _ apart moved => Held.guaranteed apart moved

theorem stable_ready : Stable ((discipline targets).rely actor) (Ready targets actor) :=
  stable_of_guarantee fun _ _ _ apart moved => Ready.guaranteed apart moved

theorem stable_linked : Stable ((discipline targets).rely actor) (Linked targets actor) :=
  stable_of_guarantee fun _ _ _ apart moved => Linked.guaranteed apart moved

section Within

variable (within : operation.Within Elsewhere)
include within

theorem within_site (inside : path.dir = .site) :
    (host.exec actor choice operation before).2.node path = before.node path :=
  Disk.exec_node fun touched => (within.nodes path touched).1 inside

theorem within_release (release : ReleaseId) :
    (host.exec actor choice operation before).2.node (releasePath release) =
      before.node (releasePath release) :=
  Disk.exec_node fun touched => (within.nodes _ touched).2 rfl

theorem within_locks :
    (host.exec actor choice operation before).2.locks lockPath = before.locks lockPath :=
  Disk.exec_locks (within.locks lockPath)

theorem guarantee_within :
    Guarantee targets actor before (host.exec actor choice operation before).2 := by
  refine .of_nodes (fun path => within_site within) (within_release within) fun other _ => ?_
  rw [within_locks within]

theorem within_layout (layout : Layout before) :
    Layout (host.exec actor choice operation before).2 := by
  intro release node
  rw [within_release within]
  exact layout release node

end Within

theorem preserves_free :
    Preserves host (discipline targets) actor (·.Within Elsewhere) (Free actor) where
  stable := stable_free
  step operation choice state within free _ := by
    refine ⟨guarantee_within within, ?_, within_layout within free.layout⟩
    rw [within_locks within]
    exact free.free

theorem held_within (within : operation.Within Elsewhere) (held : Held actor before) :
    Held actor (host.exec actor choice operation before).2 :=
  ⟨(within_locks within).trans held.holding, within_layout within held.layout⟩

theorem preserves_held :
    Preserves host (discipline targets) actor (·.Within Elsewhere) (Held actor) where
  stable := stable_held
  step _ _ _ within held _ := ⟨guarantee_within within, held_within within held⟩

theorem preserves_ready :
    Preserves host (discipline targets) actor (·.Within Elsewhere) (Ready targets actor) where
  stable := stable_ready
  step _ _ _ within ready _ :=
    ⟨guarantee_within within, held_within within ready.held,
      (within_release within _).trans ready.found⟩

theorem asking_held : Preserves host (discipline targets) actor Asking (Held actor) :=
  preserves_held.mono fun _ asking => asking_within asking

theorem asking_ready : Preserves host (discipline targets) actor Asking (Ready targets actor) :=
  preserves_ready.mono fun _ asking => asking_within asking

theorem scope_elsewhere (inside : Preflight.InScope path) : Elsewhere path := by
  rcases inside with dir | dir | dir | dir | dir | dir <;> simp [Elsewhere, dir]

theorem calm_within {step : SysOp} (calm : Preflight.Calm step) : step.Within Elsewhere := by
  apply calm.within.mono
  rintro path (dir | rfl)
  · simp [Elsewhere, dir]
  · simp [Elsewhere, lockPath]

theorem guarantee_unlock : Guarantee targets actor before (before.unlock actor lockPath) := by
  refine .of_nodes (fun _ _ => Disk.unlock_node) (fun _ => Disk.unlock_node) fun other apart => ?_
  unfold Disk.unlock
  split
  · rename_i held
    simp [held, apart.symm]
  · rfl

theorem free_unlock (layout : Layout before) : Free actor (before.unlock actor lockPath) := by
  refine ⟨?_, fun release node => ?_⟩
  · unfold Disk.unlock
    split
    · simp
    · assumption
  · rw [Disk.unlock_node]
    exact layout release node

theorem contract (requestId : RequestId) (idempotencyKey : Option IdempotencyKey)
    (operation : Operation) :
    Preflight.Contract (discipline targets) actor requestId idempotencyKey operation (Free actor)
      (Held actor) fun _ => Held actor where
  swept _ free := preserves_free.safe (Prune.pruneCompleted_every.mono
    fun _ sweeping => (Preflight.sweep_inScope sweeping).mono fun _ => scope_elsewhere) free
  calmBefore := preserves_free.mono fun _ => calm_within
  calmHeld := preserves_held.mono fun _ => calm_within
  refused _ state _ _ _ failed := guaranteed_keeps failed (.refl state)
  granted _ state free _ unheld _ granted :=
    ⟨guaranteed_keeps granted (guarantee_grant unheld), Disk.locks_grant_self,
      free.layout⟩
  released choice state held _ :=
    ⟨guaranteed_keeps machine_unlock guarantee_unlock,
      free_unlock held.layout⟩
  created now state held := by
    have every : ((TransactionState.start requestId idempotencyKey operation now).create
        (statePath requestId)).Every (·.Within Elsewhere) := by
      apply TransactionState.create_every.mono
      intro step creating
      apply creating.within.mono
      rintro path rfl
      simp [Elsewhere, statePath]
    exact (preserves_held.safe every held).outcomes
  calmRegistered _ := preserves_held.mono fun _ within => within.mono fun _ => False.elim
  unregistered _ _ held := held

theorem safe_switch (ready : Ready targets actor state) :
    Safe host (discipline targets) actor (fun _ => Held actor) (Activate.switch (targets actor))
      state := by
  apply safe_call_bind _ stable_ready ready
  intro now choice ready _
  rcases machine_symlink actor choice now (tempLinkPath (targets actor))
    (releasePath (targets actor)) with ⟨error, failed⟩ | ⟨absent, linked⟩
  · refine ⟨guaranteed_keeps failed (.refl now), ?_⟩
    rw [failed]
    exact ready.held
  have apart : currentPath ≠ tempLinkPath (targets actor) := by simp [currentPath, tempLinkPath]
  have releases : ∀ release, (now.put (tempLinkPath (targets actor))
      (.link (releasePath (targets actor)))).node (releasePath release) =
        now.node (releasePath release) := by
    intro release
    simp [releasePath, tempLinkPath]
  have current : (now.put (tempLinkPath (targets actor))
      (.link (releasePath (targets actor)))).node currentPath = now.node currentPath := by
    simp [apart]
  refine ⟨guaranteed_keeps linked (guarantee_site ready.held.holding releases rfl ?_ ?_), ?_⟩
  · rintro ⟨active, named, found⟩
    exact ⟨active, current.trans named, (releases active).trans found⟩
  · exact fun gone => .inl (current.trans gone)
  rw [linked]
  have beside : Linked targets actor (now.put (tempLinkPath (targets actor))
      (.link (releasePath (targets actor)))) := by
    refine ⟨⟨⟨ready.held.holding, fun release node => ?_⟩, ?_⟩, by simp⟩
    · rw [releases]
      exact ready.held.layout release node
    · rw [releases]
      exact ready.found
  apply safe_call_bind _ stable_linked beside
  intro now choice beside _
  rcases machine_rename actor choice now (tempLinkPath (targets actor)) currentPath with
    ⟨error, failed⟩ | ⟨node, found, _, renamed⟩
  · refine ⟨guaranteed_keeps failed (.refl now), ?_⟩
    rw [failed]
    exact beside.ready.held
  have moved : node = .link (releasePath (targets actor)) :=
    (Option.some.inj (beside.link.symm.trans found)).symm
  subst moved
  have untouched : ∀ release, ((now.drop (tempLinkPath (targets actor))).put currentPath
      (.link (releasePath (targets actor)))).node (releasePath release) =
        now.node (releasePath release) := by
    intro release
    simp [releasePath, tempLinkPath, currentPath]
  have serving : Serving ((now.drop (tempLinkPath (targets actor))).put currentPath
      (.link (releasePath (targets actor)))) :=
    ⟨targets actor, by simp, (untouched _).trans beside.ready.found⟩
  refine ⟨guaranteed_keeps renamed (guarantee_site beside.ready.held.holding untouched
    rfl (fun _ => serving) fun _ => .inr serving), ?_⟩
  rw [renamed]
  refine ⟨beside.ready.held.holding, fun release node => ?_⟩
  rw [untouched]
  exact beside.ready.held.layout release node

/-- A sweep that meets the condition removes nothing anybody needs. -/
theorem pruning_step (pruning : Cleanup.Pruning (targets actor) operation)
    (harmless : Harmless targets actor choice operation before) (free : Free actor before) :
    Guarantee targets actor before (host.exec actor choice operation before).2 ∧
      Free actor (host.exec actor choice operation before).2 := by
  have quiet : operation.Within Elsewhere →
      Guarantee targets actor before (host.exec actor choice operation before).2 ∧
        Free actor (host.exec actor choice operation before).2 :=
    fun within => (preserves_free : Preserves host (discipline targets) actor _ _).step operation
      choice before within free harmless
  cases pruning with
  | openDir | list | modified => exact quiet ⟨fun _ => False.elim, fun _ => id⟩
  | remove release superseded =>
  refine machine_removeDirAll (fun _ => ⟨.refl before, free⟩) ?_
  have spare : ¬ Needed targets release before := by
    rintro (named | ⟨holder, held, rfl⟩)
    · rcases harmless.1 with own | other
      · have same := (currentIs_iff.mp own).symm.trans named
        exact superseded (releasePath_inj.mp (by simpa using same.symm))
      · rw [currentIs_iff.mpr named] at other
        contradiction
    · exact harmless.2 holder held rfl
  have moved : Guarantee targets actor before (before.drop (releasePath release)) :=
    guarantee_removeDirAll spare
  exact ⟨moved, free.free, moved.layout free.layout⟩

def phases (targets : ι → ReleaseId) (actor : ι) (σ ρ : Type) : Phases (System ι) σ ρ where
  idle := Free actor
  admitted _ := Held actor
  prepared _ := Held actor
  ready _ := Ready targets actor
  switched _ _ := Held actor
  aborted _ _ := Held actor
  closing _ := Held actor
  ended _ := Free actor

theorem obligations {σ ρ : Type} {pipeline : Pipeline σ ρ} (own : targets actor = pipeline.target)
    (sourced : ∀ identity state, Held actor state → Safe host (discipline targets) actor
        (Outcomes (fun _ => Ready targets actor) fun _ => Held actor) (pipeline.source identity)
        state) :
    pipeline.Obligations host (discipline targets) actor (phases targets actor σ ρ) where
  mismatched _ free := free
  unopened _ free := free
  opened _ free := preserves_free.safe openSiteState_every free
  entered _ free := by
    apply ((contract _ _ _).safe_run free).mono
    intro entered state holds
    rcases entered with error | (record | original) <;> exact holds
  retried original _ free := preserves_free.safe (pipeline.retried_every original) free
  prepared _ _ held := by
    refine (preserves_held.safe (Recovery.prepare_every.mono fun _ within => ?_) held).outcomes
    exact within.mono fun path dir => (by simp [Elsewhere, dir] : Elsewhere path)
  staged _ _ held :=
    safe_stage asking_held (fun _ _ _ held => held) sourced
      (fun _ _ _ ready => safe_validated asking_ready (fun _ _ _ ready => ready.held) ready) held
  activated _ _ ready := by
    rw [← own]
    exact safe_activating (preserves_ready.mono fun _ within => within.mono fun _ => False.elim)
      (fun _ ready => ready.held) (fun _ ready => (safe_switch ready).outcomes) ready
  failed record error _ held := by
    have every := (pipeline.fail_every record error).mono fun _ within =>
      within.mono fun path dir => (by simp [Elsewhere, dir] : Elsewhere path)
    exact preserves_held.safe every held
  recorded record previous _ held := by
    have every := (pipeline.record_every record previous).mono fun _ within =>
      within.mono fun path dir => (by simp [Elsewhere, dir] : Elsewhere path)
    exact preserves_held.safe every held
  unlocked _ _ held := by
    apply safe_call _ stable_held held
    intro now choice held _
    refine ⟨guaranteed_keeps machine_unlock
      guarantee_unlock, ?_⟩
    rw [machine_unlock]
    exact free_unlock held.layout
  pruned _ _ free := by
    rw [← own]
    exact Safe.of_every stable_free
      (fun _ _ _ pruning free harmless => pruning_step pruning harmless free)
      Cleanup.pruneOldReleases_every free

theorem quiet_held :
    Preserves host (discipline targets) actor (·.Within fun _ => False) (Held actor) :=
  preserves_held.mono fun _ within => within.mono fun _ => False.elim

theorem quiet_ready :
    Preserves host (discipline targets) actor (·.Within fun _ => False) (Ready targets actor) :=
  preserves_ready.mono fun _ within => within.mono fun _ => False.elim

theorem safe_deploy_source {repository : RepositoryPolicy} {request : Deploy.Request}
    (own : targets actor = .ofRequest request.requestId) {identity : SiteIdentity}
    (held : Held actor state) :
    Safe host (discipline targets) actor
      (Outcomes (fun _ => Ready targets actor) fun _ => Held actor)
      (Deploy.source repository request identity) state := by
  refine safe_deploy quiet_held quiet_ready (fun _ ready => ready.held) (fun _ _ held => held)
    (fun _ _ _ held => held) (fun state held => ?_) held
  rw [← own]
  apply safe_call _ stable_held held
  intro now choice held _
  show Guarantee targets actor now (host.exec actor choice _ now).2 ∧ _
  have moved : Guarantee targets actor now (now.put (releasePath (targets actor)) .directory) :=
    guarantee_createDir _
  exact machine_createDir (fun _ => ⟨.refl now, held⟩)
    ⟨moved, ⟨held.holding, moved.layout held.layout⟩, by simp⟩

theorem safe_rollback_source {request : Rollback.Request} (own : targets actor = request.releaseId)
    (held : Held actor state) :
    Safe host (discipline targets) actor
      (Outcomes (fun _ => Ready targets actor) fun _ => Held actor) (Rollback.source request)
      state := by
  refine safe_rollback quiet_held quiet_ready (fun _ ready => ready.held) (fun _ _ held => held)
    (fun state held => ?_) held
  rw [← own]
  apply safe_call _ stable_held held
  intro now choice held _
  obtain ⟨answer, answered, there⟩ := machine_present actor choice now (releasePath (targets actor))
  refine ⟨guaranteed_keeps answered (.refl now), ?_⟩
  rw [answered]
  cases answer with
  | false => exact held
  | true =>
    obtain ⟨node, found⟩ := Option.isSome_iff_exists.mp (there rfl)
    exact ⟨held, by rw [found, held.layout _ node found]⟩

theorem safe_program {requests : ι → SiteRequest} (free : Free actor state) :
    Safe host (discipline fun actor => (requests actor).target) actor (fun _ => Free actor)
      (requests actor).program state := by
  cases same : requests actor with
  | deploy manifest request =>
    apply Safe.bind
    refine (obligations ?_ ?_).safe_execute free
    · simp [same, SiteRequest.target, Deploy.pipeline]
    · exact fun identity state held =>
        safe_deploy_source (by simp [same, SiteRequest.target]) held
  | rollback manifest request =>
    apply Safe.bind
    refine (obligations ?_ ?_).safe_execute free
    · simp [same, SiteRequest.target, Rollback.pipeline]
    · exact fun _ state held => safe_rollback_source (by simp [same, SiteRequest.target]) held

end OpsEngine.ActiveRelease

namespace OpsEngine

open Effect Files ActiveRelease
open Preflight (lockPath)

variable {ι : Type} [DecidableEq ι]

/-- `current` names an existing release, or it was absent at the start and
still is. -/
def Live (start state : System ι) : Prop :=
  Serving state ∨ start.node currentPath = none ∧ state.node currentPath = none

omit [DecidableEq ι] in
theorem Live.guaranteed {targets : ι → ReleaseId} {actor : ι} {start before after : System ι}
    (moved : Guarantee targets actor before after) (live : Live start before) :
    Live start after := by
  rcases live with serving | ⟨never, absent⟩
  · exact .inl (moved.serving serving)
  · rcases moved.appears absent with still | serving
    · exact .inr ⟨never, still⟩
    · exact .inl serving

/-- Deploys and rollbacks of one site run side by side, with failing system
calls and kills, from a state in which `current` is absent or names a release
directory.  In every run in which each release is removed while it is neither
active (unless the remover's own target still is) nor the target of whoever
holds the mutation lock, `current` names a release directory in every state
reached, or has never been set. -/
theorem active_release_exists (requests : ι → SiteRequest) (state : System ι)
    (unlocked : state.locks lockPath = none) (layout : Layout state)
    (live : state.node currentPath = none ∨ Serving state) (events : List (Event ι SysChoice))
    (harmless : (SitePool.start state requests).Respects host
      (Harmless fun actor => (requests actor).target) events) :
    Live state ((SitePool.start state requests).run host events).state := by
  let targets := fun actor => (requests actor).target
  have running : (SitePool.start state requests).Running host (discipline targets)
      fun actor _ => Free actor := by
    intro actor operation next started
    have free : Free actor state := ⟨by simp [unlocked], layout⟩
    rw [← Option.some.inj started]
    exact safe_program free
  have start : Live state (SitePool.start state requests).state := by
    rcases live with absent | serving
    · exact .inr ⟨absent, absent⟩
    · exact .inl serving
  refine Pool.invariant_run sound (fun _ _ _ _ _ moved live => Live.guaranteed moved live) ?_
    running harmless start
  exact fun _ _ live => live

/-- Some release's name is taken by something that is no directory. -/
def misplaced (state : System ι) : Bool :=
  state.anyNode fun path node =>
    match path.name, node with
    | .release _, .directory => false
    | .release _, _ => true
    | _, _ => false

omit [DecidableEq ι] in
theorem layout_of_placed {state : System ι} (placed : misplaced state = false) : Layout state := by
  intro release node found
  by_contra other
  have some : misplaced state = true := by
    refine Disk.anyNode_eq_true.mpr ⟨_, node, found, ?_⟩
    cases node with
    | file inode content => rfl
    | link target => rfl
    | directory => exact absurd rfl other
  rw [placed] at some
  contradiction

def fiveReleases : System Bool :=
  (((((Disk.empty.put (releasePath (sampleRelease 1)) .directory).put
    (releasePath (sampleRelease 2)) .directory).put
    (releasePath (sampleRelease 3)) .directory).put
    (releasePath (sampleRelease 4)) .directory).put
    (releasePath (sampleRelease 5)) .directory).put currentPath
    (.link (releasePath (sampleRelease 5)))

theorem fiveReleases_serving : Serving fiveReleases :=
  ⟨sampleRelease 5, by simp [fiveReleases],
    by simp [fiveReleases, releasePath, currentPath]⟩

def deployAndRollback : Bool → SiteRequest
  | false => .deploy sampleManifest
      { siteId := sampleSite, revision := sampleRevision, requestId := .numbered 6
        idempotencyKey := none }
  | true => .rollback sampleManifest
      { siteId := sampleSite, releaseId := sampleRelease 1, requestId := .numbered 7
        idempotencyKey := none }

theorem rolled_back_then_deployed :
    Live fiveReleases ((SitePool.start fiveReleases deployAndRollback).run host
      (siteSteps true 90 ++ siteSteps false 90)).state :=
  active_release_exists deployAndRollback fiveReleases rfl (layout_of_placed (by decide +kernel))
    (.inr fiveReleases_serving) _ (by decide +kernel)

/-- What `current` names, if that is not there. -/
def dangling (state : System ι) : Option FilePath :=
  match state.node currentPath with
  | some (.link target) => if (state.node target).isNone then some target else none
  | _ => none

omit [DecidableEq ι] in
theorem not_live_of_dangling {start state : System ι} {path : FilePath}
    (gone : dangling state = some path) : ¬ Live start state := by
  unfold dangling at gone
  rintro (⟨release, named, found⟩ | ⟨_, absent⟩)
  · rw [named] at gone
    simp [found] at gone
  · rw [absent] at gone
    contradiction

/-- The deploy has listed six releases and is about to remove the oldest when
the rollback switches `current` to it. -/
theorem active_release_pruned :
    fiveReleases.locks lockPath = none ∧ Layout fiveReleases ∧ Serving fiveReleases ∧
    ∃ events : List (Event Bool SysChoice),
      (∀ event ∈ events, ∃ actor, event = .step actor siteChoice) ∧ ¬ Live fiveReleases
        ((SitePool.start fiveReleases deployAndRollback).run host events).state := by
  refine ⟨rfl, layout_of_placed (by decide +kernel), fiveReleases_serving,
    siteSteps false 67 ++ siteSteps true 60 ++ siteSteps false 1, ?_, ?_⟩
  · intro event member
    simp only [siteSteps, List.mem_append, List.mem_replicate] at member
    rcases member with (⟨_, rfl⟩ | ⟨_, rfl⟩) | ⟨_, rfl⟩ <;> exact ⟨_, rfl⟩
  · have gone : dangling ((SitePool.start fiveReleases deployAndRollback).run host
        (siteSteps false 67 ++ siteSteps true 60 ++ siteSteps false 1)).state =
        some (releasePath (sampleRelease 1)) := by decide +kernel
    exact not_live_of_dangling gone

end OpsEngine
