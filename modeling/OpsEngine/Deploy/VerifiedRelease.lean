import Mathlib.Data.Fintype.Basic
import OpsEngine.Deploy.ActiveRelease

namespace OpsEngine.VerifiedRelease

open Effect Files

/-! # Only verified revisions go live

What a deploy found out about the release it staged is in its journal.  A
deploy switches `current` only after all of it; a rollback looks at nothing but
whether the directory is there, and a failed staging leaves its directory.
-/

/-! What staging leaves in the journal of a deploy when it completes. -/

def ran (accepts : ProcessRequest → ProcessOutput → Bool) : SysEntry → Bool
  | ⟨.ask (.process request), .ok output⟩ => accepts request output
  | _ => false

/-- The revision is the tip of an allowed branch. -/
def authorized (repository : RepositoryPolicy) (revision : GitCommitSha) : SysEntry → Bool :=
  ran fun request output =>
    request = Resolve.lsRemoteRequest repository.url repository.allowedBranches
      (some repository.credentialId) && output.succeeded &&
      ((Text.lines output.stdout).findSome? (Resolve.branchAt revision)).isSome

def made (release : ReleaseId) : SysEntry → Bool
  | ⟨.createDir path, .ok _⟩ => path = releasePath release
  | _ => false

def owned (release : ReleaseId) : SysEntry → Bool
  | ⟨.ask (.chown path _), .ok _⟩ => path = releasePath release
  | _ => false

def cloned (repository : RepositoryPolicy) (release : ReleaseId) : SysEntry → Bool :=
  ran fun request output =>
    argument "clone" ∈ request.args && .text repository.url ∈ request.args &&
      .path (releasePath release) ∈ request.args && output.succeeded

def headIs (release : ReleaseId) (revision : GitCommitSha) : SysEntry → Bool :=
  ran fun request output =>
    request.args = [argument "-C", .path (releasePath release), argument "rev-parse",
      argument "HEAD"] && Text.trim output.stdout = revision.text

def sound (release : ReleaseId) : SysEntry → Bool :=
  ran fun request output =>
    request.args = [argument "-C", .path (releasePath release), argument "fsck",
      argument "--no-progress", argument "--no-dangling"] && output.succeeded

def clean (release : ReleaseId) : SysEntry → Bool :=
  ran fun request output =>
    request.args = [argument "-C", .path (releasePath release), argument "status",
      argument "--porcelain"] && output.succeeded && output.stdout.isEmpty

/-- What `prepare` does for a deploy, last step first. -/
def prepared (repository : RepositoryPolicy) (request : Deploy.Request) : List (SysEntry → Bool) :=
  [headIs (.ofRequest request.requestId) request.revision,
    cloned repository (.ofRequest request.requestId), owned (.ofRequest request.requestId),
    made (.ofRequest request.requestId), authorized repository request.revision]

/-- Everything that staging does for a deploy, last step first. -/
def staging (repository : RepositoryPolicy) (request : Deploy.Request) : List (SysEntry → Bool) :=
  clean (.ofRequest request.requestId) :: sound (.ofRequest request.requestId) ::
    prepared repository request

/-- The request is a deploy of the release, and has completed its staging. -/
def vouches (request : SiteRequest) (release : ReleaseId) (journal : SysJournal) : Bool :=
  match request with
  | .deploy manifest request =>
    release = .ofRequest request.requestId &&
      (staging manifest.repository request).all fun check => journal.any check
  | .rollback _ _ => false

variable {ι : Type}

/-- The release is the one the request deploys. -/
def Deploys : SiteRequest → ReleaseId → Prop
  | .deploy _ request, release => release = .ofRequest request.requestId
  | .rollback _ _, _ => False

/-- No two deploys have one request id. -/
def Distinct (requests : ι → SiteRequest) : Prop :=
  ∀ first second release, Deploys (requests first) release → Deploys (requests second) release →
    first = second

/-- Some deploy has completed the staging of the release. -/
def Vouched (requests : ι → SiteRequest) (release : ReleaseId) (recorded : RecordedSystem ι) :
    Prop :=
  ∃ actor, vouches (requests actor) release (recorded.journals actor) = true

/-- A rollback that looks for its release and finds something there finds a
release whose staging was completed. -/
def Vetted (requests : ι → SiteRequest) (actor : ι) (_ : SysChoice) (operation : SysOp)
    (recorded : RecordedSystem ι) : Prop :=
  match requests actor, operation with
  | .rollback _ request, .present path =>
    path = releasePath request.releaseId → (recorded.state.node path).isSome = true →
      Vouched requests request.releaseId recorded
  | _, _ => True

/-- The link beside `current` for a release points at that release. -/
def Links (state : System ι) : Prop :=
  ∀ release node, state.node (tempLinkPath release) = some node →
    node = .link (releasePath release)

theorem vouches_mono {request : SiteRequest} {release : ReleaseId} {before after : SysJournal}
    (longer : before <:+ after) (vouched : vouches request release before = true) :
    vouches request release after = true := by
  cases request with
  | rollback => contradiction
  | deploy manifest request =>
    simp only [vouches, Bool.and_eq_true, List.all_eq_true, List.any_eq_true] at vouched ⊢
    refine ⟨vouched.1, fun check member => ?_⟩
    obtain ⟨entry, noted, holds⟩ := vouched.2 check member
    exact ⟨entry, longer.subset noted, holds⟩

/-- A release's directory is created only by a deploy of the release. -/
def Makers (requests : ι → SiteRequest) (recorded : RecordedSystem ι) : Prop :=
  ∀ actor release, (recorded.journals actor).any (made release) = true →
    Deploys (requests actor) release

/-- What the others may rely on at each step. -/
structure Guarantee (requests : ι → SiteRequest) (before after : RecordedSystem ι) : Prop where
  grows : ∀ actor, before.journals actor <:+ after.journals actor
  makers : Makers requests before → Makers requests after
  links : Links before.state → Links after.state
  current : ∀ release, after.state.node currentPath = some (.link (releasePath release)) →
    before.state.node currentPath = some (.link (releasePath release)) ∨
      Vouched requests release after

variable {requests : ι → SiteRequest} {actor : ι} {before after : RecordedSystem ι}
  {checks : List (SysEntry → Bool)} {release : ReleaseId}

theorem Vouched.mono (grows : ∀ actor, before.journals actor <:+ after.journals actor)
    (vouched : Vouched requests release before) : Vouched requests release after := by
  obtain ⟨actor, holds⟩ := vouched
  exact ⟨actor, vouches_mono (grows actor) holds⟩

/-- The links are in order, and the actor's journal has passed the checks. -/
structure Noted (actor : ι) (checks : List (SysEntry → Bool)) (recorded : RecordedSystem ι) :
    Prop where
  links : Links recorded.state
  noted : ∀ check ∈ checks, (recorded.journals actor).any check = true

theorem Noted.mono (moved : Guarantee requests before after) (noted : Noted actor checks before) :
    Noted actor checks after := by
  refine ⟨moved.links noted.links, fun check member => ?_⟩
  obtain ⟨entry, found, holds⟩ := List.any_eq_true.mp (noted.noted check member)
  exact List.any_eq_true.mpr ⟨entry, (moved.grows actor).subset found, holds⟩

theorem Noted.weaken (noted : Noted actor checks before) : Noted actor [] before :=
  ⟨noted.links, by simp⟩

/-- The release to switch to is vouched for. -/
structure Cleared (requests : ι → SiteRequest) (release : ReleaseId) (recorded : RecordedSystem ι) :
    Prop where
  links : Links recorded.state
  vouched : Vouched requests release recorded

theorem Cleared.mono (moved : Guarantee requests before after)
    (cleared : Cleared requests release before) : Cleared requests release after :=
  ⟨moved.links cleared.links, cleared.vouched.mono moved.grows⟩

/-- The operation changes nothing in the site's own directory, and creates no release but
the request's own. -/
structure OffSite (request : SiteRequest) (operation : SysOp) : Prop where
  site : ∀ path, operation.Touches path → path.dir ≠ .site
  creates : ∀ release, operation = .createDir (releasePath release) → Deploys request release

theorem cleared_of_staging {manifest : SiteManifest}
    (own : requests actor = .deploy manifest request)
    (noted : Noted actor (staging manifest.repository request) recorded) :
    Cleared requests (.ofRequest request.requestId) recorded := by
  refine ⟨noted.links, actor, ?_⟩
  simp only [own, vouches, decide_true, Bool.true_and, List.all_eq_true]
  exact noted.noted

variable [DecidableEq ι] {choice : SysChoice} {operation : SysOp}

def discipline (requests : ι → SiteRequest) :
    Discipline SysOp (RecordedSystem ι) ι SysChoice :=
  .guaranteed host.recorded (Vetted requests) fun _ => Guarantee requests

theorem discipline_sound : (discipline requests).Sound host.recorded :=
  Discipline.guaranteed_sound fun _ _ =>
    ⟨fun _ => List.suffix_refl _, fun makers => makers, fun links => links, fun _ => .inl⟩

omit [DecidableEq ι] in
theorem createDir_of_made {answer : operation.Result Answer}
    (noted : made release ⟨operation, answer⟩ = true) :
    operation = .createDir (releasePath release) := by
  cases operation with
  | createDir path =>
    cases answer with
    | error error => cases noted
    | ok _ => rw [of_decide_eq_true noted]
  | _ => cases noted

theorem makers_exec (creates : ∀ release, operation = .createDir (releasePath release) →
    Deploys (requests actor) release) (makers : Makers requests before) :
    Makers requests (host.recorded.exec actor choice operation before).2 := by
  intro other release noted
  by_cases same : other = actor
  · subst same
    rw [journal_self, List.any_cons, Bool.or_eq_true] at noted
    exact noted.elim (fun now => creates release (createDir_of_made now)) (makers other release)
  · rw [journal_of_ne same] at noted
    exact makers other release noted

theorem guarantee_offSite (off : OffSite (requests actor) operation) :
    Guarantee requests before (host.recorded.exec actor choice operation before).2 := by
  have site : ∀ path : FilePath, path.dir = .site →
      (host.recorded.exec actor choice operation before).2.state.node path =
        before.state.node path :=
    fun path inside => Disk.exec_node fun touched => off.site path touched inside
  refine ⟨fun _ => journal_grows, makers_exec off.creates, fun links release node => ?_,
    fun release => ?_⟩
  · rw [site _ rfl]
    exact links release node
  · rw [site _ rfl]
    exact .inl

theorem preserves_noted :
    Preserves host.recorded (discipline requests) actor (OffSite (requests actor))
      (Noted actor checks) where
  stable := stable_of_guarantee fun _ _ _ _ moved noted => noted.mono moved
  step _ _ _ off noted _ :=
    ⟨guarantee_offSite off, noted.mono (guarantee_offSite off : Guarantee requests _ _)⟩

theorem preserves_cleared :
    Preserves host.recorded (discipline requests) actor (OffSite (requests actor))
      (Cleared requests release) where
  stable := stable_of_guarantee fun _ _ _ _ moved cleared => cleared.mono moved
  step _ _ _ off cleared _ := ⟨guarantee_offSite off, cleared.mono (guarantee_offSite off)⟩

variable {recorded : RecordedSystem ι} {repository : RepositoryPolicy} {identity : SiteIdentity}

theorem noted_call_bind {β : Type} {post : β → RecordedSystem ι → Prop}
    {rest : operation.Result Answer → Action β} (off : OffSite (requests actor) operation)
    (noted : Noted actor checks recorded) (continues : ∀ answer after, Noted actor checks after →
      (∀ check : SysEntry → Bool, check ⟨operation, answer⟩ = true →
        Noted actor (check :: checks) after) →
      Safe host.recorded (discipline requests) actor post (rest answer) after) :
    Safe host.recorded (discipline requests) actor post (Program.call operation >>= rest)
      recorded := by
  apply safe_call_bind _ (preserves_noted : Preserves _ _ _ _ _).stable noted
  intro now choice noted admitted
  have moved : Guarantee requests now (host.recorded.exec actor choice operation now).2 :=
    guarantee_offSite off
  have still := noted.mono moved
  refine ⟨moved, continues _ _ still fun check passed => ⟨still.links, fun other member => ?_⟩⟩
  rcases List.mem_cons.mp member with rfl | earlier
  · rw [journal_self]
    exact List.any_eq_true.mpr ⟨_, List.mem_cons_self, passed⟩
  · exact still.noted other earlier

variable {own : SiteRequest}

theorem offSite_within {region : FilePath → Prop}
    (outside : ∀ path, region path → path.dir ≠ .site ∧ path.dir ≠ .releases)
    {operation : SysOp} (within : operation.Within region) : OffSite own operation := by
  refine ⟨fun path touched => (outside path (within.nodes path touched)).1, ?_⟩
  rintro release rfl
  exact absurd rfl (outside _ (within.nodes _ rfl)).2

theorem offSite_idle (idle : ∀ path, operation.Touches path → False) : OffSite own operation := by
  refine ⟨fun path touched => (idle path touched).elim, ?_⟩
  rintro release rfl
  exact (idle _ rfl).elim

theorem offSite_asking {operation : SysOp} (asking : Asking operation) : OffSite own operation := by
  obtain ⟨query, rfl⟩ := asking
  exact offSite_idle fun _ => False.elim

theorem offSite_step {requestId : RequestId} {idempotencyKey : Option IdempotencyKey}
    {operation : Operation} {step : SysOp}
    (taken : Preflight.Step requestId idempotencyKey operation step) : OffSite own step := by
  have inside : ∀ path, step.Touches path → path.dir ≠ .site ∧ path.dir ≠ .releases := by
    intro path touched
    rcases taken.inScope touched with dir | dir | dir | dir | dir | dir <;> simp [dir]
  refine ⟨fun path touched => (inside path touched).1, ?_⟩
  rintro release rfl
  exact absurd rfl (inside _ rfl).2

theorem offSite_pruning {active : ReleaseId} {operation : SysOp}
    (pruning : Cleanup.Pruning active operation) : OffSite own operation := by
  cases pruning with
  | openDir | list | modified => exact offSite_idle fun _ => False.elim
  | remove release =>
    refine ⟨fun path same => ?_, nofun⟩
    rw [show path = releasePath release from same]
    simp [releasePath]

theorem safe_switch (cleared : Cleared requests release recorded) :
    Safe host.recorded (discipline requests) actor (fun _ => Noted actor [])
      (Activate.switch release) recorded := by
  have stable : Stable ((discipline requests).rely actor) (Cleared requests release) :=
    preserves_cleared.stable
  apply safe_call_bind _ stable cleared
  intro now choice cleared _
  have grows : ∀ other, now.journals other <:+ (host.recorded.exec actor choice
      (.symlink (tempLinkPath release) (releasePath release)) now).2.journals other :=
    fun _ => journal_grows
  have moved : Guarantee requests now (host.recorded.exec actor choice
      (.symlink (tempLinkPath release) (releasePath release)) now).2 := by
    refine ⟨grows, makers_exec nofun, fun links other node found => ?_, fun other => ?_⟩
    · rw [recorded_state] at found
      rcases machine_symlink actor choice now.state (tempLinkPath release) (releasePath release) with
        ⟨_, failed⟩ | ⟨_, linked⟩
      · rw [failed] at found
        exact links other node found
      rw [linked, Disk.node_put] at found
      split at found
      · rename_i same
        have own : other = release := by simpa [tempLinkPath] using same
        rw [own, ← Option.some.inj found]
      · exact links other node found
    · have untouched : (host.recorded.exec actor choice
          (.symlink (tempLinkPath release) (releasePath release)) now).2.state.node currentPath =
          now.state.node currentPath :=
        Disk.exec_node (by simp [Op.Touches, currentPath, tempLinkPath])
      rw [untouched]
      exact .inl
  refine ⟨moved, ?_⟩
  have cleared := cleared.mono moved
  split
  · exact ⟨cleared.links, by simp⟩
  apply safe_call_bind _ stable cleared
  intro now choice cleared _
  have moved : Guarantee requests now (host.recorded.exec actor choice
      (.rename (tempLinkPath release) currentPath) now).2 := by
    have grows : ∀ other, now.journals other <:+ (host.recorded.exec actor choice
        (.rename (tempLinkPath release) currentPath) now).2.journals other :=
      fun _ => journal_grows
    refine ⟨grows, makers_exec nofun, fun links other node found => ?_, fun other named => ?_⟩
    · rw [recorded_state] at found
      rcases machine_rename actor choice now.state (tempLinkPath release) currentPath with
        ⟨_, failed⟩ | ⟨_, _, _, renamed⟩
      · rw [failed] at found
        exact links other node found
      rw [renamed, Disk.node_put, if_neg (by simp [tempLinkPath, currentPath]),
        Disk.node_drop] at found
      split at found
      · contradiction
      · exact links other node found
    · rw [recorded_state] at named
      rcases machine_rename actor choice now.state (tempLinkPath release) currentPath with
        ⟨_, failed⟩ | ⟨node, found, _, renamed⟩
      · rw [failed] at named
        exact .inl named
      · -- The link that was moved is the one for `release`, which is vouched for.
        rw [renamed, Disk.node_put, if_pos rfl, cleared.links release node found] at named
        have same : release = other := by simpa [releasePath] using named
        exact .inr (same ▸ cleared.vouched.mono grows)
  refine ⟨moved, ?_⟩
  have links := (cleared.mono moved).links
  split <;> exact ⟨links, by simp⟩

theorem asking_noted :
    Preserves host.recorded (discipline requests) actor Asking (Noted actor checks) :=
  preserves_noted.mono fun _ => offSite_asking

theorem asking_cleared :
    Preserves host.recorded (discipline requests) actor Asking (Cleared requests release) :=
  preserves_cleared.mono fun _ => offSite_asking

variable {revision : GitCommitSha} {request : Deploy.Request}

theorem safe_resolve (noted : Noted actor [] recorded) :
    Safe host.recorded (discipline requests) actor
      (Outcomes (fun _ => Noted actor [authorized repository revision]) fun _ => Noted actor [])
      (Resolve.resolveAllowedRevision repository.url repository.allowedBranches revision
        (some repository.credentialId)) recorded := by
  unfold Resolve.resolveAllowedRevision
  split
  · exact noted
  apply noted_call_bind (offSite_asking ⟨_, rfl⟩) noted
  intro answer recorded noted more
  split
  · exact noted
  rename_i output
  split
  · exact noted
  rename_i ended
  have succeeded : output.succeeded = true := by simpa using ended
  split
  · exact noted
  · rename_i branch found
    exact more _ (by simp [authorized, ran, succeeded, found])

theorem safe_populate {branch : Text} (noted : Noted actor checks recorded) :
    Safe host.recorded (discipline requests) actor
      (Outcomes
        (fun path after => path = releasePath release ∧
          Noted actor (headIs release revision :: cloned repository release :: owned release ::
            checks) after)
        fun _ => Noted actor [])
      (Staging.populate release identity repository.url branch revision
        (some repository.credentialId)) recorded := by
  apply noted_call_bind (offSite_asking ⟨_, rfl⟩) noted
  intro answer recorded noted more
  split
  · exact noted.weaken
  have noted := more (owned release) (by simp [owned])
  apply Safe.bind
  apply noted_call_bind (offSite_asking ⟨_, rfl⟩) noted
  intro answer recorded noted more
  cases answer with
  | error error => exact noted.weaken
  | ok output =>
  dsimp only
  split
  · rename_i succeeded
    have noted := more (cloned repository release)
      (by simp [cloned, ran, Staging.cloneRequest, succeeded])
    apply Safe.bind
    apply noted_call_bind (offSite_asking ⟨_, rfl⟩) noted
    intro answer recorded noted more
    cases answer with
    | error error => exact noted.weaken
    | ok output =>
    dsimp only
    split
    · rename_i verified
      exact ⟨rfl, more _ (by simp [headIs, ran, Staging.headRequest, verified])⟩
    · exact noted.weaken
  · exact noted.weaken

theorem safe_prepare {branch : Text} (own : Deploys (requests actor) release)
    (noted : Noted actor checks recorded) :
    Safe host.recorded (discipline requests) actor
      (Outcomes
        (fun path after => path = releasePath release ∧
          Noted actor (headIs release revision :: cloned repository release :: owned release ::
            made release :: checks) after)
        fun _ => Noted actor [])
      (Staging.prepare release identity repository.url branch revision
        (some repository.credentialId)) recorded := by
  unfold Staging.prepare
  split
  · exact noted.weaken
  apply noted_call_bind (offSite_idle fun _ => False.elim) noted
  intro opened recorded noted _
  split
  · exact noted.weaken
  apply noted_call_bind (offSite_idle fun _ => False.elim) noted
  intro listed recorded noted _
  split
  · exact noted.weaken
  have outside : OffSite (requests actor) (.createDir (releasePath release)) := by
    constructor
    · intro path same
      rw [show path = releasePath release from same]
      simp [releasePath]
    · intro other same
      have named : release = other := by simpa [releasePath] using same
      exact named ▸ own
  apply noted_call_bind outside noted
  intro created recorded noted more
  split
  · exact noted.weaken
  · exact noted.weaken
  have noted := more (made release) (by simp [made])
  apply noted_call_bind (offSite_idle fun _ => False.elim) noted
  intro found recorded noted _
  cases found with
  | false => exact noted.weaken
  | true => exact safe_populate noted

theorem safe_deploy_source (own : Deploys (requests actor) (.ofRequest request.requestId))
    (noted : Noted actor [] recorded) :
    Safe host.recorded (discipline requests) actor
      (Outcomes
        (fun path after => path = releasePath (.ofRequest request.requestId) ∧
          Noted actor (prepared repository request) after)
        fun _ => Noted actor [])
      (Deploy.source repository request identity) recorded := by
  refine (safe_resolve noted).attempt (fun _ _ noted => noted) ?_
  intro branch recorded noted
  refine (safe_checkCancelled asking_noted (fun _ _ _ noted => noted.weaken) noted).attempt
    (fun _ _ noted => noted) ?_
  intro _ recorded noted
  apply (safe_prepare own noted).seq
  intro prepared recorded holds
  cases prepared <;> exact holds

theorem safe_validate (noted : Noted actor checks recorded) :
    Safe host.recorded (discipline requests) actor
      (Outcomes (fun _ => Noted actor (clean release :: sound release :: checks))
        fun _ => Noted actor [])
      (Validate.validateStagedRelease (releasePath release) identity) recorded := by
  apply noted_call_bind (offSite_asking ⟨_, rfl⟩) noted
  intro checked recorded noted more
  split
  · exact noted.weaken
  split
  · exact noted.weaken
  rename_i output ended
  have succeeded : output.succeeded = true := by simpa using ended
  have noted := more (sound release) (by simp [sound, ran, Validate.gitRequest, succeeded])
  apply noted_call_bind (offSite_asking ⟨_, rfl⟩) noted
  intro status recorded noted more
  split
  · exact noted.weaken
  split
  · exact noted.weaken
  split
  · exact noted.weaken
  rename_i output ended listed
  have succeeded : output.succeeded = true := by simpa using ended
  have empty : output.stdout.isEmpty = true := by simpa using listed
  exact more _ (by simp [clean, ran, Validate.gitRequest, succeeded, List.isEmpty_iff.mp empty])

theorem safe_deploy_validated (noted : Noted actor (prepared repository request) recorded) :
    Safe host.recorded (discipline requests) actor
      (Outcomes (fun _ => Noted actor (staging repository request)) fun _ => Noted actor [])
      (Pipeline.validated (releasePath (.ofRequest request.requestId)) identity :
        Action (Except Deploy.Error Unit)) recorded := by
  refine (safe_checkCancelled asking_noted (fun _ _ _ noted => noted.weaken) noted).attempt
    (fun _ _ noted => noted) ?_
  intro _ recorded noted
  refine (safe_validate noted).attempt (fun _ _ noted => noted) ?_
  intro _ recorded noted
  exact safe_checkCancelled asking_noted (fun _ _ _ noted => noted.weaken) noted

/-- A rollback that meets the condition finds a release that is vouched for. -/
theorem safe_rollback_source {manifest : SiteManifest} {request : Rollback.Request}
    (own : requests actor = .rollback manifest request) (noted : Noted actor [] recorded) :
    Safe host.recorded (discipline requests) actor
      (Outcomes (fun _ => Cleared requests request.releaseId) fun _ => Noted actor [])
      (Rollback.source request) recorded := by
  apply Safe.bind
  apply noted_call_bind (offSite_idle fun _ => False.elim) noted
  intro opened recorded noted _
  split
  · exact noted
  have quiet : OffSite (requests actor) (.present (releasePath request.releaseId)) :=
    offSite_idle fun _ => False.elim
  apply safe_call_bind _ (preserves_noted : Preserves _ _ _ _ _).stable noted
  intro now choice noted vetted
  have moved : Guarantee requests now (host.recorded.exec actor choice
      (.present (releasePath request.releaseId)) now).2 :=
    guarantee_offSite quiet
  refine ⟨moved, ?_⟩
  obtain ⟨answer, answered, there⟩ :=
    machine_present actor choice now.state (releasePath request.releaseId)
  have same : (host.recorded.exec actor choice (.present (releasePath request.releaseId)) now).1 =
      answer := congrArg Prod.fst answered
  rw [same]
  cases answer with
  | false => exact noted.mono moved
  | true =>
  have vouched : Vouched requests request.releaseId now := by
    have condition : Vetted requests actor choice (.present (releasePath request.releaseId))
      now := vetted
    simp only [Vetted, own] at condition
    exact condition trivial (there rfl)
  have cleared : Cleared requests request.releaseId now := ⟨noted.links, vouched⟩
  apply preserves_cleared.call_bind (offSite_idle fun _ => False.elim) (cleared.mono moved)
  intro again recorded cleared
  cases again with
  | false => exact ⟨cleared.links, by simp⟩
  | true => exact cleared

def phases (requests : ι → SiteRequest) (actor : ι) (target : ReleaseId) (σ ρ : Type) :
    Phases (RecordedSystem ι) σ ρ where
  idle := Noted actor []
  admitted _ := Noted actor []
  prepared _ := Noted actor []
  ready _ := Cleared requests target
  switched _ _ := Noted actor []
  aborted _ _ := Noted actor []
  closing _ := Noted actor []
  ended _ := Noted actor []

theorem obligations {σ ρ : Type} {pipeline : Pipeline σ ρ}
    (staged : ∀ recorded, Noted actor [] recorded → Safe host.recorded (discipline requests) actor
        (Outcomes (fun _ => Cleared requests pipeline.target) fun _ => Noted actor [])
        pipeline.stage recorded) :
    pipeline.Obligations host.recorded (discipline requests) actor
      (phases requests actor pipeline.target σ ρ) where
  mismatched _ noted := noted
  unopened _ noted := noted
  opened _ noted := by
    have every : openSiteState.Every (OffSite (requests actor)) :=
      openSiteState_every.mono fun _ => offSite_within fun _ => False.elim
    exact preserves_noted.safe every noted
  entered _ noted := by
    apply (preserves_noted.safe (Preflight.run_every.mono fun _ => offSite_step) noted).mono
    intro entered state noted
    rcases entered with error | (record | original) <;> exact noted
  retried original _ noted := by
    have every : (pipeline.retried original).Every (OffSite (requests actor)) :=
      (pipeline.retried_every original).mono fun _ => offSite_within fun _ => False.elim
    exact preserves_noted.safe every noted
  prepared _ _ noted := by
    refine (preserves_noted.safe (Recovery.prepare_every.mono fun _ => ?_) noted).outcomes
    exact offSite_within fun _ dir => by simp [dir]
  staged _ recorded noted := staged recorded noted
  activated _ _ cleared :=
    safe_activating (preserves_cleared.mono fun _ => offSite_within fun _ => False.elim)
      (fun _ cleared => ⟨cleared.links, by simp⟩) (fun _ cleared => (safe_switch cleared).outcomes)
      cleared
  failed record error _ noted := by
    have every : (pipeline.fail record error).Every (OffSite (requests actor)) :=
      (pipeline.fail_every record error).mono fun _ => offSite_within fun _ dir => by simp [dir]
    exact preserves_noted.safe every noted
  recorded record previous _ noted := by
    have every : (pipeline.record record previous).Every (OffSite (requests actor)) :=
      (pipeline.record_every record previous).mono fun _ =>
        offSite_within fun _ dir => by simp [dir]
    exact preserves_noted.safe every noted
  unlocked _ _ noted := by
    have every : (unlock Preflight.lockPath).Every (OffSite (requests actor)) :=
      Program.every_call.mpr (offSite_idle fun _ => False.elim)
    exact preserves_noted.safe every noted
  pruned _ _ noted :=
    preserves_noted.safe (Cleanup.pruneOldReleases_every.mono fun _ => offSite_pruning) noted

theorem safe_program (noted : Noted actor [] recorded) :
    Safe host.recorded (discipline requests) actor (fun _ => Noted actor [])
      (requests actor).program recorded := by
  cases own : requests actor with
  | deploy manifest request =>
    apply Safe.bind
    refine (obligations fun recorded noted => ?_).safe_execute noted
    refine safe_stage asking_noted (fun _ _ _ noted => noted)
      (fun identity state noted => safe_deploy_source (own ▸ rfl) noted) ?_ noted
    rintro _ identity recorded ⟨rfl, noted⟩
    apply (safe_deploy_validated noted).mono
    intro staged recorded holds
    cases staged with
    | error error => exact holds
    | ok _ => exact cleared_of_staging own holds
  | rollback manifest request =>
    apply Safe.bind
    refine (obligations fun recorded noted => ?_).safe_execute noted
    exact safe_stage asking_noted (fun _ _ _ noted => noted)
      (fun _ state noted => safe_rollback_source own noted)
      (fun _ _ _ cleared => safe_validated asking_cleared
        (fun _ _ _ cleared => ⟨cleared.links, by simp⟩) cleared) noted

end OpsEngine.VerifiedRelease

namespace OpsEngine

open Effect Files VerifiedRelease

theorem links_empty : Links (Disk.empty : System ι) := by
  intro release node found
  cases found

variable {ι : Type} [DecidableEq ι]

/-- Requests side by side on one site, with their journals. -/
def SitePool.recorded (state : System ι) (requests : ι → SiteRequest) :
    Pool SysOp (Op.Result Answer) (RecordedSystem ι) ι SiteResponse :=
  { state := .start state, threads := fun actor => some (requests actor).program }

/-- `current` names a release that it named at the start, or one that a deploy has staged
to the end whose directory no other request has created. -/
def Approved (requests : ι → SiteRequest) (start : System ι) (recorded : RecordedSystem ι) : Prop :=
  ∀ release, recorded.state.node currentPath = some (.link (releasePath release)) →
    start.node currentPath = some (.link (releasePath release)) ∨
      ∃ actor, vouches (requests actor) release (recorded.journals actor) = true ∧
        ∀ other, (recorded.journals other).any (made release) = true → other = actor

omit [DecidableEq ι] in
theorem deploys_of_vouches {request : SiteRequest} {release : ReleaseId} {journal : SysJournal}
    (vouched : vouches request release journal = true) : Deploys request release := by
  cases request with
  | rollback => cases vouched
  | deploy manifest request =>
    simp only [vouches, Bool.and_eq_true, decide_eq_true_eq] at vouched
    exact vouched.1

/-- Deploys and rollbacks of one site run side by side, with failing system
calls, kills and any answers of the programs they run.  In every run in which no
two deploys have one request id and a rollback that finds its release in place
finds one whose staging some deploy completed, every release that becomes active
is one that a deploy has created, alone, and staged to the end. -/
theorem verified_release_active (requests : ι → SiteRequest) (distinct : Distinct requests)
    (state : System ι) (links : Links state) (events : List (Event ι SysChoice))
    (vetted : (SitePool.recorded state requests).Respects host.recorded (Vetted requests) events) :
    Approved requests state ((SitePool.recorded state requests).run host.recorded events).state := by
  have running : (SitePool.recorded state requests).Running host.recorded (discipline requests)
      fun actor _ => Noted actor [] := by
    intro actor operation next started
    have noted : Noted actor [] (Recorded.start state) := ⟨links, by simp⟩
    rw [← Option.some.inj started]
    exact safe_program noted
  let invariant : RecordedSystem ι → Prop := fun recorded => Makers requests recorded ∧
    ∀ release, recorded.state.node currentPath = some (.link (releasePath release)) →
      state.node currentPath = some (.link (releasePath release)) ∨
        Vouched requests release recorded
  have start : invariant (SitePool.recorded state requests).state := by
    refine ⟨fun actor release noted => ?_, fun release named => .inl named⟩
    cases noted
  obtain ⟨makers, named⟩ : invariant
      ((SitePool.recorded state requests).run host.recorded events).state := by
    refine Pool.invariant_run discipline_sound ?_ (fun _ _ kept => kept) running vetted start
    rintro actor choice operation before _ moved ⟨makers, approved⟩
    refine ⟨moved.makers makers, fun release named => ?_⟩
    rcases moved.current release named with earlier | vouched
    · exact (approved release earlier).imp_right (·.mono moved.grows)
    · exact .inr vouched
  refine fun release current => (named release current).imp_right ?_
  rintro ⟨actor, vouched⟩
  exact ⟨actor, vouched, fun other created =>
    distinct other actor release (makers other release created) (deploys_of_vouches vouched)⟩

instance [Fintype ι] (requests : ι → SiteRequest) (release : ReleaseId)
    (recorded : RecordedSystem ι) : Decidable (Vouched requests release recorded) :=
  inferInstanceAs (Decidable (∃ _, _))

instance [Fintype ι] (requests : ι → SiteRequest) (actor : ι) (choice : SysChoice)
    (operation : SysOp) (recorded : RecordedSystem ι) :
    Decidable (Vetted requests actor choice operation recorded) := by
  unfold Vetted
  split <;> infer_instance

omit [DecidableEq ι] in
theorem not_approved {requests : ι → SiteRequest} {start : System ι} {recorded : RecordedSystem ι}
    {release : ReleaseId}
    (named : ActiveRelease.currentIs recorded.state (releasePath release) = true)
    (absent : start.node currentPath = none) (unstaged : ¬ Vouched requests release recorded) :
    ¬ Approved requests start recorded := by
  intro approved
  rcases approved release (ActiveRelease.currentIs_iff.mp named) with earlier | ⟨actor, vouched, _⟩
  · rw [absent] at earlier
    contradiction
  · exact unstaged ⟨actor, vouched⟩

def deployAndReturn : Bool → SiteRequest
  | false => .deploy sampleManifest
      { siteId := sampleSite, revision := sampleRevision, requestId := .numbered 6
        idempotencyKey := none }
  | true => .rollback sampleManifest
      { siteId := sampleSite, releaseId := sampleRelease 6, requestId := .numbered 7
        idempotencyKey := none }

theorem distinct_deployAndReturn : Distinct deployAndReturn := by
  rintro (_ | _) (_ | _) release first second
  · rfl
  · cases second
  · cases first
  · rfl

theorem deployed_then_returned :
    Approved deployAndReturn Disk.empty ((SitePool.recorded Disk.empty deployAndReturn).run
      host.recorded (siteSteps false 90 ++ siteSteps true 90)).state :=
  verified_release_active deployAndReturn distinct_deployAndReturn Disk.empty links_empty _
    (by decide +kernel)

/-- As `siteChoice`, except that the branch has moved on by the time it is
checked out. -/
def movedChoice : SysChoice :=
  { siteChoice with
    answer := fun query =>
      match query with
      | .process request =>
        .ok { termination := .exited true
              stdout := if argument "rev-parse" ∈ request.args then List.replicate 40 'b'
                else printed request }
      | query => siteAnswer 0 query }

/-- The deploy finds another revision checked out and fails; the rollback then
activates what it left behind. -/
theorem unverified_release_active :
    Links (Disk.empty : System Bool) ∧ Distinct deployAndReturn ∧ ∃ events : List (Event Bool SysChoice),
      ¬ Approved deployAndReturn Disk.empty
        ((SitePool.recorded Disk.empty deployAndReturn).run host.recorded events).state := by
  refine ⟨links_empty, distinct_deployAndReturn,
    List.replicate 60 (.step false movedChoice) ++ siteSteps true 60, ?_⟩
  have named : ActiveRelease.currentIs ((SitePool.recorded Disk.empty deployAndReturn).run
      host.recorded (List.replicate 60 (.step false movedChoice) ++ siteSteps true 60)).state.state
      (releasePath (sampleRelease 6)) = true := by decide +kernel
  have unstaged : ¬ Vouched deployAndReturn (sampleRelease 6)
      ((SitePool.recorded Disk.empty deployAndReturn).run host.recorded
        (List.replicate 60 (.step false movedChoice) ++ siteSteps true 60)).state := by
    decide +kernel
  exact not_approved named rfl unstaged

end OpsEngine
