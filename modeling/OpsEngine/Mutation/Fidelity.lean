import OpsEngine.Files.Contents
import OpsEngine.Mutation.Attempt

namespace OpsEngine.Fidelity

open Effect Files Preflight

/-! # A replay hands out the outcome of its own key

The index and the transaction records are written independently, and a failing
attempt leaves its claim behind.  What links them is that both only ever name a
request together with a key that some attempt was made with.
-/

variable {ι : Type} {attempts : ι → Attempt} {actor : ι}

/-- Some attempt was made as `requestId` under `key`. -/
def Made (attempts : ι → Attempt) (key : Option IdempotencyKey) (requestId : RequestId) : Prop :=
  ∃ actor, (attempts actor).requestId = requestId ∧ (attempts actor).idempotencyKey = key

/-- The request whose record a file name stands for, its temp sibling included. -/
def ownerOf : Name → Option RequestId
  | .json requestId => some requestId
  | .tmp name => ownerOf name
  | _ => none

/-- A claim names an attempt that was made, and so does a record at the path
of its request. -/
def Truthful (attempts : ι → Attempt) (path : FilePath) : Content → Prop
  | .claim record => Made attempts (some record.idempotencyKey) record.requestId
  | .record state =>
    ∀ requestId, ownerOf path.name = some requestId →
      Made attempts state.idempotencyKey requestId
  | _ => True

theorem made_self (actor : ι) :
    Made attempts (attempts actor).idempotencyKey (attempts actor).requestId :=
  ⟨actor, rfl, rfl⟩

variable {state : TransactionState}

theorem truthful_record {path : FilePath}
    (own : ownerOf path.name = some (attempts actor).requestId)
    (stored : state.idempotencyKey = (attempts actor).idempotencyKey) :
    Truthful attempts path (.record state) := by
  intro requestId named
  have same : (attempts actor).requestId = requestId := by
    rw [own] at named
    exact Option.some.inj named
  rw [stored, ← same]
  exact made_self actor

theorem truthful_rename (path : FilePath) (content : Content)
    (truthful : Truthful attempts (tempSiblingPath path) content) :
    Truthful attempts path content := by
  cases content <;> exact truthful

theorem stores_replacing {path : FilePath} {content : Content} {operation : SysOp}
    (truthful : Truthful attempts (tempSiblingPath path) content)
    (replacing : Replacing path content operation) : operation.Stores (Truthful attempts) := by
  cases replacing with
  | prepare preparing =>
    cases preparing with
    | openTruncate | sync => trivial
    | write inode => exact truthful
  | rename => exact truthful_rename path

variable {step : SysOp} {operation : Operation}

theorem stores_sweeping (sweeping : Prune.Sweeping step) :
    step.Stores (Truthful attempts) := by
  cases sweeping with
  | look looking => cases looking <;> trivial
  | remove => trivial

variable {key : IdempotencyKey}

theorem stores_claiming (keyed : (attempts actor).idempotencyKey = some key)
    (claiming : Idempotency.Claiming key (attempts actor).requestId step) :
    step.Stores (Truthful attempts) := by
  cases claiming with
  | write inode now => exact ⟨actor, rfl, keyed⟩
  | createDirAll | now | openNew | read => trivial

theorem stores_entering
    (entering : Entering (attempts actor).requestId (attempts actor).idempotencyKey operation step) :
    step.Stores (Truthful attempts) := by
  cases entering with
  | now => trivial
  | acquire acquiring =>
    cases acquiring with
    | diagnose diagnosing => cases diagnosing <;> trivial
    | lock | unlock => trivial
  | reclaim keyed reclaiming =>
    cases reclaiming with
    | now => trivial
    | replace now _ replacing =>
      apply stores_replacing _ replacing
      exact ⟨actor, rfl, keyed⟩
  | create now creating =>
    cases creating with
    | openNew => trivial
    | write inode => exact truthful_record rfl rfl
  | audit record => trivial

theorem stores_concluding {ending : Ending}
    (stored : state.idempotencyKey = (attempts actor).idempotencyKey)
    (concluding : Concluding ending (attempts actor).requestId state step) :
    step.Stores (Truthful attempts) := by
  cases concluding with
  | now | unlock => trivial
  | save now replacing =>
    apply stores_replacing _ replacing
    apply truthful_record rfl
    exact (ending.mark_identity state now).1.trans stored

/-- A request id always comes with the same key. -/
def Consistent (attempts : ι → Attempt) : Prop :=
  ∀ first second, (attempts first).requestId = (attempts second).requestId →
    (attempts first).idempotencyKey = (attempts second).idempotencyKey

variable [DecidableEq ι]

def discipline (attempts : ι → Attempt) : Discipline SysOp (System ι) ι SysChoice :=
  .guaranteed host (fun _ _ _ _ => True) fun _ before after =>
    before.Fits (Truthful attempts) → after.Fits (Truthful attempts)

theorem sound : (discipline attempts).Sound host :=
  Discipline.guaranteed_sound fun _ _ truthful => truthful

theorem stable_fits :
    Stable ((discipline attempts).rely actor) fun state => state.Fits (Truthful attempts) :=
  stable_of_guarantee fun _ _ _ _ moved truthful => moved truthful

variable {state : System ι}

theorem safe_fits {α : Type} {program : Action α}
    (every : program.Every fun operation => operation.Stores (Truthful attempts))
    (truthful : state.Fits (Truthful attempts)) :
    Safe host (discipline attempts) actor (fun _ after => after.Fits (Truthful attempts))
      program state := by
  apply Safe.of_every stable_fits _ every truthful
  intro operation choice now stores truthful _
  exact ⟨fun truthful => truthful.exec stores, truthful.exec stores⟩

theorem safe_claim (keyed : (attempts actor).idempotencyKey = some key)
    (truthful : state.Fits (Truthful attempts)) :
    Safe host (discipline attempts) actor
      (fun result after => after.Fits (Truthful attempts) ∧
        ∀ requestId, result = .ok (.alreadyClaimed requestId) → Made attempts (some key) requestId)
      (Idempotency.claim key (attempts actor).requestId) state := by
  have quiet : ∀ {step : SysOp}, Idempotency.Claiming key (attempts actor).requestId step →
      step.Stores (Truthful attempts) :=
    stores_claiming keyed
  apply (safe_fits (Program.every_call.mpr (quiet .createDirAll)) truthful).seq
  intro made state truthful
  split
  · exact ⟨truthful, by simp⟩
  apply (safe_fits (Program.every_call.mpr (quiet .now)) truthful).seq
  intro now state truthful
  have creates : (createNew (Idempotency.indexPath key) (.claim (Idempotency.indexRecord key
      (attempts actor).requestId now))).Every fun step => step.Stores (Truthful attempts) := by
    apply createNew_every.mono
    rintro _ (_ | inode)
    · exact quiet .openNew
    · exact quiet (.write inode now)
  apply (safe_fits creates truthful).seq
  intro created state truthful
  split
  · exact ⟨truthful, by simp⟩
  · -- The claim found on disk is truthful like every other file.
    apply safe_call_bind _ stable_fits truthful
    intro now choice truthful _
    refine ⟨fun truthful => truthful.exec trivial, ?_⟩
    refine machine_read ⟨truthful, by simp⟩ (fun _ => ⟨truthful, by simp⟩)
      fun inode content found => ⟨truthful, fun requestId resolved => ?_⟩
    obtain ⟨record, rfl, _, same, rfl⟩ := Idempotency.resolution_alreadyClaimed resolved
    have named : Truthful attempts _ (.claim record) := truthful _ inode _ found
    rw [← same]
    exact named
  · exact ⟨truthful, by simp⟩

/-- Whom a replay names has a record, stored under the key of the attempt. -/
def Faithful (key : Option IdempotencyKey) (requestId : RequestId) (state : System ι) : Prop :=
  ∃ inode record, state.node (statePath requestId) = some (.file inode (some (.record record))) ∧
    record.idempotencyKey = key ∧ key.isSome

theorem safe_resolve (consistent : Consistent attempts)
    (truthful : state.Fits (Truthful attempts)) :
    Safe host (discipline attempts) actor
      (fun result after => after.Fits (Truthful attempts) ∧ ∀ requestId,
        result = .ok (.replay requestId) → Faithful (attempts actor).idempotencyKey requestId after)
      (resolve (attempts actor).requestId (attempts actor).idempotencyKey) state := by
  cases keyed : (attempts actor).idempotencyKey with
  | none => exact ⟨truthful, by simp⟩
  | some key =>
  apply (safe_claim keyed truthful).seq
  rintro claimed state ⟨truthful, claimant⟩
  split
  · exact ⟨truthful, by simp⟩
  · exact ⟨truthful, by simp⟩
  rename_i existing
  apply (TransactionState.safe_load stable_fits
    (fun choice now _ _ truthful => truthful.exec trivial) truthful).seq
  rintro loaded state ⟨truthful, found⟩
  split
  · refine ⟨truthful, fun requestId returned => ?_⟩
    cases returned
    obtain ⟨_, inode, stored⟩ := found
    have named : Truthful attempts _ (.record _) := truthful _ inode _ stored
    obtain ⟨owner, recordId, recordKey⟩ := named existing rfl
    obtain ⟨other, claimId, claimKey⟩ := claimant existing rfl
    have same := consistent owner other (recordId.trans claimId.symm)
    rw [recordKey, claimKey] at same
    exact ⟨inode, _, stored, same, rfl⟩
  · exact ⟨truthful, by simp⟩
  · exact ⟨truthful, by simp⟩

def Replayed (key : Option IdempotencyKey) (result : Except Error Outcome) (state : System ι) :
    Prop :=
  ∀ requestId, result = .ok (.replay requestId) → Faithful key requestId state

structure Answered (attempts : ι → Attempt) (actor : ι) (result : Except Error Outcome)
    (after : System ι) : Prop where
  truthful : after.Fits (Truthful attempts)
  replayed : Replayed (attempts actor).idempotencyKey result after
  stored : ∀ record, result = .ok (.proceed record) →
    record.idempotencyKey = (attempts actor).idempotencyKey

theorem safe_enter {reclaimKey : Option IdempotencyKey}
    (own : ∀ key, reclaimKey = some key → (attempts actor).idempotencyKey = some key)
    (truthful : state.Fits (Truthful attempts)) :
    Safe host (discipline attempts) actor (Answered attempts actor)
      (enter (attempts actor).requestId (attempts actor).idempotencyKey operation reclaimKey)
      state := by
  have stores : (enter (attempts actor).requestId (attempts actor).idempotencyKey operation
      reclaimKey).Every fun step => step.Stores (Truthful attempts) :=
    (enter_every own).mono fun _ => stores_entering
  apply ((safe_fits stores truthful).returns enter_returns).mono
  rintro result state ⟨truthful, proceeds⟩
  refine ⟨truthful, fun requestId returned => ?_, fun record returned => ?_⟩
  · obtain ⟨now, impossible⟩ := proceeds _ returned
    contradiction
  · obtain ⟨now, same⟩ := proceeds _ returned
    cases same
    rfl

theorem safe_run (consistent : Consistent attempts) (truthful : state.Fits (Truthful attempts)) :
    Safe host (discipline attempts) actor (Answered attempts actor)
      (run (attempts actor).requestId (attempts actor).idempotencyKey operation) state := by
  apply (safe_fits (Prune.pruneCompleted_every.mono fun _ => stores_sweeping) truthful).seq
  intro _ state truthful
  apply ((safe_resolve consistent truthful).returns resolve_returns).seq
  rintro resolved state ⟨⟨truthful, faithful⟩, own⟩
  split
  · exact ⟨truthful, by simp [Replayed], by simp⟩
  · rename_i existing
    refine ⟨truthful, fun requestId returned => ?_, by simp⟩
    cases returned
    exact faithful existing rfl
  · exact safe_enter (by simp) truthful
  rename_i key
  apply safe_enter _ truthful
  intro found same
  cases same
  exact own key rfl

theorem safe_program (consistent : Consistent attempts)
    (truthful : state.Fits (Truthful attempts)) :
    Safe host (discipline attempts) actor (Replayed (attempts actor).idempotencyKey)
      (attempts actor).program state := by
  apply (safe_run consistent truthful).seq
  rintro outcome state ⟨truthful, replayed, stored⟩
  rcases outcome with error | (record | existing)
  · exact replayed
  · apply (safe_fits (conclude_every.mono fun _ =>
      stores_concluding (stored record rfl)) truthful).seq
    intro _ state _ requestId impossible
    simp at impossible
  · exact replayed

end OpsEngine.Fidelity

namespace OpsEngine

open Effect Files Preflight Fidelity

variable {ι : Type} [DecidableEq ι]

/-- In every run of attempts in which a request id always comes with the same
key, whatever fails, is killed or expires, an attempt that returns a replay
returns a request that has a record, stored under the attempt's own key. -/
theorem replay_faithful (attempts : ι → Attempt) (consistent : Consistent attempts)
    (events : List (Event ι SysChoice)) (actor : ι) (choice : SysChoice) (requestId : RequestId)
    (pending : ((AttemptPool.start Disk.empty attempts).run host events).outcome actor = none)
    (returned : (((AttemptPool.start Disk.empty attempts).run host events).step host
      (.step actor choice)).outcome actor = some (.ok (.replay requestId))) :
    Faithful (attempts actor).idempotencyKey requestId
      (((AttemptPool.start Disk.empty attempts).run host events).step host
        (.step actor choice)).state := by
  obtain ⟨running, _⟩ : (AttemptPool.start Disk.empty attempts).Running host (discipline attempts)
      (fun actor => Replayed (attempts actor).idempotencyKey) ∧
      (AttemptPool.start Disk.empty attempts).Settled
        fun actor => Replayed (attempts actor).idempotencyKey := by
    apply Pool.safe_start
    intro actor program started
    rw [← Option.some.inj started]
    exact safe_program consistent .empty
  have respects : (AttemptPool.start Disk.empty attempts).Respects host
      (discipline attempts).admits events := by
    apply Pool.respects_of_forall
    rintro (_ | _) _ pool
    · exact fun _ _ => trivial
    · trivial
  have later := Pool.running_run sound running respects
  exact Pool.returned_outcome later (fun _ _ => trivial) pending returned requestId rfl

def AttemptPool.replayed (pool : AttemptPool ι) (actor : ι) : Option RequestId :=
  match pool.outcome actor with
  | some (.ok (.replay requestId)) => some requestId
  | _ => none

variable {requestId : RequestId}

omit [DecidableEq ι] in
theorem AttemptPool.replayed_sound {pool : AttemptPool ι} {actor : ι}
    (replayed : pool.replayed actor = some requestId) :
    pool.outcome actor = some (.ok (.replay requestId)) := by
  unfold AttemptPool.replayed at replayed
  split at replayed
  · rename_i found returned
    rw [returned, Option.some.inj replayed]
  · contradiction

def storedKey (state : System ι) (requestId : RequestId) : Option (Option IdempotencyKey) :=
  match state.node (statePath requestId) with
  | some (.file _ (some (.record record))) => some record.idempotencyKey
  | _ => none

omit [DecidableEq ι] in
theorem storedKey_faithful {key : Option IdempotencyKey}
    {state : System ι} (faithful : Faithful key requestId state) :
    storedKey state requestId = some key := by
  obtain ⟨inode, record, found, stored, _⟩ := faithful
  simp only [storedKey, found, stored]

theorem retry_replays_faithfully :
    Faithful (some sampleKey) firstRequest
      (((AttemptPool.start Disk.empty rivals).run host (steps false 40 ++ steps true 10)).step host
        (.step true (healthyChoice 0))).state :=
  replay_faithful rivals (fun _ _ _ => rfl) _ true (healthyChoice 0) firstRequest
    (Option.isNone_iff_eq_none.mp (by decide +kernel))
    (AttemptPool.replayed_sound (by decide +kernel))

def otherKey : IdempotencyKey := ⟨[0x6c], by decide⟩

def crossed : Fin 3 → Attempt
  | 0 => sampleAttempt firstRequest sampleKey
  | 1 => sampleAttempt firstRequest otherKey
  | 2 => sampleAttempt secondRequest otherKey

/-- The first attempt records itself under its key.  The second claims the
other key for the same request and fails to create its record, which exists.
Its claim stays, so the third is handed the first attempt's outcome. -/
theorem replay_crosses_keys :
    ∃ (events : List (Event (Fin 3) SysChoice)) (choice : SysChoice) (requestId : RequestId),
      ((AttemptPool.start Disk.empty crossed).run host events).outcome 2 = none ∧
      (((AttemptPool.start Disk.empty crossed).run host events).step host
        (.step 2 choice)).outcome 2 = some (.ok (.replay requestId)) ∧
      ¬ Faithful (crossed 2).idempotencyKey requestId
        (((AttemptPool.start Disk.empty crossed).run host events).step host (.step 2 choice)).state := by
  refine ⟨steps 0 40 ++ steps 1 40 ++ steps 2 11, healthyChoice 0, firstRequest,
    Option.isNone_iff_eq_none.mp (by decide +kernel),
    AttemptPool.replayed_sound (by decide +kernel), fun faithful => ?_⟩
  have stored := storedKey_faithful faithful
  revert stored
  decide +kernel

end OpsEngine
