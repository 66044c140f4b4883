import Mathlib.Data.Fintype.EquivFin
import Mathlib.Data.Fintype.Lattice
import OpsEngine.Transaction.Guards

namespace OpsEngine.ResourceLock

open Effect Files

/-! # Contending for resource locks

The journals show that every call climbs through its hashes and stops at its
first refusal.  So the call that was refused highest was refused by one that
got further, and not all of them can lose.
-/

variable {Root ι : Type} [DecidableEq ι] {canonicalHash : Root → String} {actor : ι}
  {attempt : FilePath × Except IoError Unit} {path : FilePath}

section Journals

inductive Contending : SysOp → Prop where
  | createDirAll : Contending (.createDirAll .resourceLocks)
  | acquire {operation : SysOp} (hash : String)
      (acquiring : Lock.Acquiring (hashPath hash) operation) : Contending operation

/-- The locks an actor asked for, latest first, with the kernel's answers. -/
def attempts : SysJournal → List (FilePath × Except IoError Unit)
  | [] => []
  | ⟨.lock path, answer⟩ :: rest => (path, answer) :: attempts rest
  | _ :: rest => attempts rest

variable {journal : SysJournal} {operation : SysOp} {hash : String} {holder : RequestId}
  {answer : operation.Result Answer}

theorem attempts_cons_of_not_lock (other : ∀ path, operation ≠ .lock path) :
    attempts (⟨operation, answer⟩ :: journal) = attempts journal := by
  cases operation with
  | lock path => exact absurd rfl (other path)
  | _ => rfl

theorem mem_attempts_cons (member : attempt ∈ attempts journal) (entry : SysEntry) :
    attempt ∈ attempts (entry :: journal) := by
  obtain ⟨operation, answer⟩ := entry
  cases operation with
  | lock path => exact List.mem_cons_of_mem _ member
  | _ => exact member

/-- Every lock so far was granted, and lies below `hash`. -/
def Climbs (journal : SysJournal) (hash : String) : Prop :=
  ∀ attempt ∈ attempts journal, attempt.2 = .ok () ∧
    ∃ lower, attempt.1 = hashPath lower ∧ lower < hash

/-- An actor allowed to contend asks for ever higher locks, and for none after
a refusal. -/
structure Lawful (callers : ι → Prop) (actor : ι) (journal : SysJournal) (operation : SysOp) :
    Prop where
  caller : callers actor
  contending : Contending operation
  climbs : ∀ path, operation = .lock path → ∃ hash, path = hashPath hash ∧ Climbs journal hash

/-- An i/o failure, other than a refused lock. -/
inductive Failure : SysEntry → Prop where
  | createDirAll (dir : Dir) (error : IoError) : Failure ⟨.createDirAll dir, .error error⟩
  | openOrCreate (path : FilePath) (error : IoError) : Failure ⟨.openOrCreate path, .error error⟩
  | truncate (inode : Nat) (path : FilePath) (error : IoError) :
      Failure ⟨.truncate inode path, .error error⟩
  | write (inode : Nat) (path : FilePath) (content : Content) (error : IoError) :
      Failure ⟨.write inode path content, .error error⟩
  | sync (path : FilePath) (error : IoError) : Failure ⟨.sync path, .error error⟩

/-- The actor was refused a lock, or met an i/o failure. -/
def Thwarted (journal : SysJournal) : Prop :=
  (∃ path error, (⟨.lock path, .error error⟩ : SysEntry) ∈ journal) ∨
    ∃ entry ∈ journal, Failure entry

theorem Thwarted.mono {before after : SysJournal} (longer : before <:+ after)
    (thwarted : Thwarted before) : Thwarted after := by
  rcases thwarted with ⟨path, error, refused⟩ | ⟨entry, member, failure⟩
  · exact .inl ⟨path, error, longer.subset refused⟩
  · exact .inr ⟨entry, longer.subset member, failure⟩

theorem mem_attempts_of_refused {error : IoError}
    (refused : (⟨.lock path, .error error⟩ : SysEntry) ∈ journal) :
    (path, .error error) ∈ attempts journal := by
  induction journal with
  | nil => simp at refused
  | cons entry journal ih =>
    rcases List.mem_cons.mp refused with rfl | later
    · exact List.mem_cons_self
    · exact mem_attempts_cons (ih later) entry

variable {callers : ι → Prop} {recorded : RecordedSystem ι}

abbrev climbing (callers : ι → Prop) : Discipline SysOp (RecordedSystem ι) ι SysChoice :=
  .journaled (fun _ choice _ _ => Healthy choice) (Lawful callers)

/-- The operations that ask for no lock. -/
def Quiet (operation : SysOp) : Prop :=
  Contending operation ∧ ∀ path, operation ≠ .lock path

theorem quiet_diagnosing (diagnosing : Lock.Diagnosing (hashPath hash) operation) :
    Quiet operation := by
  refine ⟨.acquire hash (.diagnose diagnosing), fun path => ?_⟩
  cases diagnosing <;> simp

theorem quiet_unlock (hash : String) : Quiet (.unlock (hashPath hash)) :=
  ⟨.acquire hash .unlock, by simp⟩

omit [DecidableEq ι] in
theorem lawful_quiet (caller : callers actor) (quiet : Quiet operation) (journal : SysJournal) :
    Lawful callers actor journal operation :=
  ⟨caller, quiet.1, fun path locks => absurd locks (quiet.2 path)⟩

theorem safe_quiet {α : Type} {program : Action α} (caller : callers actor)
    (every : program.Every Quiet) :
    Safe host.recorded (climbing callers) actor
      (fun _ after => recorded.journals actor <:+ after.journals actor) program recorded :=
  journaled_every (fun _ journal quiet => lawful_quiet caller quiet journal) every

/-- Whatever an actor asks for next must lie above `hash`. -/
def Past (hash : String) (journal : SysJournal) : Prop :=
  ∀ higher, hash < higher → Climbs journal higher

theorem Climbs.congr {later : SysJournal} (climbs : Climbs journal hash)
    (same : attempts later = attempts journal) : Climbs later hash := by
  unfold Climbs
  rw [same]
  exact climbs

theorem Past.congr {later : SysJournal} (past : Past hash journal)
    (same : attempts later = attempts journal) : Past hash later :=
  fun higher above => (past higher above).congr same

omit [DecidableEq ι] in
theorem climbs_unstarted (unstarted : recorded.journals actor = []) (hash : String) :
    Climbs (recorded.journals actor) hash := by
  intro attempt member
  rw [unstarted] at member
  simp [attempts] at member

theorem Climbs.past (climbs : Climbs journal hash) :
    Past hash (⟨.lock (hashPath hash), .ok ()⟩ :: journal) := by
  intro higher above attempt member
  rcases List.mem_cons.mp member with rfl | earlier
  · exact ⟨rfl, hash, rfl, above⟩
  · obtain ⟨granted, lower, same, below⟩ := climbs attempt earlier
    exact ⟨granted, lower, same, below.trans above⟩

/-- A call that returns has climbed past its lock, or was thwarted. -/
def Climbed {α : Type} (actor : ι) (hash : String) :
    Except LockError α → RecordedSystem ι → Prop :=
  Outcomes (fun _ after => Past hash (after.journals actor))
    fun _ after => Thwarted (after.journals actor)

/-- A quiet call asks for no lock; where it fails, the actor is thwarted. -/
theorem quiet_call_bind {α : Type} {rest : operation.Result Answer → Action α}
    {post : α → RecordedSystem ι → Prop} (caller : callers actor) (quiet : Quiet operation)
    (next : ∀ answer after,
      attempts (after.journals actor) = attempts (recorded.journals actor) →
      (Failure ⟨operation, answer⟩ → Thwarted (after.journals actor)) →
      Safe host.recorded (climbing callers) actor post (rest answer) after) :
    Safe host.recorded (climbing callers) actor post (Program.call operation >>= rest)
      recorded := by
  apply journaled_call_bind (lawful_quiet caller quiet _)
  intro answer after noted
  apply next answer after
  · rw [noted]
    exact attempts_cons_of_not_lock quiet.2
  · intro failure
    rw [noted]
    exact .inr ⟨_, List.mem_cons_self, failure⟩

theorem safe_failAcquire (caller : callers actor) (thwarted : Thwarted (recorded.journals actor)) :
    Safe host.recorded (climbing callers) actor (Climbed actor hash)
      (Lock.failAcquire (hashPath hash)) recorded := by
  apply journaled_call_bind (lawful_quiet caller (quiet_unlock hash) _)
  intro _ after noted
  show Thwarted (after.journals actor)
  rw [noted]
  exact thwarted.mono (List.suffix_cons _ _)

theorem safe_writeRecord {inode : Nat}
    (caller : callers actor) (past : Past hash (recorded.journals actor)) :
    Safe host.recorded (climbing callers) actor (Climbed actor hash)
      (Lock.writeRecord inode (hashPath hash) holder) recorded := by
  apply quiet_call_bind caller ⟨.acquire hash (.diagnose .now), by simp⟩
  intro now first same _
  apply quiet_call_bind caller (quiet_diagnosing (.truncate inode))
  intro truncated second again failed
  cases truncated with
  | error error => exact safe_failAcquire caller (failed (.truncate ..))
  | ok _ =>
  apply quiet_call_bind caller (quiet_diagnosing (.write inode _))
  intro written third still failed
  cases written with
  | error error => exact safe_failAcquire caller (failed (.write ..))
  | ok _ =>
  apply quiet_call_bind caller (quiet_diagnosing .sync)
  intro synced last kept failed
  cases synced with
  | error error => exact safe_failAcquire caller (failed (.sync ..))
  | ok _ => exact past.congr (kept.trans (still.trans (again.trans same)))

theorem safe_climb (caller : callers actor) (climbs : Climbs (recorded.journals actor) hash) :
    Safe host.recorded (climbing callers) actor (Climbed actor hash)
      (Lock.acquire (hashPath hash) holder) recorded := by
  apply quiet_call_bind caller (quiet_diagnosing .openOrCreate)
  intro opened first same failed
  cases opened with
  | error error => exact failed (.openOrCreate ..)
  | ok inode =>
  have climbs := climbs.congr same
  apply journaled_call_bind
  · refine ⟨caller, .acquire hash .lock, fun path same => ?_⟩
    cases same
    exact ⟨hash, rfl, climbs⟩
  intro locked second noted
  have refused : ∀ error, locked = .error error → Thwarted (second.journals actor) := by
    rintro error rfl
    rw [noted]
    exact .inl ⟨hashPath hash, error, List.mem_cons_self⟩
  cases locked with
  | ok _ =>
    apply safe_writeRecord caller
    rw [noted]
    exact climbs.past
  | error error =>
  have thwarted := refused error rfl
  cases error with
  | wouldBlock =>
    have reads : (Lock.readLock (hashPath hash)).Every Quiet :=
      Lock.readLock_every.mono fun _ => quiet_diagnosing
    apply (safe_quiet caller reads).seq
    intro result last longer
    cases result <;> exact thwarted.mono longer
  | notFound | alreadyExists | other => exact thwarted

theorem safe_climbRoot {root : Root} (caller : callers actor)
    (climbs : Climbs (recorded.journals actor) (canonicalHash root)) :
    Safe host.recorded (climbing callers) actor
      (Outcomes (fun guard after => guard = hashPath (canonicalHash root) ∧
        Past (canonicalHash root) (after.journals actor))
        fun _ after => Thwarted (after.journals actor))
      (acquire canonicalHash root holder) recorded := by
  apply quiet_call_bind caller ⟨.createDirAll, by simp⟩
  intro made first same failed
  cases made with
  | error error => exact failed (.createDirAll ..)
  | ok _ =>
  refine (safe_climb caller (climbs.congr same)).attempt (fun _ _ outcome => outcome) ?_
  intro _ after outcome
  exact ⟨rfl, outcome⟩

variable {guards : List FilePath}

theorem dropGuards_every (hashes : ∀ guard ∈ guards, ∃ hash, guard = hashPath hash) :
    (dropGuards guards).Every Quiet := by
  induction guards with
  | nil => trivial
  | cons guard guards ih =>
    obtain ⟨hash, rfl⟩ := hashes guard (by simp)
    apply Program.every_call_bind (quiet_unlock hash)
    exact fun _ => ih fun other member => hashes other (by simp [member])

/-- What the journal of a call says when it returned. -/
def Told (actor : ι) : Except LockError (List FilePath) → RecordedSystem ι → Prop :=
  Outcomes (fun guards _ => ∀ guard ∈ guards, ∃ hash, guard = hashPath hash)
    fun _ after => Thwarted (after.journals actor)

theorem safe_climbEach {entries : List (String × Root)} (caller : callers actor)
    (ascending : Ascending canonicalHash entries)
    (climbs : ∀ entry ∈ entries, Climbs (recorded.journals actor) (canonicalHash entry.2))
    (hashes : ∀ guard ∈ guards, ∃ hash, guard = hashPath hash) :
    Safe host.recorded (climbing callers) actor (Told actor)
      (acquireEach canonicalHash holder entries guards) recorded := by
  induction entries generalizing guards recorded with
  | nil => exact hashes
  | cons entry entries ih =>
    obtain ⟨above, ascending⟩ := List.pairwise_cons.mp ascending
    apply (safe_climbRoot caller (climbs entry (by simp))).seq
    intro result after outcome
    cases result with
    | error error =>
      have thwarted : Thwarted (after.journals actor) := outcome
      apply (safe_quiet caller (dropGuards_every hashes)).seq
      intro _ last longer
      exact thwarted.mono longer
    | ok guard =>
      obtain ⟨rfl, past⟩ := outcome
      apply ih ascending
      · exact fun other member => past _ (above other member)
      · intro guard member
        rcases List.mem_append.mp member with earlier | new
        · exact hashes guard earlier
        · exact ⟨_, List.mem_singleton.mp new⟩

theorem safe_climbPair {first second : Root} (caller : callers actor)
    (unstarted : recorded.journals actor = []) :
    Safe host.recorded (climbing callers) actor
      (Outcomes (fun guards _ => ∀ guard ∈ guards.1 :: guards.2.toList, ∃ hash, guard = hashPath hash)
        fun _ after => Thwarted (after.journals actor))
      (acquirePair canonicalHash first second holder) recorded := by
  have climbs := climbs_unstarted unstarted
  unfold acquirePair
  split
  · refine (safe_climbRoot caller (climbs _)).attempt (fun _ _ outcome => outcome) ?_
    intro guard after outcome other member
    exact ⟨_, (List.mem_singleton.mp member).trans outcome.1⟩
  rename_i different
  generalize ordered : (if canonicalHash first < canonicalHash second then (first, second)
    else (second, first)) = roots
  have higher : canonicalHash roots.1 < canonicalHash roots.2 := by
    split at ordered
    · rename_i below
      rw [← ordered]
      exact below
    · rename_i above
      rw [← ordered]
      exact lt_of_le_of_ne (not_lt.mp above) fun same => different same.symm
  refine (safe_climbRoot caller (climbs _)).attempt (fun _ _ outcome => outcome) ?_
  intro lowerGuard after outcome
  obtain ⟨rfl, past⟩ := outcome
  apply (safe_climbRoot caller (past _ higher)).seq
  intro result last outcome
  cases result with
  | error error =>
    have thwarted : Thwarted (last.journals actor) := outcome
    apply journaled_call_bind (lawful_quiet caller (quiet_unlock _) _)
    intro _ final noted
    show Thwarted (final.journals actor)
    rw [noted]
    exact thwarted.mono (List.suffix_cons _ _)
  | ok higherGuard =>
    obtain ⟨rfl, _⟩ := outcome
    intro guard member
    rcases List.mem_cons.mp member with same | other
    · exact ⟨_, same⟩
    · exact ⟨_, List.mem_singleton.mp other⟩

theorem safe_climbCall (call : Call Root) (caller : callers actor)
    (unstarted : recorded.journals actor = []) :
    Safe host.recorded (climbing callers) actor (Told actor) (call.program canonicalHash holder)
      recorded := by
  have climbs := climbs_unstarted unstarted
  cases call with
  | one root =>
    refine (safe_climbRoot caller (climbs _)).attempt (fun _ _ outcome => outcome) ?_
    intro guard after outcome other member
    exact ⟨_, (List.mem_singleton.mp member).trans outcome.1⟩
  | pair first second =>
    refine (safe_climbPair caller unstarted).attempt (fun _ _ outcome => outcome) ?_
    intro guards after outcome
    exact outcome
  | many roots =>
    apply safe_climbEach caller (acquireMany_ascending roots)
    · exact fun _ _ => climbs _
    · simp

theorem safe_climbContender (contender : Contender Root) (caller : callers actor)
    (unstarted : recorded.journals actor = []) :
    Safe host.recorded (climbing callers) actor
      (fun result after => ∀ error, result = .error error → Thwarted (after.journals actor))
      (contender.program canonicalHash) recorded := by
  refine (safe_climbCall contender.call caller unstarted).attempt
    (fun _ _ outcome => fun _ _ => outcome) ?_
  intro guards after outcome
  dsimp only
  split
  · apply (safe_quiet caller (dropGuards_every outcome)).seq
    exact fun _ _ _ _ impossible => by simp at impossible
  · exact fun _ impossible => by simp at impossible

end Journals

section Order

variable {callers : ι → Prop} {recorded : RecordedSystem ι} {choice : SysChoice}
  {operation : SysOp}

/-- What holds along every healthy run of callers: nothing fails but locks, a
lock is refused only when somebody was granted it, and nobody was granted a
lock above the one it was refused. -/
structure Orderly (callers : ι → Prop) (recorded : RecordedSystem ι) : Prop where
  regular : ∀ hash, recorded.state.Regular (hashPath hash)
  sound : ∀ actor, ∀ entry ∈ recorded.journals actor, ¬ Failure entry
  caller : ∀ actor, ∀ attempt ∈ attempts (recorded.journals actor), callers actor
  granted : ∀ hash holder, recorded.state.locks (hashPath hash) = some holder →
    (hashPath hash, .ok ()) ∈ attempts (recorded.journals holder)
  refused : ∀ actor path error, (path, .error error) ∈ attempts (recorded.journals actor) →
    ∃ hash, path = hashPath hash ∧ ∃ other, (path, .ok ()) ∈ attempts (recorded.journals other)
  climbed : ∀ actor hash error lower,
    (hashPath hash, .error error) ∈ attempts (recorded.journals actor) →
    (hashPath lower, .ok ()) ∈ attempts (recorded.journals actor) → lower < hash

variable {state : System ι}

theorem regular_contending (contending : Contending operation)
    (regular : ∀ hash, state.Regular (hashPath hash)) (hash : String) :
    (host.exec actor choice operation state).2.Regular (hashPath hash) := by
  have untouched : ¬ operation.Touches (hashPath hash) →
      (host.exec actor choice operation state).2.Regular (hashPath hash) := by
    intro untouched node found
    exact regular hash node ((Disk.exec_node untouched).symm.trans found)
  cases contending with
  | createDirAll => exact untouched id
  | acquire locked acquiring =>
  cases acquiring with
  | lock | unlock => exact untouched id
  | diagnose diagnosing =>
    by_cases same : hashPath hash = hashPath locked
    · rw [same]
      exact diagnosing.regular (regular locked)
    · exact untouched fun touched => same (diagnosing.within.nodes _ touched)

theorem sound_contending (healthy : Healthy choice)
    (contending : Contending operation) (regular : ∀ hash, state.Regular (hashPath hash)) :
    ¬ Failure ⟨operation, (host.exec actor choice operation state).1⟩ := by
  cases contending with
  | createDirAll =>
    rw [healthy_createDirAll healthy]
    nofun
  | acquire hash acquiring =>
  cases acquiring with
  | lock | unlock => nofun
  | diagnose diagnosing =>
  cases diagnosing with
  | read | now => nofun
  | openOrCreate =>
    obtain ⟨inode, after, opened, _⟩ := healthy_openOrCreate actor healthy (regular hash)
    rw [opened]
    nofun
  | truncate inode =>
    rw [healthy_truncate healthy]
    nofun
  | write inode record =>
    rw [healthy_write healthy]
    nofun
  | sync =>
    rw [healthy_sync healthy]
    nofun

theorem mem_attempts_recorded {who : ι} (member : attempt ∈ attempts (recorded.journals who)) :
    attempt ∈ attempts ((host.recorded.exec actor choice operation recorded).2.journals who) := by
  by_cases same : who = actor
  · subst who
    rw [journal_self]
    exact mem_attempts_cons member _
  · rw [journal_of_ne same]
    exact member

theorem attempts_recorded {who : ι} (member : attempt ∈
      attempts ((host.recorded.exec actor choice operation recorded).2.journals who)) :
    (who = actor ∧ ∃ path, operation = .lock path ∧
      attempt = (path, (host.exec actor choice (.lock path) recorded.state).1)) ∨
      attempt ∈ attempts (recorded.journals who) := by
  by_cases same : who = actor
  · subst who
    rw [journal_self] at member
    cases operation with
    | lock path => exact (List.mem_cons.mp member).imp_left fun new => ⟨rfl, path, rfl, new⟩
    | _ => exact .inr member
  · rw [journal_of_ne same] at member
    exact .inr member

theorem held_of_refused {error : IoError} (healthy : Healthy choice)
    (refused : (host.exec actor choice (.lock path) state).1 = .error error) :
    ∃ holder, state.locks path = some holder := by
  cases held : state.locks path with
  | some holder => exact ⟨holder, rfl⟩
  | none =>
    rw [healthy_lock healthy held] at refused
    contradiction

theorem Orderly.step (orderly : Orderly callers recorded) (healthy : Healthy choice)
    (lawful : Lawful callers actor (recorded.journals actor) operation) :
    Orderly callers (host.recorded.exec actor choice operation recorded).2 := by
  have sound : ∀ who, ∀ entry ∈ (host.recorded.exec actor choice operation recorded).2.journals who,
      ¬ Failure entry := by
    intro who entry member
    by_cases same : who = actor
    · subst who
      rw [journal_self] at member
      rcases List.mem_cons.mp member with rfl | earlier
      · exact sound_contending healthy lawful.contending orderly.regular
      · exact orderly.sound actor entry earlier
    · rw [journal_of_ne same] at member
      exact orderly.sound who entry member
  have regular : ∀ hash,
      (host.exec actor choice operation recorded.state).2.Regular (hashPath hash) :=
    regular_contending lawful.contending orderly.regular
  refine ⟨regular, sound, ?_, ?_, ?_, ?_⟩
  · intro who attempt member
    rcases attempts_recorded member with ⟨rfl, _⟩ | earlier
    · exact lawful.caller
    · exact orderly.caller who attempt earlier
  · intro hash holder held
    rcases machine_granted held with
      ⟨rfl, rfl⟩ | before
    · rcases machine_lock holder choice recorded.state (hashPath hash) with
        ⟨error, refused⟩ | ⟨_, _, granted⟩
      · rw [recorded_state, refused] at held
        exact mem_attempts_recorded (orderly.granted hash holder held)
      · rw [journal_self, granted]
        exact List.mem_cons_self
    · exact mem_attempts_recorded (orderly.granted hash holder before)
  · intro who path error member
    rcases attempts_recorded member with ⟨rfl, locked, rfl, new⟩ | earlier
    · obtain ⟨hash, rfl, _⟩ := lawful.climbs locked rfl
      obtain ⟨rfl, refused⟩ := Prod.mk.inj new
      obtain ⟨holder, held⟩ := held_of_refused healthy refused.symm
      exact ⟨hash, rfl, holder, mem_attempts_recorded (orderly.granted _ holder held)⟩
    · obtain ⟨hash, same, other, granted⟩ := orderly.refused who path error earlier
      exact ⟨hash, same, other, mem_attempts_recorded granted⟩
  -- After a refusal there is no further attempt, and each attempt is above the granted ones.
  intro who refusedHash error lower refused granted
  rcases attempts_recorded refused with ⟨rfl, locked, rfl, new⟩ | earlier
  · obtain ⟨hash, rfl, climbs⟩ := lawful.climbs locked rfl
    obtain ⟨same, refusedNow⟩ := Prod.mk.inj new
    rw [hashPath_inj.mp same]
    rcases attempts_recorded granted with ⟨_, _, again, alsoNew⟩ | before
    · cases again
      obtain ⟨_, grantedNow⟩ := Prod.mk.inj alsoNew
      rw [← refusedNow] at grantedNow
      contradiction
    · obtain ⟨_, other, samePath, below⟩ := climbs _ before
      rw [hashPath_inj.mp samePath]
      exact below
  · rcases attempts_recorded granted with ⟨rfl, locked, rfl, _⟩ | before
    · obtain ⟨hash, rfl, climbs⟩ := lawful.climbs locked rfl
      obtain ⟨impossible, _⟩ := climbs _ earlier
      contradiction
    · exact orderly.climbed who refusedHash error lower earlier before

theorem Orderly.exit (orderly : Orderly callers recorded) (who : ι) :
    Orderly callers (host.recorded.exit who recorded) := by
  refine ⟨orderly.regular, orderly.sound, orderly.caller, fun hash holder held => ?_,
    orderly.refused, orderly.climbed⟩
  have freed : (if recorded.state.locks (hashPath hash) = some who then none
      else recorded.state.locks (hashPath hash)) = some holder := held
  split at freed
  · contradiction
  · exact orderly.granted hash holder freed

omit [DecidableEq ι] in
/-- Among finitely many callers that were all thwarted, the one refused the
highest lock was refused by one that got further. -/
theorem Orderly.not_all_thwarted [Finite {actor // callers actor}]
    (orderly : Orderly callers recorded)
    (thwarted : ∀ actor, callers actor → Thwarted (recorded.journals actor))
    (some : ∃ actor, callers actor) : False := by
  have refusal : ∀ actor : {actor // callers actor}, ∃ hash error,
      (hashPath hash, .error error) ∈ attempts (recorded.journals actor) := by
    rintro ⟨actor, caller⟩
    rcases thwarted actor caller with ⟨path, error, refused⟩ | ⟨entry, member, failure⟩
    · have attempted := mem_attempts_of_refused refused
      obtain ⟨hash, rfl, _⟩ := orderly.refused actor path error attempted
      exact ⟨hash, error, attempted⟩
    · exact absurd failure (orderly.sound actor entry member)
  choose highest error refused using refusal
  obtain ⟨actor, caller⟩ := some
  have : Nonempty {actor // callers actor} := ⟨⟨actor, caller⟩⟩
  obtain ⟨top, maximal⟩ := Finite.exists_max highest
  obtain ⟨_, _, winner, granted⟩ := orderly.refused top _ _ (refused top)
  have higher := orderly.climbed winner _ _ _
    (refused ⟨winner, orderly.caller winner _ granted⟩) granted
  exact absurd higher (not_lt.mpr (maximal _))

end Order

end OpsEngine.ResourceLock

namespace OpsEngine

open Effect Files ResourceLock

variable {Root ι : Type}

abbrev ContenderPool (ι : Type) :=
  Pool SysOp (Op.Result Answer) (System ι) ι (Except LockError (List FilePath))

/-- The contenders side by side.  An actor without a call is an outsider that
may hold locks. -/
def ContenderPool.start (canonicalHash : Root → String) (state : System ι)
    (contenders : ι → Option (Contender Root)) : ContenderPool ι :=
  { state, threads := fun actor => (contenders actor).map (Contender.program canonicalHash) }

/-- A live guard: one the actor's call returned and the actor did not drop, or one it has
been granted while it still runs. -/
def ContenderPool.Guards (contenders : ι → Option (Contender Root)) (pool : ContenderPool ι)
    (actor : ι) (path : FilePath) : Prop :=
  (∃ contender guards, contenders actor = some contender ∧ contender.drops = false ∧
      pool.outcome actor = some (.ok guards) ∧ path ∈ guards) ∨
    pool.outcome actor = none ∧ pool.state.locks path = some actor

/-- A finite set of calls with nobody else in the way: no lock is held at the
start, no system call fails for another reason than a conflict, and in the end
all have returned. -/
structure ContenderPool.Undisturbed (contenders : ι → Option (Contender Root)) (state : System ι)
    (events : List (Event ι SysChoice)) (pool : ContenderPool ι) : Prop where
  finite : Finite {actor // (contenders actor).isSome = true}
  some : ∃ actor, (contenders actor).isSome = true
  free : ∀ hash, state.locks (hashPath hash) = none
  regular : ∀ hash, state.Regular (hashPath hash)
  healthy : ∀ actor choice, .step actor choice ∈ events → Healthy choice
  returned : ∀ actor, (contenders actor).isSome = true → (pool.outcome actor).isSome = true

namespace ContenderPool

/-- What a contender of the pool has when it returned. -/
def Won (canonicalHash : Root → String) (contenders : ι → Option (Contender Root)) (actor : ι)
    (result : Except LockError (List FilePath)) (state : System ι) : Prop :=
  ∃ contender, contenders actor = some contender ∧
    Returned canonicalHash contender actor result state

variable {canonicalHash : Root → String} {contenders : ι → Option (Contender Root)}

theorem stable_won (actor : ι) (result : Except LockError (List FilePath)) :
    Stable ((exclusive : Discipline SysOp (System ι) ι SysChoice).rely actor)
      (Won canonicalHash contenders actor result) := by
  rintro before after moved ⟨contender, found, returned⟩
  refine ⟨contender, found, ?_⟩
  cases result with
  | error error => exact stable_holding [] before after moved returned
  | ok guards => exact ⟨returned.1, stable_holding _ before after moved returned.2⟩

variable {pool : ContenderPool ι}

theorem done_of_outcome {actor : ι}
    {result : Except LockError (List FilePath)} (returned : pool.outcome actor = some result) :
    pool.threads actor = some (.done result) := by
  obtain ⟨program, found, finished⟩ := Option.bind_eq_some_iff.mp returned
  cases program with
  | done value =>
    cases finished
    exact found
  | perform operation next => simp [Program.result?] at finished

theorem held_of_guards (settled : pool.Settled (Won canonicalHash contenders)) {actor : ι}
    {path : FilePath} (live : pool.Guards contenders actor path) :
    pool.state.locks path = some actor := by
  rcases live with ⟨contender, guards, found, kept, returned, member⟩ | ⟨_, held⟩
  · obtain ⟨other, same, _, holding⟩ := settled actor _ (done_of_outcome returned)
    cases found.symm.trans same
    exact (holding path).mpr (by simpa [kept] using member)
  · exact held

variable [DecidableEq ι] {state : System ι} {events : List (Event ι SysChoice)}

theorem running_exclusive
    (fresh : ∀ actor, (contenders actor).isSome = true → ∀ path, state.locks path ≠ some actor) :
    ((start canonicalHash state contenders).run host events).Running host exclusive
        (Won canonicalHash contenders) ∧
      ((start canonicalHash state contenders).run host events).Settled
        (Won canonicalHash contenders) := by
  obtain ⟨running, settled⟩ :
      (start canonicalHash state contenders).Running host exclusive (Won canonicalHash contenders) ∧
        (start canonicalHash state contenders).Settled (Won canonicalHash contenders) := by
    apply Pool.safe_start
    intro actor program started
    obtain ⟨contender, found, rfl⟩ := Option.map_eq_some_iff.mp started
    have unheld : Holding actor [] state := fun path =>
      ⟨fun held => absurd held (fresh actor (by rw [found]; rfl) path),
        fun member => absurd member List.not_mem_nil⟩
    exact (safe_contender contender unheld).mono fun _ _ returned => ⟨contender, found, returned⟩
  have respects : (start canonicalHash state contenders).Respects host exclusive.admits events := by
    apply Pool.respects_of_forall
    rintro (_ | _) _ pool
    · exact fun _ _ => trivial
    · trivial
  exact ⟨Pool.running_run exclusive_sound running respects,
    Pool.settled_run exclusive_sound stable_won running settled respects⟩

def recordedStart (canonicalHash : Root → String) (state : System ι)
    (contenders : ι → Option (Contender Root)) :
    Pool SysOp (Op.Result Answer) (RecordedSystem ι) ι (Except LockError (List FilePath)) :=
  { state := .start state
    threads := fun actor => (contenders actor).map (Contender.program canonicalHash) }

theorem not_all_lose (undisturbed : Undisturbed contenders state events
      ((start canonicalHash state contenders).run host events)) :
    ∃ actor guards, ((start canonicalHash state contenders).run host events).outcome actor =
      some (.ok guards) := by
  let callers := fun actor => (contenders actor).isSome = true
  let lost : ι → Except LockError (List FilePath) → RecordedSystem ι → Prop :=
    fun actor result after => ∀ error, result = .error error → Thwarted (after.journals actor)
  let pool := (recordedStart canonicalHash state contenders).run host.recorded events
  obtain ⟨running, settled⟩ :
      (recordedStart canonicalHash state contenders).Running host.recorded (climbing callers) lost ∧
        (recordedStart canonicalHash state contenders).Settled lost := by
    apply Pool.safe_start
    intro actor program started
    obtain ⟨contender, found, rfl⟩ := Option.map_eq_some_iff.mp started
    have caller : callers actor := by
      show (contenders actor).isSome = true
      rw [found]
      rfl
    exact safe_climbContender contender caller rfl
  have respects : (recordedStart canonicalHash state contenders).Respects host.recorded
      (climbing callers).admits events := by
    apply Pool.respects_of_forall
    rintro (⟨actor, choice⟩ | _) member pool
    · exact fun _ _ => undisturbed.healthy actor choice member
    · trivial
  have orderly : Orderly callers pool.state := by
    apply Pool.invariant_run Discipline.journaled_sound _ _ running respects
    · exact ⟨undisturbed.regular, by simp [recordedStart, Recorded.start],
        by simp [recordedStart, Recorded.start, attempts],
        fun hash holder held => by simp [recordedStart, Recorded.start, undisturbed.free] at held,
        by simp [recordedStart, Recorded.start, attempts],
        by simp [recordedStart, Recorded.start, attempts]⟩
    · exact fun actor choice operation recorded healthy lawful orderly => orderly.step healthy lawful
    · exact fun actor recorded orderly => orderly.exit actor
  have settled : pool.Settled lost :=
    Pool.settled_run Discipline.journaled_sound
      (fun actor result => stable_journal fun journal =>
        ∀ error, result = .error error → Thwarted journal)
      running settled respects
  have same : pool.forget = (start canonicalHash state contenders).run host events :=
    Pool.forget_run host _ events
  -- If nobody won, every caller has returned an error and was thwarted.
  by_contra nobody
  have finite : Finite {actor // callers actor} := undisturbed.finite
  apply orderly.not_all_thwarted _ undisturbed.some
  intro actor caller
  obtain ⟨result, returned⟩ := Option.isSome_iff_exists.mp (undisturbed.returned actor caller)
  cases result with
  | ok guards => exact absurd ⟨actor, guards, returned⟩ nobody
  | error error =>
  have ended : pool.threads actor = some (.done (.error error)) := by
    have done := done_of_outcome returned
    rw [← same] at done
    exact done
  exact settled actor _ ended error rfl

end ContenderPool

/-- For any contenders and in every interleaving, whatever fails or is killed: no two live
guards are for one lock; a call that succeeded has the guards of its roots, each once, and
holds them until they are dropped; a call that failed holds nothing; no call asks for a
lock it already has; and of finitely many contenders with nobody else in the way one
succeeds. -/
theorem resource_locks_safe [DecidableEq ι] (canonicalHash : Root → String)
    (contenders : ι → Option (Contender Root)) (state : System ι)
    (fresh : ∀ actor, (contenders actor).isSome = true → ∀ path, state.locks path ≠ some actor)
    (events : List (Event ι SysChoice)) :
    let pool : ContenderPool ι :=
      (ContenderPool.start canonicalHash state contenders).run host events
    (∀ first second path, pool.Guards contenders first path → pool.Guards contenders second path →
      first = second) ∧
    (∀ actor contender guards, contenders actor = some contender →
      pool.outcome actor = some (.ok guards) →
      Guarding canonicalHash contender.call.roots guards ∧
        (contender.drops = false → ∀ path ∈ guards, pool.state.locks path = some actor)) ∧
    (∀ actor error, pool.outcome actor = some (.error error) →
      ∀ path, pool.state.locks path ≠ some actor) ∧
    (∀ actor path, pool.pending actor = some (.lock path) → pool.state.locks path ≠ some actor) ∧
    (ContenderPool.Undisturbed contenders state events pool →
      ∃ actor guards, pool.outcome actor = some (.ok guards)) := by
  intro pool
  have safe : pool.Running host exclusive (ContenderPool.Won canonicalHash contenders) ∧
      pool.Settled (ContenderPool.Won canonicalHash contenders) :=
    ContenderPool.running_exclusive fresh
  obtain ⟨running, settled⟩ := safe
  refine ⟨?_, ?_, ?_, ?_, ContenderPool.not_all_lose⟩
  · intro first second path firstLive secondLive
    have firstHeld := ContenderPool.held_of_guards settled firstLive
    have secondHeld := ContenderPool.held_of_guards settled secondLive
    rw [firstHeld] at secondHeld
    exact Option.some.inj secondHeld
  · intro actor contender guards found returned
    obtain ⟨other, same, guarding, _⟩ := settled actor _ (ContenderPool.done_of_outcome returned)
    cases found.symm.trans same
    refine ⟨guarding, fun keeps path member => ?_⟩
    exact ContenderPool.held_of_guards settled
      (.inl ⟨contender, guards, found, keeps, returned, member⟩)
  · intro actor error returned path held
    obtain ⟨_, _, holding⟩ := settled actor _ (ContenderPool.done_of_outcome returned)
    exact List.not_mem_nil ((show Holding actor [] pool.state from holding) path |>.mp held)
  · intro actor path asking
    have kept : exclusive.keeps actor (healthyChoice 0) (.lock path) pool.state :=
      Pool.kept_pending running asking trivial
    exact kept path rfl

def opposed (second : Bool) : Option (Contender String) :=
  some { call := if second then .pair "b" "a" else .pair "a" "b"
         holder := .numbered 1
         drops := false }

def turns (count : Nat) : List (Event Bool SysChoice) :=
  (List.replicate count [.step false (healthyChoice 0), .step true (healthyChoice 0)]).flatten

theorem opposed_one_wins :
    ∃ actor guards,
    ((ContenderPool.start id Disk.empty opposed).run host (turns 20)).outcome actor =
      some (.ok guards) := by
  have settled := resource_locks_safe id opposed Disk.empty
    (fun _ _ path held => by simp [Disk.empty] at held) (turns 20)
  apply settled.2.2.2.2
  refine ⟨Finite.of_injective Subtype.val Subtype.val_injective, ⟨true, rfl⟩, fun _ => rfl,
    fun hash node found => by simp at found,
    fun actor choice member => ?_, ?_⟩
  · obtain ⟨turn, repeated, taken⟩ := List.mem_flatten.mp member
    rw [List.eq_of_mem_replicate repeated] at taken
    simp only [List.mem_cons, Event.step.injEq, List.not_mem_nil, or_false] at taken
    rcases taken with ⟨_, rfl⟩ | ⟨_, rfl⟩ <;> rfl
  · decide +kernel

end OpsEngine
