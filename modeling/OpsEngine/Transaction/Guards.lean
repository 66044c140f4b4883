import OpsEngine.Transaction.ResourceLock

namespace OpsEngine.ResourceLock

open Effect Files

/-! # Guards are kernel locks

Whatever the other callers do, a call's guards are exactly the kernel locks it
holds, and it never asks for one it has.
-/

/-- A call, and whether the caller drops its guards when it has them. -/
structure Contender (Root : Type) where
  call : Call Root
  holder : RequestId
  drops : Bool

variable {Root : Type}

def Contender.program (canonicalHash : Root → String) (contender : Contender Root) :
    Action (Except LockError (List FilePath)) := do
  match ← contender.call.program canonicalHash contender.holder with
  | .error error => return .error error
  | .ok guards =>
    if contender.drops then do
      dropGuards guards
      return .ok guards
    else return .ok guards

variable {ι : Type} [DecidableEq ι] {canonicalHash : Root → String} {actor : ι}

/-- Nobody else gives or takes an actor's locks, and it never asks for a lock
it has. -/
def exclusive : Discipline SysOp (System ι) ι SysChoice where
  rely actor before after := ∀ path, after.locks path = some actor ↔ before.locks path = some actor
  admits _ _ _ _ := True
  keeps actor _ operation state := ∀ path, operation = .lock path → state.locks path ≠ some actor

theorem exclusive_sound : (exclusive : Discipline SysOp (System ι) ι SysChoice).Sound host where
  step actor other choice operation state distinct _ _ := by
    intro path
    constructor
    · intro held
      rcases machine_holder held with same | before
      · exact absurd same.symm distinct
      · exact before
    · exact fun held => machine_still_held held (Ne.symm distinct)
  exit actor other state distinct := by
    intro path
    show (if state.locks path = some actor then none else state.locks path) = some other ↔ _
    split
    · rename_i held
      rw [held]
      simp [distinct]
    · rfl

/-- The actor holds exactly these locks. -/
def Holding (actor : ι) (guards : List FilePath) (state : System ι) : Prop :=
  ∀ path, state.locks path = some actor ↔ path ∈ guards

omit [DecidableEq ι] in
theorem stable_holding (guards : List FilePath) :
    Stable ((exclusive : Discipline SysOp (System ι) ι SysChoice).rely actor)
      (Holding actor guards) :=
  fun _ _ moved holding path => (moved path).trans (holding path)

variable {state : System ι} {guards : List FilePath} {holder : RequestId}

omit [DecidableEq ι] in
theorem Holding.congr {first second : List FilePath}
    (holding : Holding actor first state) (same : ∀ path, path ∈ first ↔ path ∈ second) :
    Holding actor second state :=
  fun path => (holding path).trans (same path)

theorem Holding.quiet {operation : SysOp}
    (holding : Holding actor guards state) (quiet : ∀ path, ¬ operation.Locks path)
    (choice : SysChoice) :
    Holding actor guards (host.exec actor choice operation state).2 := by
  intro path
  have unchanged : (host.exec actor choice operation state).2.locks path = state.locks path :=
    Disk.exec_locks (quiet path)
  rw [unchanged]
  exact holding path

variable {path : FilePath}

omit [DecidableEq ι] in
theorem Holding.grant (holding : Holding actor guards state) :
    Holding actor (path :: guards) (state.grant actor path) := by
  intro other
  by_cases same : other = path
  · subst other
    simp
  · rw [Disk.locks_grant_of_ne actor state same, holding other]
    simp [same]

theorem Holding.unlock (fresh : path ∉ guards) (holding : Holding actor (path :: guards) state) :
    Holding actor guards (state.unlock actor path) := by
  have held : state.locks path = some actor := (holding path).mpr List.mem_cons_self
  intro other
  by_cases same : other = path
  · subst other
    simp [Disk.unlock, held, fresh]
  · have kept : (state.unlock actor path).locks other = state.locks other :=
      Disk.unlock_locks_of_ne same
    rw [kept, holding other]
    simp [same]

theorem holding_contract (fresh : path ∉ guards) :
    Lock.Contract exclusive actor path (Holding actor guards) (Holding actor (path :: guards))
      (Holding actor guards) where
  stableBefore := stable_holding _
  stableHeld := stable_holding _
  quietBefore operation choice state diagnosing holding _ := by
    have quiet := diagnosing.within.locks
    refine ⟨fun other locks => ?_, holding.quiet quiet choice⟩
    subst locks
    exact absurd rfl (quiet other)
  quietHeld operation choice state diagnosing holding _ := by
    have quiet := diagnosing.within.locks
    refine ⟨fun other locks => ?_, holding.quiet quiet choice⟩
    subst locks
    exact absurd rfl (quiet other)
  refused choice state error holding _ _ := by
    intro other same held
    cases same
    exact fresh ((holding path).mp held)
  granted choice state holding _ free _ _ := by
    refine ⟨?_, holding.grant⟩
    intro other same held
    cases same
    exact fresh ((holding path).mp held)
  released choice state holding _ := ⟨by simp [exclusive], holding.unlock fresh⟩
  gaveUp _ holding := holding

theorem safe_acquire {root : Root} (fresh : hashPath (canonicalHash root) ∉ guards)
    (holding : Holding actor guards state) :
    Safe host exclusive actor
      (Outcomes (fun guard after => guard = hashPath (canonicalHash root) ∧
        Holding actor (guard :: guards) after) fun _ => Holding actor guards)
      (acquire canonicalHash root holder) state := by
  apply safe_call_bind _ (stable_holding guards) holding
  intro now choice holding _
  refine ⟨by simp [exclusive], ?_⟩
  have still : Holding actor guards (host.exec actor choice (.createDirAll .resourceLocks) now).2 :=
    holding.quiet (fun _ => id) choice
  split
  · exact still
  · refine (Lock.safe_acquire (holding_contract fresh) still).attempt (fun _ _ outcome => outcome) ?_
    intro _ after outcome
    exact ⟨rfl, outcome⟩

theorem safe_unlock {α : Type} {guard : FilePath} {rest : Action α}
    {post : α → System ι → Prop} (fresh : guard ∉ guards)
    (holding : Holding actor (guard :: guards) state)
    (dropped : ∀ after, Holding actor guards after → Safe host exclusive actor post rest after) :
    Safe host exclusive actor post (unlock guard >>= fun _ => rest) state := by
  apply safe_call_bind _ (stable_holding _) holding
  intro now choice holding _
  refine ⟨by simp [exclusive], ?_⟩
  rw [machine_unlock]
  exact dropped _ (holding.unlock fresh)

theorem safe_dropGuards (distinct : guards.Nodup) (holding : Holding actor guards state) :
    Safe host exclusive actor (fun _ => Holding actor []) (dropGuards guards) state := by
  induction guards generalizing state with
  | nil => exact holding
  | cons guard guards ih =>
    obtain ⟨fresh, distinct⟩ := List.nodup_cons.mp distinct
    exact safe_unlock fresh holding fun after holding => ih distinct holding

/-- The guards are those of the roots, each once. -/
def Guarding (canonicalHash : Root → String) (roots : List Root) (guards : List FilePath) : Prop :=
  guards.Nodup ∧ ∀ path, path ∈ guards ↔ ∃ root ∈ roots, path = hashPath (canonicalHash root)

/-- What a call has when it returned: the guards of its roots, or nothing. -/
def Acquired (canonicalHash : Root → String) (roots : List Root) (actor : ι) :
    Except LockError (List FilePath) → System ι → Prop :=
  Outcomes (fun guards state => Guarding canonicalHash roots guards ∧ Holding actor guards state)
    fun _ => Holding actor []

theorem safe_acquireEach {entries : List (String × Root)}
    (ascending : Ascending canonicalHash entries)
    (fresh : ∀ entry ∈ entries, hashPath (canonicalHash entry.2) ∉ guards)
    (distinct : guards.Nodup) (holding : Holding actor guards state) :
    Safe host exclusive actor
      (Outcomes (fun all after => all.Nodup ∧ (∀ path, path ∈ all ↔ path ∈ guards ∨
          ∃ entry ∈ entries, path = hashPath (canonicalHash entry.2)) ∧ Holding actor all after)
        fun _ => Holding actor [])
      (acquireEach canonicalHash holder entries guards) state := by
  induction entries generalizing guards state with
  | nil => exact ⟨distinct, by simp, holding⟩
  | cons entry entries ih =>
    obtain ⟨above, ascending⟩ := List.pairwise_cons.mp ascending
    have new : hashPath (canonicalHash entry.2) ∉ guards := fresh entry (by simp)
    apply (safe_acquire new holding).seq
    intro result after outcome
    cases result with
    | error error =>
      apply (safe_dropGuards distinct outcome).seq
      exact fun _ _ dropped => dropped
    | ok guard =>
    obtain ⟨rfl, holding⟩ := outcome
    have others : ∀ other ∈ entries, hashPath (canonicalHash other.2) ∉
        guards ++ [hashPath (canonicalHash entry.2)] := by
      intro other member
      have higher := above other member
      simp only [List.mem_append, List.mem_singleton, hashPath_inj, not_or]
      exact ⟨fresh other (by simp [member]), ne_of_gt higher⟩
    have apart := distinct.append (List.nodup_singleton (hashPath (canonicalHash entry.2)))
      (by simpa using new)
    refine (ih ascending others apart (holding.congr fun path => by simp [or_comm])).mono ?_
    intro result after outcome
    cases result with
    | error error => exact outcome
    | ok all =>
      obtain ⟨distinct, members, holding⟩ := outcome
      exact ⟨distinct, fun path => by rw [members]; simp [or_assoc], holding⟩

theorem safe_acquirePair {first second : Root} (holding : Holding actor [] state) :
    Safe host exclusive actor
      (Outcomes (fun guards after =>
        Guarding canonicalHash [first, second] (guards.1 :: guards.2.toList) ∧
        Holding actor (guards.1 :: guards.2.toList) after) fun _ => Holding actor [])
      (acquirePair canonicalHash first second holder) state := by
  unfold acquirePair
  split
  · rename_i same
    refine (safe_acquire (by simp) holding).attempt (fun _ _ outcome => outcome) ?_
    rintro _ after ⟨rfl, holding⟩
    exact ⟨⟨by simp, by simp [same]⟩, holding⟩
  rename_i different
  generalize ordered : (if canonicalHash first < canonicalHash second then (first, second)
    else (second, first)) = roots
  have apart : canonicalHash roots.1 ≠ canonicalHash roots.2 ∧ ∀ path,
      (path = hashPath (canonicalHash roots.1) ∨ path = hashPath (canonicalHash roots.2)) ↔
      ∃ root ∈ [first, second], path = hashPath (canonicalHash root) := by
    split at ordered
    · rw [← ordered]
      exact ⟨different, by simp⟩
    · rw [← ordered]
      exact ⟨fun same => different same.symm, by simp [or_comm]⟩
  refine (safe_acquire (by simp) holding).attempt (fun _ _ outcome => outcome) ?_
  intro lowerGuard after outcome
  obtain ⟨rfl, holding⟩ := outcome
  have new : hashPath (canonicalHash roots.2) ∉ [hashPath (canonicalHash roots.1)] := by
    simpa [hashPath_inj] using Ne.symm apart.1
  refine (safe_acquire new holding).attempt
    (fun _ _ outcome => safe_unlock (by simp) outcome fun _ holding => holding) ?_
  intro higherGuard last outcome
  obtain ⟨rfl, holding⟩ := outcome
  refine ⟨⟨by simpa [hashPath_inj] using apart.1, fun path => ?_⟩, holding.congr fun path => ?_⟩
  · rw [← apart.2]
    simp
  · simp [or_comm]

theorem safe_call_program (call : Call Root) (holding : Holding actor [] state) :
    Safe host exclusive actor (Acquired canonicalHash call.roots actor)
      (call.program canonicalHash holder) state := by
  cases call with
  | one root =>
    refine (safe_acquire (by simp) holding).attempt (fun _ _ outcome => outcome) ?_
    rintro _ after ⟨rfl, holding⟩
    exact ⟨⟨by simp, by simp [Call.roots]⟩, holding⟩
  | pair first second =>
    refine (safe_acquirePair holding).attempt (fun _ _ outcome => outcome) ?_
    intro guards after outcome
    exact outcome
  | many roots =>
    refine (safe_acquireEach (acquireMany_ascending roots) (by simp) List.nodup_nil holding).mono ?_
    intro result after outcome
    cases result with
    | error error => exact outcome
    | ok guards =>
      obtain ⟨distinct, members, holding⟩ := outcome
      refine ⟨⟨distinct, fun path => ?_⟩, holding⟩
      rw [members, acquireMany_covers]
      simp [Call.roots]

/-- What a contender has when it returned: the guards of its roots, which it holds unless
it dropped them; after an error, nothing. -/
def Returned (canonicalHash : Root → String) (contender : Contender Root) (actor : ι) :
    Except LockError (List FilePath) → System ι → Prop :=
  Outcomes (fun guards state => Guarding canonicalHash contender.call.roots guards ∧
      Holding actor (if contender.drops then [] else guards) state)
    fun _ => Holding actor []

theorem safe_contender (contender : Contender Root) (holding : Holding actor [] state) :
    Safe host exclusive actor (Returned canonicalHash contender actor)
      (contender.program canonicalHash) state := by
  refine (safe_call_program contender.call holding).attempt (fun _ _ outcome => outcome) ?_
  intro guards after outcome
  obtain ⟨guarding, holding⟩ := outcome
  dsimp only
  split
  · rename_i drops
    apply (safe_dropGuards guarding.1 holding).seq
    exact fun _ _ dropped => ⟨guarding, by simpa [drops] using dropped⟩
  · rename_i keeps
    exact ⟨guarding, by simpa [keeps] using holding⟩

end OpsEngine.ResourceLock
