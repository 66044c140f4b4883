import OpsEngine.Effect.History
import OpsEngine.Mutation.Attempt

namespace OpsEngine.Retention

open Effect Files

/-! # What a sweep forgets

A sweep removes the claim of a key and then the record that the claim stands for, and
it holds no lock meanwhile.  Its journal tells which records it still has to remove.
-/

def removed? : SysOp → Option FilePath
  | .remove path => some path
  | _ => none

/-- The file that was read, and what was answered. -/
def read? : SysEntry → Option (FilePath × Except IoError (Option Content))
  | ⟨.read path, answer⟩ => some (path, answer)
  | _ => none

def lookedUp (journal : SysJournal) : Option (FilePath × Except IoError (Option Content)) :=
  journal.head?.bind read?

def looked (journal : SysJournal) : List FilePath := (journal.filterMap read?).map Prod.fst

/-- The record that was read is missing, or has expired by what the clock has shown. -/
def Dead (retainFor : Nat) (journal : SysJournal) : Except IoError (Option Content) → Prop
  | .error error => error = .notFound
  | .ok content => ∃ record now, content = some (.record record) ∧
      (⟨.ask .now, now⟩ : SysEntry) ∈ journal ∧ Prune.expired record retainFor now = true

/-- The records that were read right before a claim was removed and are still to be
removed themselves. -/
def owed : SysJournal → List FilePath
  | [] => []
  | entry :: older =>
    match removed? entry.1 with
    | none => owed older
    | some path =>
      if path.dir = .idempotency then
        ((lookedUp older).filter (·.2.isOk)).toList.map Prod.fst ++ owed older
      else (owed older).filter (· ≠ path)

variable {ι : Type}

/-- The request that the claim at the path names. -/
def claimant (disk : System ι) (path : FilePath) : Option RequestId :=
  match disk.node path with
  | some (.file _ (some (.claim record))) => some record.requestId
  | _ => none

/-- The actor has just looked up the record of the request, and one that it did not find
is still missing. -/
def UpToDate (disk : System ι) (requestId : RequestId) (journal : SysJournal) : Prop :=
  ∃ read ∈ lookedUp journal, read.1 = statePath requestId ∧
    (read.2.isOk = true ∨ disk.node (statePath requestId) = none)

instance (disk : System ι) (requestId : RequestId) (journal : SysJournal) :
    Decidable (UpToDate disk requestId journal) := inferInstanceAs (Decidable (∃ _ ∈ _, _))

variable [DecidableEq ι]

/-- No record is created that the sweep has looked up; and the sweep removes only claims
of the request it has just looked up, and succeeds in removing checkpoints and records. -/
def Careful (sweeper actor : ι) (choice : SysChoice) (operation : SysOp)
    (recorded : RecordedSystem ι) : Prop :=
  (∀ path ∈ looked (recorded.journals sweeper), recorded.state.node path = none →
    (host.exec actor choice operation recorded.state).2.node path = none) ∧
  (actor = sweeper → ∀ path ∈ removed? operation,
    (path.dir = .idempotency → ∀ requestId ∈ claimant recorded.state path,
      UpToDate recorded.state requestId (recorded.journals sweeper)) ∧
    (path.dir = .deploymentRecovery →
      Except.isOk (host.exec actor choice (.remove path) recorded.state).1 = true) ∧
    (path.dir = .transactions →
      (host.exec actor choice operation recorded.state).2.node path = none))

instance (sweeper actor : ι) (choice : SysChoice) (operation : SysOp)
    (recorded : RecordedSystem ι) : Decidable (Careful sweeper actor choice operation recorded) :=
  inferInstanceAs (Decidable (_ ∧ _))

/-! ## A sweep that has ended owes nothing -/

/-- The sweep removes only claims of requests that it found dead. -/
def Lawful (sweeper : ι) (retainFor : Nat) (actor : ι) (journal : SysJournal) (operation : SysOp) :
    Prop :=
  actor = sweeper → ∀ path ∈ removed? operation, path.dir = .idempotency →
    ∃ read ∈ lookedUp journal, Dead retainFor journal read.2

abbrev careful (sweeper : ι) (retainFor : Nat) : Discipline SysOp (RecordedSystem ι) ι SysChoice :=
  .journaled (Careful sweeper) (Lawful sweeper retainFor)

variable {sweeper : ι} {recorded : RecordedSystem ι} {paths : List FilePath} {path : FilePath}
  {older : SysJournal} {α : Type} {retainFor grace now : Nat} {name : Name}

/-- What the sweep owes is among these, and the clock has shown it the times. -/
structure Owes (sweeper : ι) (times : List Nat) (paths : List FilePath)
    (recorded : RecordedSystem ι) : Prop where
  among : owed (recorded.journals sweeper) ⊆ paths
  shown : ∀ time ∈ times, (⟨.ask .now, time⟩ : SysEntry) ∈ recorded.journals sweeper

abbrev Sweeps (sweeper : ι) (retainFor : Nat) (post : α → RecordedSystem ι → Prop)
    (program : Action α) (recorded : RecordedSystem ι) : Prop :=
  Safe host.recorded (careful sweeper retainFor) sweeper post program recorded

/-- The sweep owes at most these before the program, and nothing after it. -/
abbrev Pays (sweeper : ι) (retainFor now : Nat) (paths : List FilePath) (program : Action Unit) :
    Prop :=
  ∀ {recorded}, Owes sweeper [now] paths recorded →
    Sweeps sweeper retainFor (fun _ => Owes sweeper [now] []) program recorded

omit [DecidableEq ι] in
theorem Owes.noted {times : List Nat} {entry : SysEntry} {left : List FilePath}
    {after : RecordedSystem ι} (holds : Owes sweeper times paths recorded)
    (noted : after.journals sweeper = entry :: recorded.journals sweeper)
    (among : owed (entry :: recorded.journals sweeper) ⊆ left) : Owes sweeper times left after := by
  refine ⟨?_, fun time shown => ?_⟩ <;> rw [noted]
  · exact among
  · exact List.mem_cons_of_mem _ (holds.shown time shown)

theorem owed_clearing {operation : SysOp} (clearing : Prune.Clearing operation)
    (answer : operation.Result Answer) : owed (⟨operation, answer⟩ :: older) ⊆ owed older := by
  cases clearing with
  | look looking => cases looking <;> exact List.Subset.refl _
  | remove path cleared =>
    have other : path.dir ≠ .idempotency := fun indexed => by simp [indexed] at cleared
    simp only [owed, removed?, if_neg other]
    exact List.filter_subset_self _

theorem clears (times : List Nat) (paths : List FilePath) :
    Preserves host.recorded (careful sweeper retainFor) sweeper Prune.Clearing
      (Owes sweeper times paths) where
  stable before after same holds := by
    have unchanged : after.journals sweeper = before.journals sweeper := same
    exact ⟨unchanged ▸ holds.among, unchanged ▸ holds.shown⟩
  step operation choice recorded clearing holds _ := by
    refine ⟨fun _ path removes indexed => ?_,
      holds.noted journal_self (List.Subset.trans (owed_clearing clearing _) holds.among)⟩
    cases clearing with
    | look looking => cases looking <;> cases removes
    | remove path cleared =>
      cases removes
      simp [indexed] at cleared

theorem safe_load (path : FilePath) (clear : Owes sweeper [now] [] recorded) :
    Sweeps sweeper retainFor (fun result after => Owes sweeper [now] [] after ∧ ∃ answer,
        lookedUp (after.journals sweeper) = some (path, answer) ∧
        (result = .error .notFound → answer = .error .notFound) ∧
        ∀ record, result = .ok record → answer = .ok (some (.record record)))
      (TransactionState.load path) recorded := by
  apply journaled_call_bind nofun
  intro answer after noted
  have still : Owes sweeper [now] [] after := clear.noted noted clear.among
  have read : lookedUp (after.journals sweeper) = some (path, answer) := by
    rw [noted]
    rfl
  rcases answer with error | content
  · cases error <;> exact ⟨still, _, read, by simp, by simp⟩
  · exact ⟨still, _, read, fun missing =>
      absurd missing (TransactionState.decode_ne_notFound content), fun record decoded =>
      congrArg _ (TransactionState.decode_ok decoded).1⟩

theorem safe_removeFile {record : FilePath} {answer : Except IoError (Option Content)}
    {rest : _ → Action α} {post : α → RecordedSystem ι → Prop}
    (clear : Owes sweeper [now] [] recorded)
    (read : lookedUp (recorded.journals sweeper) = some (record, answer))
    (dead : Dead retainFor (recorded.journals sweeper) answer)
    (continues : ∀ gone after, Owes sweeper [now] (if answer.isOk then [record] else []) after →
      Sweeps sweeper retainFor post (rest gone) after) :
    Sweeps sweeper retainFor post (removeFile path >>= rest) recorded := by
  apply journaled_call_bind fun _ _ _ _ => ⟨_, read, dead⟩
  intro gone after noted
  refine continues _ _ (clear.noted noted ?_)
  have none : owed (recorded.journals sweeper) = [] := List.subset_nil.mp clear.among
  by_cases indexed : path.dir = .idempotency <;> cases found : answer.isOk <;>
    simp [owed, removed?, indexed, read, none, found, Option.filter_some]

theorem safe_removeCheckpoint (holds : Owes sweeper [now] paths recorded) :
    Sweeps sweeper retainFor (fun gone after => gone = true ∧ Owes sweeper [now] paths after)
      (Prune.removeCheckpoint ⟨.deploymentRecovery, name⟩) recorded := by
  refine (clears _ paths).call_bind (.look (.present _)) holds fun found first holds => ?_
  cases found with
  | false => exact ⟨rfl, holds⟩
  | true =>
  have clearing : Prune.Clearing (.remove ⟨.deploymentRecovery, name⟩) := .remove _ (.inr (.inl rfl))
  refine (clears _ paths).step_bind clearing holds fun before choice holds admitted => ?_
  have after := ((clears _ paths).step _ choice before clearing holds admitted).2
  have removed := (admitted.2 rfl _ rfl).2.1 rfl
  cases answer : (host.recorded.exec sweeper choice (.remove ⟨.deploymentRecovery, name⟩) before).1 with
  | ok _ => exact ⟨rfl, after⟩
  | error error =>
    rw [show (host.exec sweeper choice (.remove _) before.state).1 = _ from answer] at removed
    contradiction

theorem pays_clearTransaction :
    Pays sweeper retainFor now [⟨.transactions, name⟩] (Prune.clearTransaction name) := by
  intro recorded holds
  apply (safe_removeCheckpoint holds).seq
  rintro _ first ⟨rfl, holds⟩
  apply ((clears _ _).safe (Prune.removeAuxiliary_every (.inl rfl)) holds).seq
  intro _ second holds
  apply ((clears _ _).safe (Prune.removeAuxiliary_every (.inr rfl)) holds).seq
  intro _ third holds
  apply journaled_call_bind (by rintro _ _ ⟨⟩ ⟨⟩)
  intro answer last noted
  refine holds.noted noted fun path member => ?_
  simp only [owed, removed?, reduceCtorEq, if_false, List.mem_filter, ne_eq, decide_not,
    Bool.not_eq_true', decide_eq_false_iff_not] at member
  exact absurd (List.mem_singleton.mp (holds.among member.1)) member.2

theorem pays_pruneTransaction :
    Pays sweeper retainFor now [] (Prune.pruneTransaction retainFor now name) := by
  intro recorded clear
  unfold Prune.pruneTransaction
  split
  · apply (safe_load _ clear).seq
    rintro loaded first ⟨clear, answer, read, -, found⟩
    cases loaded with
    | error error => exact clear
    | ok record =>
    obtain rfl := found record rfl
    dsimp only
    split
    · rename_i expired
      apply Safe.bind
      cases record.idempotencyKey with
      | none => exact pays_clearTransaction ⟨List.Subset.trans clear.among (List.nil_subset _), clear.shown⟩
      | some key =>
      apply Safe.bind
      have dead : Dead retainFor (first.journals sweeper) (.ok (some (.record record))) :=
        ⟨record, now, rfl, clear.shown now (by simp), expired⟩
      refine safe_removeFile clear read dead fun gone second owes => ?_
      split <;> exact pays_clearTransaction owes
    · exact clear
  · exact clear

theorem pays_pruneFinished (names : List Name) :
    Pays sweeper retainFor now [] (Prune.pruneFinished retainFor now names) := by
  intro recorded clear
  induction names generalizing recorded with
  | nil => exact clear
  | cons name names ih => exact (pays_pruneTransaction clear).seq fun _ _ clear => ih clear

theorem pays_pruneClaim {entry : ClaimEntry} :
    Pays sweeper retainFor now [] (Prune.pruneClaim grace now entry) := by
  intro recorded clear
  unfold Prune.pruneClaim
  split
  · apply (safe_load _ clear).seq
    rintro loaded first ⟨clear, answer, read, missing, -⟩
    split
    · obtain rfl := missing rfl
      exact safe_removeFile clear read rfl fun _ _ clear => clear
    · exact clear
  · exact clear

theorem pays_pruneOrphans (entries : List ClaimEntry) :
    Pays sweeper retainFor now [] (Prune.pruneOrphans grace now entries) := by
  intro recorded clear
  induction entries generalizing recorded with
  | nil => exact clear
  | cons entry entries ih => exact (pays_pruneClaim clear).seq fun _ _ clear => ih clear

theorem safe_now {rest : Nat → Action Unit} (clear : Owes sweeper [] [] recorded)
    (pays : ∀ now, Pays sweeper retainFor now [] (rest now)) :
    Sweeps sweeper retainFor (fun _ => Owes sweeper [] []) (unixNowSecs >>= rest) recorded := by
  apply journaled_call_bind nofun
  intro now after noted
  refine (pays now ⟨?_, fun time shown => ?_⟩).mono fun _ _ clear => ⟨clear.among, nofun⟩
  · rw [noted]
    exact clear.among
  · rw [noted, List.mem_singleton.mp shown]
    exact List.mem_cons_self

theorem safe_pruneCompleted (clear : Owes sweeper [] [] recorded) :
    Sweeps sweeper retainFor (fun _ => Owes sweeper [] []) (Prune.pruneCompleted retainFor)
      recorded := by
  have finished : Sweeps sweeper retainFor (fun _ => Owes sweeper [] [])
      (Prune.pruneFinishedTransactions retainFor) recorded := by
    apply ((clears [] []).safe (Prune.fileNames_every.mono fun _ => .look) clear).seq
    intro names first clear
    cases names with
    | error error => exact clear
    | ok names => exact safe_now clear fun _ => pays_pruneFinished names
  apply finished.seq
  intro _ first clear
  apply safe_now clear
  intro now second clear
  exact ((clears _ []).safe (Prune.list_every.mono fun _ => .look) clear).seq
    fun entries _ => pays_pruneOrphans entries

/-! ## What is owed is paid -/

/-- The record of a request whose claim the sweep removed: it is gone, or the sweep still
has to remove it. -/
structure Debt (sweeper : ι) (path : FilePath) (recorded : RecordedSystem ι) : Prop where
  filed : path.dir = .transactions
  known : path ∈ looked (recorded.journals sweeper)
  paid : path ∈ owed (recorded.journals sweeper) ∨ recorded.state.node path = none

theorem Debt.exec {actor : ι} {choice : SysChoice} {operation : SysOp}
    (debt : Debt sweeper path recorded) (careful : Careful sweeper actor choice operation recorded) :
    Debt sweeper path (host.recorded.exec actor choice operation recorded).2 := by
  obtain ⟨filed, known, paid⟩ := debt
  refine ⟨filed, ((journal_grows.filterMap read?).map Prod.fst).subset known, ?_⟩
  rcases paid with owing | gone
  · by_cases same : sweeper = actor
    · subst same
      rw [journal_self]
      unfold owed
      split
      · exact .inl owing
      rename_i removed removes
      split
      · exact .inl (List.mem_append_right _ owing)
      by_cases mine : path = removed
      · subst mine
        exact .inr ((careful.2 rfl path removes).2.2 filed)
      · exact .inl (List.mem_filter.mpr ⟨owing, by simp [mine]⟩)
    · rw [journal_of_ne same]
      exact .inl owing
  · exact .inr (careful.1 path known gone)

omit [DecidableEq ι] in
theorem mem_looked {answer : Except IoError (Option Content)}
    (read : lookedUp older = some (path, answer)) : path ∈ looked older := by
  obtain ⟨entry, first, reads⟩ := Option.bind_eq_some_iff.mp read
  exact List.mem_map.mpr
    ⟨_, List.mem_filterMap.mpr ⟨entry, List.mem_of_mem_head? first, reads⟩, rfl⟩

theorem debt_of_removed {choice : SysChoice} {operation : SysOp} {requestId : RequestId}
    (removes : removed? operation = some path) (indexed : path.dir = .idempotency)
    (named : claimant recorded.state path = some requestId)
    (careful : Careful sweeper sweeper choice operation recorded) :
    Debt sweeper (statePath requestId)
      (host.recorded.exec sweeper choice operation recorded).2 := by
  obtain ⟨⟨_, answer⟩, read, rfl, found⟩ := (careful.2 rfl path removes).1 indexed requestId named
  refine ⟨rfl, ((journal_grows.filterMap read?).map Prod.fst).subset (mem_looked read), ?_⟩
  rcases found with ok | missing
  · refine .inl ?_
    rw [journal_self]
    have looked : lookedUp (recorded.journals sweeper) = some (statePath requestId, answer) := read
    simp [owed, removes, indexed, looked, show answer.isOk = true from ok]
  · refine .inr ((Disk.exec_node fun touched => ?_).trans missing)
    cases operation <;> cases removes
    cases (show statePath requestId = path from touched)
    cases indexed

end OpsEngine.Retention

namespace OpsEngine

open Effect Files Retention

variable {ι : Type} [DecidableEq ι]

abbrev Scope (ι : Type) := Pool SysOp (Op.Result Answer) (RecordedSystem ι) ι Unit

/-- The programs side by side in one scope. -/
def Scope.start (state : System ι) (programs : ι → Action Unit) : Scope ι :=
  { state := .start state, threads := fun actor => some (programs actor) }

/-- The sweep removes a claim that names the request. -/
def Forgets (sweeper : ι) (requestId : RequestId) (scope : Scope ι) : Event ι SysChoice → Prop
  | .step actor _ => actor = sweeper ∧ ∃ path ∈ (scope.pending actor).bind removed?,
      path.dir = .idempotency ∧ claimant scope.state.state path = some requestId
  | .kill _ => False

/-- The requests whose claims the sweep removes are dead by what it read last, and when
it has ended they have no record. -/
def Spares (sweeper : ι) (retainFor : Nat) (scope : Scope ι) (events : List (Event ι SysChoice)) :
    Prop :=
  ∀ before event after requestId, events = before ++ event :: after →
    Forgets sweeper requestId (scope.run host.recorded before) event →
    (∃ answer,
      lookedUp ((scope.run host.recorded before).state.journals sweeper) =
        some (statePath requestId, answer) ∧
      Dead retainFor ((scope.run host.recorded before).state.journals sweeper) answer) ∧
    ((scope.run host.recorded events).outcome sweeper = some () →
      (scope.run host.recorded events).state.state.node (statePath requestId) = none)

variable {sweeper : ι} {retainFor : Nat} {scope : Scope ι}

abbrev Ended (sweeper actor : ι) (_ : Unit) (recorded : RecordedSystem ι) : Prop :=
  actor = sweeper → Owes sweeper [] [] recorded

theorem stable_ended (actor : ι) (result : Unit) :
    Stable ((careful sweeper retainFor).rely actor) (Ended sweeper actor result) := by
  intro before after same ended mine
  subst mine
  exact (clears [] []).stable before after same (ended rfl)

theorem dead_of_forgets {event : Event ι SysChoice} {requestId : RequestId}
    (running : scope.Running host.recorded (careful sweeper retainFor) (Ended sweeper))
    (forgets : Forgets sweeper requestId scope event) (allowed : scope.Allows (Careful sweeper) event) :
    (∃ answer, lookedUp (scope.state.journals sweeper) = some (statePath requestId, answer) ∧
        Dead retainFor (scope.state.journals sweeper) answer) ∧
      Debt sweeper (statePath requestId) (scope.step host.recorded event).state := by
  rcases event with ⟨actor, choice⟩ | actor
  · obtain ⟨rfl, path, removing, indexed, named⟩ := forgets
    obtain ⟨operation, pending, removes⟩ := Option.bind_eq_some_iff.mp removing
    obtain ⟨next, thread⟩ := Pool.threads_of_pending pending
    have careful := allowed.perform thread
    obtain ⟨⟨_, answer⟩, read, rfl, -⟩ := (careful.2 rfl path removes).1 indexed requestId named
    obtain ⟨_, same, dead⟩ := Pool.kept_pending running pending careful rfl path removes indexed
    obtain rfl := Option.mem_unique read same
    rw [Pool.step_of_perform thread]
    exact ⟨⟨answer, read, dead⟩, debt_of_removed removes indexed named careful⟩
  · exact forgets.elim

theorem safe_start (programs : ι → Action Unit)
    (sweeps : programs sweeper = Prune.pruneCompleted retainFor) (state : System ι) :
    (Scope.start state programs).Running host.recorded (careful sweeper retainFor) (Ended sweeper) ∧
      (Scope.start state programs).Settled (Ended sweeper) := by
  apply Pool.safe_start
  rintro actor _ ⟨⟩
  by_cases same : actor = sweeper
  · subst same
    rw [sweeps]
    exact (safe_pruneCompleted ⟨List.nil_subset _, nofun⟩).mono fun _ _ clear _ => clear
  · exact (safe_of_keeps (fun _ _ _ mine => absurd mine same) _ _).mono
      fun _ _ _ mine => absurd mine same

/-- Whatever runs beside a sweep, fails or is killed: if the sweep removes only claims of
the requests it has just looked up and can remove what it has to, and no record is created
that it has looked up, then the claims it removes are of dead requests, which have no record
after it. -/
theorem sweep_spares_live_keys (programs : ι → Action Unit) (sweeper : ι) (retainFor : Nat)
    (sweeps : programs sweeper = Prune.pruneCompleted retainFor) (state : System ι)
    (events : List (Event ι SysChoice))
    (careful : (Scope.start state programs).Respects host.recorded (Careful sweeper) events) :
    Spares sweeper retainFor (Scope.start state programs) events := by
  rintro before event after requestId rfl forgets
  obtain ⟨running, settled⟩ := safe_start programs sweeps state
  obtain ⟨earlier, now, later⟩ := Pool.respects_append.mp careful
  have reached := Pool.running_run Discipline.journaled_sound running earlier
  obtain ⟨dead, owing⟩ := dead_of_forgets reached forgets now
  refine ⟨dead, fun finished => ?_⟩
  have clear : Owes sweeper [] [] _ :=
    Pool.settled_run Discipline.journaled_sound stable_ended running settled careful sweeper ()
      (Pool.threads_of_outcome finished) rfl
  have debt : Debt sweeper (statePath requestId) _ :=
    Pool.invariant_run Discipline.journaled_sound
      (fun _ _ _ _ careful _ debt => debt.exec careful)
      (fun _ _ debt => ⟨debt.filed, debt.known, debt.paid⟩)
      (Pool.running_step Discipline.journaled_sound reached now) later owing
  rw [Pool.run_append, Pool.run_cons] at clear ⊢
  exact debt.paid.resolve_left fun owing => absurd (clear.among owing) List.not_mem_nil

/-- A request that committed at time zero, with the claim of its key. -/
def committedScope : System Bool :=
  let record : TransactionState :=
    { TransactionState.start firstRequest (some sampleKey) .siteDeploy 0 with
      status := .committed, finishedAtUnixSecs := some 0 }
  (Disk.empty.put (statePath firstRequest) (.file 0 (some (.record record)))).put
    (Idempotency.indexPath sampleKey)
    (.file 1 (some (.claim (Idempotency.indexRecord sampleKey firstRequest 0))))

/-- A sweep, and an attempt with the key of that request. -/
def sweepBeside (second : Bool) : Action Unit := do
  if second then
    let _ ← (rivals second).program
    return ()
  else Prune.pruneCompleted Prune.defaultCompletedRetention

/-- Steps a week later. -/
def weekLater (second : Bool) (count : Nat) : List (Event Bool SysChoice) :=
  List.replicate count (.step second (healthyChoice 604800))

/-- The attempt claims the key after the sweep has removed its claim. -/
theorem sweep_before_attempt :
    Spares false Prune.defaultCompletedRetention (Scope.start committedScope sweepBeside)
      (weekLater false 4 ++ weekLater true 60 ++ weekLater false 12) :=
  sweep_spares_live_keys sweepBeside false _ rfl committedScope _ (by decide +kernel)

theorem not_spares {retainFor : Nat} {scope : Scope Bool} {before after : List (Event Bool SysChoice)}
    (requestId : RequestId) (claim : claimant
      (scope.run host.recorded before).state.state (Idempotency.indexPath sampleKey) = some requestId)
    (removing : ((scope.run host.recorded before).pending false).bind removed? =
      some (Idempotency.indexPath sampleKey))
    (ended : (scope.run host.recorded (before ++ weekLater false 1 ++ after)).outcome false = some ())
    (kept : ((scope.run host.recorded (before ++ weekLater false 1 ++ after)).state.state.node
      (statePath requestId)).isSome = true) :
    ¬ Spares false retainFor scope (before ++ weekLater false 1 ++ after) := by
  intro spares
  rw [(spares before _ after requestId (List.append_assoc ..)
    ⟨rfl, _, removing, rfl, claim⟩).2 ended] at kept
  contradiction

/-- The attempt claims the key after the sweep has read the record that the claim stood
for before; and the record cannot be removed once its claim is. -/
theorem live_key_forgotten :
    ¬ Spares false Prune.defaultCompletedRetention (Scope.start committedScope sweepBeside)
      (weekLater false 3 ++ weekLater true 60 ++ weekLater false 1 ++ weekLater false 12) ∧
    ¬ Spares false Prune.defaultCompletedRetention (Scope.start committedScope sweepBeside)
      (weekLater false 3 ++ weekLater false 1 ++
        (weekLater false 3 ++ [.step false faultyChoice] ++ weekLater false 8)) :=
  ⟨not_spares secondRequest (by decide +kernel) (by decide +kernel)
      (by decide +kernel) (by decide +kernel),
    not_spares firstRequest (by decide +kernel) (by decide +kernel)
      (by decide +kernel) (by decide +kernel)⟩

end OpsEngine
