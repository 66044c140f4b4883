import OpsEngine.Create.Building

namespace OpsEngine.Create

open Effect
open Migrate (Identity StepError)

/-! # A creation leaves all of a site or nothing of it

The creations and recoveries of a domain as wholes, and any number of them one
after another.
-/

abbrev Ends {α : Type} : α → Site → Prop := fun _ after => Sound after

variable {id : RequestId} {backend : Backend} {site : Site}

theorem finished_setRecord {record : Ledger.Record StepError CreateResult}
    (ended : record.status ≠ .inProgress) (site : Site) (id : RequestId) :
    (site.setRecord id (.whole record)).status? id ≠ some .inProgress := by
  simpa [Site.status?, Site.setRecord] using ended

theorem safe_ended {α : Type} {record : Ledger.Record StepError CreateResult}
    {rest : Bool → Task α} (recorded : Sound (site.setRecord id (.whole record)))
    (ended : record.status ≠ .inProgress)
    (done : ∀ removed after, Sound after → Safe machine sound () Ends (rest removed) after) :
    Safe machine sound () Ends
      (step .appendAudit >>= fun _ => step (.removeJournal id) >>= rest)
      (site.setRecord id (.whole record)) := by
  apply safe_quiet rfl recorded
  intro _ audited same
  replace recorded := recorded.congr same
  have finished := finished_setRecord ended site id
  rw [← same.status?] at finished
  apply safe_removeJournal recorded finished
  · exact done _ _ recorded
  · exact done _ _ (recorded.dropJournal finished)

theorem safe_commit (holds : Sound site)
    (whole : ∀ artifact, site.owner artifact = some id) (verified : id ∈ site.verified)
    (result : CreateResult) : Safe machine sound () Ends (commit id result) site := by
  apply safe_quiet rfl holds
  intro now clocked same
  replace holds := holds.congr same
  rw [← same.owner] at whole
  rw [← same.verified] at verified
  have committed := holds.commit whole verified result now
  apply safe_saveRecord holds committed
  · exact holds
  · exact safe_ended committed nofun fun _ _ holds => holds

theorem safe_compensate (lawful : backend.Lawful) {journal : Journal} (held : Held journal site)
    (error : StepError) :
    Safe machine sound () Ends (compensate backend journal.requestId error journal) site := by
  refine (safe_undo lawful held).attempt (fun _ _ step => step.1.sound) ?_
  rintro _ undone ⟨held, gone⟩
  replace gone := gone rfl
  apply safe_quiet rfl held.sound
  intro now clocked same
  replace held := held.congr same
  rw [← same.owner] at gone
  have nothing : ∀ artifact, clocked.owner artifact ≠ some journal.requestId := by simp [gone]
  have failed := held.sound.fail nothing error now
  apply safe_saveRecord held.sound failed
  · exact held.sound
  · exact safe_ended failed nofun fun removed _ holds => by cases removed <;> exact holds

structure Admitted (id : RequestId) (site : Site) : Prop where
  sound : Sound site
  running : site.status? id = some .inProgress
  unheard : site.journal? id = none

theorem Admitted.congr {before after : Site} (admitted : Admitted id before)
    (same : Same before after) : Admitted id after :=
  ⟨admitted.sound.congr same, (same.status? id).trans admitted.running,
    (same.journal? id).trans admitted.unheard⟩

theorem Admitted.nothing (admitted : Admitted id site) (artifact : Artifact) :
    site.owner artifact ≠ some id := by
  intro owned
  obtain ⟨journal, found, _⟩ := admitted.sound.flagged id artifact admitted.running owned
  rw [admitted.unheard] at found
  contradiction

theorem safe_close {α : Type} (admitted : Admitted id site)
    (recorded answered : StepError) (good : α → Site → Prop) :
    Safe machine sound () (Outcomes good fun _ after => Sound after) (close id recorded answered)
      site := by
  apply safe_quiet rfl admitted.sound
  intro now clocked same
  replace admitted := admitted.congr same
  have failed := admitted.sound.fail admitted.nothing recorded now
  apply safe_saveRecord admitted.sound failed
  · exact admitted.sound
  · exact failed

theorem safe_loadRecord {α : Type} {post : α → Site → Prop}
    {rest : Option (Ledger.Record StepError CreateResult) → Task α} (holds : Sound site)
    (unread : Safe machine sound () post (rest none) site)
    (read : ∀ record, site.status? id = some record.status →
      Safe machine sound () post (rest (some record)) site) :
    Safe machine sound () post (step (.loadRecord id) >>= rest) site := by
  apply holding_call_bind
  intro chance _
  refine ⟨holds, ?_⟩
  dsimp only [machine_exec, exec]
  cases chance.fails with
  | some error => exact unread
  | none =>
    cases found : site.records.load id with
    | none => exact unread
    | some record => exact read record (Ledger.Records.status?_of_load found)

theorem safe_clearFinished (names : List PendingName) (admitted : Admitted id site)
    (listed : ∀ other journal, site.journal? other = some journal → .journal other ∈ names) :
    Safe machine sound () (Outcomes
        (fun _ after => Admitted id after ∧ ∀ other, after.journal? other = none)
        (fun _ after => Sound after)) (clearFinished id names) site := by
  induction names generalizing site with
  | nil =>
    refine ⟨admitted, fun other => ?_⟩
    cases found : site.journal? other with
    | none => rfl
    | some journal => exact absurd (listed other journal found) (by simp)
  | cons name rest ih =>
    cases name with
    | temp _ => exact admitted.sound
    | journal old =>
    apply safe_loadRecord admitted.sound
    · exact admitted.sound
    intro record status
    by_cases running : record.status = .inProgress
    · simp only [running, if_true]
      exact safe_close admitted _ _ _
    simp only [running, if_false]
    have finished : site.status? old ≠ some .inProgress := by simp [status, running]
    have apart : id ≠ old := fun same => finished (same ▸ admitted.running)
    apply safe_removeJournal admitted.sound finished
    · exact admitted.sound
    apply ih
    · exact ⟨admitted.sound.dropJournal finished, admitted.running,
        (journal?_dropJournal_of_ne apart).trans admitted.unheard⟩
    · intro other journal pending
      obtain ⟨distinct, before⟩ := journal?_of_dropJournal pending
      have member := listed other journal before
      simpa [distinct] using member

theorem Admitted.start (admitted : Admitted id site)
    (single : ∀ other, site.journal? other = none) (free : ∀ artifact, site.owner artifact = none)
    (plan : Plan) (root : Text) :
    Building (.start id plan root) (site.setJournal (.start id plan root)) := by
  have only : ∀ {other stored},
      (site.setJournal (.start id plan root)).journal? other = some stored →
      other = id ∧ stored = .start id plan root := by
    intro other stored found
    by_cases same : other = id
    · subst same
      exact ⟨rfl, (Option.some.inj ((journal?_setJournal_self site _).symm.trans found)).symm⟩
    · rw [journal?_setJournal_of_ne same, single] at found
      contradiction
  have sound : Sound (site.setJournal (.start id plan root)) :=
    { failed := admitted.sound.failed
      committed := admitted.sound.committed
      flagged := fun _ artifact _ owned => absurd ((free artifact).symm.trans owned) (by simp)
      alone := fun _ _ _ _ artifact _ owned => absurd ((free artifact).symm.trans owned) (by simp)
      completed := fun other stored _ found done => by
        rw [(only found).2] at done
        contradiction
      needed := admitted.sound.needed
      named := fun other stored found => by
        obtain ⟨own, rfl⟩ := only found
        exact own.symm }
  refine ⟨⟨sound, admitted.running, _, journal?_setJournal_self site _, rfl, fun _ flagged => flagged⟩,
    fun other apart => ?_⟩
  rw [journal?_setJournal_of_ne apart]
  exact single other

theorem safe_build (lawful : backend.Lawful)
    (admitted : Admitted id site) (single : ∀ other, site.journal? other = none)
    (free : ∀ artifact, site.owner artifact = none) (plan : Plan) (root : Text) :
    Safe machine sound () Ends (build backend plan id root) site := by
  have started := admitted.start single free plan root
  apply safe_save admitted.sound started.held.sound
  · intro error after same
    exact admitted.sound.congr same
  intro after same
  apply (safe_run (started.congr same) rfl rfl plan root).seq
  intro ran last reached
  obtain ⟨answer, journal⟩ := ran
  cases answer with
  | ok result =>
    obtain ⟨holds, _, whole, verified⟩ := reached
    exact safe_commit holds whole verified result
  | error error =>
    obtain ⟨held, own⟩ := reached
    subst own
    exact safe_compensate lawful held error

theorem owner_of_free (free : site.free = true) (artifact : Artifact) :
    site.owner artifact = none := by
  simp only [Site.free, Bool.and_eq_true, Option.isNone_iff_eq_none] at free
  cases artifact <;> simp [Site.owner, free]

theorem mem_pending {journal : Journal} (found : site.journal? id = some journal) :
    .journal id ∈ site.pending := by
  have member : (id, journal) ∈ site.journals := by
    obtain ⟨before, after, split, _⟩ := List.lookup_eq_some_iff.mp found
    rw [split]
    simp
  exact List.mem_append_left _ (List.mem_map_of_mem member)

theorem exec_listPending (chance : Chance) (site : Site) :
    ∃ answer : Option (List PendingName), machine.exec () chance .listPending site =
    (answer, site) ∧ ∀ names, answer = some names → names.Perm site.pending := by
  by_cases works : chance.fails.isNone
  · refine ⟨some (if chance.listing.Perm site.pending then chance.listing else site.pending),
      if_pos works, ?_⟩
    intro names same
    cases same
    split
    · assumption
    · exact List.Perm.refl _
  · exact ⟨none, if_neg works, by simp⟩

theorem exec_checkAvailable (chance : Chance) (plan : Plan) (site : Site) :
    ∃ answer : Except StepError Text,
      machine.exec () chance (.checkAvailable plan) site = (answer, site) ∧
      ∀ root, answer = .ok root → site.free = true := by
  dsimp only [machine_exec, exec]
  cases chance.fails with
  | some error => exact ⟨.error error, rfl, by simp⟩
  | none =>
  refine ⟨if site.free then .ok chance.root else .error occupied, rfl, ?_⟩
  intro root answered
  split at answered
  · assumption
  · contradiction

theorem safe_create (lawful : backend.Lawful) (admitted : Admitted id site) (plan : Plan) :
    Safe machine sound () Ends (create backend plan id) site := by
  apply safe_quiet rfl admitted.sound
  intro saved planned same
  replace admitted := admitted.congr same
  cases saved with
  | false => exact admitted.sound
  | true =>
  apply holding_call_bind
  intro chance _
  obtain ⟨answer, execs, complete⟩ := exec_listPending chance planned
  rw [execs]
  refine ⟨admitted.sound, ?_⟩
  cases answer with
  | none => exact admitted.sound
  | some names =>
  have listed : ∀ other journal, planned.journal? other = some journal → .journal other ∈ names :=
    fun other journal found => (complete names rfl).mem_iff.mpr (mem_pending found)
  refine (safe_clearFinished names admitted listed).attempt
    (fun _ _ outcome => outcome) fun _ cleared outcome => ?_
  obtain ⟨admitted, single⟩ := outcome
  apply holding_call_bind
  intro chance _
  obtain ⟨answer, execs, free⟩ := exec_checkAvailable chance plan cleared
  rw [execs]
  refine ⟨admitted.sound, ?_⟩
  cases answer with
  | error error =>
    apply Safe.mono _ (safe_close admitted error error Ends)
    intro ended after holds
    cases ended <;> exact holds
  | ok root =>
    exact safe_build lawful admitted single (fun artifact => owner_of_free (free root rfl) artifact)
      plan root

theorem safe_replay (holds : Sound site) (plan : Plan) (original : RequestId) :
    Safe machine sound () Ends (replay plan original) site := by
  apply safe_quiet rfl holds
  intro stored after same
  replace holds := holds.congr same
  cases stored with
  | none => exact holds
  | some stored =>
  by_cases other : stored ≠ plan
  · simp only [other, ne_eq, not_false_eq_true, if_true]
    exact holds
  simp only [other, if_false]
  apply safe_quiet rfl holds
  intro record after same
  replace holds := holds.congr same
  cases record with
  | none => exact holds
  | some record => dsimp only; split <;> exact holds

theorem safe_execute (lawful : backend.Lawful) (holds : Sound site) (plan : Plan) (id : RequestId) :
    Safe machine sound () Ends (execute backend plan id) site := by
  apply safe_quiet rfl holds
  intro opened ready same
  replace holds := holds.congr same
  cases opened with
  | false => exact holds
  | true =>
  apply holding_call_bind
  intro chance unused
  have swept := holds.sweep chance
  dsimp only [machine_exec, exec]
  cases admission : chance.admission with
  | busy => exact ⟨swept, swept⟩
  | failed => exact ⟨swept, swept⟩
  | replay original => exact ⟨swept, safe_replay swept plan original⟩
  | proceed =>
  cases recorded : (ready.sweep chance).records id with
  | some file => exact ⟨swept, swept⟩
  | none =>
  obtain ⟨unheard, nothing⟩ := unused recorded
  have torn := swept.begin unheard nothing (.inl rfl)
  refine ⟨torn, ?_⟩
  have begun : Admitted id
      (((ready.sweep chance).setRecord id .torn).setRecord id (.whole .begun)) :=
    ⟨torn.begin unheard nothing (.inr rfl),
      by simp [Site.status?, Site.setRecord, Ledger.Record.begun], unheard⟩
  apply holding_call_bind
  intro chance' _
  dsimp only [machine_exec, exec]
  exact store_cases ⟨torn, torn⟩ ⟨begun.sound, safe_create lawful begun plan⟩

theorem safe_conclude {record : Ledger.Record StepError CreateResult}
    (holds : Sound site) (ended : record.status ≠ .inProgress)
    (saved : ∀ after, Same site after → Sound (after.setRecord id (.whole record))) :
    Safe machine sound () Ends (conclude id record) site := by
  apply safe_quiet rfl holds
  intro audited after same
  cases audited with
  | false => exact holds.congr same
  | true =>
  have recorded := saved after same
  have finished := finished_setRecord ended after id
  apply safe_saveRecord (holds.congr same) recorded
  · exact holds.congr same
  apply safe_removeJournal recorded finished
  · exact recorded
  · exact recorded.dropJournal finished

theorem safe_resume (lawful : backend.Lawful) (holds : Sound site)
    (running : site.status? id = some .inProgress) (domain : Domain) :
    Safe machine sound () Ends (resume backend domain id) site := by
  apply holding_call_bind
  intro chance _
  refine ⟨holds, ?_⟩
  dsimp only [machine_exec, exec]
  cases chance.fails with
  | some error => exact holds
  | none =>
  simp only [Option.isNone_none, ↓reduceIte]
  cases found : site.journal? id with
  | none => exact holds
  | some journal =>
  have own := holds.named id journal found
  by_cases foreign : journal.requestId ≠ id ∨ journal.plan.domain ≠ domain
  · simp only [foreign, if_true]
    exact holds
  simp only [foreign, if_false]
  cases completed : journal.completed with
  | some result =>
    obtain ⟨whole, verified⟩ := holds.completed id journal running found (by simp [completed])
    apply safe_quiet rfl holds
    intro now clocked same
    rw [← same.owner] at whole
    rw [← same.verified] at verified
    apply safe_conclude (holds.congr same) (by simp [Ledger.Record.committed])
    intro after later
    rw [← later.owner] at whole
    rw [← later.verified] at verified
    exact ((holds.congr same).congr later).commit whole verified result now
  | none =>
    subst own
    have held : Held journal site :=
      ⟨holds, running, journal, found, completed, fun _ flagged => flagged⟩
    refine (safe_undo lawful held).attempt (fun _ _ step => step.1.sound) ?_
    rintro _ undone ⟨held, gone⟩
    replace gone := gone rfl
    apply safe_quiet rfl held.sound
    intro now clocked same
    rw [← same.owner] at gone
    apply safe_conclude (held.sound.congr same) (by simp [Ledger.Record.failed])
    intro after later
    rw [← later.owner] at gone
    exact ((held.sound.congr same).congr later).fail (by simp [gone]) _ now

theorem safe_tidy (holds : Sound site)
    (finished : site.status? id ≠ some .inProgress) (domain : Domain)
    (record : Ledger.Record StepError CreateResult) :
    Safe machine sound () Ends (tidy domain id record) site := by
  apply safe_quiet rfl holds
  intro present after same
  replace holds := holds.congr same
  rw [← same.status?] at finished
  cases present with
  | false => exact holds
  | true =>
  apply safe_quiet rfl holds
  intro read after same
  replace holds := holds.congr same
  rw [← same.status?] at finished
  cases read with
  | none => exact holds
  | some journal =>
  by_cases foreign : journal.requestId ≠ id ∨ journal.plan.domain ≠ domain
  · simp only [foreign, if_true]
    exact holds
  simp only [foreign, if_false]
  apply safe_removeJournal holds finished
  · exact holds
  · exact holds.dropJournal finished

theorem safe_recover (lawful : backend.Lawful) (holds : Sound site)
    (domain : Domain) (id : RequestId) :
    Safe machine sound () Ends (recover backend domain id) site := by
  apply safe_quiet rfl holds
  intro opened after same
  replace holds := holds.congr same
  cases opened with
  | false => exact holds
  | true =>
  apply safe_quiet rfl holds
  intro locked after same
  replace holds := holds.congr same
  cases locked with
  | false => exact holds
  | true =>
  apply safe_loadRecord holds
  · exact holds
  intro record status
  by_cases running : record.status = .inProgress
  · simp only [running, if_true]
    exact safe_resume lawful holds (status.trans (congrArg some running)) domain
  · simp only [running, if_false]
    exact safe_tidy holds (by simp [status, running]) domain record

/-! ## The runs -/

/-- What can happen on the host: a creation, a recovery, and an operation on
identities elsewhere, whose preflight sweeps the records of the allocations. -/
inductive Call where
  | create (plan : Plan) (id : RequestId)
  | recover (domain : Domain) (id : RequestId)
  | elsewhere

def Call.program (backend : Backend) : Call → Task Unit
  | .create plan id => do
    let _ ← execute backend plan id
    return ()
  | .recover domain id => do
    let _ ← Create.recover backend domain id
    return ()
  | .elsewhere => step .sweepAllocations

def Call.turn (backend : Backend) (call : Call × List Chance) : Turn Step Answer Chance Unit :=
  ⟨call.1.program backend, call.2⟩

theorem safe_call (lawful : backend.Lawful) (holds : Sound site) (call : Call) :
    Safe machine sound () Ends (call.program backend) site := by
  cases call with
  | create plan id =>
    apply (safe_execute lawful holds plan id).seq
    exact fun _ _ left => left
  | recover domain id =>
    apply (safe_recover lawful holds domain id).seq
    exact fun _ _ left => left
  | elsewhere =>
    apply holding_call
    intro chance _
    have swept : Sound (exec chance .sweepAllocations site).2 :=
      holds.congr (exec_quiet chance rfl site)
    exact ⟨swept, swept⟩

/-- A host on which no creation of the domain has left a record or a journal, and
nothing stands without its identity. -/
structure Untouched (site : Site) : Prop where
  records : ∀ id, site.records id = none
  journals : site.journals = []
  based : ∀ id artifact, artifact.needsIdentity = true → site.owner artifact = some id →
    site.owner .identity = some id

theorem Untouched.sound (untouched : Untouched site) : Sound site := by
  have unrecorded : ∀ id status, site.status? id ≠ some status := by
    intro id status
    rw [Site.status?, Ledger.Records.status?_of_absent (untouched.records id)]
    simp
  exact
    { failed := fun id status => absurd status (unrecorded id _)
      committed := fun id status => absurd status (unrecorded id _)
      flagged := fun id _ status => absurd status (unrecorded id _)
      alone := fun id _ status => absurd status (unrecorded id _)
      completed := fun id _ status => absurd status (unrecorded id _)
      needed := untouched.based
      named := fun id journal found => by simp [Site.journal?, untouched.journals] at found }

/-- Whatever fails and wherever creations and recoveries are killed: a failed
creation has left nothing, a committed one everything, and the journal of one in
progress flags whatever it may have made.  What needs the identity never outlives
it. -/
theorem creation_all_or_nothing (backend : Backend) (lawful : backend.Lawful) (start : Site)
    (untouched : Untouched start) (calls : List (Call × List Chance))
    (unique : machine.Orderly () Fresh start (calls.map (Call.turn backend))) (id : RequestId) :
    let site := machine.turns () start (calls.map (Call.turn backend))
    (site.status? id = some .failed → ∀ artifact, site.owner artifact ≠ some id) ∧
    (site.status? id = some .committed →
      (∀ artifact, site.owner artifact = some id) ∧ id ∈ site.verified) ∧
    (site.status? id = some .inProgress → ∀ artifact, site.owner artifact = some id →
      ∃ journal, site.journal? id = some journal ∧ journal.flags artifact = true) ∧
    (∀ artifact, artifact.needsIdentity = true → site.owner artifact = some id →
      site.owner .identity = some id) := by
  intro site
  have sound : Sound site := by
    apply invariant_turns (fun program => ∃ call : Call, program = call.program backend)
      (fun _ holds => holds) _ _ unique untouched.sound
    · rintro program state ⟨call, rfl⟩ holds
      exact safe_call lawful holds call
    · intro turn member
      obtain ⟨call, _, same⟩ := List.mem_map.mp member
      exact ⟨call.1, congrArg Turn.program same.symm⟩
  exact ⟨sound.failed id, sound.committed id, fun running artifact => sound.flagged id artifact running,
    fun artifact => sound.needed id artifact⟩

/-! ## The host's own backend -/

section Host

variable {admits : Chance → Step → Site → Prop} {invariant : Site → Prop} {α : Type}
  {post : α → Site → Prop}

theorem clears_remove (removal : Removal) : Clears removal.artifact (remove removal) := by
  intro admits invariant site here gone
  apply holding_call
  intro chance _
  by_cases fits : site.fits removal
  · have execs : machine.exec () chance (.remove removal) site =
      chance.settle site (site.drop removal.artifact) := if_pos fits
    have cleared : (site.drop removal.artifact).owner removal.artifact = none :=
      (owner_drop site _ _).trans (if_pos rfl)
    rw [execs]
    refine settle_cases (fun _ => ?_) (fun _ => ?_) ?_
    · exact ⟨here, .inl rfl, nofun⟩
    · exact ⟨gone, .inr rfl, nofun⟩
    · exact ⟨gone, .inr rfl, fun _ => cleared⟩
  · have execs : machine.exec () chance (.remove removal) site =
      (.error (chance.fails.getD occupied), site) := if_neg fits
    rw [execs]
    exact ⟨here, .inl rfl, nofun⟩

theorem safe_loadAllocation {rest : Loaded → Task α} (holds : invariant site)
    (continues : ∀ answer,
      Safe machine (.holding machine admits invariant) () post (rest answer) site) :
    Safe machine (.holding machine admits invariant) () post (step (.loadAllocation id) >>= rest)
      site := by
  apply holding_call_bind
  intro chance _
  dsimp only [machine_exec, exec]
  cases chance.fails with
  | some error => exact ⟨holds, continues _⟩
  | none => rcases site.allocations id with _ | (_ | record) <;> exact ⟨holds, continues _⟩

theorem safe_readIdentity {rest : Except StepError (Option Identity) → Task α}
    (holds : invariant site)
    (continues : ∀ answer, (answer = .ok none → site.owner .identity = none) →
      Safe machine (.holding machine admits invariant) () post (rest answer) site) :
    Safe machine (.holding machine admits invariant) () post (step .readIdentity >>= rest) site := by
  apply holding_call_bind
  intro chance _
  dsimp only [machine_exec, exec]
  cases chance.fails with
  | some error => exact ⟨holds, continues _ nofun⟩
  | none => exact ⟨holds, continues _ (by simp [Site.owner])⟩

theorem safe_creationIdentity (id : RequestId) (holds : invariant site) :
    Safe machine (.holding machine admits invariant) () (fun _ after => after = site)
      (HostBackend.creationIdentity id) site := by
  apply safe_loadAllocation holds
  intro loaded
  cases loaded.proof? with
  | none => rfl
  | some proof =>
  apply safe_readIdentity holds
  intro answer _
  split
  · rfl
  · rfl
  · split <;> rfl

theorem clears_proved {artifact : Artifact} (removal : Identity → Removal)
    (same : ∀ proof, (removal proof).artifact = artifact) (id : RequestId) :
    Clears artifact
      (andThen (HostBackend.creationIdentity id) fun proof => remove (removal proof)) := by
  intro admits invariant site here gone
  refine (safe_creationIdentity id here).attempt (fun _ _ same => ⟨.inl same, nofun⟩) ?_
  rintro proof _ rfl
  have cleared := clears_remove (removal proof) admits invariant _ here
  rw [same] at cleared
  exact cleared gone

theorem clears_unlessPresent : Clears .identity HostBackend.unlessPresent := by
  intro admits invariant site here _
  apply safe_readIdentity here
  intro answer absent
  split
  · exact ⟨.inl rfl, nofun⟩
  · exact ⟨.inl rfl, fun _ => absent rfl⟩
  · exact ⟨.inl rfl, nofun⟩

theorem clears_releaseCreatedIdentity (id : RequestId) :
    Clears .identity (HostBackend.releaseCreatedIdentity id) := by
  intro admits invariant site here gone
  apply safe_loadAllocation here
  intro loaded
  cases loaded with
  | notFound => exact clears_unlessPresent admits invariant site here gone
  | unreadable => exact ⟨.inl rfl, nofun⟩
  | found record =>
  dsimp only
  split
  · exact clears_unlessPresent admits invariant site here gone
  split
  · exact ⟨.inl rfl, nofun⟩
  apply safe_readIdentity here
  intro answer absent
  split
  · exact ⟨.inl rfl, nofun⟩
  · exact ⟨.inl rfl, fun _ => absent rfl⟩
  split
  · split
    · exact clears_remove .identity admits invariant site here gone
    · exact ⟨.inl rfl, nofun⟩
  · exact ⟨.inl rfl, nofun⟩

theorem clears_removeCreatedRoute (expected : Text) :
    Clears .route (HostBackend.removeCreatedRoute expected) := by
  intro admits invariant site here gone
  apply holding_call_bind
  intro chance _
  have read : ∃ answer : Except StepError (Option Text),
      machine.exec () chance .readRoute site = (answer, site) ∧
      (answer = .ok none → site.owner .route = none) := by
    dsimp only [machine_exec, exec]
    cases chance.fails with
    | some error => exact ⟨.error error, rfl, by simp⟩
    | none => exact ⟨.ok (site.route.map Owned.value), rfl, by simp [Site.owner]⟩
  obtain ⟨answer, execs, absent⟩ := read
  rw [execs]
  refine ⟨here, ?_⟩
  dsimp only
  split
  · exact ⟨.inl rfl, nofun⟩
  · exact ⟨.inl rfl, fun _ => absent rfl⟩
  · split
    · exact clears_remove (.route expected) admits invariant site here gone
    · exact ⟨.inl rfl, nofun⟩

end Host

theorem hostBackend_lawful : hostBackend.Lawful where
  route _ := clears_removeCreatedRoute
  exec plan := clears_proved
    (fun proof => .exec (Migrate.poolReverseProxyCaddyfile plan.domain proof.port)) fun _ => rfl
  service _ := clears_proved .service fun _ => rfl
  root _ := clears_proved (fun proof => .root (proof.uid, proof.gid)) fun _ => rfl
  identity _ := clears_releaseCreatedIdentity

/-! A site that is created, and one whose creation is killed and undone. -/

instance (chance : Chance) (step : Step) (site : Site) : Decidable (Fresh chance step site) := by
  cases step <;> dsimp only [Fresh] <;> infer_instance

def shopPlan : Plan where
  domain := ⟨"shop.test".toList, shopTest_valid⟩
  runtime := ⟨"php83".toList, php83_valid⟩
  relativeRoot := none
  profile := none
  workerMode := false
  workerCount := 4
  named := by decide
  workers := by decide

def bareSite : Site :=
  { records := fun _ => none, plans := fun _ => none, journals := [], temps := []
    allocations := fun _ => none, identity := none, root := none, service := none, exec := none
    route := none, verified := [] }

def wellAt (now : Nat) : Chance :=
  { fails := none, takes := false, admission := .proceed, now, journalSwept := fun _ => true
    recordSwept := fun _ => true, listing := [], root := "/srv/shop.test".toList
    identity := ⟨"site-shop".toList, 10000, 10000, 20000, [], false, 1⟩, recorded := true
    remnant := .unrecorded }

def firstId : RequestId := .numbered 1

def secondId : RequestId := .numbered 2

/-- The first creation is killed before its exec config, recovered and swept up;
the second one succeeds. -/
def shopCalls : List (Call × List Chance) :=
  [(.create shopPlan firstId, List.replicate 18 (wellAt 0)),
    (.recover shopPlan.domain firstId, List.replicate 40 (wellAt 100)),
    (.create shopPlan secondId, List.replicate 40 (wellAt 200))]

theorem untouched_bareSite : Untouched bareSite where
  records _ := rfl
  journals := rfl
  based _ artifact _ owned := by cases artifact <;> cases owned

theorem creation_all_or_nothing_shop :
    machine.Orderly () Fresh bareSite (shopCalls.map (Call.turn hostBackend)) ∧
    (let site := machine.turns () bareSite (shopCalls.map (Call.turn hostBackend))
     site.status? firstId = some .failed ∧ site.status? secondId = some .committed ∧
     (∀ artifact, site.owner artifact ≠ some firstId) ∧
     ∀ artifact, site.owner artifact = some secondId) :=
  have unique : machine.Orderly () Fresh bareSite (shopCalls.map (Call.turn hostBackend)) := by
    decide +kernel
  have failed : (machine.turns () bareSite (shopCalls.map (Call.turn hostBackend))).status? firstId =
      some .failed := by decide +kernel
  have committed : (machine.turns () bareSite
      (shopCalls.map (Call.turn hostBackend))).status? secondId = some .committed := by decide +kernel
  have all := creation_all_or_nothing hostBackend hostBackend_lawful bareSite untouched_bareSite
    shopCalls unique
  ⟨unique, failed, committed, (all firstId).1 failed, ((all secondId).2.1 committed).1⟩

end OpsEngine.Create
