import OpsEngine.Effect.History
import OpsEngine.Data.Lookup
import OpsEngine.Migrate.LivePool

namespace OpsEngine.Migrate

open Effect

/-! # Journals that can be acted on

The steps of the runs tell the course of a migration: which journal was written
last, and what of the migration has not been taken back since.  The course is
over once the record is saved as committed, or once everything is taken back and
the journal is to say so.
-/

/-- A step of the migrations with its answer. -/
abbrev Entry := Sigma Answer

abbrev Told := Recorded Step Answer Fleet Unit

structure Course where
  written : Journal
  /-- the journal, as far as it is not taken back -/
  left : Journal

/-- Nothing is left to take back. -/
def Journal.Blank (journal : Journal) : Prop :=
  journal.phase = .preparing ∧ journal.target = ⟨false, false, false⟩

instance (journal : Journal) : Decidable journal.Blank := inferInstanceAs (Decidable (_ ∧ _))

def TargetArtifacts.join (first second : TargetArtifacts) : TargetArtifacts :=
  ⟨first.identity || second.identity, first.service || second.service,
    first.execConfig || second.execConfig⟩

/-- A journal adds to what is left, and takes nothing of it away. -/
def Course.add (course : Course) (journal : Journal) : Course where
  written := journal
  left := { journal with
    phase := if journal.phase = .preparing then course.left.phase else journal.phase
    target := course.left.target.join journal.target }

/-- The save of a journal that announces nothing is the end, if nothing is left. -/
def Course.save (course : Course) (journal : Journal) (answer : Except StepError Unit) :
    Option Course :=
  if journal.Blank ∧ course.left.Blank then none
  else
    match answer with
    | .ok () => some (course.add journal)
    | .error _ => some course

section Runs

variable [Sha256]

/-- What a step takes back: an artifact it has removed, the route if it is the
previous one again. -/
def Entry.undo (journal : Journal) : Entry → Journal
  | ⟨.removeExecConfig runtime, .ok ()⟩ =>
    if runtime = journal.toRuntime then journal.mark { journal.target with execConfig := false }
    else journal
  | ⟨.removeService runtime, .ok ()⟩ =>
    if runtime = journal.toRuntime then journal.mark { journal.target with service := false }
    else journal
  | ⟨.releaseIdentity runtime, .ok ()⟩ =>
    if runtime = journal.toRuntime then journal.mark { journal.target with identity := false }
    else journal
  | ⟨.readRoute, .ok route⟩ =>
    if journal.phase = .cutover ∧ ConfigHash.of route.content = journal.previousRouteSha256 then
      journal.enter .preparing
    else journal
  | ⟨.activateRoute kind content _, .ok ()⟩ =>
    if journal.phase = .cutover ∧ kind = journal.routeKind ∧ content = journal.previousRoute then
      journal.enter .preparing
    else journal
  | _ => journal

def Course.after (entry : Entry) (course : Course) : Course :=
  { course with left := entry.undo course.left }

def Entry.alter (id : RequestId) (course : Option Course) : Entry → Option Course
  | ⟨.writeJournal journal, .ok ()⟩ =>
    if journal.requestId = id then some ⟨journal, journal⟩ else course
  | ⟨.saveJournal journal, answer⟩ =>
    if journal.requestId = id then course.bind (·.save journal answer) else course
  | ⟨.saveRecord other record, .ok ()⟩ =>
    if other = id ∧ record.status = .committed then none else course
  | entry => course.map (·.after entry)

/-- The course of the migration `id`, as long as it is neither committed nor
rolled back.  The latest step comes first. -/
def courseOf (id : RequestId) : List Entry → Option Course
  | [] => none
  | entry :: earlier => entry.alter id (courseOf id earlier)

abbrev course (id : RequestId) (told : Told) : Option Course := courseOf id (told.journals ())

/-- As long as a migration is neither committed nor rolled back, `recover` reads
back the journal that was written last. -/
def Readable (told : Told) : Prop :=
  ∀ id found, course id told = some found →
    (told.state.journals.lookup id).bind JournalFile.read = some found.written

/-- The journals that are written fit into what `recover` reads; no pending
journal's transaction has been over for longer than the retention when a request
is admitted; a committed record is saved, and a record beside a journal of the
cleanup phase is read. -/
def Roomy (chance : Chance) : Step → Told → Prop
  | .admission _, told =>
    ∀ entry ∈ told.state.journals,
      (told.state.records entry.1).any (·.expired chance.now) = false
  | .writeJournal journal, _ => journal.encodedBytes ≤ maxJournalBytes
  | .saveJournal journal, _ => journal.encodedBytes ≤ maxJournalBytes
  | .loadRecord id, told =>
    ((told.state.journals.lookup id).bind JournalFile.read).any (·.phase = .cleanup) = true →
      chance.fails = none
  | .saveRecord _ record, _ => record.status = .committed → chance.fails = none
  | _, _ => True

instance (chance : Chance) (step : Step) (told : Told) : Decidable (Roomy chance step told) := by
  apply @Step.casesOn (fun step => Decidable (Roomy chance step told)) step <;> intros <;>
    dsimp only [Roomy] <;> infer_instance

/-! ## What a step leaves -/

section

omit [Sha256]

theorem lookup_dropJournal {fleet : Fleet} {id other : RequestId} (distinct : other ≠ id) :
    (fleet.dropJournal id).journals.lookup other = fleet.journals.lookup other := by
  unfold Fleet.dropJournal
  rw [lookup_filter (fun key => key ≠ id), if_pos (by simpa using distinct)]

theorem lookup_setJournal (fleet : Fleet) (id other : RequestId) (file : JournalFile) :
    (fleet.setJournal id file).journals.lookup other =
      if other = id then some file else fleet.journals.lookup other := by
  by_cases same : other = id
  · subst same
    simp [Fleet.setJournal]
  · have rest : (fleet.dropJournal id).journals.lookup other = fleet.journals.lookup other :=
      lookup_dropJournal same
    rw [if_neg same, ← rest]
    simp [Fleet.setJournal, List.lookup_cons, beq_eq_false_iff_ne.mpr same]

theorem journals_sweep {fleet : Fleet} {now : Nat}
    (kept : ∀ entry ∈ fleet.journals, (fleet.records entry.1).any (·.expired now) = false)
    (swept : RequestId → Swept) :
    (fleet.sweep now swept).journals = fleet.journals := by
  apply List.filter_eq_self.mpr
  intro entry member
  simp [kept entry member]

theorem records_sweep {fleet : Fleet} {now : Nat}
    (kept : ∀ entry ∈ fleet.journals, (fleet.records entry.1).any (·.expired now) = false)
    (swept : RequestId → Swept) {id : RequestId} {file : JournalFile}
    (found : fleet.journals.lookup id = some file) :
    (fleet.sweep now swept).records id = fleet.records id := by
  obtain ⟨before, rest, all, _⟩ := List.lookup_eq_some_iff.mp found
  have fresh : (fleet.records id).any (·.expired now) = false := kept (id, file) (by simp [all])
  simp [Fleet.sweep, fresh]

end

/-- The steps that neither create, write or remove a journal nor write a record. -/
def Step.quiet : Step → Bool
  | .admission _ | .createJournal _ | .writeJournal _ | .saveJournal _ | .removeJournal _
  | .saveRecord _ _ => false
  | _ => true

def Stored (before after : Fleet) : Prop :=
  after.journals = before.journals ∧ after.records = before.records

variable {step : Step} {chance : Chance} {fleet : Fleet} {told : Told} {id : RequestId}
  {journal : Journal} {record : Option Record}

theorem pool_stored {runtime : RuntimeId} (member : PoolStep runtime step) (chance : Chance)
    (fleet : Fleet) : Stored fleet (exec chance step fleet).2 :=
  pool_step member chance ⟨rfl, rfl⟩ fun _ => ⟨rfl, rfl⟩

theorem looking_stored (looking : Looking step) (chance : Chance) (fleet : Fleet) :
    Stored fleet (exec chance step fleet).2 := by
  rw [looking_same looking chance fleet]
  exact ⟨rfl, rfl⟩

theorem quiet_stored (quiet : step.quiet = true) (chance : Chance) (fleet : Fleet) :
    Stored fleet (exec chance step fleet).2 := by
  cases step with
  | admission | createJournal | writeJournal | saveJournal | removeJournal | saveRecord =>
    contradiction
  | lock | now | readRoute | readIdentity | probe | stopIdlePool | readJournal | loadRecord =>
    exact looking_stored (by constructor) chance fleet
  | allocateIdentity runtime | writeService runtime | activateExecConfig runtime
  | removeExecConfig runtime | removeService runtime | releaseIdentity runtime =>
    exact @pool_stored _ _ runtime (by constructor) chance fleet
  | activateRoute kind content expected =>
    have moved : Stored fleet (fleet.setRoute kind content) := by cases kind <;> exact ⟨rfl, rfl⟩
    by_cases guarded : (fleet.routeFile kind).map ConfigHash.of = some expected
    · have allowed : exec chance (.activateRoute kind content expected) fleet =
          chance.settle fleet (fleet.setRoute kind content) := if_pos guarded
      rw [allowed]
      exact settle_cases (fun _ => ⟨rfl, rfl⟩) (fun _ => moved) moved
    · have refused : exec chance (.activateRoute kind content expected) fleet =
          (.error (chance.fails.getD hashMismatch), fleet) := if_neg guarded
      rw [refused]
      exact ⟨rfl, rfl⟩

theorem course_exec : course id (machine.recorded.exec () chance step told).2 =
    Entry.alter id (course id told) ⟨step, (exec chance step told.state).1⟩ := rfl

theorem quiet_course (quiet : step.quiet = true) :
    course id (machine.recorded.exec () chance step told).2 =
      (course id told).map (·.after ⟨step, (exec chance step told.state).1⟩) := by
  rw [course_exec]
  cases step with
  | admission | createJournal | writeJournal | saveJournal | removeJournal | saveRecord =>
    contradiction
  | _ => rfl

/-! ## What the programs see to -/

/-- What is left of the course is covered by the journal a process works from. -/
structure Covers (journal : Journal) (found : Course) : Prop where
  like : found.left = { journal with phase := found.left.phase, target := found.left.target }
  phase : found.left.phase = .preparing ∨ found.left.phase = .cutover ∧ journal.phase = .cutover
  target : found.left.target.join journal.target = journal.target

omit [Sha256] in
theorem join_trans {first second third : TargetArtifacts} (below : first.join second = second)
    (above : second.join third = third) : first.join third = third := by
  have assoc : first.join (second.join third) = (first.join second).join third := by
    simp [TargetArtifacts.join, Bool.or_assoc]
  rw [above, below, above] at assoc
  exact assoc

/-- What a step takes back, it takes off what is left. -/
theorem undo_cases (entry : Entry) (journal : Journal) :
    (∃ target, entry.undo journal = journal.mark target ∧
      target.join journal.target = journal.target) ∨
    journal.phase = .cutover ∧ entry.undo journal = journal.enter .preparing := by
  unfold Entry.undo
  split
  case h_1 | h_2 | h_3 =>
    refine .inl ?_
    split
    · exact ⟨_, rfl, by simp [TargetArtifacts.join]⟩
    · exact ⟨_, rfl, by simp [TargetArtifacts.join]⟩
  case h_4 | h_5 =>
    split
    · rename_i back
      exact .inr ⟨back.1, rfl⟩
    · exact .inl ⟨_, rfl, by simp [TargetArtifacts.join]⟩
  case h_6 => exact .inl ⟨_, rfl, by simp [TargetArtifacts.join]⟩

theorem Covers.undo {found : Course} (covers : Covers journal found) (entry : Entry) :
    Covers journal (found.after entry) := by
  obtain ⟨like, phase, target⟩ := covers
  rcases undo_cases entry found.left with ⟨fewer, undone, less⟩ | ⟨cut, undone⟩
  · refine ⟨?_, ?_, ?_⟩ <;> simp only [Course.after, undone, Journal.mark]
    · rw [like]
    · exact phase
    · exact join_trans less target
  · refine ⟨?_, ?_, ?_⟩ <;> simp only [Course.after, undone, Journal.enter]
    · rw [like]
    · exact .inl trivial
    · exact target

def Active (id : RequestId) (fleet : Fleet) : Prop :=
  ∃ record, fleet.records id = some record ∧ record.status = .inProgress

/-- No journal of the cleanup phase is written. -/
def Early (found : Course) : Prop := found.written.phase ≠ .cleanup

/-- What there is for a migration that is not over. -/
structure Backed (id : RequestId) (fleet : Fleet) (found : Course) : Prop where
  read : (fleet.journals.lookup id).bind JournalFile.read = some found.written
  recorded : ∃ record, fleet.records id = some record ∧
    (record.status = .inProgress ∨ record.status = .failed ∧ Early found)
  covered : Early found → Covers found.written found

omit [Sha256] in
theorem Backed.congr {after : Fleet} {found : Course} (backed : Backed id fleet found)
    (journals : after.journals.lookup id = fleet.journals.lookup id)
    (records : after.records id = fleet.records id) : Backed id after found := by
  obtain ⟨read, recorded, covered⟩ := backed
  exact ⟨journals ▸ read, records ▸ recorded, covered⟩

def Intact (told : Told) : Prop :=
  ∀ id found, course id told = some found → Backed id told.state found

/-- A journal is removed only once its migration is over, and says how far it is. -/
def Proper : Step → Told → Prop
  | .writeJournal journal, told => journal.phase = .preparing ∧ Active journal.requestId told.state
  | .saveJournal journal, told =>
    if journal.phase = .cleanup then Active journal.requestId told.state
    else ∀ found, course journal.requestId told = some found → Covers journal found
  | .saveRecord id record, told =>
    record.status = .committed ∨
      record.status = .failed ∧ ∀ found, course id told = some found → Early found
  | .removeJournal id, told => course id told = none
  | _, _ => True

theorem course_idle {entry : Entry} {found : Course}
    (open_ : (course id told).map (·.after entry) = some found)
    (idle : ∀ journal, entry.undo journal = journal) : course id told = some found := by
  obtain ⟨before, known, rfl⟩ := Option.map_eq_some_iff.mp open_
  rw [known, Course.after, idle]

section Steps

variable (intact : Intact told)
include intact

theorem intact_quiet (quiet : step.quiet = true) :
    Intact (machine.recorded.exec () chance step told).2 := by
  intro other found open_
  obtain ⟨journals, records⟩ := quiet_stored quiet chance told.state
  rw [quiet_course quiet] at open_
  obtain ⟨before, known, rfl⟩ := Option.map_eq_some_iff.mp open_
  have backed := intact other before known
  have kept : Backed other told.state (before.after ⟨step, (exec chance step told.state).1⟩) :=
    ⟨backed.read, backed.recorded, fun early => (backed.covered early).undo _⟩
  exact kept.congr (congrArg _ journals) (congrFun records other)

theorem intact_admission (roomy : Roomy chance (.admission id) told) :
    Intact (machine.recorded.exec () chance (.admission id) told).2 := by
  intro other found open_
  have known : course other told = some found := course_idle open_ fun _ => rfl
  have backed := intact other found known
  obtain ⟨file, pending, _⟩ := Option.bind_eq_some_iff.mp backed.read
  have swept : Backed other (told.state.sweep chance.now chance.swept) found :=
    backed.congr (congrArg _ (journals_sweep roomy _)) (records_sweep roomy _ pending)
  show Backed other (exec chance (.admission id) told.state).2 found
  simp only [exec]
  split
  · rename_i absent
    obtain ⟨record, present, _⟩ := swept.recorded
    have apart : other ≠ id := by
      rintro rfl
      rw [absent] at present
      cases present
    exact swept.congr rfl (Function.update_of_ne apart _ _)
  · exact swept
  · exact swept

theorem intact_createJournal : Intact (machine.recorded.exec () chance (.createJournal id) told).2 := by
  intro other found open_
  have known : course other told = some found := course_idle open_ fun _ => rfl
  have backed := intact other found known
  show Backed other (exec chance (.createJournal id) told.state).2 found
  simp only [exec]
  split
  · exact backed
  rename_i absent
  refine store_cases (fun _ => backed) (backed.congr ?_ rfl)
  rw [lookup_setJournal, if_neg]
  rintro rfl
  have read := backed.read
  rw [absent] at read
  cases read

theorem intact_removeJournal (gone : course id told = none) :
    Intact (machine.recorded.exec () chance (.removeJournal id) told).2 := by
  intro other found open_
  have known : course other told = some found := course_idle open_ fun _ => rfl
  have backed := intact other found known
  have apart : other ≠ id := by
    rintro rfl
    rw [gone] at known
    cases known
  show Backed other (chance.store told.state _).2 found
  exact store_cases (fun _ => backed) (backed.congr (lookup_dropJournal apart) rfl)

theorem intact_saveRecord {saved : Record} (proper : Proper (.saveRecord id saved) told) :
    Intact (machine.recorded.exec () chance (.saveRecord id saved) told).2 := by
  intro other found open_
  rw [course_exec] at open_
  show Backed other (chance.store told.state (told.state.setRecord id (some saved))).2 found
  cases fails : chance.fails with
  | some error =>
    simp only [exec, Chance.store, fails] at open_ ⊢
    obtain ⟨before, known, rfl⟩ := Option.map_eq_some_iff.mp open_
    exact intact other before known
  | none =>
  simp only [exec, Chance.store, fails, Entry.alter] at open_ ⊢
  split at open_
  · cases open_
  rename_i going
  have backed := intact other found open_
  by_cases same : id = other
  · subst same
    have uncommitted : saved.status ≠ .committed := fun committed => going ⟨rfl, committed⟩
    obtain ⟨failed, early⟩ := proper.resolve_left uncommitted
    exact ⟨backed.read, ⟨saved, Function.update_self _ _ _, .inr ⟨failed, early found open_⟩⟩,
      backed.covered⟩
  · exact backed.congr rfl (Function.update_of_ne (Ne.symm same) _ _)

omit [Sha256] intact in
theorem read_stored (fits : journal.encodedBytes ≤ maxJournalBytes) (fleet : Fleet) :
    ((fleet.setJournal journal.requestId (.whole journal)).journals.lookup
      journal.requestId).bind JournalFile.read = some journal := by
  rw [lookup_setJournal, if_pos rfl]
  simp [JournalFile.read, fits]

theorem intact_writeJournal (roomy : Roomy chance (.writeJournal journal) told)
    (proper : Proper (.writeJournal journal) told) :
    Intact (machine.recorded.exec () chance (.writeJournal journal) told).2 := by
  intro other found open_
  rw [course_exec] at open_
  show Backed other (chance.store told.state _).2 found
  cases fails : chance.fails with
  | some error =>
    simp only [exec, Chance.store, fails] at open_ ⊢
    obtain ⟨before, known, rfl⟩ := Option.map_eq_some_iff.mp open_
    exact intact other before known
  | none =>
  simp only [exec, Chance.store, fails, Entry.alter] at open_ ⊢
  split at open_
  · rename_i same
    subst same
    cases open_
    obtain ⟨preparing, record, present, active⟩ := proper
    exact ⟨read_stored roomy _, ⟨record, present, .inl active⟩,
      fun _ => ⟨rfl, .inl preparing, by simp [TargetArtifacts.join]⟩⟩
  · rename_i apart
    refine (intact other found open_).congr ?_ rfl
    rw [lookup_setJournal, if_neg (Ne.symm apart)]

omit [Sha256] intact in
theorem Covers.add {found : Course} (covers : Covers journal found)
    (unfinished : journal.phase ≠ .cleanup) : Covers journal (found.add journal) := by
  obtain ⟨like, phase, target⟩ := covers
  refine ⟨rfl, ?_, ?_⟩
  · show (if journal.phase = .preparing then found.left.phase else journal.phase) = _ ∨ _ ∧ _
    cases own : journal.phase with
    | preparing => exact .inl (phase.resolve_right fun cut => by simp [own] at cut)
    | cutover => exact .inr ⟨by simp [Course.add, own], rfl⟩
    | cleanup => exact absurd own unfinished
  · show (found.left.target.join journal.target).join journal.target = journal.target
    rw [target]
    simp [TargetArtifacts.join]

theorem intact_saveJournal (roomy : Roomy chance (.saveJournal journal) told)
    (proper : Proper (.saveJournal journal) told) :
    Intact (machine.recorded.exec () chance (.saveJournal journal) told).2 := by
  intro other found open_
  rw [course_exec] at open_
  show Backed other (chance.store told.state _).2 found
  by_cases same : journal.requestId = other
  · subst same
    simp only [Entry.alter, if_true] at open_
    obtain ⟨before, known, saved⟩ := Option.bind_eq_some_iff.mp open_
    have backed := intact _ before known
    unfold Course.save at saved
    split at saved
    · cases saved
    cases fails : chance.fails with
    | some error =>
      simp only [exec, Chance.store, fails] at saved ⊢
      cases saved
      exact backed
    | none =>
    simp only [exec, Chance.store, fails] at saved ⊢
    cases saved
    obtain ⟨record, present, status⟩ := backed.recorded
    by_cases cleanup : journal.phase = .cleanup
    · obtain ⟨record, present, active⟩ : Active journal.requestId told.state := by
        simpa only [Proper, cleanup, if_true] using proper
      exact ⟨read_stored roomy _, ⟨record, present, .inl active⟩, fun early => absurd cleanup early⟩
    · have covers : Covers journal before := by
        simp only [Proper, cleanup, if_false] at proper
        exact proper before known
      exact ⟨read_stored roomy _, ⟨record, present, status.imp_right fun failed =>
        ⟨failed.1, cleanup⟩⟩, fun _ => covers.add cleanup⟩
  · simp only [Entry.alter, if_neg same] at open_
    have backed := intact other found open_
    refine store_cases (fun _ => backed) (backed.congr ?_ rfl)
    rw [lookup_setJournal, if_neg (Ne.symm same)]

/-- The step lemma: a step that meets the condition and is one the programs make keeps
every journal whose migration is not over. -/
theorem intact_step (roomy : Roomy chance step told) (proper : Proper step told) :
    Intact (machine.recorded.exec () chance step told).2 := by
  cases quiet : step.quiet with
  | true => exact intact_quiet intact quiet
  | false =>
  cases step with
  | admission id => exact intact_admission intact roomy
  | createJournal id => exact intact_createJournal intact
  | writeJournal journal => exact intact_writeJournal intact roomy proper
  | saveJournal journal => exact intact_saveJournal intact roomy proper
  | removeJournal id => exact intact_removeJournal intact proper
  | saveRecord id record => exact intact_saveRecord intact proper
  | _ => contradiction

end Steps

/-! ## The programs -/

abbrev keeping : Discipline Step Told Unit Chance := .holding machine.recorded Roomy Intact

structure Holds (id : RequestId) (record : Option Record) (good : Option Course → Prop)
    (told : Told) : Prop where
  intact : Intact told
  record : told.state.records id = record
  course : good (course id told)

/-- A process works from `journal`. -/
def Covering (journal : Journal) (found : Option Course) : Prop :=
  ∀ course, found = some course → Early course ∧ Covers journal course

def Beginning (found : Option Course) : Prop := ∀ course, found = some course → Early course

abbrev Stands (journal : Journal) (record : Option Record) : Told → Prop :=
  Holds journal.requestId record (Covering journal)

/-- What is known of the course stays true when something is taken back. -/
def Closed (good : Option Course → Prop) : Prop :=
  ∀ found entry, good found → good (found.map (Course.after entry))

theorem closed_covering (journal : Journal) : Closed (Covering journal) := by
  intro found entry covering course open_
  obtain ⟨before, rfl, rfl⟩ := Option.map_eq_some_iff.mp open_
  exact ⟨(covering before rfl).1, (covering before rfl).2.undo entry⟩

theorem closed_beginning : Closed Beginning := by
  intro found entry beginning course open_
  obtain ⟨before, rfl, rfl⟩ := Option.map_eq_some_iff.mp open_
  exact beginning before rfl

theorem closed_none : Closed (· = none) := by
  rintro _ entry rfl
  rfl

theorem closed_true : Closed fun _ => True := fun _ _ _ => trivial

variable {good : Option Course → Prop} {α : Type}

/-- Whatever the program answers, the record is as before and the course is as `known` says. -/
abbrev Leads (id : RequestId) (record : Option Record) (known : α → Option Course → Prop)
    (program : Task α) (told : Told) : Prop :=
  Safe machine.recorded keeping () (fun answer => Holds id record (known answer)) program told

theorem preserves_quiet (closed : Closed good) :
    Preserves machine.recorded keeping () (fun step => step.quiet = true)
      (Holds id record good) where
  stable := stable_holding _
  step operation choice told quiet holds _ := by
    have intact := @intact_quiet _ _ choice _ holds.intact quiet
    refine ⟨intact, intact, ?_, ?_⟩
    · exact (congrFun (quiet_stored quiet choice told.state).2 id).trans holds.record
    · rw [quiet_course quiet]
      exact closed _ _ holds.course

theorem Holds.weaken {other : Option Course → Prop} (holds : Holds id record good told)
    (implies : ∀ found, good found → other found) : Holds id record other told :=
  { holds with course := implies _ holds.course }

omit [Sha256] in
theorem Covering.beginning {found : Option Course} (covering : Covering journal found) :
    Beginning found :=
  fun course open_ => (covering course open_).1

omit [Sha256] in
theorem beginning_none : Beginning none := by
  intro course open_
  cases open_

omit [Sha256] in
theorem covering_none (journal : Journal) : Covering journal none := by
  intro course open_
  cases open_

/-- A save adds the journal to the course, or ends it where nothing is left. -/
structure Saved (journal : Journal) (before : Option Course) (answer : Except StepError Unit)
    (after : Option Course) : Prop where
  covering : Covering journal after
  blank : journal.Blank → after = none
  failed : answer ≠ .ok () → after = none ∨ after = before

omit [Sha256] in
theorem Covers.blank {found : Course} (covers : Covers journal found) (blank : journal.Blank) :
    found.left.Blank := by
  obtain ⟨phase, target⟩ := blank
  have below := covers.target
  rw [target] at below
  refine ⟨covers.phase.resolve_right fun cut => by simp [phase] at cut, ?_⟩
  simp only [TargetArtifacts.join, Bool.or_false, TargetArtifacts.mk.injEq] at below
  obtain ⟨identity, service, execConfig⟩ := below
  cases left : found.left.target
  simp_all

omit [Sha256] in
theorem saved_save {found : Option Course} (covering : Covering journal found)
    (unfinished : journal.phase ≠ .cleanup) (answer : Except StepError Unit) :
    Saved journal found answer (found.bind (·.save journal answer)) := by
  cases found with
  | none => exact ⟨covering, fun _ => rfl, fun _ => .inl rfl⟩
  | some found =>
  obtain ⟨early, covers⟩ := covering found rfl
  simp only [Option.bind_some, Course.save]
  split
  · exact ⟨covering_none journal, fun _ => rfl, fun _ => .inl rfl⟩
  rename_i going
  have full : ¬ journal.Blank := fun blank => going ⟨blank, covers.blank blank⟩
  cases answer with
  | error error => exact ⟨covering, fun blank => absurd blank full, fun _ => .inr rfl⟩
  | ok _ =>
    refine ⟨?_, fun blank => absurd blank full, fun failed => absurd rfl failed⟩
    rintro _ ⟨⟩
    exact ⟨unfinished, covers.add unfinished⟩

theorem safe_saving (holds : Holds journal.requestId record good told)
    (proper : Proper (.saveJournal journal) told) :
    Safe machine.recorded keeping () (fun answer after => ∃ reply, (answer ≠ .ok () → reply ≠ .ok ()) ∧
        Holds journal.requestId record
          (· = (course journal.requestId told).bind (·.save journal reply)) after)
      (Store.save journal) told := by
  apply holding_call_bind
  intro chance roomy
  have intact := intact_step holds.intact roomy proper
  have kept : (exec chance (.saveJournal journal) told.state).2.records journal.requestId =
      record := by
    show (chance.store told.state _).2.records journal.requestId = record
    exact store_cases (fun _ => holds.record) holds.record
  have after : course journal.requestId
      (machine.recorded.exec () chance (.saveJournal journal) told).2 =
      (course journal.requestId told).bind
        (·.save journal (exec chance (.saveJournal journal) told.state).1) := if_pos rfl
  refine ⟨intact, ?_⟩
  cases answer : (machine.recorded.exec () chance (.saveJournal journal) told).1 with
  | error error =>
    rw [show (exec chance (.saveJournal journal) told.state).1 = _ from answer] at after
    exact ⟨.error error, fun _ => by simp, intact, kept, after⟩
  | ok _ =>
    rw [show (exec chance (.saveJournal journal) told.state).1 = _ from answer] at after
    exact ⟨.ok (), id, intact, kept, after⟩

theorem safe_store (stands : Stands journal record told) (unfinished : journal.phase ≠ .cleanup) :
    Safe machine.recorded keeping () (fun answer after => Stands journal record after ∧
        Saved journal (course journal.requestId told) answer (course journal.requestId after))
      (Store.save journal) told := by
  have proper : Proper (.saveJournal journal) told := by
    simp only [Proper, if_neg unfinished]
    exact fun found open_ => (stands.course found open_).2
  refine (safe_saving stands proper).mono ?_
  rintro answer after ⟨reply, failed, holds⟩
  have saved := saved_save stands.course unfinished reply
  rw [← holds.course] at saved
  exact ⟨⟨holds.intact, holds.record, saved.covering⟩, saved.covering, saved.blank,
    fun error => saved.failed (failed error)⟩

/-! A rollback that succeeds ends the course. -/

/-- A quiet step, after whose answer a process works from `next`. -/
theorem safe_taking (operation : Step) (next : Answer operation → Journal)
    (quiet : operation.quiet = true) (stands : Stands journal record told)
    (taken : ∀ answer found, Covers journal found →
      Covers (next answer) (found.after ⟨operation, answer⟩)) :
    Leads journal.requestId record (fun answer => Covering (next answer)) (Program.call operation)
      told := by
  apply holding_call
  intro chance roomy
  obtain ⟨intact, after⟩ :=
    (preserves_quiet (closed_covering journal)).step operation chance told quiet stands roomy
  refine ⟨intact, intact, after.record, ?_⟩
  rw [quiet_course quiet]
  intro course open_
  obtain ⟨found, known, rfl⟩ := Option.map_eq_some_iff.mp open_
  obtain ⟨early, covers⟩ := stands.course found known
  exact ⟨early, taken _ found covers⟩

theorem Covers.back {found : Course} (covers : Covers journal found) {entry : Entry}
    (undone : found.left.phase = .cutover → entry.undo found.left = found.left.enter .preparing) :
    Covers (journal.enter .preparing) (found.after entry) := by
  have after := covers.undo entry
  refine ⟨after.like, .inl ?_, after.target⟩
  rcases undo_cases entry found.left with ⟨target, marked, _⟩ | ⟨_, entered⟩
  · rcases covers.phase with preparing | ⟨cut, _⟩
    · simp [Course.after, marked, Journal.mark, preparing]
    · simp [Course.after, undone cut, Journal.enter]
  · simp [Course.after, entered, Journal.enter]

/-- The journal to go on from once the route is restored, or is not. -/
def Journal.restored {ε : Type} (journal : Journal) : Except ε Unit → Journal
  | .ok () => journal.enter .preparing
  | .error _ => journal

theorem safe_restore (stands : Stands journal record told) :
    Leads journal.requestId record (fun answer => Covering (journal.restored answer))
      (restoreRoute journal) told := by
  let looked : Except StepError Route → Journal
    | .ok route =>
      if ConfigHash.of route.content = journal.previousRouteSha256 then journal.enter .preparing
      else journal
    | .error _ => journal
  refine (safe_taking .readRoute looked rfl stands ?_).seq ?_
  · intro answer found covers
    have same : found.left.previousRouteSha256 = journal.previousRouteSha256 := by rw [covers.like]
    cases answer with
    | error error => exact covers.undo _
    | ok route =>
      simp only [looked]
      split
      · rename_i hashed
        exact covers.back fun cut => by simp [Entry.undo, cut, hashed, same]
      · exact covers.undo _
  intro answer after stands
  cases answer with
  | error error => exact stands
  | ok route =>
  by_cases hashed : ConfigHash.of route.content = journal.previousRouteSha256
  · simp only [looked, if_pos hashed] at stands ⊢
    exact stands
  simp only [looked, if_neg hashed] at stands ⊢
  split
  · refine (safe_taking (.activateRoute journal.routeKind journal.previousRoute _)
      journal.restored rfl stands ?_).seq ?_
    · intro answer found covers
      have kind : found.left.routeKind = journal.routeKind := by rw [covers.like]
      have previous : found.left.previousRoute = journal.previousRoute := by rw [covers.like]
      cases answer with
      | error error => exact covers.undo _
      | ok _ => exact covers.back fun cut => by simp [Entry.undo, cut, kind, previous]
    · intro answer after stands
      cases answer with
      | error error => exact stands
      | ok _ => exact stands
  · exact stands

inductive Artifact where
  | identity
  | service
  | execConfig

def Artifact.set (target : TargetArtifacts) (flag : Bool) : Artifact → TargetArtifacts
  | .identity => { target with identity := flag }
  | .service => { target with service := flag }
  | .execConfig => { target with execConfig := flag }

def Artifact.removal (runtime : RuntimeId) : Artifact → Task (Except StepError Unit)
  | .identity => Migrate.step (.releaseIdentity runtime)
  | .service => Migrate.step (.removeService runtime)
  | .execConfig => Migrate.step (.removeExecConfig runtime)

theorem Covers.removed {found : Course} {target : TargetArtifacts} {entry : Entry}
    (artifact : Artifact) (covers : Covers (journal.mark (artifact.set target true)) found)
    (undone : entry.undo found.left = found.left.mark (artifact.set found.left.target false)) :
    Covers (journal.mark (artifact.set target false)) (found.after entry) := by
  have below := covers.target
  refine ⟨?_, ?_, ?_⟩ <;> simp only [Course.after, undone, Journal.mark]
  · rw [covers.like]
    rfl
  · exact covers.phase
  · cases artifact <;> simp_all [TargetArtifacts.join, Journal.mark, Artifact.set]

/-- A removal, if the journal says that the artifact may exist, takes it off what is left
where it succeeds. -/
theorem safe_flagged (artifact : Artifact) (target : TargetArtifacts) (flag : Bool) (what : String)
    (stands : Stands (journal.mark (artifact.set target flag)) record told) :
    Safe machine.recorded keeping ()
      (fun answer after => Stands (journal.mark (artifact.set target answer.1)) record after)
      (removing flag what (artifact.removal journal.toRuntime)) told := by
  cases flag with
  | false => exact stands
  | true =>
  have removes : Safe machine.recorded keeping ()
      (fun answer after => Stands (journal.mark (artifact.set target (!answer.isOk))) record after)
      (artifact.removal journal.toRuntime) told := by
    have named : ∀ {found}, Covers (journal.mark (artifact.set target true)) found →
        journal.toRuntime = found.left.toRuntime := fun covers =>
      (congrArg Journal.toRuntime covers.like).symm
    cases artifact with
    | identity =>
      refine (safe_taking (.releaseIdentity journal.toRuntime)
        (fun answer => journal.mark (Artifact.identity.set target (!answer.isOk))) rfl stands ?_ :)
      rintro (_ | _) found covers
      · exact covers.undo _
      · exact covers.removed .identity (if_pos (named covers))
    | service =>
      refine (safe_taking (.removeService journal.toRuntime)
        (fun answer => journal.mark (Artifact.service.set target (!answer.isOk))) rfl stands ?_ :)
      rintro (_ | _) found covers
      · exact covers.undo _
      · exact covers.removed .service (if_pos (named covers))
    | execConfig =>
      refine (safe_taking (.removeExecConfig journal.toRuntime)
        (fun answer => journal.mark (Artifact.execConfig.set target (!answer.isOk))) rfl stands ?_ :)
      rintro (_ | _) found covers
      · exact covers.undo _
      · exact covers.removed .execConfig (if_pos (named covers))
  apply removes.seq
  intro answer after stands
  cases answer with
  | ok _ => exact stands
  | error error => exact stands

/-- What is known of the course once a rollback has answered. -/
def Undone (answer : Except String Unit) (found : Option Course) : Prop :=
  Beginning found ∧ (answer = .ok () → found = none)

theorem safe_unmake (stands : Stands journal record told) (preparing : journal.phase = .preparing) :
    Leads journal.requestId record Undone (removeArtifacts journal) told := by
  apply (safe_flagged .execConfig journal.target journal.target.execConfig _ stands).seq
  intro first fleet stands
  apply (safe_flagged .service (Artifact.execConfig.set journal.target first.1)
    journal.target.service _ stands).seq
  intro second fleet stands
  apply (safe_flagged .identity
    (Artifact.service.set (Artifact.execConfig.set journal.target first.1) second.1)
    journal.target.identity _ stands).seq
  intro third fleet stands
  apply (safe_store stands (by simp [Journal.mark, preparing])).seq
  rintro _ after ⟨stands, saved⟩
  split
  · rename_i clean
    simp only [Bool.and_eq_true, Bool.not_eq_true'] at clean
    obtain ⟨⟨⟨-, execConfig⟩, service⟩, identity⟩ := clean
    have blank : (journal.mark ⟨third.1, second.1, first.1⟩).Blank := by
      simp [Journal.Blank, Journal.mark, preparing, execConfig, service, identity]
    exact ⟨stands.intact, stands.record, stands.course.beginning, fun _ => saved.blank blank⟩
  · exact stands.weaken fun _ covering => ⟨covering.beginning, nofun⟩

theorem safe_undo (stands : Stands journal record told) (unfinished : journal.phase ≠ .cleanup) :
    Leads journal.requestId record Undone (rollBack journal) told := by
  unfold rollBack
  split
  · refine (safe_restore stands).attempt (fun _ _ stands => ?_) ?_
    · exact stands.weaken fun _ covering => ⟨covering.beginning, nofun⟩
    intro _ after (stands : Stands (journal.enter .preparing) record after)
    apply (safe_store stands (by simp [Journal.enter])).seq
    exact fun _ _ saved => safe_unmake saved.1 rfl
  · rename_i other
    have preparing : journal.phase = .preparing := by
      cases phase : journal.phase <;> simp_all
    exact safe_unmake stands preparing

theorem safe_drop (gone : Holds id record (· = none) told) :
    Leads id record (fun _ => (· = none)) (Program.call (.removeJournal id)) told := by
  apply holding_call
  intro chance roomy
  have intact := intact_step gone.intact roomy gone.course
  refine ⟨intact, intact, ?_, ?_⟩
  · show (chance.store told.state _).2.records id = record
    exact store_cases (fun _ => gone.record) gone.record
  · rw [course_exec, gone.course]
    rfl

theorem safe_giveUp (stands : Stands journal record told) (unfinished : journal.phase ≠ .cleanup)
    (error : StepError) :
    Leads journal.requestId record (fun _ => Beginning) (abort journal error) told := by
  refine (safe_undo stands unfinished).attempt ?_ ?_
  · intro problem after undone
    have known : Holds journal.requestId record Beginning after := undone.weaken fun _ known => known.1
    exact known
  intro _ after undone
  have gone : Holds journal.requestId record (· = none) after :=
    undone.weaken fun _ known => known.2 rfl
  apply Safe.bind
  apply (safe_drop gone).seq
  intro _ later gone
  have known : Holds journal.requestId record Beginning later := gone.weaken fun _ none =>
    none ▸ beginning_none
  exact known

/-! A migration ends its course, or leaves it to `recover`. -/

theorem safe_announce (stands : Stands journal record told) (unfinished : journal.phase ≠ .cleanup)
    {creation : Task (Except StepError α)} (quiet : creation.Every (·.quiet = true)) :
    Safe machine.recorded keeping () (fun _ => Stands journal record) (announced journal creation)
      told := by
  apply (safe_store stands unfinished).seq
  rintro answer after ⟨stands, -⟩
  cases answer with
  | error error => exact stands
  | ok _ => exact (preserves_quiet (closed_covering journal)).safe quiet stands

omit [Sha256] in
theorem Covering.more {found : Option Course} {target : TargetArtifacts}
    (covering : Covering journal found) (above : journal.target.join target = target) :
    Covering (journal.mark target) found := by
  intro course open_
  obtain ⟨early, covers⟩ := covering course open_
  exact ⟨early, covers.like, covers.phase, join_trans covers.target above⟩

theorem Stands.more (stands : Stands journal record told) (target : TargetArtifacts)
    (above : journal.target.join target = target) : Stands (journal.mark target) record told :=
  stands.weaken fun _ covering => covering.more above

theorem safe_ready (stands : Stands journal record told) (preparing : journal.phase = .preparing)
    (request : Request) (identity : Identity) :
    Safe machine.recorded keeping () (fun answer after =>
        answer.2 = journal.mark answer.2.target ∧ Stands answer.2 record after)
      (prepare request identity journal) told := by
  have unfinished : journal.phase ≠ .cleanup := by simp [preparing]
  unfold prepare
  refine Safe.attempt (safe_announce (stands.more ⟨true, _, _⟩ ?_) unfinished ?_) ?_ ?_
  · simp [TargetArtifacts.join]
  · exact ⟨rfl, fun _ => trivial⟩
  · exact fun _ _ stands => ⟨rfl, stands⟩
  intro allocated first stands
  dsimp only
  split
  · exact ⟨rfl, stands⟩
  refine Safe.attempt (safe_announce (stands.more ⟨true, true, _⟩ ?_) unfinished ?_) ?_ ?_
  · simp [TargetArtifacts.join, Journal.mark]
  · exact ⟨rfl, fun _ => trivial⟩
  · exact fun _ _ stands => ⟨rfl, stands⟩
  intro _ second stands
  refine Safe.attempt (safe_announce (stands.more ⟨true, true, true⟩ ?_) unfinished ?_) ?_ ?_
  · simp [TargetArtifacts.join, Journal.mark]
  · exact ⟨rfl, fun _ => trivial⟩
  · exact fun _ _ stands => ⟨rfl, stands⟩
  intro _ third stands
  apply Safe.bind
  refine (preserves_quiet (closed_covering _)).call_bind rfl stands fun answer last stands => ?_
  cases answer with
  | error error => exact ⟨rfl, stands⟩
  | ok _ => exact ⟨rfl, stands⟩

/-- What is known of the course once a migration has answered. -/
def Migrated {ε β : Type} : Except ε β → Option Course → Prop
  | .error _ => Beginning
  | .ok _ => fun _ => True

theorem safe_quit (stands : Stands journal record told) (unfinished : journal.phase ≠ .cleanup)
    (error : StepError) : Leads journal.requestId record Migrated
      (do return .error (← abort journal error) : Task (Except StepError MigrateResult)) told :=
  (safe_giveUp stands unfinished error).seq fun _ _ known => known

omit [Sha256] in
theorem every_cleanOldPool : (cleanOldPool journal).Every (·.quiet = true) := by
  refine ⟨rfl, fun _ => ⟨rfl, fun _ => ⟨rfl, fun _ => ?_⟩⟩⟩
  split
  · exact ⟨rfl, fun _ => trivial⟩
  · trivial

theorem safe_conclude (holds : Holds journal.requestId record (fun _ => True) told)
    (active : ∃ found, record = some found ∧ found.status = .inProgress) (request : Request)
    (allocated : Identity) :
    Leads journal.requestId record (fun _ _ => True) (finish request journal allocated) told := by
  obtain ⟨found, rfl, inProgress⟩ := active
  have proper : Proper (.saveJournal (journal.enter .cleanup)) told := by
    simp only [Proper, Journal.enter, if_true]
    exact ⟨found, holds.record, inProgress⟩
  have saves : Safe machine.recorded keeping () _ (Store.save (journal.enter .cleanup)) told :=
    safe_saving holds proper
  apply saves.seq
  rintro _ after ⟨_, -, saved⟩
  have left : Holds journal.requestId (some found) (fun _ => True) after :=
    saved.weaken fun _ _ => trivial
  exact (preserves_quiet closed_true).safe
    (every_cleanOldPool.bind fun _ => ⟨rfl, fun _ => trivial⟩) left

variable {request : Request}

theorem safe_moving (stands : Stands journal record told) (preparing : journal.phase = .preparing)
    (active : ∃ found, record = some found ∧ found.status = .inProgress) (route : Route)
    (newRoute : Text) (identity : Identity) :
    Leads journal.requestId record Migrated (migrate request route newRoute identity journal)
      told := by
  apply (safe_ready stands preparing request identity).seq
  rintro ⟨answer, marked⟩ first ⟨same, stands⟩
  have phase : marked.phase = .preparing := by
    rw [show marked = _ from same]
    exact preparing
  have requestId : marked.requestId = journal.requestId := by rw [show marked = _ from same]; rfl
  rw [← requestId]
  have unfinished : marked.phase ≠ .cleanup := by simp [phase]
  have cutting : (marked.enter .cutover).phase ≠ .cleanup := by simp [Journal.enter]
  cases answer with
  | error error => exact safe_quit stands unfinished error
  | ok allocated =>
  have cutover : Stands (marked.enter .cutover) record first := by
    refine stands.weaken fun found covering course open_ => ?_
    obtain ⟨early, covers⟩ := covering course open_
    have left := covers.phase.resolve_right fun cut => by simp [phase] at cut
    exact ⟨early, covers.like, .inl left, covers.target⟩
  refine Safe.attempt (safe_store cutover cutting) ?_ ?_
  · rintro error second ⟨moved, saved⟩
    have covering : Covering marked (course marked.requestId second) := by
      rcases saved.failed (by simp) with ended | same
      · exact (show course marked.requestId second = none from ended) ▸ covering_none marked
      · exact (show course marked.requestId second = _ from same) ▸ stands.course
    have back : Stands marked record second := ⟨moved.intact, moved.record, covering⟩
    exact safe_quit back unfinished error
  rintro _ second ⟨stands, -⟩
  have keeps := @preserves_quiet _ marked.requestId record _ (closed_covering (marked.enter .cutover))
  refine keeps.call_bind rfl stands fun answer third stands => ?_
  cases answer with
  | error error => exact safe_quit stands cutting error
  | ok _ =>
  have verifies : (verify request route.kind identity.root).Every (·.quiet = true) := by
    unfold verify
    split
    · exact ⟨rfl, fun answer => by cases answer <;> trivial⟩
    · trivial
  apply (keeps.safe verifies stands).seq
  intro answer fourth stands
  cases answer with
  | error error => exact safe_quit stands cutting error
  | ok _ =>
    have moved : Holds (marked.enter .cutover).requestId record (fun _ => True) fourth :=
      stands.weaken fun _ _ => trivial
    exact (safe_conclude moved active request allocated).seq fun _ _ known => known

theorem safe_create (holds : Holds journal.requestId record (· = none) told)
    (preparing : journal.phase = .preparing)
    (active : ∃ found, record = some found ∧ found.status = .inProgress) :
    Leads journal.requestId record (fun _ => Covering journal) (Store.create journal) told := by
  have unwritten : ∀ {after}, Holds journal.requestId record (· = none) after →
      Stands journal record after := fun holds =>
    holds.weaken fun _ none => none ▸ covering_none journal
  apply holding_call_bind
  intro chance roomy
  have created : Holds journal.requestId record (· = none)
      (machine.recorded.exec () chance (.createJournal journal.requestId) told).2 := by
    refine ⟨intact_step holds.intact roomy trivial, ?_, ?_⟩
    · show (exec chance (.createJournal journal.requestId) told.state).2.records _ = record
      simp only [exec]
      split
      · exact holds.record
      · exact store_cases (fun _ => holds.record) holds.record
    · rw [course_exec, holds.course]
      rfl
  refine ⟨created.intact, ?_⟩
  generalize machine.recorded.exec () chance (.createJournal journal.requestId) told = made at created
  obtain ⟨answer, told⟩ := made
  cases answer with
  | error error => exact unwritten created
  | ok _ =>
  apply holding_call_bind
  intro chance roomy
  obtain ⟨found, rfl, inProgress⟩ := active
  have proper : Proper (.writeJournal journal) told :=
    ⟨preparing, found, created.record, inProgress⟩
  have written : Stands journal (some found)
      (machine.recorded.exec () chance (.writeJournal journal) told).2 := by
    refine ⟨intact_step created.intact roomy proper, ?_, ?_⟩
    · show (chance.store told.state _).2.records _ = some found
      exact store_cases (fun _ => created.record) created.record
    · rw [course_exec, created.course]
      cases (exec chance (.writeJournal journal) told.state).1 with
      | error error => exact covering_none journal
      | ok _ =>
        intro course open_
        cases (if_pos rfl).symm.trans open_
        exact ⟨by simp [Early, preparing], rfl, .inl preparing, by simp [TargetArtifacts.join]⟩
  refine ⟨written.intact, ?_⟩
  generalize machine.recorded.exec () chance (.writeJournal journal) told = made at written
  obtain ⟨answer, told⟩ := made
  cases answer with
  | error error => exact written
  | ok _ => exact written

theorem safe_begun (holds : Holds request.requestId record (· = none) told)
    (active : ∃ found, record = some found ∧ found.status = .inProgress) :
    Leads request.requestId record Migrated (run request) told := by
  have keeps := @preserves_quiet _ request.requestId record _ closed_none
  have refused : ∀ {after}, Holds request.requestId record (· = none) after →
      Holds request.requestId record Beginning after := fun holds =>
    holds.weaken fun _ none => none ▸ beginning_none
  refine keeps.call_bind rfl holds fun answer told holds => ?_
  cases answer with
  | error error => exact refused holds
  | ok route =>
  dsimp only
  split
  · exact refused holds
  split
  · exact refused holds
  split
  · exact refused holds
  rename_i source _ _ _ newRoute _
  refine keeps.call_bind rfl holds fun answer told holds => ?_
  match answer with
  | .error error => exact refused holds
  | .ok none => exact refused holds
  | .ok (some identity) =>
  refine Safe.attempt (safe_create holds rfl active) ?_ ?_
  · exact fun _ _ stands => stands.weaken fun _ covering => covering.beginning
  · exact fun _ _ stands => safe_moving stands rfl active route newRoute identity

theorem holds_self (intact : Intact told) (id : RequestId) :
    Holds id (told.state.records id) (fun _ => True) told :=
  ⟨intact, rfl, trivial⟩

theorem safe_reading {program : Task α} (every : program.Every (·.quiet = true))
    (intact : Intact told) (id : RequestId) :
    Safe machine.recorded keeping () (fun _ after => Intact after) program told :=
  ((preserves_quiet closed_true).safe every (holds_self intact id)).mono fun _ _ holds => holds.intact

theorem safe_savingRecord {saved : Record} (holds : Holds id record good told)
    (proper : Proper (.saveRecord id saved) told) :
    Safe machine.recorded keeping () (fun _ after => Intact after ∧
        (saved.status = .committed ∨ course id told = none → course id after = none))
      (Program.call (.saveRecord id saved)) told := by
  apply holding_call
  intro chance roomy
  have intact := intact_step holds.intact roomy proper
  refine ⟨intact, intact, fun gone => ?_⟩
  rw [course_exec]
  rcases gone with committed | gone
  · have answered : (exec chance (.saveRecord id saved) told.state).1 = .ok () := by
      show (chance.store told.state _).1 = .ok ()
      rw [Chance.store, roomy committed]
    rw [answered]
    exact if_pos ⟨rfl, committed⟩
  · rw [gone]
    cases (exec chance (.saveRecord id saved) told.state).1 with
    | error error => rfl
    | ok _ => exact ite_self none

theorem course_admitted (intact : Intact told) {chance : Chance}
    (roomy : Roomy chance (.admission id) told)
    (admitted : (exec chance (.admission id) told.state).1 = .proceed) :
    course id told = none ∧
      (exec chance (.admission id) told.state).2.records id = some ⟨.inProgress, none, none⟩ := by
  simp only [exec] at admitted ⊢
  split at admitted
  · rename_i fails replays absent
    refine ⟨?_, by simp [Fleet.setRecord]⟩
    cases open_ : course id told with
    | none => rfl
    | some found =>
      have backed := intact id found open_
      obtain ⟨file, pending, _⟩ := Option.bind_eq_some_iff.mp backed.read
      obtain ⟨record, present, _⟩ := backed.recorded
      rw [records_sweep roomy _ pending, present] at absent
      cases absent
  · cases admitted
  · cases admitted

theorem safe_executed (intact : Intact told) (request : Request) :
    Safe machine.recorded keeping () (fun _ after => Intact after) (execute request) told := by
  apply holding_call_bind
  intro chance roomy
  have kept := intact_step intact roomy trivial
  refine ⟨kept, ?_⟩
  cases admitted : (machine.recorded.exec () chance (.admission request.requestId) told).1 with
  | refused => exact kept
  | replay original =>
    refine safe_reading (Program.every_call_bind rfl fun record => ?_) kept original
    cases record with
    | none => trivial
    | some record =>
      dsimp only
      split <;> trivial
  | proceed =>
  obtain ⟨fresh, inProgress⟩ := course_admitted intact roomy admitted
  have begins : Holds request.requestId (some ⟨.inProgress, none, none⟩) (· = none)
      (machine.recorded.exec () chance (.admission request.requestId) told).2 :=
    ⟨kept, inProgress, by rw [course_exec, fresh]; rfl⟩
  apply (safe_begun begins ⟨_, rfl, rfl⟩).seq
  intro answer told holds
  have keeps := @preserves_quiet _ request.requestId (some ⟨.inProgress, none, none⟩)
  cases answer with
  | error error =>
    refine (keeps closed_beginning).call_bind rfl holds fun now told holds => ?_
    exact (safe_savingRecord holds (.inr ⟨rfl, holds.course⟩)).seq fun _ _ saved => saved.1
  | ok result =>
  refine (keeps closed_true).call_bind rfl holds fun now told holds => ?_
  apply (safe_savingRecord holds (.inl rfl)).seq
  rintro saved told ⟨intact, gone⟩
  apply (safe_drop ⟨intact, rfl, gone (.inl rfl)⟩).seq
  intro _ told holds
  cases saved with
  | error error => exact holds.intact
  | ok _ => exact holds.intact

/-! What `recover` gives up is over. -/

/-- The migration is over, or saving its record commits it. -/
def Closing (status : TransactionStatus) (stored : Option Record) (found : Option Course) : Prop :=
  found = none ∨ status = .committed ∧ ∃ record, stored = some record ∧ record.status = .inProgress

theorem closed_closing (status : TransactionStatus) (stored : Option Record) :
    Closed (Closing status stored) :=
  fun found entry closing => closing.imp_left fun none => closed_none found entry none

theorem safe_closing {status : TransactionStatus} {stored : Option Record}
    (closing : Holds id record (Closing status stored) told) (ended : status ≠ .inProgress)
    (outcome : Except StepError MigrateResult) :
    Safe machine.recorded keeping () (fun _ after => Intact after ∧ course id after = none)
      (closeRecord id status outcome stored) told := by
  unfold closeRecord
  cases stored with
  | none => exact ⟨closing.intact, closing.course.resolve_right fun ⟨_, _, absent, _⟩ => nomatch absent⟩
  | some stored =>
  dsimp only
  split
  · refine (preserves_quiet (closed_closing status _)).call_bind rfl closing fun now told closing => ?_
    have proper : Proper (.saveRecord id ⟨status, some now, some outcome⟩) told := by
      cases status with
      | inProgress => exact absurd rfl ended
      | committed => exact .inl rfl
      | failed =>
        have gone := closing.course.resolve_right fun committing => nomatch committing.1
        exact .inr ⟨rfl, gone ▸ beginning_none⟩
    exact (safe_savingRecord closing proper).seq fun _ _ saved =>
      ⟨saved.1, saved.2 (closing.course.symm.imp_left And.left)⟩
  · rename_i finished
    refine ⟨closing.intact, closing.course.resolve_right ?_⟩
    rintro ⟨_, _, ⟨⟩, active⟩
    exact finished active

theorem safe_acted (intact : Intact told) {found : Option Record}
    (read : (told.state.journals.lookup journal.requestId).bind JournalFile.read = some journal)
    (loaded : found = told.state.records journal.requestId ∨
      found = none ∧ journal.phase ≠ .cleanup) :
    Safe machine.recorded keeping () (fun _ after => Intact after)
      (act journal.requestId journal found) told := by
  have same : ∀ {open_}, course journal.requestId told = some open_ → open_.written = journal := by
    intro open_ known
    have backed := (intact _ open_ known).read
    rw [read] at backed
    exact (Option.some.inj backed).symm
  unfold act
  split
  · rename_i committed
    have gone : course journal.requestId told = none := by
      cases known : course journal.requestId told with
      | none => rfl
      | some open_ =>
        obtain ⟨record, present, status⟩ := (intact _ open_ known).recorded
        rcases loaded with rfl | ⟨rfl, -⟩
        · rw [present] at committed
          rcases status with active | ⟨failed, -⟩ <;> simp_all
        · cases committed
    apply Safe.bind
    apply (safe_drop ⟨intact, rfl, gone⟩).seq
    exact fun _ _ holds => holds.intact
  split
  · rename_i cleanup
    obtain rfl := loaded.resolve_right fun unread => unread.2 cleanup
    have closing : Closing .committed (told.state.records journal.requestId)
        (course journal.requestId told) := by
      cases known : course journal.requestId told with
      | none => exact .inl rfl
      | some open_ =>
        obtain ⟨record, present, status⟩ := (intact _ open_ known).recorded
        have late : ¬ Early open_ := fun early => early (same known ▸ cleanup)
        exact .inr ⟨rfl, record, present, status.resolve_right fun failed => late failed.2⟩
    have keeps := @preserves_quiet _ journal.requestId (told.state.records journal.requestId) _
      (closed_closing .committed (told.state.records journal.requestId))
    apply (keeps.safe every_cleanOldPool ⟨intact, rfl, closing⟩).seq
    intro warnings first holds
    refine keeps.call_bind rfl holds fun now second holds => ?_
    apply (safe_closing holds nofun _).seq
    intro _ third closed
    apply Safe.bind
    apply (safe_drop ⟨closed.1, rfl, closed.2⟩).seq
    exact fun _ _ holds => holds.intact
  · rename_i unfinished
    have covering : Covering journal (course journal.requestId told) := by
      intro open_ known
      have early : Early open_ := by
        rw [Early, same known]
        exact unfinished
      exact ⟨early, same known ▸ (intact _ open_ known).covered early⟩
    have stands : Stands journal _ told := ⟨intact, rfl, covering⟩
    refine (safe_undo stands unfinished).attempt (fun _ _ undone => undone.intact) ?_
    intro _ after undone
    apply Safe.bind
    apply (safe_drop (undone.weaken fun _ known => known.2 rfl)).seq
    intro _ later gone
    have closing : Holds journal.requestId _ (Closing .failed found) later :=
      gone.weaken fun _ => .inl
    apply (safe_closing closing nofun _).seq
    exact fun _ _ closed => closed.1

theorem loadRecord_cases (chance : Chance) (fleet : Fleet) (id : RequestId) :
    (exec chance (.loadRecord id) fleet).1 = fleet.records id ∨
      (exec chance (.loadRecord id) fleet).1 = none ∧ chance.fails ≠ none := by
  simp only [exec]
  cases chance.fails with
  | none => exact .inl rfl
  | some error => exact .inr ⟨rfl, Option.some_ne_none _⟩

theorem safe_recovered (intact : Intact told) (domain : Domain) (id : RequestId) :
    Safe machine.recorded keeping () (fun _ after => Intact after) (recover domain id) told := by
  have keeps := @preserves_quiet _ id (told.state.records id) _ closed_true
  refine keeps.call_bind rfl (holds_self intact id) fun locked first holds => ?_
  cases locked with
  | false => exact holds.intact
  | true =>
  apply holding_call_bind
  intro chance roomy
  obtain ⟨kept, looked⟩ := keeps.step (.readJournal id) chance first rfl holds roomy
  have same : (machine.recorded.exec () chance (.readJournal id) first).2.state = first.state :=
    looking_same (.readJournal id) chance first.state
  refine ⟨kept, ?_⟩
  cases read : (machine.recorded.exec () chance (.readJournal id) first).1 with
  | none => exact kept
  | some journal =>
  have stored : (first.state.journals.lookup id).bind JournalFile.read = some journal := by
    replace read : (exec chance (.readJournal id) first.state).1 = some journal := read
    simp only [exec] at read
    split at read
    · exact read
    · cases read
  rw [← same] at stored
  generalize (machine.recorded.exec () chance (.readJournal id) first).2 = second at looked stored
  dsimp only
  split
  · exact looked.intact
  rename_i matches_
  have named : journal.requestId = id := by
    by_contra other
    exact matches_ (.inr other)
  subst named
  apply holding_call_bind
  intro chance roomy
  obtain ⟨kept, -⟩ := keeps.step (.loadRecord _) chance second rfl looked roomy
  have same : (machine.recorded.exec () chance (.loadRecord journal.requestId) second).2.state =
      second.state := looking_same (.loadRecord _) chance second.state
  refine ⟨kept, safe_acted kept (same ▸ stored) ?_⟩
  rw [same]
  rcases loadRecord_cases chance second.state journal.requestId with loaded | ⟨unread, fails⟩
  · exact .inl loaded
  · exact .inr ⟨unread, fun cleanup => fails (roomy (by simp [stored, cleanup]))⟩

theorem safe_ordered (intact : Intact told) (order : Order) :
    Safe machine.recorded keeping () (fun _ after => Intact after) order.program told := by
  cases order with
  | migrate request => exact (safe_executed intact request).seq fun _ _ intact => intact
  | recover domain id => exact (safe_recovered intact domain id).seq fun _ _ intact => intact

/-- In every run whose steps meet the condition, as long as a migration is neither
committed nor rolled back `recover` reads back the journal it wrote last, wherever
the run is stopped. -/
theorem journals_readable {fleet : Fleet} {orders : List (Order × List Chance)}
    (orderly : machine.recorded.Orderly () Roomy (.start fleet) (begun orders)) :
    Readable (machine.recorded.turns () (.start fleet) (begun orders)) := by
  have intact : Intact (machine.recorded.turns () (.start fleet) (begun orders)) := by
    apply invariant_turns (fun program => ∃ order : Order, program = order.program)
      (fun _ intact => intact) _ _ orderly
    · intro id found open_
      cases open_
    · rintro _ told ⟨order, rfl⟩ intact
      exact safe_ordered intact order
    · intro turn member
      obtain ⟨order, _, rfl⟩ := List.mem_map.mp member
      exact ⟨order.1, rfl⟩
  exact fun id found open_ => (intact id found open_).read

end Runs

namespace Sample

/-- A route of 33 KB, with lines of quotes, which JSON escapes. -/
def longRoute : Text :=
  "shop.test \x7b\n    reverse_proxy runtime-php83:80\n\x7d\n".toList ++
    (List.replicate 800 (List.replicate 40 '"' ++ ['\n'])).flatten

def aWeekLater : Chance :=
  { fine with now := Prune.defaultCompletedRetention, swept := fun _ => ⟨true, true⟩ }

def reading (told : Told) : Option Journal :=
  (told.state.journals.lookup first).bind JournalFile.read

def killedEarly (fleet : Fleet) : Told :=
  machine.recorded.turns () (.start fleet) (begun [(move first newPool, List.replicate 5 fine)])

/-- The first migration, whose probe and whose removal of the service fail; a
week later a second one is admitted. -/
def sweptLater : List (Order × List Chance) :=
  [(move first newPool, List.replicate 11 fine ++ [failing, fine, failing] ++ List.replicate 4 fine),
   (move second newPool, [aWeekLater])]

/-- The committed record of the migration cannot be saved. -/
def unsaved : List (Order × List Chance) :=
  [(move first newPool, List.replicate 21 fine ++ [failing, fine])]

end Sample

open Sample

/-- A migration is killed after its cutover, its recovery cannot read the route, and the
next recovery is killed once the route is back. -/
theorem journals_readable_after_kill :
    Readable (machine.recorded.turns () (.start fleet)
      (begun [(move first newPool, List.replicate 14 fine),
        (.recover site first, List.replicate 3 fine ++ [failing]),
        (.recover site first, List.replicate 7 fine)])) :=
  journals_readable (by decide +kernel)

theorem not_readable {told : Told}
    (lost : (course first told).isSome ∧ (reading told).isNone) :
    ¬ Readable told := by
  intro readable
  obtain ⟨found, open_⟩ := Option.isSome_iff_exists.mp lost.1
  have read : reading told = some found.written := readable first found open_
  simp [read] at lost

/-- The journal of a 33 KB route is too long for `recover`; the journal of an
incomplete rollback goes with its expired record; that of a migration whose
committed record was not saved is removed. -/
theorem journals_unreadable :
    ¬ Readable (killedEarly { fleet with liveRoute := some longRoute }) ∧
      ¬ Readable (machine.recorded.turns () (.start fleet) (begun sweptLater)) ∧
      ¬ Readable (machine.recorded.turns () (.start fleet) (begun unsaved)) :=
  ⟨not_readable (by decide +kernel), not_readable (by decide +kernel),
    not_readable (by decide +kernel)⟩

end OpsEngine.Migrate
