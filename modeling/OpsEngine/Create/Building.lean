import OpsEngine.Create.Operations
import OpsEngine.Data.Lookup

namespace OpsEngine.Create

open Effect
open Migrate (Identity StepError)

/-! # What a creation keeps true

A request in progress has its journal on disk before it makes anything, and the
journal flags whatever it may have made.  What a journal does not flag does not
exist, so a compensation that ends has removed everything.
-/

/-- A removal of the backend leaves the site as it is or without the artifact, and
succeeds only where the artifact is gone. -/
def Clears (artifact : Artifact) (removal : Task (Except StepError Unit)) : Prop :=
  ∀ (admits : Chance → Step → Site → Prop) (invariant : Site → Prop) (site : Site),
    invariant site → invariant (site.drop artifact) →
    Safe machine (.holding machine admits invariant) ()
      (fun answer after => (after = site ∨ after = site.drop artifact) ∧
        (answer = .ok () → after.owner artifact = none)) removal site

structure Backend.Lawful (backend : Backend) : Prop where
  route : ∀ plan expected, Clears .route (backend.removeCreatedRoute plan expected)
  exec : ∀ plan id, Clears .exec (backend.removeCreatedExec plan id)
  service : ∀ plan id, Clears .service (backend.removeCreatedService plan id)
  root : ∀ plan id, Clears .root (backend.removeEmptyRoot plan id)
  identity : ∀ plan id, Clears .identity (backend.releaseCreatedIdentity plan id)

def Artifact.needsIdentity : Artifact → Bool
  | .service | .exec | .route => true
  | .identity | .root => false

structure Sound (site : Site) : Prop where
  failed : ∀ id, site.status? id = some .failed → ∀ artifact, site.owner artifact ≠ some id
  committed : ∀ id, site.status? id = some .committed →
    (∀ artifact, site.owner artifact = some id) ∧ id ∈ site.verified
  flagged : ∀ id artifact, site.status? id = some .inProgress → site.owner artifact = some id →
    ∃ journal, site.journal? id = some journal ∧ journal.flags artifact = true
  /-- Where a request in progress has a journal, nobody else has made anything. -/
  alone : ∀ id journal, site.status? id = some .inProgress → site.journal? id = some journal →
    ∀ artifact other, site.owner artifact = some other → other = id
  completed : ∀ id journal, site.status? id = some .inProgress → site.journal? id = some journal →
    journal.completed.isSome → (∀ artifact, site.owner artifact = some id) ∧ id ∈ site.verified
  needed : ∀ id artifact, artifact.needsIdentity = true → site.owner artifact = some id →
    site.owner .identity = some id
  named : ∀ id journal, site.journal? id = some journal → journal.requestId = id

/-- Request ids are used once: one whose record is gone has left no journal and no
artifact behind. -/
def Fresh (chance : Chance) : Step → Site → Prop
  | .admission id, site =>
    (site.sweep chance).records id = none →
      (site.sweep chance).journal? id = none ∧ ∀ artifact, site.owner artifact ≠ some id
  | _, _ => True

abbrev sound : Discipline Step Site Unit Chance := .holding machine Fresh Sound

/-! ## What changes what -/

structure Same (before after : Site) : Prop where
  records : after.records = before.records
  journals : after.journals = before.journals
  owner : after.owner = before.owner
  verified : after.verified = before.verified

theorem Same.refl (site : Site) : Same site site := ⟨rfl, rfl, rfl, rfl⟩

variable {before after : Site} {id : RequestId} {operation : Step} {artifact : Artifact}
    {journal : Journal} {site : Site}

theorem Same.status? (same : Same before after) (id : RequestId) :
    after.status? id = before.status? id := by
  unfold Site.status?
  rw [same.records]

theorem Same.journal? (same : Same before after) (id : RequestId) :
    after.journal? id = before.journal? id := by
  unfold Site.journal?
  rw [same.journals]

/-- A site with fewer records and journals is sound, if the requests in progress have
theirs. -/
theorem Sound.less (sound : Sound before) (owner : after.owner = before.owner)
    (verified : after.verified = before.verified)
    (status : ∀ {id found}, after.status? id = some found → before.status? id = some found)
    (fewer : ∀ {id journal}, after.journal? id = some journal → before.journal? id = some journal)
    (kept : ∀ {id}, after.status? id = some .inProgress → after.journal? id = before.journal? id) :
    Sound after where
  failed id read artifact := owner ▸ sound.failed id (status read) artifact
  committed id read := by
    rw [owner, verified]
    exact sound.committed id (status read)
  flagged id artifact read owned := by
    rw [kept read]
    exact sound.flagged id artifact (status read) (owner ▸ owned)
  alone id journal read found artifact other owned :=
    sound.alone id journal (status read) (fewer found) artifact other (owner ▸ owned)
  completed id journal read found done := by
    rw [owner, verified]
    exact sound.completed id journal (status read) (fewer found) done
  needed id artifact needs owned := by
    rw [owner] at owned ⊢
    exact sound.needed id artifact needs owned
  named id journal found := sound.named id journal (fewer found)

theorem Sound.congr (sound : Sound before) (same : Same before after) : Sound after :=
  sound.less same.owner same.verified (fun read => same.status? _ ▸ read)
    (fun found => same.journal? _ ▸ found) fun _ => same.journal? _

theorem owner_drop (site : Site) (artifact other : Artifact) :
    (site.drop artifact).owner other = if other = artifact then none else site.owner other := by
  cases artifact <;> cases other <;> rfl

@[simp] theorem drop_records (site : Site) (artifact : Artifact) :
    (site.drop artifact).records = site.records := by
  cases artifact <;> rfl

@[simp] theorem drop_journals (site : Site) (artifact : Artifact) :
    (site.drop artifact).journals = site.journals := by
  cases artifact <;> rfl

variable {artifact : Artifact}

theorem owner_of_drop {other : Artifact} (owned : (site.drop artifact).owner other = some id) :
    other ≠ artifact ∧ site.owner other = some id := by
  rw [owner_drop] at owned
  split at owned
  · contradiction
  · exact ⟨‹_›, owned⟩

variable {other : RequestId} {id : RequestId}

theorem journal?_dropJournal_of_ne (apart : other ≠ id) :
    (site.dropJournal id).journal? other = site.journal? other := by
  unfold Site.journal? Site.dropJournal
  rw [lookup_filter (fun key => key ≠ id), if_pos (by simpa using apart)]

theorem journal?_dropJournal_self (site : Site) (id : RequestId) :
    (site.dropJournal id).journal? id = none := by
  unfold Site.journal? Site.dropJournal
  rw [lookup_filter (fun key => key ≠ id), if_neg (by simp)]

theorem journal?_of_dropJournal (found : (site.dropJournal id).journal? other = some journal) :
    other ≠ id ∧ site.journal? other = some journal := by
  by_cases same : other = id
  · rw [same, journal?_dropJournal_self] at found
    contradiction
  · exact ⟨same, journal?_dropJournal_of_ne same ▸ found⟩

theorem journal?_setJournal_self (site : Site) (journal : Journal) :
    (site.setJournal journal).journal? journal.requestId = some journal := by
  simp [Site.journal?, Site.setJournal]

theorem journal?_setJournal_of_ne (apart : other ≠ journal.requestId) :
    (site.setJournal journal).journal? other = site.journal? other := by
  have dropped : (site.dropJournal journal.requestId).journal? other = site.journal? other :=
    journal?_dropJournal_of_ne apart
  simpa [Site.journal?, Site.setJournal, List.lookup_cons, beq_false_of_ne apart] using dropped

theorem status?_setRecord_of_ne (apart : other ≠ id) (file : Ledger.File StepError CreateResult) :
    (site.setRecord id file).status? other = site.status? other :=
  Ledger.Records.status?_set_of_ne apart file

variable {record : Ledger.Record StepError CreateResult} {found : TransactionStatus}

theorem status?_setRecord_cases
    (read : (site.setRecord id (.whole record)).status? other = some found) :
    other = id ∧ found = record.status ∨ site.status? other = some found := by
  by_cases same : other = id
  · have status : (site.setRecord id (.whole record)).status? id = some record.status :=
      Ledger.Records.status?_set_whole _
    rw [same, status] at read
    exact .inl ⟨same, (Option.some.inj read).symm⟩
  · rw [status?_setRecord_of_ne same] at read
    exact .inr read

theorem status?_of_setRecord (read : (site.setRecord id (.whole record)).status? other = some found)
    (different : found ≠ record.status) : site.status? other = some found :=
  (status?_setRecord_cases read).resolve_left fun same => different same.2

/-! ## What keeps a site sound -/

/-- The journal of a request that is not in progress says nothing any more. -/
theorem Sound.dropJournal (sound : Sound site) (finished : site.status? id ≠ some .inProgress) :
    Sound (site.dropJournal id) :=
  sound.less rfl rfl (fun read => read) (fun found => (journal?_of_dropJournal found).2)
    fun running => journal?_dropJournal_of_ne fun same => finished (same ▸ running)

theorem journal?_sweep (chance : Chance) (id : RequestId) :
    (site.sweep chance).journal? id =
      if site.records.expired chance.now id && chance.journalSwept id then none
      else site.journal? id := by
  unfold Site.journal? Site.sweep
  rw [lookup_filter
    (fun key => !(site.records.expired chance.now key && chance.journalSwept key))]
  cases site.records.expired chance.now id && chance.journalSwept id <;> rfl

section

variable (sound : Sound site)
include sound

theorem Sound.sweep (chance : Chance) :
    Sound (site.sweep chance) := by
  have before : ∀ {id status}, (site.sweep chance).status? id = some status →
      site.status? id = some status := fun found => Ledger.Records.status?_sweep found
  refine sound.less rfl rfl before (fun found => ?_) fun running => ?_
  · rw [journal?_sweep] at found
    split at found
    · contradiction
    · exact found
  · rw [journal?_sweep, Ledger.Records.not_expired_of_inProgress (before running)]
    rfl

/-- A request may be recorded as ended if what it leaves behind fits that end. -/
theorem Sound.settle (ended : record.status ≠ .inProgress)
    (failed : record.status = .failed → ∀ artifact, site.owner artifact ≠ some id)
    (committed : record.status = .committed →
      (∀ artifact, site.owner artifact = some id) ∧ id ∈ site.verified) :
    Sound (site.setRecord id (.whole record)) := by
  have running : ∀ {other}, (site.setRecord id (.whole record)).status? other =
      some .inProgress → site.status? other = some .inProgress :=
    fun read => status?_of_setRecord read ended.symm
  refine
    { failed := fun other read => ?_
      committed := fun other read => ?_
      flagged := fun other artifact read => sound.flagged other artifact (running read)
      alone := fun other journal read => sound.alone other journal (running read)
      completed := fun other journal read => sound.completed other journal (running read)
      needed := sound.needed
      named := sound.named }
  · rcases status?_setRecord_cases read with ⟨rfl, same⟩ | before
    · exact failed same.symm
    · exact sound.failed other before
  · rcases status?_setRecord_cases read with ⟨rfl, same⟩ | before
    · exact committed same.symm
    · exact sound.committed other before

theorem Sound.fail
    (nothing : ∀ artifact, site.owner artifact ≠ some id) (error : StepError) (now : Nat) :
    Sound (site.setRecord id (.whole (.failed error now))) :=
  sound.settle nofun (fun _ => nothing) nofun

theorem Sound.commit
    (all : ∀ artifact, site.owner artifact = some id) (verified : id ∈ site.verified)
    (result : CreateResult) (now : Nat) :
    Sound (site.setRecord id (.whole (.committed result now))) :=
  sound.settle nofun nofun fun _ => ⟨all, verified⟩

theorem Sound.begin
    (unheard : site.journal? id = none) (nothing : ∀ artifact, site.owner artifact ≠ some id)
    {file : Ledger.File StepError CreateResult} (young : file = .torn ∨ file = .whole .begun) :
    Sound (site.setRecord id file) := by
  have status : ∀ {found}, (site.setRecord id file).status? id = some found →
      found = .inProgress := by
    intro found read
    rcases young with torn | begun
    · subst torn
      simp [Site.status?, Site.setRecord] at read
    · subst begun
      simpa [Site.status?, Site.setRecord, Ledger.Record.begun] using read.symm
  have elsewhere : ∀ {other found}, (site.setRecord id file).status? other = some found →
      other ≠ id → site.status? other = some found :=
    fun read apart => status?_setRecord_of_ne apart _ ▸ read
  have ended : ∀ {other found}, (site.setRecord id file).status? other = some found →
      found ≠ .inProgress → site.status? other = some found := by
    intro other found read past
    by_cases same : other = id
    · exact absurd (status (same ▸ read)) past
    · exact elsewhere read same
  have journaled : ∀ {other journal}, site.journal? other = some journal → other ≠ id := by
    intro other journal found same
    rw [same, unheard] at found
    contradiction
  exact
    { failed := fun other read => sound.failed other (ended read nofun)
      committed := fun other read => sound.committed other (ended read nofun)
      flagged := fun other artifact read owned => sound.flagged other artifact
        (elsewhere read fun same => nothing artifact (same ▸ owned)) owned
      alone := fun other journal read found =>
        sound.alone other journal (elsewhere read (journaled found)) found
      completed := fun other journal read found =>
        sound.completed other journal (elsewhere read (journaled found)) found
      needed := sound.needed
      named := sound.named }

end

/-! ## A process at work -/

/-- A process works from `journal`: the one on disk flags no more than it does, and
the creation has not been declared complete. -/
structure Held (journal : Journal) (site : Site) : Prop where
  sound : Sound site
  running : site.status? journal.requestId = some .inProgress
  stored : ∃ stored, site.journal? journal.requestId = some stored ∧ stored.completed = none ∧
    ∀ artifact, stored.flags artifact = true → journal.flags artifact = true

namespace Held

section

variable (held : Held journal site)
include held

theorem congr {after : Site} (same : Same site after) :
    Held journal after where
  sound := held.sound.congr same
  running := (same.status? _).trans held.running
  stored := by
    rw [same.journal?]
    exact held.stored

theorem mine (owned : site.owner artifact = some other) : other = journal.requestId := by
  obtain ⟨stored, found, _⟩ := held.stored
  exact held.sound.alone _ stored held.running found artifact other owned

theorem absent (unflagged : journal.flags artifact = false) : site.owner artifact = none := by
  obtain ⟨stored, found, _, fewer⟩ := held.stored
  cases owned : site.owner artifact with
  | none => rfl
  | some other =>
  have own := held.mine owned
  subst own
  obtain ⟨journal', found', flagged⟩ := held.sound.flagged _ artifact held.running owned
  rw [found] at found'
  cases found'
  rw [fewer artifact flagged] at unflagged
  contradiction

theorem not_completed {stored : Journal}
    (found : site.journal? id = some stored) (completed : stored.completed.isSome)
    (whole : ∀ artifact, site.owner artifact = some id) : False := by
  by_cases same : id = journal.requestId
  · obtain ⟨own, foundOwn, open_, _⟩ := held.stored
    rw [same, foundOwn] at found
    cases found
    rw [open_] at completed
    contradiction
  · exact same (held.mine (whole .identity))

/-- What a request in progress makes or removes leaves the site sound, if its journal on
disk flags all there is then. -/
theorem change {after : Site} (records : after.records = site.records)
    (journals : after.journals = site.journals)
    (mine : ∀ {artifact id}, after.owner artifact = some id → id = journal.requestId)
    (alone : ∀ {artifact id stored}, site.status? id = some .inProgress →
      site.journal? id = some stored → after.owner artifact = some journal.requestId →
      journal.requestId = id)
    (flagged : ∀ {artifact}, after.owner artifact = some journal.requestId →
      ∃ stored, site.journal? journal.requestId = some stored ∧ stored.flags artifact = true)
    (needed : ∀ {artifact : Artifact}, artifact.needsIdentity = true →
      after.owner artifact = some journal.requestId →
      after.owner .identity = some journal.requestId) : Held journal after := by
  have status : after.status? = site.status? := by
    unfold Site.status?
    rw [records]
  have same : after.journal? = site.journal? := by
    unfold Site.journal?
    rw [journals]
  refine ⟨?_, status ▸ held.running, same ▸ held.stored⟩
  refine
    { failed := fun id read artifact owned => ?_
      committed := fun id read => ?_
      flagged := fun id artifact _ owned => ?_
      alone := fun id stored read found artifact other owned => ?_
      completed := fun id stored read found done => ?_
      needed := fun id artifact needs owned => ?_
      named := fun id stored found => held.sound.named id stored (same ▸ found) }
  · rw [status, mine owned, held.running] at read
    contradiction
  · rw [status] at read
    have own := held.mine ((held.sound.committed id read).1 .identity)
    rw [own, held.running] at read
    contradiction
  · cases mine owned
    exact same ▸ flagged owned
  · cases mine owned
    exact alone (status ▸ read) (same ▸ found) owned
  · rw [status] at read
    rw [same] at found
    exact (held.not_completed found done (held.sound.completed id stored read found done).1).elim
  · cases mine owned
    exact needed needs owned

theorem drop
    (last : artifact = .identity → ∀ other, other.needsIdentity = true → site.owner other = none) :
    Held journal (site.drop artifact) := by
  refine held.change (drop_records _ _) (drop_journals _ _)
    (fun owned => held.mine (owner_of_drop owned).2) ?_ ?_ ?_
  · intro other id stored running found owned
    exact held.sound.alone id stored running found other _ (owner_of_drop owned).2
  · exact fun owned => held.sound.flagged _ _ held.running (owner_of_drop owned).2
  · intro other needs owned
    have before := (owner_of_drop owned).2
    by_cases same : artifact = .identity
    · rw [last same other needs] at before
      contradiction
    · rw [owner_drop, if_neg (Ne.symm same)]
      exact held.sound.needed _ other needs before

end

end Held

/-! ## The compensation -/

theorem safe_removing (held : Held journal site)
    (artifact : Artifact) {removal : Task (Except StepError Unit)}
    (clears : Clears artifact removal)
    (last : artifact = .identity → ∀ other, other.needsIdentity = true → site.owner other = none)
    {removed : List Artifact} (missing : ∀ other ∈ removed, site.owner other = none) :
    Safe machine sound () (fun answer after => Held journal after ∧
        (answer = .ok () → ∀ other ∈ artifact :: removed, after.owner other = none))
      (removing (journal.flags artifact) removal) site := by
  cases flagged : journal.flags artifact with
  | false => exact ⟨held, fun _ => List.forall_mem_cons.mpr ⟨held.absent flagged, missing⟩⟩
  | true =>
  have dropped := held.drop last
  apply Safe.mono _ (clears Fresh Sound site held.sound dropped.sound)
  intro answer after left
  obtain ⟨same | gone, cleared⟩ := left
  · subst same
    exact ⟨held, fun done => List.forall_mem_cons.mpr ⟨cleared done, missing⟩⟩
  subst gone
  refine ⟨dropped, fun done => List.forall_mem_cons.mpr ⟨cleared done, ?_⟩⟩
  intro other member
  rw [owner_drop, missing other member]
  simp

variable {discipline : Discipline Step Site Unit Chance} {α : Type}

theorem safe_undo {backend : Backend} (lawful : backend.Lawful) (held : Held journal site) :
    Safe machine sound () (fun answer after => Held journal after ∧
        (answer = .ok () → ∀ artifact, after.owner artifact = none))
      (undo backend journal) site := by
  refine (safe_removing held .route (lawful.route _ _) (by simp) (List.forall_mem_nil _)).attempt
    (fun _ _ step => ⟨step.1, nofun⟩) ?_
  rintro _ routed ⟨held, missing⟩
  refine (safe_removing held .exec (lawful.exec _ _) (by simp) (missing rfl)).attempt
    (fun _ _ step => ⟨step.1, nofun⟩) ?_
  rintro _ executed ⟨held, missing⟩
  refine (safe_removing held .service (lawful.service _ _) (by simp) (missing rfl)).attempt
    (fun _ _ step => ⟨step.1, nofun⟩) ?_
  rintro _ served ⟨held, missing⟩
  refine (safe_removing held .root (lawful.root _ _) (by simp) (missing rfl)).attempt
    (fun _ _ step => ⟨step.1, nofun⟩) ?_
  rintro _ rooted ⟨held, missing⟩
  have unneeded : ∀ other : Artifact, other.needsIdentity = true → rooted.owner other = none := by
    intro other needs
    apply missing rfl
    cases other with
    | identity => contradiction
    | root | service | exec | route => simp
  apply Safe.mono _ (safe_removing held .identity (lawful.identity _ _)
    (fun _ => unneeded) (missing rfl))
  intro answer released step
  refine ⟨step.1, fun done artifact => step.2 done artifact ?_⟩
  cases artifact <;> simp

/-! ## The steps in between -/

def Step.quiet : Step → Bool
  | .openScope | .lock | .savePlan _ _ | .loadPlan _ | .loadRecord _ | .listPending
  | .stageJournal _ | .journalExists _ | .readJournal _ | .appendAudit | .now
  | .checkAvailable _ | .ensurePool _ | .probe (.pool _) _ _ | .readRoute | .readIdentity
  | .loadAllocation _ | .sweepAllocations => true
  | _ => false

@[elab_as_elim] theorem store_cases {motive : Bool × Site → Prop} {chance : Chance}
    {before after : Site} (kept : motive (false, before)) (taken : motive (true, after)) :
    motive (chance.store before after) := by
  unfold Chance.store
  cases chance.fails.isNone with
  | false => exact kept
  | true => exact taken

@[elab_as_elim] theorem settle_cases {motive : Except StepError Unit × Site → Prop} {chance : Chance}
    {before after : Site} (failed : ∀ error, motive (.error error, before))
    (late : ∀ error, motive (.error error, after)) (done : motive (.ok (), after)) :
    motive (chance.settle before after) := by
  unfold Chance.settle
  cases chance.fails with
  | none => exact done
  | some error =>
    cases chance.takes with
    | false => exact failed error
    | true => exact late error

theorem exec_quiet (chance : Chance) (quiet : operation.quiet = true) (site : Site) :
    Same site (exec chance operation site).2 := by
  have stored : ∀ after, Same site after → Same site (chance.store site after).2 := by
    intro after same
    exact store_cases (.refl site) same
  have settled : Same site (chance.settle site site).2 :=
    settle_cases (fun _ => .refl site) (fun _ => .refl site) (.refl site)
  cases operation with
  | openScope | lock | appendAudit => exact stored site (.refl site)
  | savePlan => exact stored _ ⟨rfl, rfl, rfl, rfl⟩
  | loadPlan | loadRecord | journalExists | readJournal | now => exact .refl site
  | sweepAllocations => exact ⟨rfl, rfl, rfl, rfl⟩
  | ensurePool => exact settled
  | listPending | checkAvailable | readRoute | readIdentity | loadAllocation =>
    simp only [exec]
    split <;> exact .refl site
  | stageJournal journal =>
    simp only [exec]
    split
    · exact ⟨rfl, rfl, rfl, rfl⟩
    · split <;> exact ⟨rfl, rfl, rfl, rfl⟩
  | probe target root id =>
    cases target with
    | pool runtime => exact settled
    | ingress => contradiction
  | _ => contradiction

theorem machine_exec (chance : Chance) (operation : Step) (site : Site) :
    machine.exec () chance operation site = exec chance operation site := rfl

variable {post : α → Site → Prop}

theorem safe_quiet (quiet : operation.quiet = true) {rest : Answer operation → Task α}
    (holds : Sound site) (continues : ∀ answer after, Same site after →
      Safe machine sound () post (rest answer) after) :
    Safe machine sound () post (step operation >>= rest) site := by
  apply holding_call_bind
  intro chance _
  have same : Same site (machine.exec () chance operation site).2 := exec_quiet chance quiet site
  exact ⟨holds.congr same, continues _ _ same⟩

section

variable {rest : Bool → Task α}

theorem safe_saveRecord (holds : Sound site) (saved : Sound (site.setRecord id (.whole record)))
    (failed : Safe machine sound () post (rest false) site)
    (done : Safe machine sound () post (rest true) (site.setRecord id (.whole record))) :
    Safe machine sound () post (step (.saveRecord id record) >>= rest) site := by
  apply holding_call_bind
  intro chance _
  dsimp only [machine_exec, exec]
  exact store_cases ⟨holds, failed⟩ ⟨saved, done⟩

theorem safe_removeJournal (holds : Sound site)
    (finished : site.status? id ≠ some .inProgress)
    (kept : Safe machine sound () post (rest false) site)
    (done : Safe machine sound () post (rest true) (site.dropJournal id)) :
    Safe machine sound () post (step (.removeJournal id) >>= rest) site := by
  apply holding_call_bind
  intro chance _
  dsimp only [machine_exec, exec]
  cases (site.journal? id).isSome with
  | false => exact ⟨holds, kept⟩
  | true =>
  exact store_cases ⟨holds, kept⟩ ⟨holds.dropJournal finished, done⟩

end

theorem safe_save {rest : Except StepError Unit → Task α} (holds : Sound site)
    (saved : Sound (site.setJournal journal)) (failed : ∀ error after, Same site after →
      Safe machine sound () post (rest (.error error)) after)
    (done : ∀ after, Same (site.setJournal journal) after →
      Safe machine sound () post (rest (.ok ())) after) :
    Safe machine sound () post (save journal >>= rest) site := by
  apply Safe.bind
  apply safe_quiet rfl holds
  intro staged after same
  cases staged with
  | false => exact failed _ _ same
  | true =>
  have installed : Same (site.setJournal journal)
      { after.setJournal journal with temps := after.temps.erase journal.requestId } := by
    refine ⟨same.records, ?_, same.owner, same.verified⟩
    simp only [Site.setJournal, Site.dropJournal, same.journals]
  apply holding_call_bind
  intro chance _
  dsimp only [machine_exec, exec]
  exact store_cases ⟨holds.congr same, failed _ _ same⟩
    ⟨saved.congr installed, done _ installed⟩

/-! ## The creation -/

/-- A process that makes the site: no other journal is pending. -/
structure Building (journal : Journal) (site : Site) : Prop where
  held : Held journal site
  single : ∀ other, other ≠ journal.requestId → site.journal? other = none

theorem Building.congr (building : Building journal before) (same : Same before after) :
    Building journal after :=
  ⟨building.held.congr same, fun other apart => (same.journal? other).trans (building.single other apart)⟩

@[simp] theorem mark_requestId (journal : Journal) (artifact : Artifact) :
    (journal.mark artifact).requestId = journal.requestId := by
  cases artifact <;> rfl

@[simp] theorem mark_completed (journal : Journal) (artifact : Artifact) :
    (journal.mark artifact).completed = journal.completed := by
  cases artifact <;> rfl

theorem mark_flags (journal : Journal) (artifact other : Artifact) :
    (journal.mark artifact).flags other = (other = artifact || journal.flags other) := by
  cases artifact <;> cases other <;> simp [Journal.mark, Journal.flags]

theorem Building.mark (building : Building journal site) (artifact : Artifact) :
    Building (journal.mark artifact) site := by
  obtain ⟨⟨sound, running, stored, found, unfinished, fewer⟩, single⟩ := building
  refine ⟨⟨sound, by simpa using running, stored, by simpa using found, unfinished, ?_⟩,
    by simpa using single⟩
  intro other flagged
  rw [mark_flags, fewer other flagged, Bool.or_true]

/-- The journal a process works from can be saved, and so can the one that says
that everything is done. -/
theorem Building.store {journal saved : Journal} (building : Building journal site)
    (id : saved.requestId = journal.requestId)
    (more : ∀ artifact, journal.flags artifact = true → saved.flags artifact = true)
    (done : saved.completed.isSome → (∀ artifact, site.owner artifact = some journal.requestId) ∧
      journal.requestId ∈ site.verified) : Sound (site.setJournal saved) := by
  obtain ⟨held, single⟩ := building
  have only : ∀ {other stored}, (site.setJournal saved).journal? other = some stored →
      other = journal.requestId ∧ stored = saved := by
    intro other stored found
    by_cases same : other = saved.requestId
    · rw [same, journal?_setJournal_self] at found
      exact ⟨same.trans id, (Option.some.inj found).symm⟩
    · rw [journal?_setJournal_of_ne same, single other (id ▸ same)] at found
      contradiction
  refine
    { failed := held.sound.failed
      committed := held.sound.committed
      flagged := fun other artifact read owned => ?_
      alone := fun other stored read found artifact owner owned => ?_
      completed := fun other stored read found finished => ?_
      needed := held.sound.needed
      named := fun other stored found => ?_ }
  · have own : other = journal.requestId := held.mine owned
    refine ⟨saved, ?_, more artifact ?_⟩
    · rw [own, ← id]
      exact journal?_setJournal_self site saved
    · cases flag : journal.flags artifact with
      | true => rfl
      | false => exact absurd ((held.absent flag).symm.trans owned) (by simp)
  · rw [(only found).1]
    exact held.mine owned
  · obtain ⟨own, rfl⟩ := only found
    rw [own]
    exact done finished
  · obtain ⟨own, rfl⟩ := only found
    exact id.trans own.symm

theorem Building.stored (building : Building journal site) (unfinished : journal.completed = none) :
    Building journal (site.setJournal journal) := by
  have sound : Sound (site.setJournal journal) :=
    building.store rfl (fun _ flagged => flagged) (by simp [unfinished])
  refine ⟨⟨sound, building.held.running, journal, journal?_setJournal_self site journal, unfinished,
    fun _ flagged => flagged⟩, fun other apart => ?_⟩
  rw [journal?_setJournal_of_ne apart]
  exact building.single other apart

/-- `after` is `before` with the artifact made by the request. -/
structure Grown (artifact : Artifact) (id : RequestId) (before after : Site) : Prop where
  records : after.records = before.records
  journals : after.journals = before.journals
  owner : ∀ other, after.owner other = if other = artifact then some id else before.owner other
  verified : after.verified = before.verified

theorem Building.grow (building : Building journal before)
    (grown : Grown artifact journal.requestId before after)
    (flagged : ∃ stored, before.journal? journal.requestId = some stored ∧
      stored.flags artifact = true) (based : artifact.needsIdentity = true →
      before.owner .identity = some journal.requestId) : Building journal after := by
  obtain ⟨held, single⟩ := building
  have made : ∀ {other id}, after.owner other = some id →
      other = artifact ∧ id = journal.requestId ∨ before.owner other = some id := by
    intro other id owned
    rw [grown.owner] at owned
    split at owned
    · exact .inl ⟨‹_›, (Option.some.inj owned).symm⟩
    · exact .inr owned
  refine ⟨held.change grown.records grown.journals ?_ ?_ ?_ ?_, fun other apart => ?_⟩
  · intro other id owned
    rcases made owned with ⟨_, own⟩ | owned
    · exact own
    · exact held.mine owned
  · intro other id stored _ found _
    by_contra apart
    rw [single id (Ne.symm apart)] at found
    contradiction
  · intro other owned
    rcases made owned with ⟨rfl, _⟩ | owned
    · exact flagged
    · exact held.sound.flagged _ other held.running owned
  · intro other needs owned
    rw [grown.owner]
    split
    · rfl
    rcases made owned with ⟨rfl, _⟩ | owned
    · exact based needs
    · exact held.sound.needed _ other needs owned
  · unfold Site.journal?
    rw [grown.journals]
    exact single other apart

/-- A step that makes an artifact does it or does nothing, and succeeds only where
it did it. -/
structure Makes (artifact : Artifact) (id : RequestId) (operation : Step)
    (good : Answer operation → Prop) : Prop where
  effect : ∀ chance site, Same site (exec chance operation site).2 ∨
    Grown artifact id site (exec chance operation site).2
  done : ∀ chance site, good (exec chance operation site).1 →
    Grown artifact id site (exec chance operation site).2

theorem makes_settled (grown : Grown artifact id before after) (chance : Chance) :
    (Same before (chance.settle before after).2 ∨
        Grown artifact id before (chance.settle before after).2) ∧
      ((chance.settle before after).1 = .ok () →
        Grown artifact id before (chance.settle before after).2) := by
  refine settle_cases (fun _ => ?_) (fun _ => ?_) ?_
  · exact ⟨.inl (.refl before), nofun⟩
  · exact ⟨.inr grown, nofun⟩
  · exact ⟨.inr grown, fun _ => grown⟩

theorem grown_put (site : Site) (id : RequestId) (creation : Creation) :
    Grown creation.artifact id site (site.put id creation) := by
  cases creation <;> exact ⟨rfl, rfl, fun other => by cases other <;> rfl, rfl⟩

theorem grown_identity (site : Site) (id : RequestId) (identity : Identity)
    (allocations : Ledger.Records StepError Identity) :
    Grown .identity id site { site with identity := some ⟨id, identity⟩, allocations } :=
  ⟨rfl, rfl, fun other => by cases other <;> rfl, rfl⟩

theorem make_outcome (chance : Chance) (creation : Creation) (id : RequestId) (site : Site) :
    ∃ outcome : Except StepError Unit × Site, exec chance (.make creation id) site = outcome ∧
      (Same site outcome.2 ∨ Grown creation.artifact id site outcome.2) ∧
      (outcome.1 = .ok () → Grown creation.artifact id site outcome.2) := by
  by_cases blocked : site.blocks creation
  · exact ⟨(.error _, site), if_pos blocked, .inl (.refl site), nofun⟩
  · exact ⟨_, if_neg blocked, makes_settled (grown_put site id creation) chance⟩

theorem makes_creation (creation : Creation) (id : RequestId) :
    Makes creation.artifact id (.make creation id) (· = .ok ()) where
  effect chance site := by
    obtain ⟨outcome, execs, effect, _⟩ := make_outcome chance creation id site
    rw [execs]
    exact effect
  done chance site := by
    obtain ⟨outcome, execs, _, done⟩ := make_outcome chance creation id site
    rw [execs]
    exact done

theorem allocate_cases (chance : Chance) (plan : Plan) (root : Text) (id : RequestId)
    (site : Site) :
    (∃ error, (site.allocate chance plan root id).1 = .error error ∧
        (Same site (site.allocate chance plan root id).2 ∨
          Grown .identity id site (site.allocate chance plan root id).2)) ∨
      Grown .identity id site (site.allocate chance plan root id).2 := by
  unfold Site.allocate
  split
  · exact .inr (grown_identity site id _ _)
  · refine .inl ⟨_, rfl, ?_⟩
    split
    · exact .inr (grown_identity site id _ _)
    · exact .inl ⟨rfl, rfl, rfl, rfl⟩

theorem makes_identity (plan : Plan) (root : Text) (id : RequestId) :
    Makes .identity id (.allocateNew plan root id)
    (fun answer => ∃ identity, answer = .ok identity) where
  effect chance site := by
    rcases allocate_cases chance plan root id site with ⟨_, _, effect⟩ | grown
    · exact effect
    · exact .inr grown
  done chance site good := by
    obtain ⟨identity, ended⟩ := good
    rcases allocate_cases chance plan root id site with ⟨error, failed, _⟩ | grown
    · exact absurd (failed.symm.trans ended) (by simp)
    · exact grown

/-- Where a step that makes an artifact has succeeded, the artifact is there with
all the others. -/
def Made {α : Type} (artifact : Artifact) (journal : Journal) (before : Site) :
    Except StepError α → Site → Prop :=
  fun answer after => Building journal after ∧ ∀ value, answer = .ok value →
    after.owner artifact = some journal.requestId ∧
    ∀ other, before.owner other = some journal.requestId → after.owner other = some journal.requestId

def Creates {α : Type} (artifact : Artifact) (id : RequestId) (creation : Task (Except StepError α)) :
    Prop :=
  ∀ journal site, journal.requestId = id → Building journal site →
    (∃ stored, site.journal? id = some stored ∧ stored.flags artifact = true) →
    (artifact.needsIdentity = true → site.owner .identity = some id) →
    Safe machine sound () (Made artifact journal site) creation site

theorem safe_making (building : Building journal site) {good : Answer operation → Prop}
    (makes : Makes artifact journal.requestId operation good)
    (flagged : ∃ stored, site.journal? journal.requestId = some stored ∧
      stored.flags artifact = true)
    (based : artifact.needsIdentity = true → site.owner .identity = some journal.requestId) :
    Safe machine sound () (fun answer after => Building journal after ∧
        (good answer → after.owner artifact = some journal.requestId ∧
          ∀ other, site.owner other = some journal.requestId →
            after.owner other = some journal.requestId))
      (step operation) site := by
  apply holding_call
  intro chance _
  have grows : ∀ {after}, Grown artifact journal.requestId site after → Building journal after :=
    fun grown => building.grow grown flagged based
  have safe : Building journal (machine.exec () chance operation site).2 := by
    rcases makes.effect chance site with same | grown
    · exact building.congr same
    · exact grows grown
  refine ⟨safe.held.sound, safe, fun ended => ?_⟩
  have grown := makes.done chance site ended
  refine ⟨(grown.owner artifact).trans (if_pos rfl), fun other owned => ?_⟩
  show (exec chance operation site).2.owner other = _
  rw [grown.owner]
  split
  · rfl
  · exact owned

theorem creates_identity (plan : Plan) (root : Text) (id : RequestId) :
    Creates .identity id (step (.allocateNew plan root id)) := by
  intro journal site own building flagged based
  subst own
  apply Safe.mono _ (safe_making building (makes_identity plan root _) flagged based)
  exact fun answer after made => ⟨made.1, fun value ended => made.2 ⟨value, ended⟩⟩

theorem creates_creation (creation : Creation) (id : RequestId) :
    Creates creation.artifact id (step (.make creation id)) := by
  intro journal site own building flagged based
  subst own
  apply Safe.mono _ (safe_making building (makes_creation creation _) flagged based)
  exact fun answer after made => ⟨made.1, fun _ ended => made.2 ended⟩

variable {creation : Task (Except StepError α)}

theorem safe_announced (building : Building journal site) (unfinished : journal.completed = none)
    (flagged : journal.flags artifact = true)
    (based : artifact.needsIdentity = true → site.owner .identity = some journal.requestId)
    (creates : Creates artifact journal.requestId creation) :
    Safe machine sound () (Made artifact journal site) (announced journal creation) site := by
  have stored := building.stored unfinished
  apply safe_save building.held.sound stored.held.sound
  · intro error after same
    exact ⟨building.congr same, fun value impossible => by cases impossible⟩
  intro after same
  have owners : after.owner = site.owner := same.owner
  have found : after.journal? journal.requestId = some journal :=
    (same.journal? _).trans (journal?_setJournal_self site journal)
  have safe := creates journal after rfl (stored.congr same) ⟨journal, found, flagged⟩
    (by rw [owners]; exact based)
  unfold Made at safe ⊢
  rw [owners] at safe
  exact safe

/-- Where `run` has got to: everything is there and was verified, or a process has
its journal to go back by. -/
def Ran (id : RequestId) : Except StepError CreateResult × Journal → Site → Prop
  | (.ok _, _), site => Sound site ∧ site.status? id = some .inProgress ∧
      (∀ artifact, site.owner artifact = some id) ∧ id ∈ site.verified
  | (.error _, journal), site => Held journal site ∧ journal.requestId = id

section

variable (building : Building journal site)
include building

theorem safe_mark (own : journal.requestId = id)
    (unfinished : journal.completed = none) (artifact : Artifact)
    (based : artifact.needsIdentity = true → site.owner .identity = some id)
    (creates : Creates artifact id creation)
    {next : α → Task (Except StepError CreateResult × Journal)}
    (continues : ∀ value after, Building (journal.mark artifact) after →
      after.owner artifact = some id →
      (∀ other, site.owner other = some id → after.owner other = some id) →
      Safe machine sound () (Ran id) (next value) after) :
    Safe machine sound () (Ran id)
      (proceed (journal.mark artifact) (announced (journal.mark artifact) creation) next) site := by
  have same : (journal.mark artifact).requestId = id := (mark_requestId _ _).trans own
  have flagged : (journal.mark artifact).flags artifact = true := by simp [mark_flags]
  refine (safe_announced (building.mark artifact) (by simpa using unfinished) flagged
    (by rw [same]; exact based) (by rw [same]; exact creates)).attempt
    (fun _ _ made => ⟨made.1.held, same⟩) fun value after made => ?_
  obtain ⟨here, others⟩ := made.2 value rfl
  rw [same] at here others
  exact continues value after made.1 here others

theorem safe_verify (root : Text) :
    Safe machine sound () (fun answer after => Building journal after ∧ after.owner = site.owner ∧
        (answer = .ok () → journal.requestId ∈ after.verified))
      (step (.probe .ingress root journal.requestId)) site := by
  apply holding_call
  intro chance _
  have verified : Building journal
      { site with verified := journal.requestId :: site.verified } := by
    obtain ⟨⟨sound, running, stored⟩, single⟩ := building
    refine ⟨⟨{ sound with committed := ?_, completed := ?_ }, running, stored⟩, single⟩
    · intro id status
      obtain ⟨all, known⟩ := sound.committed id status
      exact ⟨all, List.mem_cons_of_mem _ known⟩
    · intro id kept status found done
      obtain ⟨all, known⟩ := sound.completed id kept status found done
      exact ⟨all, List.mem_cons_of_mem _ known⟩
  cases failed : chance.fails with
  | some error =>
    dsimp only [machine_exec, exec]
    rw [failed]
    exact ⟨building.held.sound, building, rfl, nofun⟩
  | none =>
    dsimp only [machine_exec, exec]
    rw [failed]
    exact ⟨verified.held.sound, verified, rfl, fun _ => List.mem_cons_self⟩

theorem safe_complete (own : journal.requestId = id)
    (whole : ∀ artifact, site.owner artifact = some id) (verified : id ∈ site.verified)
    (result : CreateResult) :
    Safe machine sound () (Ran id) (proceed (journal.complete result)
      (save (journal.complete result)) fun () => pure (.ok result, journal.complete result)) site := by
  subst own
  have completed : Held (journal.complete result) site :=
    ⟨building.held.sound, building.held.running, building.held.stored⟩
  have storable : Sound (site.setJournal (journal.complete result)) :=
    building.store rfl (fun _ flagged => flagged) fun _ => ⟨whole, verified⟩
  apply safe_save building.held.sound storable
  · intro error after same
    exact ⟨completed.congr same, rfl⟩
  intro after same
  refine ⟨storable.congr same, (same.status? _).trans building.held.running, ?_, ?_⟩
  · rw [same.owner]
    exact whole
  · rw [same.verified]
    exact verified

theorem safe_publish (own : journal.requestId = id)
    (unfinished : journal.completed = none) (hasIdentity : site.owner .identity = some id)
    (hasRoot : site.owner .root = some id) (plan : Plan) (root : Text) (identity : Identity) :
    Safe machine sound () (Ran id) (publish plan id root identity journal) site := by
  apply safe_mark building own unfinished .service (fun _ => hasIdentity) (creates_creation (.service identity) id)
  intro _ served building hasService kept
  replace hasIdentity := kept _ hasIdentity
  replace hasRoot := kept _ hasRoot
  apply safe_mark building (by simpa using own) (by simpa using unfinished) .exec
    (fun _ => hasIdentity) (creates_creation (.exec _) id)
  intro _ executed building hasExec kept
  replace hasIdentity := kept _ hasIdentity
  replace hasRoot := kept _ hasRoot
  replace hasService := kept _ hasService
  apply safe_quiet rfl building.held.sound
  intro answer probed same
  replace building := building.congr same
  cases answer with
  | error error => exact ⟨building.held, by simpa using own⟩
  | ok _ =>
  rw [← same.owner] at hasIdentity hasRoot hasService hasExec
  apply safe_mark building (by simpa using own) (by simpa using unfinished) .route
    (fun _ => hasIdentity) (creates_creation (.route _) id)
  intro _ routed building hasRoute kept
  have whole : ∀ artifact, routed.owner artifact = some id := by
    intro artifact
    cases artifact with
    | identity => exact kept _ hasIdentity
    | root => exact kept _ hasRoot
    | service => exact kept _ hasService
    | exec => exact kept _ hasExec
    | route => exact hasRoute
  have same : (((journal.mark .service).mark .exec).mark .route).requestId = id := by simpa using own
  have probe := safe_verify building root
  rw [same] at probe
  refine probe.attempt (fun _ _ probed => ⟨probed.1.held, same⟩) ?_
  rintro _ after ⟨building, owners, verified⟩
  rw [← owners] at whole
  exact safe_complete building same whole (verified rfl) _

theorem safe_run (own : journal.requestId = id)
    (unfinished : journal.completed = none) (plan : Plan) (root : Text) :
    Safe machine sound () (Ran id) (run plan id root journal) site := by
  apply safe_mark building own unfinished .identity (by simp [Artifact.needsIdentity])
    (creates_identity plan root id)
  intro identity allocated building hasIdentity _
  apply safe_mark building (by simpa using own) (by simpa using unfinished) .root
    (by simp [Artifact.needsIdentity]) (creates_creation (.root identity) id)
  intro _ rooted building hasRoot kept
  replace hasIdentity := kept _ hasIdentity
  apply safe_quiet rfl building.held.sound
  intro answer pooled same
  replace building := building.congr same
  cases answer with
  | error error => exact ⟨building.held, by simpa using own⟩
  | ok _ =>
    rw [← same.owner] at hasIdentity hasRoot
    exact safe_publish building (by simpa using own) (by simpa using unfinished) hasIdentity
      hasRoot plan root identity

end

end OpsEngine.Create
