import OpsEngine.Create.Vouched
import OpsEngine.Effect.Reach

namespace OpsEngine.Create

open Effect Function
open Migrate (Identity StepError)

/-! # When an interrupted creation can be resolved

The recovery of a creation has to be convinced that the identity it takes back is
the one its own request was given.  The evidence is the record of the allocation,
in another scope and with a retention of its own.
-/

/-- Whether the allocation is known to be over: it committed, or there is no
identity and it is not in progress. -/
def Releasable (site : Site) (id : RequestId) : Prop :=
  match site.allocation id with
  | .notFound => site.identity = none
  | .unreadable => False
  | .found record =>
    match record.status with
    | .failed => site.identity = none
    | .inProgress => False
    | .committed => True

/-- The record of the allocation is the evidence that the compensation needs. -/
def Evidence (site : Site) (journal : Journal) : Prop :=
  (journal.exec = true ∨ journal.service = true ∨ journal.rootAttempted = true →
    (site.proof? journal.requestId).isSome) ∧
  (journal.identity = true → Releasable site journal.requestId)

/-- The request's record can be read, and if it is in progress its journal is there,
either complete or with the evidence to undo it. -/
def Recoverable (site : Site) (id : RequestId) : Prop :=
  ∃ record, site.records.load id = some record ∧
    (record.status = .inProgress → ∃ journal, site.journal? id = some journal ∧
      (journal.completed = none → Evidence site journal))

structure Calm (chance : Chance) : Prop where
  works : chance.fails = none
  admitted : chance.admission = .proceed
  /-- A sweep removes the journal before the record. -/
  swept : ∀ id, chance.recordSwept id = true → chance.journalSwept id = true

abbrev calm : Discipline Step Site Unit Chance := .alone Calm fun _ _ => True

variable {before : Site}

section Recovery

variable {site : Site}

variable {id : RequestId} {journal : Journal} {artifact : Artifact} {before after : Site}
  {domain : Domain} {chance : Chance}

section

variable (calm : Calm chance)
include calm

theorem store_calm : chance.store before after = (true, after) := by
  simp [Chance.store, calm.works]

theorem settle_calm : chance.settle before after = (.ok (), after) := by
  simp [Chance.settle, calm.works]

theorem exec_loadAllocation_calm :
    machine.exec () chance (.loadAllocation id) site = (site.allocation id, site) := by
  simp only [machine_exec, exec, calm.works, Site.allocation]
  rcases site.allocations id with _ | (_ | record) <;> rfl

theorem exec_readIdentity_calm :
    machine.exec () chance .readIdentity site = (.ok (site.identity.map Owned.value), site) := by
  simp only [machine_exec, exec, calm.works]

theorem exec_readRoute_calm :
    machine.exec () chance .readRoute site = (.ok (site.route.map Owned.value), site) := by
  simp only [machine_exec, exec, calm.works]

theorem exec_loadRecord_calm :
    machine.exec () chance (.loadRecord id) site = (site.records.load id, site) := by
  simp only [machine_exec, exec, calm.works]
  rfl

theorem exec_readJournal_calm :
    machine.exec () chance (.readJournal id) site = (site.journal? id, site) := by
  simp only [machine_exec, exec, calm.works]
  rfl

end

theorem calm_remove {removal : Removal} (fits : site.fits removal = true)
    {post : Except StepError Unit → Site → Prop}
    (done : post (.ok ()) (site.drop removal.artifact)) :
    Safe machine calm () post (remove removal) site := by
  refine alone_exec trivial (fun calm => (if_pos fits).trans (settle_calm calm)) ?_
  exact done

/-- What the compensation of a journal can rely on: whatever is there is the
request's and as recorded. -/
structure Mine (journal : Journal) (site : Site) : Prop where
  traced : Traced journal.plan journal.requestId site
  alone : ∀ artifact other, site.owner artifact = some other → other = journal.requestId

theorem Mine.drop (mine : Mine journal site) (artifact : Artifact) :
    Mine journal (site.drop artifact) := by
  have trimmed : Trimmed (fun _ => False) site (site.drop artifact) := trimmed_drop site artifact
  exact ⟨mine.traced.fewer (trimmed.fewer _),
    fun _ other owned => mine.alone _ other (owner_of_drop owned).2⟩

theorem all_of_own {α : Type} [DecidableEq α] {slot : Option (Owned α)}
    {expected : α} (alone : ∀ other, slot.map Owned.owner = some other → other = id)
    (same : ∀ found, slot = some ⟨id, found⟩ → found = expected) :
    slot.all (·.value = expected) = true := by
  cases slot with
  | none => rfl
  | some owned =>
    obtain ⟨owner, value⟩ := owned
    have own : owner = id := alone owner rfl
    subst own
    simpa using same value rfl

variable {found : Owned Identity}

theorem Mine.identity (mine : Mine journal site) (here : site.identity = some found) :
    found.owner = journal.requestId ∧
      ∀ record, site.allocation journal.requestId = .found record → record.status = .committed →
        record.outcome = some (.ok found.value) := by
  have own : found.owner = journal.requestId :=
    mine.alone .identity _ (by simp [Site.owner, here])
  refine ⟨own, fun record loaded committed => ?_⟩
  apply mine.traced.identity record found.value _ committed
  · rw [here, ← own]
  unfold Site.allocation at loaded
  split at loaded
  · contradiction
  · contradiction
  · rename_i stored same
    cases loaded
    exact same

theorem proof?_eq_some {loaded : Loaded} {proof : Identity} (vouched : loaded.proof? = some proof) :
    ∃ record, loaded = .found record ∧ record.status = .committed ∧
      record.outcome = some (.ok proof) := by
  unfold Loaded.proof? at vouched
  split at vouched
  · cases vouched
    exact ⟨_, rfl, rfl, rfl⟩
  · contradiction

section

variable (mine : Mine journal site)
include mine

theorem Mine.identity_eq (here : site.identity = some found) {proof : Identity}
    (vouched : site.proof? journal.requestId = some proof) : found.value = proof := by
  obtain ⟨record, loaded, committed, outcome⟩ := proof?_eq_some vouched
  have same := (mine.identity here).2 record loaded committed
  rw [outcome] at same
  cases same
  rfl

/-- A part of the compensation that works exactly under a condition, and where it
works has removed the artifact if it was there. -/
def Removes (artifact : Artifact) (condition : Prop) (site : Site) :
    Except StepError Unit → Site → Prop :=
  fun answer after => (answer = .ok () ↔ condition) ∧
    (answer = .ok () → after = site ∨ after = site.drop artifact)

theorem calm_creationIdentity :
    Safe machine calm () (fun answer after => after = site ∧
        answer = match site.proof? journal.requestId with
          | none => .error occupied
          | some proof => .ok proof)
      (HostBackend.creationIdentity journal.requestId) site := by
  refine alone_exec_bind trivial exec_loadAllocation_calm ?_
  have folded : (site.allocation journal.requestId).proof? = site.proof? journal.requestId := rfl
  rw [folded]
  cases vouched : site.proof? journal.requestId with
  | none => exact ⟨rfl, rfl⟩
  | some proof =>
  refine alone_exec_bind trivial exec_readIdentity_calm ?_
  cases here : site.identity with
  | none => exact ⟨rfl, rfl⟩
  | some found =>
    have same := mine.identity_eq here vouched
    simp only [Option.map_some, same, if_true]
    exact ⟨rfl, rfl⟩

theorem calm_proved (removal : Identity → Removal)
    (same : ∀ proof, (removal proof).artifact = artifact)
    (fits : ∀ proof, site.proof? journal.requestId = some proof →
      site.fits (removal proof) = true) :
    Safe machine calm () (Removes artifact (site.proof? journal.requestId).isSome site)
      (andThen (HostBackend.creationIdentity journal.requestId) fun proof => remove (removal proof))
      site := by
  apply (calm_creationIdentity mine).seq
  intro answer after outcome
  obtain ⟨unchanged, answered⟩ := outcome
  subst unchanged
  cases vouched : after.proof? journal.requestId with
  | none =>
    rw [vouched] at answered
    subst answered
    exact ⟨by simp, by simp⟩
  | some proof =>
    rw [vouched] at answered
    subst answered
    apply calm_remove (fits proof vouched)
    rw [same]
    exact ⟨by simp, fun _ => .inr rfl⟩

theorem calm_removeCreatedExec :
    Safe machine calm () (Removes .exec (site.proof? journal.requestId).isSome site)
      (HostBackend.removeCreatedExec journal.plan journal.requestId) site :=
  calm_proved mine
    (fun proof => .exec (Migrate.poolReverseProxyCaddyfile journal.plan.domain proof.port))
    (fun _ => rfl) fun proof vouched =>
      all_of_own (mine.alone .exec) fun found => mine.traced.exec proof found vouched

theorem calm_removeCreatedService :
    Safe machine calm () (Removes .service (site.proof? journal.requestId).isSome site)
      (HostBackend.removeCreatedService journal.requestId) site :=
  calm_proved mine (fun proof => .service proof) (fun _ => rfl) fun proof vouched =>
    all_of_own (mine.alone .service) fun found => mine.traced.service proof found vouched

theorem calm_removeEmptyRoot :
    Safe machine calm () (Removes .root (site.proof? journal.requestId).isSome site)
      (HostBackend.removeEmptyRoot journal.requestId) site :=
  calm_proved mine (fun proof => .root (proof.uid, proof.gid)) (fun _ => rfl) fun proof vouched =>
    all_of_own (mine.alone .root) fun found => mine.traced.root proof found vouched

theorem calm_removeCreatedRoute :
    Safe machine calm () (Removes .route True site)
      (HostBackend.removeCreatedRoute (ingressConfig journal.plan)) site := by
  have fits : site.fits (.route (ingressConfig journal.plan)) = true :=
    all_of_own (mine.alone .route) mine.traced.route
  refine alone_exec_bind trivial exec_readRoute_calm ?_
  cases here : site.route with
  | none => exact ⟨by simp, fun _ => .inl rfl⟩
  | some found =>
  have same : found.value = ingressConfig journal.plan := by
    simpa [Site.fits, here] using fits
  simp only [Option.map_some, same, if_true]
  apply calm_remove fits
  exact ⟨by simp, fun _ => .inr rfl⟩

end

theorem calm_unlessPresent :
    Safe machine calm () (Removes .identity (site.identity = none) site)
      HostBackend.unlessPresent site := by
  refine alone_exec_bind trivial exec_readIdentity_calm ?_
  cases site.identity with
  | none => exact ⟨by simp, fun _ => .inl rfl⟩
  | some found => exact ⟨by simp, by simp⟩

theorem calm_releaseCreatedIdentity (mine : Mine journal site) :
    Safe machine calm () (Removes .identity (Releasable site journal.requestId) site)
      (HostBackend.releaseCreatedIdentity journal.requestId) site := by
  unfold HostBackend.releaseCreatedIdentity Releasable
  refine alone_exec_bind trivial exec_loadAllocation_calm ?_
  cases loaded : site.allocation journal.requestId with
  | notFound => exact calm_unlessPresent
  | unreadable => exact ⟨by simp, by simp⟩
  | found record =>
  cases status : record.status with
  | failed =>
    simp only [status, if_true]
    exact calm_unlessPresent
  | inProgress =>
    simp only [status]
    exact ⟨by simp, by simp⟩
  | committed =>
  simp only [status]
  refine alone_exec_bind trivial exec_readIdentity_calm ?_
  cases here : site.identity with
  | none => exact ⟨by simp, fun _ => .inl rfl⟩
  | some found =>
    have named := (mine.identity here).2 record loaded status
    simp only [Option.map_some, named, and_self, if_true]
    apply calm_remove rfl
    exact ⟨by simp, fun _ => .inr rfl⟩

variable {condition : Prop}

theorem calm_removing {flag : Bool} {removal : Task (Except StepError Unit)}
    (removes : Safe machine calm () (Removes artifact condition site) removal site) :
    Safe machine calm () (Removes artifact (flag = true → condition) site) (removing flag removal)
      site := by
  cases flag with
  | false => exact ⟨by simp, fun _ => .inl rfl⟩
  | true =>
    apply Safe.mono _ removes
    intro answer after outcome
    exact ⟨by simpa using outcome.1, outcome.2⟩

/-- What the compensation has not touched so far. -/
structure Shorn (before after : Site) : Prop where
  records : after.records = before.records
  journals : after.journals = before.journals
  temps : after.temps = before.temps
  allocations : after.allocations = before.allocations
  identity : after.identity = before.identity

theorem Shorn.proof? (shorn : Shorn before after) (id : RequestId) :
    after.proof? id = before.proof? id := by
  unfold Site.proof? Site.allocation
  rw [shorn.allocations]

theorem Shorn.drop (shorn : Shorn before after) (kept : artifact ≠ .identity) :
    Shorn before (after.drop artifact) := by
  obtain ⟨records, journals, temps, allocations, identity⟩ := shorn
  cases artifact with
  | identity => contradiction
  | root | service | exec | route => exact ⟨records, journals, temps, allocations, identity⟩

theorem Shorn.releasable (shorn : Shorn before after) (id : RequestId) :
    Releasable after id ↔ Releasable before id := by
  unfold Releasable Site.allocation
  rw [shorn.allocations, shorn.identity]

theorem calm_stage (mine : Mine journal site)
    (shorn : Shorn before site) (kept : artifact ≠ .identity)
    {condition others : Prop} {stage rest : Task (Except StepError Unit)} {good : Site → Prop}
    (removes : Safe machine calm () (Removes artifact condition site) stage site)
    (continues : ∀ after, Mine journal after → Shorn before after →
      Safe machine calm () (fun answer last => (answer = .ok () ↔ others) ∧
        (answer = .ok () → good last)) rest after) :
    Safe machine calm () (fun answer last => (answer = .ok () ↔ condition ∧ others) ∧
        (answer = .ok () → good last)) (andThen stage fun () => rest) site := by
  refine removes.attempt (fun _ _ outcome => ?_) ?_
  · exact ⟨by simpa using fun holds _ => outcome.1.mpr holds, by simp⟩
  rintro _ after ⟨works, left⟩
  have holds : condition := works.mp rfl
  have next : Mine journal after ∧ Shorn before after := by
    rcases left rfl with same | gone
    · subst same
      exact ⟨mine, shorn⟩
    · subst gone
      exact ⟨mine.drop artifact, shorn.drop kept⟩
  apply Safe.mono _ (continues after next.1 next.2)
  intro answer last ends
  exact ⟨by simpa [holds] using ends.1, ends.2⟩

theorem calm_undo (mine : Mine journal site) :
    Safe machine calm () (fun answer after => (answer = .ok () ↔ Evidence site journal) ∧
        (answer = .ok () → after.records = site.records ∧ after.journals = site.journals ∧
          after.temps = site.temps)) (undo hostBackend journal) site := by
  have spelled : Evidence site journal ↔ (journal.route = true → True) ∧
      (journal.exec = true → (site.proof? journal.requestId).isSome) ∧
      (journal.service = true → (site.proof? journal.requestId).isSome) ∧
      (journal.rootAttempted = true → (site.proof? journal.requestId).isSome) ∧
      (journal.identity = true → Releasable site journal.requestId) := by
    unfold Evidence
    tauto
  rw [spelled]
  have untouched : Shorn site site := ⟨rfl, rfl, rfl, rfl, rfl⟩
  apply calm_stage mine untouched (by simp) (calm_removing (calm_removeCreatedRoute mine))
  intro routed mine shorn
  have first := calm_removeCreatedExec mine
  rw [shorn.proof?] at first
  apply calm_stage mine shorn (by simp) (calm_removing first)
  intro executed mine shorn
  have second := calm_removeCreatedService mine
  rw [shorn.proof?] at second
  apply calm_stage mine shorn (by simp) (calm_removing second)
  intro served mine shorn
  have third := calm_removeEmptyRoot mine
  rw [shorn.proof?] at third
  apply calm_stage mine shorn (by simp) (calm_removing third)
  intro rooted mine shorn
  rw [← shorn.releasable]
  apply Safe.mono _ (calm_removing (calm_releaseCreatedIdentity mine))
  intro answer last outcome
  refine ⟨outcome.1, fun done => ?_⟩
  rcases outcome.2 done with same | gone
  · subst same
    exact ⟨shorn.records, shorn.journals, shorn.temps⟩
  · subst gone
    exact ⟨shorn.records, shorn.journals, shorn.temps⟩

/-- What a recovery that completed leaves of everything else. -/
structure Settled (id : RequestId) (before after : Site) : Prop where
  records : ∀ other, other ≠ id → after.records other = before.records other
  journals : after.journals = (before.dropJournal id).journals
  temps : after.temps = before.temps

/-- A recovery that completes exactly under a condition. -/
def Completes (id : RequestId) (condition : Prop) (before : Site) : Recovery → Site → Prop :=
  fun answer after => ((∃ record, answer = .ok record) ↔ condition) ∧
    ((∃ record, answer = .ok record) → Settled id before after)

theorem completes_error {error : StepError} (unmet : ¬ condition) :
    Completes id condition before (.error error) after :=
  ⟨by simpa using unmet, by simp⟩

theorem calm_conclude (met : condition)
    (present : (site.journal? id).isSome) (settled : ∀ other, other ≠ id →
      site.records other = before.records other) (journals : site.journals = before.journals)
    (temps : site.temps = before.temps) (record : Ledger.Record StepError CreateResult) :
    Safe machine calm () (Completes id condition before) (conclude id record) site := by
  refine alone_exec_bind trivial store_calm ?_
  refine alone_exec_bind trivial store_calm ?_
  refine alone_exec_bind trivial (fun calm => (if_pos present).trans (store_calm calm)) ?_
  refine ⟨by simp [met], fun _ => ⟨fun other apart => ?_, ?_, temps⟩⟩
  · exact (update_of_ne apart _ _).trans (settled other apart)
  · show site.journals.filter _ = before.journals.filter _
    rw [journals]

section

variable (sound : Sound site) (vouched : Vouched domain site)
  (running : site.status? id = some .inProgress)
include sound vouched running

theorem mine_of_sound (found : site.journal? id = some journal) : Mine journal site := by
  have own := sound.named id journal found
  subst own
  exact ⟨(vouched.traced _ journal found).2, sound.alone _ journal running found⟩

theorem calm_resume :
    Safe machine calm () (Completes id (∃ journal, site.journal? id = some journal ∧
        (journal.completed = none → Evidence site journal)) site)
      (resume hostBackend domain id) site := by
  refine alone_exec_bind trivial exec_readJournal_calm ?_
  cases found : site.journal? id with
  | none => exact completes_error (by simp)
  | some journal =>
  have own : journal.requestId = id := sound.named id journal found
  have here : journal.plan.domain = domain := (vouched.traced id journal found).1
  simp only [own, here, ne_eq, not_true_eq_false, or_self, if_false]
  cases completed : journal.completed with
  | some result =>
    apply alone_call_bind trivial
    intro chance calm
    exact calm_conclude ⟨journal, rfl, by simp [completed]⟩ (by simp [found]) (fun _ _ => rfl) rfl
      rfl _
  | none =>
  have mine := mine_of_sound sound vouched running found
  apply (calm_undo mine).seq
  intro answer after outcome
  obtain ⟨works, kept⟩ := outcome
  cases answer with
  | error error =>
    apply completes_error
    rintro ⟨_, same, evidence⟩
    cases same
    have done := works.mpr (evidence completed)
    contradiction
  | ok _ =>
  obtain ⟨records, journals, temps⟩ := kept rfl
  apply alone_call_bind trivial
  intro chance calm
  apply calm_conclude ⟨journal, rfl, fun _ => works.mp rfl⟩
  · show (after.journals.lookup id).isSome
    rw [journals]
    exact Option.isSome_of_eq_some found
  · exact fun other _ => congrFun records other
  · exact journals
  · exact temps

end

theorem dropJournal_of_absent (absent : site.journal? id = none) :
    site.journals = (site.dropJournal id).journals := by
  symm
  apply List.filter_eq_self.mpr
  intro entry member
  have apart : id ≠ entry.1 := by simpa using List.lookup_eq_none_iff.mp absent entry member
  simpa using apart.symm

theorem calm_tidy (sound : Sound site) (vouched : Vouched domain site)
    (id : RequestId) (record : Ledger.Record StepError CreateResult) :
    Safe machine calm () (Completes id True site) (tidy domain id record) site := by
  refine alone_exec_bind trivial (fun _ => rfl) ?_
  cases found : site.journal? id with
  | none => exact ⟨by simp, fun _ => ⟨fun _ _ => rfl, dropJournal_of_absent found, rfl⟩⟩
  | some journal =>
  refine alone_exec_bind trivial exec_readJournal_calm ?_
  rw [found]
  have own : journal.requestId = id := sound.named id journal found
  have here : journal.plan.domain = domain := (vouched.traced id journal found).1
  simp only [own, here, ne_eq, not_true_eq_false, or_self, if_false]
  have present : (site.journal? id).isSome := Option.isSome_of_eq_some found
  refine alone_exec_bind trivial (fun calm => (if_pos present).trans (store_calm calm)) ?_
  exact ⟨by simp, fun _ => ⟨fun _ _ => rfl, rfl, rfl⟩⟩

/-- With nothing failing the recovery completes exactly where the host has what it
reads. -/
theorem calm_recover (sound : Sound site) (vouched : Vouched domain site) (id : RequestId) :
    Safe machine calm () (Completes id (Recoverable site id) site) (recover hostBackend domain id)
      site := by
  refine alone_exec_bind trivial store_calm ?_
  refine alone_exec_bind trivial store_calm ?_
  refine alone_exec_bind trivial exec_loadRecord_calm ?_
  cases loaded : site.records.load id with
  | none => exact completes_error (by simp [Recoverable, loaded])
  | some record =>
  by_cases running : record.status = .inProgress
  · simp only [running, if_true]
    have status : site.status? id = some .inProgress :=
      (Ledger.Records.status?_of_load loaded).trans (congrArg some running)
    have same : Recoverable site id ↔ ∃ journal, site.journal? id = some journal ∧
        (journal.completed = none → Evidence site journal) := by
      simp [Recoverable, loaded, running]
    rw [same]
    exact calm_resume sound vouched status
  · simp only [running, if_false]
    have same : Recoverable site id ↔ True := by simp [Recoverable, loaded, running]
    rw [same]
    exact calm_tidy sound vouched id record

end Recovery

/-! ## The next creation -/

abbrev early : Discipline Step Site Unit Chance :=
  .alone Calm fun operation _ => ∀ plan, operation ≠ .checkAvailable plan

variable {id : RequestId} {creating : Nat → Chance}

section Next

variable {site : Site} {next : RequestId}

/-- The site on which the scan of the next creation starts. -/
structure Entered (next : RequestId) (chance : Chance) (before after : Site) : Prop where
  records : after.records = ((before.records.sweep chance.now chance.recordSwept).set next .torn).set
    next (.whole .begun)
  journals : after.journals = (before.sweep chance).journals
  temps : after.temps = before.temps

variable {chance : Chance}

theorem exec_admission_calm (calm : Calm chance) (unused : site.records next = none) :
    machine.exec () chance (.admission next) site =
      (Admission.proceed, (site.sweep chance).setRecord next .torn) := by
  have absent : (site.sweep chance).records next = none :=
    Ledger.Records.sweep_none unused
  simp only [machine_exec, exec, calm.admitted, absent]
  rfl

def enter (next : RequestId) (chance : Chance) (site : Site) : Site :=
  ((site.sweep chance).setRecord next .torn).setRecord next (.whole .begun)

end Next

theorem Untouched.vouched {site : Site} (untouched : Untouched site) (domain : Domain) :
    Vouched domain site :=
  ⟨by simp [untouched.journals], fun id journal found => by
    simp [Site.journal?, untouched.journals] at found⟩

theorem calm_wellAt (now : Nat) : Calm (wellAt now) := ⟨rfl, rfl, fun _ _ => rfl⟩

end OpsEngine.Create
