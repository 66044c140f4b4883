import OpsEngine.Effect.Reach
import OpsEngine.Publish.Atomic

namespace OpsEngine.Publish

open Effect Function
open Migrate (StepError)

/-! # What a pending journal does to the requests after it

The journal of a publication is one file for the whole domain, and whoever finds it
asks the record of its request what to do.  Once that request has ended, the record
is subject to the retention and the journal is not.
-/

structure Calm (chance : Chance) : Prop where
  works : chance.fails = none
  admitted : chance.admission = .proceed
  swept : ∀ id, chance.recordSwept id = true

/-- A publication gets past the journal, to its first step of the backend. -/
def Passes (site : Site) (plan : Plan) (next : RequestId) (publishing : Nat → Chance) : Prop :=
  ∃ count, (machine.advance () ((List.range count).map publishing) (execute plan next)
    site).1.pending? = some .inspect

/-- The request is in progress, and no other one that is has the journal. -/
def Unfinished (site : Site) (id : RequestId) : Prop :=
  site.status? id = some .inProgress ∧ ∀ journal, site.pending = some journal →
    site.status? journal.requestId = some .inProgress → journal.requestId = id

/-- Whenever nothing fails any more, the recovery of an unfinished request completes
and a new publication after it gets past the journal; and so does one where no request
is in progress. -/
def Unblocked (site : Site) (domain : Domain) (plan : Plan) (next : RequestId) : Prop :=
  ∀ recovering publishing : Nat → Chance, (∀ index, Calm (recovering index)) →
    (∀ index, Calm (publishing index)) →
    (∀ id, Unfinished site id →
      let recovered := machine.solo () recovering (recover domain id) site
      recovered.1 = .ok () ∧ Passes recovered.2 plan next publishing) ∧
    ((∀ id, site.status? id ≠ some .inProgress) → Passes site plan next publishing)

/-! ## The recovery -/

abbrev calm : Discipline Step Site Unit Chance := .alone Calm fun _ _ => True

variable {post : Except StepError Unit → Site → Prop} {write : Write}

section Recovery

variable {site : Site} {domain : Domain} {journal : Journal} {id : RequestId} {chance : Chance}

theorem exec_write_calm (calm : Calm chance) {after : Site}
    (applies : write.apply site = some after) :
    machine.exec () chance (.write write) site = (true, after) := by
  simp only [machine_exec, exec, calm.works, applies]
  rfl

theorem exec_loadRecord_calm (calm : Calm chance) :
    machine.exec () chance (.loadRecord id) site = (site.records.load id, site) := by
  simp only [machine_exec, exec, calm.works]
  rfl

theorem exec_pendingExists_calm (calm : Calm chance) :
    machine.exec () chance .pendingExists site = (site.pending.isSome, site) := by
  simp only [machine_exec, exec, calm.works]
  rfl

theorem exec_readPending_calm (calm : Calm chance) :
    machine.exec () chance .readPending site = (site.pending, site) := by
  simp only [machine_exec, exec, calm.works]
  rfl

theorem calm_attempt (after : Site) (applies : write.apply site = some after)
    (done : post (.ok ()) after) :
    Safe machine calm () post (attempt write) site := by
  refine alone_exec_bind trivial (exec_write_calm · applies) ?_
  exact done

theorem calm_current {post : Except StepError (Option RequestId) → Site → Prop}
    (done : post (.ok site.current) site) : Safe machine calm () post current site := by
  apply alone_call_bind trivial
  intro chance calm
  simp only [machine_exec, exec, calm.works]
  exact done

theorem calm_readRoute {post : Except StepError (Option Text) → Site → Prop}
    (done : post (.ok site.route) site) : Safe machine calm () post readRoute site := by
  apply alone_call trivial
  intro chance calm
  simp only [machine_exec, exec, calm.works]
  exact done

theorem settle_calm {before after : Site} (calm : Calm chance) :
    chance.settle before after = (.ok (), after) := by
  simp [Chance.settle, calm.works]

/-- What the recovery leaves of everything that the next request reads. -/
structure Kept (before after : Site) : Prop where
  records : after.records = before.records
  pending : after.pending = before.pending

theorem calm_clearLink (nonce : RequestId) :
    Safe machine calm () (fun answer after => answer = .ok () ∧
      after = { site with links := update site.links nonce none }) (clearLink nonce) site := by
  apply alone_call_bind trivial
  intro chance calm
  simp only [machine_exec, exec, calm.works]
  cases linked : site.links nonce with
  | none =>
    have same : update site.links nonce none = site.links := by
      rw [← linked]
      exact update_eq_self nonce site.links
    rw [same]
    exact ⟨rfl, rfl⟩
  | some old =>
    apply calm_attempt { site with links := update site.links nonce none }
    · simp [Write.apply, linked]
    · exact ⟨rfl, rfl⟩

/-- A part of the compensation that works. -/
def Works (before : Site) (route : Option Text) : Except StepError Unit → Site → Prop :=
  fun answer after => answer = .ok () ∧ Kept before after ∧ after.route = route

theorem calm_switch (nonce : RequestId) {target : Option RequestId}
    (there : ∀ release, target = some release → site.releases release = true) :
    Safe machine calm () (Works site site.route) (switch target nonce) site := by
  apply (calm_clearLink nonce).seq
  rintro _ cleared ⟨rfl, rfl⟩
  cases target with
  | some release =>
    apply Safe.andThen
    apply calm_attempt { site with links := update site.links nonce none }
    · simp [Write.apply, there release rfl]
    apply Safe.andThen
    apply calm_attempt { site with links := update site.links nonce (some release) }
    · simp [Write.apply]
    apply Safe.andThen
    apply calm_attempt { site with
      current := some release, links := update site.links nonce none }
    · simp [Write.apply]
    apply calm_attempt _ rfl
    exact ⟨rfl, ⟨rfl, rfl⟩, rfl⟩
  | none =>
    apply Safe.andThen
    apply calm_current
    cases here : site.current with
    | none =>
      apply calm_attempt _ rfl
      exact ⟨rfl, ⟨rfl, rfl⟩, rfl⟩
    | some release =>
    apply Safe.andThen
    apply calm_attempt { site with
      current := none, links := update site.links nonce none }
    · simp [Write.apply]
    apply calm_attempt _ rfl
    exact ⟨rfl, ⟨rfl, rfl⟩, rfl⟩

theorem calm_restoreRoute {plan : Plan} {previous : Option Text}
    (native : site.route = some plan.rendered ∨ site.route = previous) :
    Safe machine calm () (Works site previous) (restoreRoute plan previous) site := by
  have own : ¬ (site.route ≠ some plan.rendered ∧ site.route ≠ previous) := by tauto
  apply Safe.andThen
  apply calm_readRoute
  show Safe machine calm () _ _ site
  simp only [own, if_false]
  cases previous with
  | some content =>
    refine alone_exec trivial (fun calm => (if_pos rfl).trans (settle_calm calm)) ?_
    exact ⟨rfl, ⟨rfl, rfl⟩, rfl⟩
  | none =>
  cases here : site.route with
  | none => exact ⟨rfl, ⟨rfl, rfl⟩, here⟩
  | some content =>
    refine alone_exec trivial (fun calm => (if_pos here).trans (settle_calm calm)) ?_
    exact ⟨rfl, ⟨rfl, rfl⟩, rfl⟩

theorem calm_undo (sound : Sound domain site) (stored : site.pending = some journal)
    (running : site.status? journal.requestId = some .inProgress) :
    Safe machine calm () (fun answer after => answer = .ok () ∧ Kept site after) (undo journal)
      site := by
  have own : ¬ (site.current ≠ some journal.requestId ∧ site.current ≠ journal.previous) := by
    have live := sound.live journal stored running
    tauto
  apply Safe.andThen
  apply calm_current
  show Safe machine calm () _ _ site
  simp only [own, if_false]
  apply (calm_switch journal.requestId fun release old =>
    sound.previous journal release stored running old).seq
  rintro _ switched ⟨rfl, kept, route⟩
  have native := sound.routed journal stored running
  rw [← route] at native
  apply (calm_restoreRoute native).seq
  rintro _ restored ⟨rfl, later, _⟩
  refine alone_exec trivial settle_calm ?_
  exact ⟨rfl, later.records.trans kept.records, later.pending.trans kept.pending⟩

/-- What a recovery that completes leaves to the next publication. -/
def Cleared (id : RequestId) (before : Site) : Except StepError Unit → Site → Prop :=
  fun answer after => answer = .ok () ∧ after.pending = none ∧
    ∀ other, other ≠ id → after.records other = before.records other

theorem calm_finish {before : Site} (gone : site.pending = none)
    (kept : ∀ other, other ≠ id → site.records other = before.records other) :
    Safe machine calm () (Cleared id before) finish site := by
  refine alone_exec_bind trivial (exec_write_calm · rfl) ?_
  exact ⟨rfl, gone, kept⟩

theorem calm_cancel (message : String) {before : Site} (kept : site.records = before.records) :
    Safe machine calm () (fun answer after => answer = .ok () ∧ after.pending = site.pending ∧
      ∀ other, other ≠ id → after.records other = before.records other) (cancel id message) site := by
  apply alone_call_bind trivial
  intro chance calm
  apply calm_attempt (site.setRecord id _) rfl
  refine ⟨rfl, rfl, fun other apart => ?_⟩
  rw [← kept]
  exact update_of_ne apart _ _

theorem calm_findJournal {post : Except StepError (Option Journal) → Site → Prop}
    (done : post (.ok site.pending) site) : Safe machine calm () post findJournal site := by
  apply alone_call_bind trivial
  intro chance calm
  simp only [machine_exec, exec, calm.works]
  cases found : site.pending with
  | none =>
    rw [found] at done
    exact done
  | some journal =>
    refine alone_exec_bind trivial exec_readPending_calm ?_
    rw [found] at done ⊢
    exact done

theorem calm_entry {record : Ledger.Record StepError PublishResult}
    (loaded : site.records.load id = some record)
    (continues : Safe machine calm () post (if record.status = .inProgress then
      (resume domain id site.pending).andThen fun () => tidy id site.pending
      else tidy id site.pending) site) :
    Safe machine calm () post (recover domain id) site := by
  apply Safe.andThen
  apply calm_attempt site rfl
  refine alone_exec_bind trivial (exec_write_calm · rfl) ?_
  refine alone_exec_bind trivial exec_loadRecord_calm ?_
  rw [loaded]
  apply Safe.andThen
  apply calm_findJournal
  exact continues

theorem running_loaded (running : site.status? id = some .inProgress) :
    ∃ record, site.records.load id = some record ∧ record.status = .inProgress := by
  obtain ⟨record, loaded, status⟩ := Option.map_eq_some_iff.mp running
  exact ⟨record, loaded, status⟩

theorem calm_recover (sound : Sound domain site) (running : site.status? id = some .inProgress)
    (own : ∀ journal, site.pending = some journal → journal.requestId = id) :
    Safe machine calm () (Cleared id site) (recover domain id) site := by
  obtain ⟨record, loaded, status⟩ := running_loaded running
  apply calm_entry loaded
  simp only [status, if_true]
  cases stored : site.pending with
  | none =>
    apply (calm_cancel _ rfl).seq
    rintro _ cancelled ⟨rfl, pending, kept⟩
    exact calm_finish (pending.trans stored) kept
  | some journal =>
  have same := own journal stored
  subst same
  have native : ¬ (journal.requestId ≠ journal.requestId ∨ journal.plan.domain ≠ domain) := by
    simp [sound.within journal stored]
  unfold resume tidy
  simp only [native, if_false, if_true]
  apply Safe.andThen
  apply Safe.andThen
  apply calm_attempt site rfl
  apply (calm_undo sound stored running).seq
  rintro _ undone ⟨rfl, kept⟩
  apply Safe.mono _ (calm_cancel _ kept.records)
  rintro _ cancelled ⟨rfl, pending, records⟩
  have left : cancelled.pending = some journal := (pending.trans kept.pending).trans stored
  apply Safe.andThen
  apply calm_attempt { cancelled with pending := none }
  · simp [Write.apply, left]
  · exact calm_finish rfl records

theorem calm_recover_refused (running : site.status? id = some .inProgress)
    (stored : site.pending = some journal) (foreign : journal.requestId ≠ id) :
    Safe machine calm () (fun answer _ => answer = .error conflict) (recover domain id) site := by
  obtain ⟨record, loaded, status⟩ := running_loaded running
  apply calm_entry loaded
  simp only [status, if_true]
  apply Safe.andThen
  rw [stored]
  unfold resume
  simp only [foreign, ne_eq, not_false_eq_true, true_or, if_true]
  rfl

end Recovery

/-! ## The next publication -/

section Next

variable {site : Site} {next : RequestId} {plan : Plan}

theorem exec_admission_calm {chance : Chance} (calm : Calm chance)
    (unused : site.records next = none) :
    machine.exec () chance (.admission next) site =
      (Admission.proceed, (site.sweep chance).setRecord next .torn) := by
  have absent : (site.sweep chance).records next = none :=
    Ledger.Records.sweep_none unused
  simp only [machine_exec, exec, calm.admitted, absent]
  rfl

def entered (next : RequestId) (plan : Plan) (chance : Chance) (site : Site) : Site :=
  let begun := ((site.sweep chance).setRecord next .torn).setRecord next (.whole .begun)
  { begun with plans := Function.update begun.plans next (some plan) }

theorem calm_clearFinished (clear : site.pending = none) :
    Safe machine calm () (fun answer _ => answer = .ok ()) (clearFinished next) site := by
  refine alone_exec_bind trivial exec_pendingExists_calm ?_
  rw [clear]
  rfl

theorem passes_of_clear (unused : site.records next = none) (clear : site.pending = none)
    {publishing : Nat → Chance} (calm : ∀ index, Calm (publishing index)) :
    Passes site plan next publishing := by
  have meets : Meets machine () Calm (· = .inspect) (execute plan next) site := by
    apply Meets.bind
    apply calm_attempt site rfl
    apply meets_call_bind
    intro chance calm
    rw [exec_admission_calm calm unused]
    apply Meets.bind
    apply calm_attempt (((site.sweep chance).setRecord next .torn).setRecord next (.whole .begun)) rfl
    apply Meets.bind
    apply calm_attempt (entered next plan chance site) rfl
    have absent : (entered next plan chance site).pending = none := clear
    apply Meets.bind
    apply Safe.mono _ (calm_clearFinished absent)
    intro answer cleared done
    subst done
    exact .inl rfl
  obtain ⟨count, operation, pending, same⟩ := meets.advance calm
  exact ⟨count, same ▸ pending⟩

/-- One process before the first step of the backend, always at the same time. -/
abbrev early (late : Chance) : Discipline Step Site Unit Chance :=
  .alone (· = late) fun operation _ => operation ≠ .inspect

variable {late : Chance}

theorem early_attempt (calm : Calm late) (after : Site) (applies : write.apply site = some after)
    (done : post (.ok ()) after) : Safe machine (early late) () post (attempt write) site := by
  refine alone_exec_bind (by simp) (fun same => exec_write_calm (same ▸ calm) applies) ?_
  exact done

/-- A publication does not get past the journal of a request whose record cannot be
read, or is in progress. -/
theorem early_clearFinished (calm : Calm late) {journal : Journal}
    (stored : site.pending = some journal)
    (unread : ∀ record, site.records.load journal.requestId = some record →
      record.status = .inProgress) :
    Safe machine (early late) () (fun answer _ => ∃ error, answer = .error error)
      (clearFinished next) site := by
  have still : ∀ {chance}, chance = late → Calm chance := fun same => same ▸ calm
  refine alone_exec_bind (by simp) (fun same => exec_pendingExists_calm (still same)) ?_
  rw [stored]
  refine alone_exec_bind (by simp) (fun same => exec_readPending_calm (still same)) ?_
  rw [stored]
  refine alone_exec_bind (by simp) (fun same => exec_loadRecord_calm (still same)) ?_
  cases loaded : site.records.load journal.requestId with
  | none => exact ⟨internal, rfl⟩
  | some record =>
  simp only [unread record loaded, if_true]
  apply alone_call_bind (by simp)
  intro chance _
  apply Safe.andThen
  apply early_attempt calm (site.setRecord next _) rfl
  exact ⟨conflict, rfl⟩

theorem not_passes (calm : Calm late) (unused : site.records next = none)
    {journal : Journal} (stored : site.pending = some journal)
    (forgotten : ∀ record, site.records.load journal.requestId = some record →
      record.expired late.now = true) : ¬ Passes site plan next fun _ => late := by
  have safe : Safe machine (early late) () (fun _ _ => True) (execute plan next) site := by
    apply Safe.andThen
    apply early_attempt calm site rfl
    apply alone_call_bind (by simp)
    intro chance same
    subst same
    rw [exec_admission_calm calm unused]
    apply Safe.andThen
    apply early_attempt calm
      (((site.sweep chance).setRecord next .torn).setRecord next (.whole .begun)) rfl
    apply Safe.andThen
    apply early_attempt calm (entered next plan chance site) rfl
    have held : (entered next plan chance site).pending = some journal := stored
    apply Safe.andThen
    apply Safe.mono _ (early_clearFinished calm held _)
    · intro answer after failed
      obtain ⟨error, same⟩ := failed
      subst same
      trivial
    intro record found
    by_cases own : journal.requestId = next
    · have begun : ((((site.sweep chance).setRecord next .torn).setRecord next
          (.whole .begun)).records).load next = some .begun := Ledger.Records.load_set_self _
      rw [own] at found
      cases begun.symm.trans found
      rfl
    have kept : ((((site.sweep chance).setRecord next .torn).setRecord next
        (.whole .begun)).records).load journal.requestId =
        (site.records.sweep chance.now chance.recordSwept).load journal.requestId :=
      (Ledger.Records.load_set_of_ne own _).trans (Ledger.Records.load_set_of_ne own _)
    have swept := kept.symm.trans found
    unfold Ledger.Records.load Ledger.Records.sweep Ledger.Records.expired at swept
    cases loaded : site.records.load journal.requestId with
    | none =>
      simp only [loaded, Option.any_none, Bool.false_and, Bool.false_eq_true, if_false] at swept
      exact absurd (loaded.symm.trans swept) (by simp)
    | some old =>
      simp [loaded, forgotten old loaded, calm.swept] at swept
  rintro ⟨count, reached⟩
  have calmly : ∀ chance ∈ (List.range count).map (fun _ => late), chance = late := by simp
  have stopped := safe.stopped calmly ⟨late, rfl⟩
  revert stopped reached
  cases (machine.advance () ((List.range count).map fun _ => late) (execute plan next) site).1 with
  | done result => simp [Program.pending?]
  | perform operation rest =>
    intro reached stopped
    exact stopped (Option.some.inj reached)

end Next

/-- The journal that is pending, if any, is of a request in progress. -/
def Live (site : Site) : Prop :=
  ∀ journal, site.pending = some journal → site.status? journal.requestId = some .inProgress

def wellAt (now : Nat) : Chance :=
  { fails := none, takes := false, admission := .proceed, now, recordSwept := fun _ => true
    marker := false }

theorem calm_wellAt (now : Nat) : Calm (wellAt now) := ⟨rfl, rfl, fun _ => rfl⟩

variable {domain : Domain} {site : Site}

theorem exists_expired (sound : Sound domain site) (id : RequestId)
    (ended : site.status? id ≠ some .inProgress) :
    ∃ now, ∀ record, site.records.load id = some record → record.expired now = true := by
  cases loaded : site.records.load id with
  | none => exact ⟨0, by simp⟩
  | some record =>
  have finished : record.status ≠ .inProgress := by
    intro running
    exact ended ((Ledger.Records.status?_of_load loaded).trans (congrArg some running))
  obtain ⟨finishedAt, dated⟩ := Option.isSome_iff_exists.mp
    (sound.dated id record loaded finished)
  refine ⟨finishedAt + Prune.defaultCompletedRetention, fun other same => ?_⟩
  cases same
  simp [Ledger.Record.expired, finished, dated]

theorem unblocked_iff_live (sound : Sound domain site)
    {next : RequestId} (unused : site.records next = none) (plan : Plan) :
    Unblocked site domain plan next ↔ Live site := by
  constructor
  · intro unblocked journal stored
    by_contra ended
    by_cases others : ∃ id, site.status? id = some .inProgress
    · obtain ⟨id, running⟩ := others
      have apart : journal.requestId ≠ id := fun same => ended (same ▸ running)
      have alone : Unfinished site id := by
        refine ⟨running, fun other found still => ?_⟩
        rw [stored] at found
        cases found
        exact absurd still ended
      have completed := ((unblocked (fun _ => wellAt 0) (fun _ => wellAt 0)
        (fun _ => calm_wellAt 0) fun _ => calm_wellAt 0).1 id alone).1
      have refused : Safe machine calm () (fun answer _ => answer = .error conflict)
          (recover domain id) site := calm_recover_refused running stored apart
      have failed : (machine.solo () (fun _ => wellAt 0) (recover domain id) site).1 =
          .error conflict := refused.solo fun _ _ _ => calm_wellAt 0
      rw [completed] at failed
      contradiction
    · simp only [not_exists] at others
      obtain ⟨now, forgotten⟩ := exists_expired sound journal.requestId ended
      have passes := (unblocked (fun _ => wellAt 0) (fun _ => wellAt now)
        (fun _ => calm_wellAt 0) fun _ => calm_wellAt now).2 others
      exact not_passes (calm_wellAt now) unused stored forgotten passes
  · intro live recovering publishing recovers publishes
    refine ⟨fun id unfinished => ?_, fun ended => ?_⟩
    · obtain ⟨running, only⟩ := unfinished
      have own : ∀ journal, site.pending = some journal → journal.requestId = id :=
        fun journal stored => only journal stored (live journal stored)
      have apart : next ≠ id := by
        intro same
        rw [same] at unused
        rw [Site.status?, Ledger.Records.status?_of_absent unused] at running
        contradiction
      obtain ⟨done, clear, records⟩ := (calm_recover sound running own).solo
        fun index _ _ => recovers index
      exact ⟨done, passes_of_clear ((records next apart).trans unused) clear publishes⟩
    · apply passes_of_clear unused _ publishes
      cases stored : site.pending with
      | none => rfl
      | some journal => exact absurd (live journal stored) (ended journal.requestId)

/-! ## The runs -/

inductive Call where
  | publish (plan : Plan) (id : RequestId)
  | recover (id : RequestId)

def Call.program (domain : Domain) : Call → Task Unit
  | .publish plan id => do
    let _ ← execute plan id
    return ()
  | .recover id => do
    let _ ← Publish.recover domain id
    return ()

def Call.Within (domain : Domain) : Call → Prop
  | .publish plan _ => plan.domain = domain
  | .recover _ => True

def Call.turn (domain : Domain) (call : Call × List Chance) : Turn Step Answer Chance Unit :=
  ⟨call.1.program domain, call.2⟩

theorem safe_call (sound : Sound domain site) (call : Call) (within : call.Within domain) :
    Safe machine (watching domain none) () (fun _ after => Watched domain none after)
      (call.program domain) site := by
  have watched : Watched domain none site := ⟨sound, by simp⟩
  cases call with
  | publish plan id =>
    apply (safe_execute watched (by simp [Unheard]) (by simp) within).seq
    exact fun _ _ left => left
  | recover id =>
    apply (safe_recover watched (by simp)).seq
    exact fun _ _ left => left

theorem sound_turns {start : Site} (sound : Sound domain start)
    {calls : List (Call × List Chance)} (within : ∀ call ∈ calls, call.1.Within domain)
    (unique : machine.Orderly () Fresh start (calls.map (Call.turn domain))) :
    Sound domain (machine.turns () start (calls.map (Call.turn domain))) := by
  have watched : Watched domain none (machine.turns () start (calls.map (Call.turn domain))) := by
    apply invariant_turns
      (fun program => ∃ call : Call, call.Within domain ∧ program = call.program domain)
      (fun _ holds => holds) _ _ unique ⟨sound, by simp⟩
    · rintro program state ⟨call, inside, rfl⟩ holds
      exact safe_call holds.sound call inside
    · intro turn member
      obtain ⟨call, listed, same⟩ := List.mem_map.mp member
      exact ⟨call.1, within call listed, congrArg Turn.program same.symm⟩
  exact watched.sound

def attempts (plan : Plan) (id : RequestId) (chances : List Chance) (recoveries : List (List Chance)) :
    List (Call × List Chance) :=
  (.publish plan id, chances) :: recoveries.map fun chances => (.recover id, chances)

theorem account_turns {mid : Site} (sound : Sound domain mid) {plan : Plan}
    (within : plan.domain = domain) {id : RequestId} (unrecorded : mid.records id = none)
    (unheard : ∀ journal, mid.pending = some journal → journal.requestId ≠ id)
    {chances : List Chance} {recoveries : List (List Chance)} (unique : machine.Orderly () Fresh mid
      ((attempts plan id chances recoveries).map (Call.turn domain))) :
    Watched domain (some ⟨id, plan, mid.current, mid.route⟩)
      (machine.turns () mid ((attempts plan id chances recoveries).map (Call.turn domain))) := by
  have absent : mid.status? id = none := Ledger.Records.status?_of_absent unrecorded
  have watched : Watched domain (some ⟨id, plan, mid.current, mid.route⟩) mid := by
    refine ⟨sound, fun track here => ?_⟩
    cases here
    exact ⟨fun journal found own => absurd own (unheard journal found),
      fun journal found own => absurd own (unheard journal found), fun _ _ => ⟨rfl, rfl⟩,
      fun ended => absurd (absent.symm.trans ended) (by simp),
      fun ended => absurd (absent.symm.trans ended) (by simp)⟩
  have first : Safe machine (watching domain (some ⟨id, plan, mid.current, mid.route⟩)) ()
      (fun _ after => Watched domain (some ⟨id, plan, mid.current, mid.route⟩) after)
      ((Call.publish plan id).program domain) mid := by
    apply (safe_execute watched _ _ within).seq
    · exact fun _ _ left => left
    · intro track here
      cases here
      exact ⟨rfl, unrecorded⟩
    · intro track here
      cases here
      rfl
  obtain ⟨started, rest⟩ := unique
  apply invariant_turns (fun program => program = (Call.recover id).program domain)
    (fun _ holds => holds) _ _ rest (first.follows watched started).1
  · rintro program state rfl holds
    apply (safe_recover holds _).seq
    · exact fun _ _ left => left
    · intro track here
      cases here
      rfl
  · intro turn member
    obtain ⟨call, listed, same⟩ := List.mem_map.mp member
    obtain ⟨chances, _, rfl⟩ := List.mem_map.mp listed
    exact congrArg Turn.program same.symm

/-- Whatever was requested before, whatever fails and wherever a publication and the
recoveries after it are killed: the link names a release that is there, a committed
publication is served and a failed one has changed nothing.  The requests after it
get past its journal, at any time, exactly where no request that has ended has one. -/
theorem publication_atomic (domain : Domain) (start : Site) (sound : Sound domain start)
    (before : List (Call × List Chance)) (inside : ∀ call ∈ before, call.1.Within domain)
    (ordered : machine.Orderly () Fresh start (before.map (Call.turn domain)))
    (plan : Plan) (within : plan.domain = domain) (id : RequestId)
    (unrecorded : (machine.turns () start (before.map (Call.turn domain))).records id = none)
    (unheard : ∀ journal, (machine.turns () start (before.map (Call.turn domain))).pending =
      some journal → journal.requestId ≠ id)
    (chances : List Chance) (recoveries : List (List Chance))
    (unique : machine.Orderly () Fresh (machine.turns () start (before.map (Call.turn domain)))
      ((attempts plan id chances recoveries).map (Call.turn domain))) :
    let mid := machine.turns () start (before.map (Call.turn domain))
    let site := machine.turns () mid ((attempts plan id chances recoveries).map (Call.turn domain))
    (∀ release, site.current = some release → site.releases release = true) ∧
    (site.status? id = some .committed → site.current = some id ∧ site.route = some plan.rendered) ∧
    (site.status? id = some .failed → site.current = mid.current ∧ site.route = mid.route) ∧
    ∀ next later, site.records next = none → (Unblocked site domain later next ↔ Live site) := by
  intro mid site
  have middle : Sound domain mid := sound_turns sound inside ordered
  have watched : Watched domain (some ⟨id, plan, mid.current, mid.route⟩) site :=
    account_turns middle within unrecorded unheard unique
  have account := watched.account _ rfl
  exact ⟨watched.sound.serving, account.committed, account.failed,
    fun next later unused => unblocked_iff_live watched.sound unused later⟩

/-! A publication that is killed after its record says committed leaves its journal
behind; a week later every request of the domain is refused. -/

def shopPlan : Plan := ⟨⟨"shop.test".toList, shopTest_valid⟩, "/srv/build".toList, true⟩

def emptySite : Site :=
  { records := fun _ => none, plans := fun _ => none, pending := none, staging := fun _ => false
    releases := fun _ => false, current := none, links := fun _ => none, route := none }

def firstId : RequestId := .numbered 1

def secondId : RequestId := .numbered 2

theorem sound_emptySite : Sound shopPlan.domain emptySite where
  serving _ impossible := by cases impossible
  within _ impossible := by cases impossible
  previous _ _ impossible := by cases impossible
  live _ impossible := by cases impossible
  routed _ impossible := by cases impossible
  dated _ _ impossible := by cases impossible

instance (chance : Chance) (step : Step) (site : Site) : Decidable (Fresh chance step site) := by
  cases step <;> dsimp only [Fresh] <;> infer_instance

def thirdId : RequestId := .numbered 3

/-- A publication that goes through. -/
def published : List (Call × List Chance) :=
  [(.publish shopPlan firstId, List.replicate 27 (wellAt 0))]

/-- After it one is killed once `current` is switched, and the first recovery of that, too. -/
theorem publication_atomic_shop :
    let mid := machine.turns () emptySite (published.map (Call.turn shopPlan.domain))
    let site := machine.turns () mid ((attempts shopPlan secondId (List.replicate 22 (wellAt 0))
      [List.replicate 7 (wellAt 0), List.replicate 18 (wellAt 0)]).map (Call.turn shopPlan.domain))
    site.status? secondId = some .failed ∧ site.current = mid.current ∧ site.route = mid.route ∧
      Live site ∧ Unblocked site shopPlan.domain shopPlan thirdId := by
  intro mid site
  have failed : site.status? secondId = some .failed := by decide +kernel
  have clear : site.pending = none := by decide +kernel
  have live : Live site := fun journal stored =>
    absurd (stored.symm.trans clear) (Option.some_ne_none journal)
  have inside : ∀ call ∈ published, call.1.Within shopPlan.domain := by
    intro call member
    cases List.mem_singleton.mp member
    rfl
  have unrecorded : (machine.turns () emptySite
      (published.map (Call.turn shopPlan.domain))).records secondId = none :=
    Option.isNone_iff_eq_none.mp (by decide +kernel)
  have idle : (machine.turns () emptySite
      (published.map (Call.turn shopPlan.domain))).pending = none := by
    decide +kernel
  have atomic := publication_atomic shopPlan.domain emptySite sound_emptySite
    published inside (by decide +kernel) shopPlan rfl secondId unrecorded
    (fun journal stored => absurd (stored.symm.trans idle) (Option.some_ne_none journal))
    (List.replicate 22 (wellAt 0)) [List.replicate 7 (wellAt 0), List.replicate 18 (wellAt 0)]
    (by decide +kernel)
  obtain ⟨current, route⟩ := atomic.2.2.1 failed
  refine ⟨failed, current, route, live, (atomic.2.2.2 thirdId shopPlan ?_).mpr live⟩
  exact Option.isNone_iff_eq_none.mp (by decide +kernel)

/-- A publication killed right before it removes its journal. -/
theorem publication_blocked :
    ¬ Unblocked (machine.turns () emptySite
      ((attempts shopPlan firstId (List.replicate 26 (wellAt 0)) []).map
        (Call.turn shopPlan.domain))) shopPlan.domain shopPlan secondId := by
  have inside : ∀ call ∈ attempts shopPlan firstId (List.replicate 26 (wellAt 0)) [],
      call.1.Within shopPlan.domain := by
    intro call member
    cases List.mem_singleton.mp member
    rfl
  have sound := sound_turns sound_emptySite inside (by decide +kernel)
  rw [unblocked_iff_live sound rfl shopPlan]
  intro live
  exact absurd (live _ rfl) (by decide +kernel)

end OpsEngine.Publish
