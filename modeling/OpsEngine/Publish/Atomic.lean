import OpsEngine.Publish.Operations

namespace OpsEngine.Publish

open Effect
open Migrate (StepError)

/-! # A publication takes effect as a whole

While a request is in progress and its journal is there, the link and the route are
the journal's old ones or the request's new ones, each for itself; both are settled
before the record says how the request ended.
-/

structure Sound (domain : Domain) (site : Site) : Prop where
  serving : ∀ release, site.current = some release → site.releases release = true
  within : ∀ journal, site.pending = some journal → journal.plan.domain = domain
  previous : ∀ journal release, site.pending = some journal →
    site.status? journal.requestId = some .inProgress → journal.previous = some release →
    site.releases release = true
  live : ∀ journal, site.pending = some journal →
    site.status? journal.requestId = some .inProgress →
    site.current = some journal.requestId ∨ site.current = journal.previous
  routed : ∀ journal, site.pending = some journal →
    site.status? journal.requestId = some .inProgress →
    site.route = some journal.plan.rendered ∨ site.route = journal.previousRoute
  dated : ∀ id record, site.records.load id = some record → record.status ≠ .inProgress →
    record.finishedAt.isSome

/-- A request, with what was served when it started. -/
structure Track where
  id : RequestId
  plan : Plan
  current : Option RequestId
  route : Option Text

/-- How a request stands to what was served when it started. -/
structure Account (track : Track) (site : Site) : Prop where
  journal : ∀ journal, site.pending = some journal → journal.requestId = track.id →
    journal.plan = track.plan ∧ journal.previous = track.current ∧
      journal.previousRoute = track.route
  lasting : ∀ journal, site.pending = some journal → journal.requestId = track.id →
    (site.status? track.id).isSome
  idle : (∀ journal, site.pending = some journal → journal.requestId ≠ track.id) →
    site.status? track.id ≠ some .committed → site.current = track.current ∧ site.route = track.route
  committed : site.status? track.id = some .committed →
    site.current = some track.id ∧ site.route = some track.plan.rendered
  failed : site.status? track.id = some .failed →
    site.current = track.current ∧ site.route = track.route

/-- The site is sound, and the request that is watched, if any, is accounted for. -/
structure Watched (domain : Domain) (watch : Option Track) (site : Site) : Prop where
  sound : Sound domain site
  account : ∀ track, watch = some track → Account track site

/-- Request ids are used once: one whose record is gone has no journal. -/
def Fresh (chance : Chance) : Step → Site → Prop
  | .admission id, site =>
    (site.sweep chance).records id = none → ∀ journal ∈ site.pending, journal.requestId ≠ id
  | _, _ => True

abbrev watching (domain : Domain) (watch : Option Track) : Discipline Step Site Unit Chance :=
  .holding machine Fresh (Watched domain watch)

abbrev SafeFor {α : Type} (domain : Domain) (watch : Option Track) (post : α → Site → Prop)
    (program : Task α) (site : Site) : Prop :=
  Safe machine (watching domain watch) () post program site

/-! ## What changes what -/

structure Same (before after : Site) : Prop where
  records : after.records = before.records
  pending : after.pending = before.pending
  current : after.current = before.current
  route : after.route = before.route
  releases : ∀ release, before.releases release = true → after.releases release = true

theorem Same.refl (site : Site) : Same site site := ⟨rfl, rfl, rfl, rfl, fun _ there => there⟩

theorem Same.status? {before after : Site} (same : Same before after) (id : RequestId) :
    after.status? id = before.status? id := by
  unfold Site.status?
  rw [same.records]

variable {domain : Domain} {watch : Option Track} {before after : Site}

/-- A site that serves the same is sound where no journal belongs to a request that is
newly in progress. -/
theorem Sound.less (sound : Sound domain before) (pending : after.pending = before.pending)
    (current : after.current = before.current) (route : after.route = before.route)
    (releases : ∀ release, before.releases release = true → after.releases release = true)
    (running : ∀ {journal}, before.pending = some journal →
      after.status? journal.requestId = some .inProgress →
      before.status? journal.requestId = some .inProgress)
    (dated : ∀ id record, after.records.load id = some record → record.status ≠ .inProgress →
      record.finishedAt.isSome) : Sound domain after where
  serving release live := releases release (sound.serving release (current ▸ live))
  within journal found := sound.within journal (pending ▸ found)
  previous journal release found read old := by
    rw [pending] at found
    exact releases release (sound.previous journal release found (running found read) old)
  live journal found read := by
    rw [pending] at found
    rw [current]
    exact sound.live journal found (running found read)
  routed journal found read := by
    rw [pending] at found
    rw [route]
    exact sound.routed journal found (running found read)
  dated := dated

theorem Watched.congr (watched : Watched domain watch before) (same : Same before after) :
    Watched domain watch after := by
  obtain ⟨sound, account⟩ := watched
  refine ⟨?_, fun track here => ?_⟩
  · apply sound.less same.pending same.current same.route same.releases
    · exact fun _ running => same.status? _ ▸ running
    · exact fun id record found => sound.dated id record (same.records ▸ found)
  obtain ⟨journal, lasting, idle, committed, failed⟩ := account track here
  refine ⟨?_, ?_, ?_, ?_, ?_⟩
  · rw [same.pending]
    exact journal
  · rw [same.pending, same.status?]
    exact lasting
  · rw [same.pending, same.status?, same.current, same.route]
    exact idle
  · rw [same.status?, same.current, same.route]
    exact committed
  · rw [same.status?, same.current, same.route]
    exact failed

def Write.quiet : Write → Bool
  | .openScope | .lock | .appendAudit | .openSite | .syncSite | .savePlan _ _ | .createStaging _
  | .copyArtifact _ | .sealArtifact _ | .installRelease _ | .openRelease _ | .removeLink _
  | .makeLink _ _ => true
  | _ => false

variable {write : Write}

theorem Write.apply_quiet (quiet : write.quiet = true) {site after : Site}
    (applied : write.apply site = some after) : Same site after := by
  cases write with
  | openScope | lock | appendAudit | openSite | syncSite =>
    cases applied
    exact .refl site
  | savePlan =>
    cases applied
    exact ⟨rfl, rfl, rfl, rfl, fun _ there => there⟩
  | installRelease id =>
    simp only [Write.apply] at applied
    split at applied
    · cases applied
      refine ⟨rfl, rfl, rfl, rfl, fun release there => ?_⟩
      by_cases same : release = id
      · simp [same]
      · simp [same, there]
    · contradiction
  | createStaging | copyArtifact | sealArtifact | openRelease | removeLink | makeLink =>
    simp only [Write.apply] at applied
    split at applied
    all_goals first
      | contradiction
      | (cases applied; exact ⟨rfl, rfl, rfl, rfl, fun _ there => there⟩)
  | _ => contradiction

/-! ## The rules -/

section Rules

variable {site : Site}

theorem machine_exec (chance : Chance) (operation : Step) (site : Site) :
    machine.exec () chance operation site = exec chance operation site := rfl

theorem exec_write (chance : Chance) (write : Write) (site : Site) :
    machine.exec () chance (.write write) site = (false, site) ∨
      ∃ after, write.apply site = some after ∧
        machine.exec () chance (.write write) site = (true, after) := by
  dsimp only [machine_exec, exec]
  cases chance.fails with
  | some error => exact .inl rfl
  | none =>
    cases applied : write.apply site with
    | none => exact .inl rfl
    | some after => exact .inr ⟨after, rfl, rfl⟩

theorem safe_write_bind {β : Type} {rest : Bool → Task β} {post : β → Site → Prop}
    (holds : Watched domain watch site) (failed : SafeFor domain watch post (rest false) site)
    (done : ∀ after, write.apply site = some after → Watched domain watch after ∧
      SafeFor domain watch post (rest true) after) :
    SafeFor domain watch post (step (.write write) >>= rest) site := by
  apply holding_call_bind
  intro chance _
  rcases exec_write chance write site with same | ⟨after, applied, taken⟩
  · rw [same]
    exact ⟨holds, failed⟩
  · rw [taken]
    exact done after applied

theorem safe_attempt {post : Except StepError Unit → Site → Prop}
    (holds : Watched domain watch site) (failed : post (.error internal) site)
    (done : ∀ after, write.apply site = some after → Watched domain watch after ∧ post (.ok ()) after) :
    SafeFor domain watch post (attempt write) site :=
  safe_write_bind holds failed done

/-- An assertion that nothing that counts can break. -/
structure Lasts (domain : Domain) (watch : Option Track) (assertion : Site → Prop) : Prop where
  watched : ∀ site, assertion site → Watched domain watch site
  congr : ∀ before after, assertion before → Same before after → assertion after

def Step.quiet : Step → Bool
  | .write change => change.quiet
  | .loadPlan _ | .loadRecord _ | .pendingExists | .findPending | .readPending | .readCurrent
  | .linkExists _ | .markerExists | .now | .inspect | .probe _ | .readRoute => true
  | _ => false

abbrev Quiet (operation : Step) : Prop := operation.quiet = true

theorem settle_same (chance : Chance) (site : Site) : (chance.settle site site).2 = site := by
  unfold Chance.settle
  cases chance.fails with
  | none => rfl
  | some error => cases chance.takes <;> rfl

theorem exec_quiet (chance : Chance) {operation : Step} (quiet : operation.quiet = true)
    (site : Site) : Same site (machine.exec () chance operation site).2 := by
  cases operation with
  | write write =>
    rcases exec_write chance write site with same | ⟨after, applied, taken⟩
    · rw [same]
      exact .refl site
    · rw [taken]
      exact write.apply_quiet quiet applied
  | loadPlan | loadRecord | pendingExists | findPending | readPending | readCurrent | linkExists
  | markerExists | now => exact .refl site
  | inspect | probe =>
    have unchanged : (chance.settle site site).2 = site := settle_same chance site
    show Same site (chance.settle site site).2
    rw [unchanged]
    exact .refl site
  | readRoute =>
    show Same site (exec chance .readRoute site).2
    simp only [exec]
    split <;> exact .refl site
  | _ => contradiction

theorem Lasts.preserves {assertion : Site → Prop} (lasts : Lasts domain watch assertion) :
    Preserves machine (watching domain watch) () Quiet assertion where
  stable := stable_holding assertion
  step operation chance site quiet holds _ := by
    have after := lasts.congr site _ holds (exec_quiet chance quiet site)
    exact ⟨lasts.watched _ after, after⟩

end Rules

/-! ## A process at work -/

/-- The request is in progress and has no journal. -/
structure Waiting (domain : Domain) (watch : Option Track) (id : RequestId) (site : Site) : Prop where
  watched : Watched domain watch site
  mine : ∀ track, watch = some track → track.id = id
  running : site.status? id = some .inProgress
  unheard : ∀ journal, site.pending = some journal → journal.requestId ≠ id

/-- The request is in progress and works from its journal. -/
structure Working (domain : Domain) (watch : Option Track) (journal : Journal) (site : Site) :
    Prop where
  watched : Watched domain watch site
  mine : ∀ track, watch = some track → track.id = journal.requestId
  running : site.status? journal.requestId = some .inProgress
  stored : site.pending = some journal

section Process

variable {id : RequestId} {journal : Journal} {site : Site}

theorem waiting_lasts : Lasts domain watch (Waiting domain watch id) where
  watched _ waiting := waiting.watched
  congr _ _ waiting same :=
    ⟨waiting.watched.congr same, waiting.mine, (same.status? _).trans waiting.running,
      same.pending ▸ waiting.unheard⟩

theorem working_lasts : Lasts domain watch (Working domain watch journal) where
  watched _ working := working.watched
  congr _ _ working same :=
    ⟨working.watched.congr same, working.mine, (same.status? _).trans working.running,
      same.pending.trans working.stored⟩

namespace Working

theorem move {after : Site} (working : Working domain watch journal site)
    (records : after.records = site.records) (pending : after.pending = site.pending)
    (releases : after.releases = site.releases)
    (live : after.current = site.current ∨ after.current = journal.previous ∨
      after.current = some journal.requestId ∧ site.releases journal.requestId = true)
    (routed : after.route = site.route ∨ after.route = journal.previousRoute ∨
      after.route = some journal.plan.rendered) : Working domain watch journal after := by
  obtain ⟨⟨sound, account⟩, mine, running, stored⟩ := working
  have status : ∀ id, after.status? id = site.status? id := by
    intro id
    unfold Site.status?
    rw [records]
  have only : ∀ {other}, after.pending = some other → other = journal := by
    intro other found
    rw [pending, stored] at found
    exact (Option.some.inj found).symm
  have kept := sound.live journal stored running
  refine ⟨⟨?_, fun track here => ?_⟩, mine, (status _).trans running, pending.trans stored⟩
  · refine
      { serving := fun release here => ?_
        within := fun other found => only found ▸ sound.within journal stored
        previous := fun other release found _ old => ?_
        live := fun other found _ => ?_
        routed := fun other found _ => ?_
        dated := fun id record found => sound.dated id record (records ▸ found) }
    · rw [releases]
      rcases live with same | old | ⟨new, there⟩
      · exact sound.serving release (same ▸ here)
      · exact sound.previous journal release stored running (old ▸ here)
      · rw [new] at here
        cases here
        exact there
    · have same := only found
      subst same
      rw [releases]
      exact sound.previous other release stored running old
    · have same := only found
      subst same
      rcases live with same | old | ⟨new, _⟩
      · rw [same]
        exact kept
      · exact .inr old
      · exact .inl new
    · have same := only found
      subst same
      rcases routed with same | old | new
      · rw [same]
        exact sound.routed other stored running
      · exact .inr old
      · exact .inl new
  · obtain ⟨journaled, lasting, idle, committed, failed⟩ := account track here
    have own := mine track here
    refine ⟨?_, ?_, fun absent => ?_, fun ended => ?_, fun ended => ?_⟩
    · rw [pending]
      exact journaled
    · rw [pending, status]
      exact lasting
    · exact absurd own.symm (absent journal (pending.trans stored))
    · rw [status, own, running] at ended
      contradiction
    · rw [status, own, running] at ended
      contradiction

end Working

theorem status?_setRecord_of_ne {other : RequestId} (apart : other ≠ id)
    (file : Ledger.File StepError PublishResult) :
    (site.setRecord id file).status? other = site.status? other :=
  Ledger.Records.status?_set_of_ne apart file

theorem status?_setRecord_self (record : Ledger.Record StepError PublishResult) :
    (site.setRecord id (.whole record)).status? id = some record.status :=
  Ledger.Records.status?_set_whole record

variable {record : Ledger.Record StepError PublishResult}

theorem Watched.finish (watched : Watched domain watch site)
    (mine : ∀ track, watch = some track → track.id = id) (ended : record.status ≠ .inProgress)
    (dated : record.finishedAt.isSome)
    (new : record.status = .committed → ∀ track, watch = some track →
      site.current = some track.id ∧ site.route = some track.plan.rendered)
    (old : record.status = .failed → ∀ track, watch = some track →
      site.current = track.current ∧ site.route = track.route) :
    Watched domain watch (site.setRecord id (.whole record)) := by
  obtain ⟨sound, account⟩ := watched
  have earlier : ∀ {other}, (site.setRecord id (.whole record)).status? other = some .inProgress →
      site.status? other = some .inProgress := by
    intro other running
    by_cases same : other = id
    · rw [same, status?_setRecord_self] at running
      exact absurd (Option.some.inj running) ended
    · rw [status?_setRecord_of_ne same] at running
      exact running
  refine ⟨?_, fun track here => ?_⟩
  · refine sound.less rfl rfl rfl (fun _ there => there) (fun _ running => earlier running) ?_
    intro other stored found finished
    by_cases same : other = id
    · subst same
      have loaded : (site.setRecord other (.whole record)).records.load other = some record :=
        Ledger.Records.load_set_self _
      rw [loaded] at found
      cases found
      exact dated
    · have loaded : (site.setRecord id (.whole record)).records.load other =
          site.records.load other := Ledger.Records.load_set_of_ne same _
      rw [loaded] at found
      exact sound.dated other stored found finished
  · have own := mine track here
    have status : (site.setRecord id (.whole record)).status? track.id = some record.status := by
      rw [own]
      exact status?_setRecord_self record
    refine ⟨(account track here).journal, fun _ _ _ => by simp [status], fun _ uncommitted => ?_,
      fun committed => ?_, fun failed => ?_⟩
    · rw [status] at uncommitted
      cases kind : record.status with
      | inProgress => exact absurd kind ended
      | committed => simp [kind] at uncommitted
      | failed => exact old kind track here
    · rw [status] at committed
      exact new (Option.some.inj committed) track here
    · rw [status] at failed
      exact old (Option.some.inj failed) track here

theorem Watched.removePending (watched : Watched domain watch site)
    (ended : ∀ journal, site.pending = some journal →
      site.status? journal.requestId ≠ some .inProgress) :
    Watched domain watch { site with pending := none } := by
  obtain ⟨sound, account⟩ := watched
  refine ⟨⟨sound.serving, ?_, ?_, ?_, ?_, sound.dated⟩, fun track here => ?_⟩
  · exact nofun
  · exact nofun
  · exact nofun
  · exact nofun
  obtain ⟨journaled, lasting, idle, committed, failed⟩ := account track here
  have nothing : ∀ journal, (none : Option Journal) ≠ some journal := by simp
  refine ⟨fun journal found => absurd found (nothing journal),
    fun journal found => absurd found (nothing journal), fun _ uncommitted => ?_, committed, failed⟩
  by_cases own : ∀ journal, site.pending = some journal → journal.requestId ≠ track.id
  · exact idle own uncommitted
  simp only [not_forall, not_not] at own
  obtain ⟨journal, found, same⟩ := own
  obtain ⟨status, read⟩ := Option.isSome_iff_exists.mp (lasting journal found same)
  have finished := ended journal found
  rw [same, read] at finished
  cases status with
  | inProgress => exact absurd rfl finished
  | committed => exact absurd read uncommitted
  | failed => exact failed read

variable {plan : Plan} {live : Option RequestId} {route : Option Text}
  {post : Except StepError Unit → Site → Prop}

theorem Waiting.journaled (waiting : Waiting domain watch id site)
    (planned : ∀ track, watch = some track → track.plan = plan) (within : plan.domain = domain)
    (journal : Journal) (own : journal.requestId = id) (same : journal.plan = plan)
    (previous : journal.previous = site.current) (route : journal.previousRoute = site.route) :
    Working domain watch journal { site with pending := some journal } := by
  obtain ⟨⟨sound, account⟩, mine, running, unheard⟩ := waiting
  subst own
  refine ⟨⟨?_, fun track here => ?_⟩, mine, running, rfl⟩
  · refine
      { serving := sound.serving
        within := fun other found => ?_
        previous := fun other release found _ old => ?_
        live := fun other found _ => ?_
        routed := fun other found _ => ?_
        dated := sound.dated }
    · cases found
      rw [same]
      exact within
    · cases found
      exact sound.serving release (previous ▸ old)
    · cases found
      exact .inr previous.symm
    · cases found
      exact .inr route.symm
  · have tracked := mine track here
    have status : site.status? track.id = some .inProgress := by rw [tracked, running]
    obtain ⟨current, routed⟩ := (account track here).idle
      (fun other found => tracked ▸ unheard other found) (by simp [status])
    refine ⟨fun other found _ => ?_, fun _ _ _ => ?_, fun absent => ?_, fun ended => ?_,
      fun ended => ?_⟩
    · cases found
      exact ⟨same.trans (planned track here).symm, previous.trans current, route.trans routed⟩
    · show (site.status? track.id).isSome
      simp [status]
    · exact absurd tracked.symm (absent journal rfl)
    · exact absurd (status.symm.trans ended) (by simp)
    · exact absurd (status.symm.trans ended) (by simp)

/-! ## The programs -/

/-- The request works from its journal, and this is what is served. -/
structure Serving (domain : Domain) (watch : Option Track) (journal : Journal)
    (live : Option RequestId) (route : Option Text) (site : Site) : Prop where
  working : Working domain watch journal site
  live : site.current = live
  route : site.route = route

theorem serving_lasts :
    Lasts domain watch (Serving domain watch journal live route) where
  watched _ serving := serving.working.watched
  congr before after serving same :=
    ⟨working_lasts.congr before after serving.working same, same.current.trans serving.live,
      same.route.trans serving.route⟩

theorem quiet_attempt (quiet : write.quiet = true) :
    (attempt write).Every Quiet := by
  refine ⟨quiet, fun answer => ?_⟩
  cases answer <;> trivial

theorem quiet_clearLink (nonce : RequestId) :
    (clearLink nonce).Every Quiet := by
  refine ⟨rfl, fun answer => ?_⟩
  cases answer with
  | false => trivial
  | true => exact quiet_attempt rfl

theorem safe_current {post : Except StepError (Option RequestId) → Site → Prop}
    (holds : Watched domain watch site) (failed : post (.error internal) site)
    (done : post (.ok site.current) site) :
    SafeFor domain watch post current site := by
  apply holding_call_bind
  intro chance _
  refine ⟨holds, ?_⟩
  dsimp only [machine_exec, exec]
  cases chance.fails.isNone with
  | false => exact failed
  | true => exact done

theorem safe_readRoute {post : Except StepError (Option Text) → Site → Prop}
    (holds : Watched domain watch site) (failed : ∀ error, post (.error error) site)
    (done : post (.ok site.route) site) :
    SafeFor domain watch post readRoute site := by
  apply holding_call
  intro chance _
  dsimp only [machine_exec, exec]
  cases chance.fails with
  | some error => exact ⟨holds, failed error⟩
  | none => exact ⟨holds, done⟩

/-- A step that writes the route does it or does nothing, and succeeds only where it
did it. -/
@[elab_as_elim] theorem settle_cases {motive : Except StepError Unit × Site → Prop} {chance : Chance}
    {before after : Site} (failed : ∀ error, motive (.error error, before))
    (late : ∀ error, motive (.error error, after)) (done : motive (.ok (), after)) :
    motive (chance.settle before after) := by
  unfold Chance.settle
  cases chance.fails with
  | none => exact done
  | some error =>
    cases chance.takes with
    | false => exact failed error
    | true => exact late error

theorem guarded_settle {after : Site} (chance : Chance) (guard : Option Text)
    (holds : Watched domain watch site) (moved : Watched domain watch after)
    (failed : ∀ error, post (.error error) site) (late : ∀ error, post (.error error) after)
    (done : post (.ok ()) after) :
    let ended := if site.route = guard then chance.settle site after
      else (.error (chance.fails.getD refused), site)
    Watched domain watch ended.2 ∧ post ended.1 ended.2 := by
  by_cases matching : site.route = guard
  · simp only [if_pos matching]
    exact settle_cases (fun error => ⟨holds, failed error⟩)
      (fun error => ⟨moved, late error⟩) ⟨moved, done⟩
  · simp only [if_neg matching]
    exact ⟨holds, failed _⟩

theorem safe_setRoute {content : Text} {guard : Option Text} (holds : Watched domain watch site)
    (moved : Watched domain watch { site with route := some content })
    (failed : ∀ error, post (.error error) site)
    (late : ∀ error, post (.error error) { site with route := some content })
    (done : post (.ok ()) { site with route := some content }) :
    SafeFor domain watch post (setRoute content guard) site := by
  apply holding_call
  intro chance _
  exact guarded_settle chance guard holds moved failed late done

theorem safe_removeRoute {guard : Text}
    (holds : Watched domain watch site) (moved : Watched domain watch { site with route := none })
    (failed : ∀ error, post (.error error) site)
    (late : ∀ error, post (.error error) { site with route := none })
    (done : post (.ok ()) { site with route := none }) :
    SafeFor domain watch post (removeRoute guard) site := by
  apply holding_call
  intro chance _
  exact guarded_settle chance (some guard) holds moved failed late done

/-- Where a change of the link has got to: it is done, or the request still has its
journal to go back by. -/
def Switched (domain : Domain) (watch : Option Track) (journal : Journal)
    (target : Option RequestId) (route : Option Text) : Except StepError Unit → Site → Prop :=
  Outcomes (fun _ after => Serving domain watch journal target route after)
    (fun _ after => Working domain watch journal after)

theorem safe_still {program : Task (Except StepError Unit)} (quiet : program.Every Quiet)
    (serving : Serving domain watch journal live route site) :
    SafeFor domain watch (Switched domain watch journal live route)
      program site := by
  apply Safe.mono _ (serving_lasts.preserves.safe quiet serving)
  intro answer after kept
  cases answer with
  | error error => exact kept.working
  | ok _ => exact kept

theorem safe_switch (serving : Serving domain watch journal live route site) (nonce : RequestId)
    {target : Option RequestId}
    (allowed : target = journal.previous ∨ target = some journal.requestId) :
    SafeFor domain watch (Switched domain watch journal target route)
      (switch target nonce) site := by
  refine (serving_lasts.preserves.safe (quiet_clearLink nonce) serving).attempt
    (fun _ _ serving => serving.working) fun _ cleared serving => ?_
  cases target with
  | none =>
    apply Safe.andThen
    apply safe_current serving.working.watched
    · exact serving.working
    cases here : cleared.current with
    | none => exact safe_still (quiet_attempt rfl) ⟨serving.working, here, serving.route⟩
    | some release =>
    apply Safe.andThen
    apply safe_attempt serving.working.watched
    · exact serving.working
    intro removed applied
    simp only [Write.apply, here, Option.isSome_some, if_true] at applied
    cases applied
    have moved : Working domain watch journal { cleared with current := none } :=
      serving.working.move rfl rfl rfl (.inr (.inl (allowed.resolve_right nofun))) (.inl rfl)
    exact ⟨moved.watched, safe_still (quiet_attempt rfl) ⟨moved, rfl, serving.route⟩⟩
  | some id =>
    apply Safe.andThen
    apply safe_attempt serving.working.watched
    · exact serving.working
    intro opened applied
    simp only [Write.apply] at applied
    split at applied
    · rename_i there
      cases applied
      refine ⟨serving.working.watched, ?_⟩
      apply Safe.andThen
      apply safe_attempt serving.working.watched
      · exact serving.working
      intro linked applied
      have quiet : Same cleared linked := Write.apply_quiet rfl applied
      have serving := serving_lasts.congr cleared linked serving quiet
      have named : linked.links nonce = some id ∧ linked.releases = cleared.releases := by
        simp only [Write.apply] at applied
        split at applied
        · contradiction
        · cases applied
          simp
      refine ⟨serving.working.watched, ?_⟩
      apply Safe.andThen
      apply safe_attempt serving.working.watched
      · exact serving.working
      intro swapped applied
      simp only [Write.apply, named.1] at applied
      cases applied
      have moved : Working domain watch journal
          { linked with current := some id, links := Function.update linked.links nonce none } := by
        refine serving.working.move rfl rfl rfl ?_ (.inl rfl)
        rcases allowed with old | own
        · exact .inr (.inl old)
        · cases own
          exact .inr (.inr ⟨rfl, named.2 ▸ there⟩)
      exact ⟨moved.watched, safe_still (quiet_attempt rfl) ⟨moved, rfl, serving.route⟩⟩
    · contradiction

theorem safe_restoreRoute (serving : Serving domain watch journal live route site) :
    SafeFor domain watch
      (Switched domain watch journal live journal.previousRoute)
      (restoreRoute journal.plan journal.previousRoute) site := by
  have holds := serving.working.watched
  apply Safe.andThen
  apply safe_readRoute holds
  · exact fun error => serving.working
  show SafeFor domain watch _ _ site
  by_cases foreign : site.route ≠ some journal.plan.rendered ∧ site.route ≠ journal.previousRoute
  · rw [if_pos foreign]
    exact serving.working
  rw [if_neg foreign]
  have moves : ∀ next, next = journal.previousRoute →
      Working domain watch journal { site with route := next } :=
    fun _ same => serving.working.move rfl rfl rfl (.inl rfl) (.inr (.inl same))
  cases old : journal.previousRoute with
  | some content =>
    have moved := moves (some content) old.symm
    apply safe_setRoute holds moved.watched
    · exact fun error => serving.working
    · exact fun error => moved
    · exact ⟨moved, serving.live, rfl⟩
  | none =>
  cases here : site.route with
  | none => exact ⟨serving.working, serving.live, here⟩
  | some content =>
  have moved := moves none old.symm
  apply safe_removeRoute holds moved.watched
  · exact fun error => serving.working
  · exact fun error => moved
  · exact ⟨moved, serving.live, rfl⟩

theorem safe_undo (working : Working domain watch journal site) :
    SafeFor domain watch
      (Switched domain watch journal journal.previous journal.previousRoute) (undo journal) site := by
  apply Safe.andThen
  apply safe_current working.watched
  · exact working
  show SafeFor domain watch _ _ site
  by_cases foreign : site.current ≠ some journal.requestId ∧ site.current ≠ journal.previous
  · rw [if_pos foreign]
    exact working
  rw [if_neg foreign]
  have serving : Serving domain watch journal site.current site.route site := ⟨working, rfl, rfl⟩
  refine (safe_switch serving _ (.inl rfl)).attempt
    (fun _ _ reached => reached) fun _ back reached => ?_
  refine (safe_restoreRoute reached).attempt
    (fun _ _ reached => reached) fun _ restored reached => ?_
  exact safe_still (Program.every_call.mpr rfl) reached

theorem quiet_stage (id : RequestId) :
    (stage id).Every Quiet := by
  refine ⟨rfl, fun marked => ?_⟩
  cases marked with
  | true => trivial
  | false =>
  apply Program.Every.andThen (quiet_attempt rfl)
  intro _
  refine ⟨rfl, fun copied => ?_⟩
  cases copied with
  | false => trivial
  | true =>
  apply Program.Every.andThen (quiet_attempt rfl)
  intro _
  apply Program.Every.andThen (quiet_attempt rfl)
  intro _
  exact quiet_attempt rfl

theorem safe_publish (working : Working domain watch journal site) :
    SafeFor domain watch (Outcomes
        (fun _ after => Serving domain watch journal (some journal.requestId)
          (some journal.plan.rendered) after)
        (fun _ after => Working domain watch journal after)) (publish journal) site := by
  refine (working_lasts.preserves.safe (quiet_stage _) working).attempt
    (fun _ _ working => working) fun _ staged working => ?_
  have serving : Serving domain watch journal staged.current staged.route staged := ⟨working, rfl, rfl⟩
  refine (safe_switch serving journal.requestId (.inr rfl)).attempt
    (fun _ _ reached => reached) fun _ switched reached => ?_
  have moved : Working domain watch journal
      { switched with route := some journal.plan.rendered } :=
    reached.working.move rfl rfl rfl (.inl rfl) (.inr (.inr rfl))
  apply Safe.andThen
  apply safe_setRoute reached.working.watched moved.watched
  · exact fun error => reached.working
  · exact fun error => moved
  have serving : Serving domain watch journal (some journal.requestId) (some journal.plan.rendered)
      { switched with route := some journal.plan.rendered } := ⟨moved, reached.live, rfl⟩
  have quiet : (probe (some journal.requestId)).Every Quiet :=
    Program.every_call.mpr rfl
  refine (serving_lasts.preserves.safe quiet serving).attempt
    (fun _ _ kept => kept.working) fun _ _ kept => kept

/-- Whatever journal is pending is of a request that has ended. -/
structure Settled (domain : Domain) (watch : Option Track) (site : Site) : Prop where
  watched : Watched domain watch site
  ended : ∀ journal, site.pending = some journal →
    site.status? journal.requestId ≠ some .inProgress

theorem settled_lasts : Lasts domain watch (Settled domain watch) where
  watched _ settled := settled.watched
  congr _ _ settled same :=
    ⟨settled.watched.congr same, fun journal found => by
      rw [same.status?]
      exact settled.ended journal (same.pending ▸ found)⟩

theorem safe_removePending
    (settled : Settled domain watch site) (failed : post (.error internal) site)
    (done : Watched domain watch { site with pending := none } →
      post (.ok ()) { site with pending := none }) :
    SafeFor domain watch post (attempt .removePending) site := by
  apply safe_attempt settled.watched failed
  intro after applied
  have cleared := settled.watched.removePending settled.ended
  simp only [Write.apply] at applied
  split at applied
  · cases applied
    exact ⟨cleared, done cleared⟩
  · contradiction

/-- Whatever has ended, the site is as it should be. -/
abbrev Ends {α : Type} (domain : Domain) (watch : Option Track) : α → Site → Prop :=
  fun _ after => Watched domain watch after

theorem safe_closing {α : Type} (settled : Settled domain watch site)
    (answer : Except StepError α) :
    SafeFor domain watch (Ends domain watch) (do
      let _ ← step (.write .appendAudit)
      (attempt .removePending).andThen fun () => return answer) site := by
  apply settled_lasts.preserves.call_bind (by rfl) settled
  intro _ audited settled
  apply Safe.andThen
  apply safe_removePending settled settled.watched
  exact fun cleared => cleared

theorem Working.account (working : Working domain watch journal site) {track : Track}
    (here : watch = some track) :
    journal.plan = track.plan ∧ journal.previous = track.current ∧
      journal.previousRoute = track.route :=
  (working.watched.account track here).journal journal working.stored (working.mine track here).symm

theorem Working.settle (working : Working domain watch journal site)
    (ended : record.status ≠ .inProgress)
    (watched : Watched domain watch (site.setRecord journal.requestId (.whole record))) :
    Settled domain watch (site.setRecord journal.requestId (.whole record)) := by
  refine ⟨watched, fun other found => ?_⟩
  have same : site.pending = some other := found
  rw [working.stored] at same
  cases same
  rw [status?_setRecord_self]
  exact fun running => ended (Option.some.inj running)

theorem Serving.committed (serving : Serving domain watch journal (some journal.requestId)
      (some journal.plan.rendered) site) (result : PublishResult) (now : Nat) :
    Settled domain watch (site.setRecord journal.requestId (.whole (.committed result now))) := by
  refine serving.working.settle (by simp [Ledger.Record.committed]) ?_
  apply serving.working.watched.finish serving.working.mine
  · simp [Ledger.Record.committed]
  · rfl
  · intro _ track here
    rw [serving.live, serving.route, serving.working.mine track here,
      (serving.working.account here).1]
    exact ⟨rfl, rfl⟩
  · nofun

theorem Serving.failed
    (serving : Serving domain watch journal journal.previous journal.previousRoute site)
    (error : StepError) (now : Nat) :
    Settled domain watch (site.setRecord journal.requestId (.whole (.failed error now))) := by
  refine serving.working.settle (by simp [Ledger.Record.failed]) ?_
  apply serving.working.watched.finish serving.working.mine
  · simp [Ledger.Record.failed]
  · rfl
  · nofun
  · intro _ track here
    obtain ⟨_, previous, route⟩ := serving.working.account here
    rw [serving.live, serving.route, previous, route]
    exact ⟨rfl, rfl⟩

theorem Waiting.failed (waiting : Waiting domain watch id site) (error : StepError) (now : Nat) :
    Watched domain watch (site.setRecord id (.whole (.failed error now))) := by
  apply waiting.watched.finish waiting.mine
  · simp [Ledger.Record.failed]
  · rfl
  · nofun
  intro _ track here
  have own := waiting.mine track here
  apply (waiting.watched.account track here).idle
  · exact fun journal found => own ▸ waiting.unheard journal found
  · rw [own, waiting.running]
    simp

theorem safe_commit (serving : Serving domain watch journal (some journal.requestId)
      (some journal.plan.rendered) site) (result : PublishResult) :
    SafeFor domain watch (Ends domain watch)
      (commit journal.requestId result) site := by
  apply serving_lasts.preserves.call_bind (by rfl) serving
  intro now clocked serving
  apply Safe.andThen
  apply safe_attempt serving.working.watched
  · exact serving.working.watched
  intro saved applied
  cases applied
  have settled := serving.committed result now
  exact ⟨settled.watched, safe_closing settled _⟩

theorem safe_compensate (working : Working domain watch journal site) (error : StepError) :
    SafeFor domain watch (Ends domain watch) (compensate journal error) site := by
  refine (safe_undo working).attempt (fun _ _ reached => reached.watched) fun _ undone reached => ?_
  have serving : Serving domain watch journal journal.previous journal.previousRoute undone := reached
  apply serving_lasts.preserves.call_bind (by rfl) serving
  intro now clocked serving
  apply Safe.andThen
  apply safe_attempt serving.working.watched
  · exact serving.working.watched
  intro saved applied
  cases applied
  have settled := serving.failed error now
  exact ⟨settled.watched, safe_closing settled _⟩

theorem safe_close {α : Type} (waiting : Waiting domain watch id site)
    (recorded answered : StepError) (good : α → Site → Prop) :
    SafeFor domain watch (Outcomes good fun _ after => Watched domain watch after)
      (close id recorded answered) site := by
  apply waiting_lasts.preserves.call_bind (by rfl) waiting
  intro now clocked waiting
  apply Safe.andThen
  apply safe_attempt waiting.watched
  · exact waiting.watched
  intro saved applied
  cases applied
  exact ⟨waiting.failed recorded now, waiting.failed recorded now⟩

theorem safe_loadRecord {post : Option (Ledger.Record StepError PublishResult) → Site → Prop}
    (holds : Watched domain watch site) (unread : post none site)
    (read : ∀ record, site.status? id = some record.status → post (some record) site) :
    SafeFor domain watch post (step (.loadRecord id)) site := by
  apply holding_call
  intro chance _
  refine ⟨holds, ?_⟩
  dsimp only [machine_exec, exec]
  cases chance.fails with
  | some error => exact unread
  | none =>
    cases found : site.records.load id with
    | none => exact unread
    | some record => exact read record (Ledger.Records.status?_of_load found)

theorem safe_clearFinished (waiting : Waiting domain watch id site) :
    SafeFor domain watch (Outcomes
        (fun _ after => Waiting domain watch id after) (fun _ after => Watched domain watch after))
      (clearFinished id) site := by
  apply waiting_lasts.preserves.call_bind (by rfl) waiting
  intro present looked waiting
  cases present with
  | false => exact waiting
  | true =>
  apply holding_call_bind
  intro chance _
  refine ⟨waiting.watched, ?_⟩
  dsimp only [machine_exec, exec]
  cases chance.fails with
  | some error => exact waiting.watched
  | none =>
  cases found : looked.pending with
  | none => exact waiting.watched
  | some journal =>
  apply Safe.bind
  apply safe_loadRecord waiting.watched
  · exact waiting.watched
  intro record status
  by_cases running : record.status = .inProgress
  · simp only [running, if_true]
    exact safe_close waiting _ _ _
  simp only [running, if_false]
  have settled : Settled domain watch looked := by
    refine ⟨waiting.watched, fun other same => ?_⟩
    rw [found] at same
    cases same
    rw [status]
    exact fun stands => running (Option.some.inj stands)
  apply safe_removePending settled waiting.watched
  intro cleared
  exact ⟨cleared, waiting.mine, waiting.running, nofun⟩

theorem safe_inspect
    (holds : Watched domain watch site) (failed : ∀ error, post (.error error) site)
    (done : post (.ok ()) site) : SafeFor domain watch post inspect site := by
  apply holding_call
  intro chance _
  dsimp only [machine_exec, exec]
  exact settle_cases (fun error => ⟨holds, failed error⟩)
    (fun error => ⟨holds, failed error⟩) ⟨holds, done⟩

theorem safe_check {post : Except StepError (Option Text) → Site → Prop}
    (holds : Watched domain watch site) (failed : ∀ error, post (.error error) site)
    (done : post (.ok site.route) site) :
    SafeFor domain watch post (check plan) site := by
  apply Safe.andThen
  apply safe_inspect holds
  · exact failed
  apply Safe.andThen
  apply safe_readRoute holds
  · exact failed
  show SafeFor domain watch post _ site
  revert done
  cases site.route with
  | none => exact fun done => done
  | some content =>
  intro done
  dsimp only
  split
  · exact done
  · exact failed _

section

variable (waiting : Waiting domain watch id site)
  (planned : ∀ track, watch = some track → track.plan = plan) (within : plan.domain = domain)
include waiting planned within

theorem safe_prepare :
    SafeFor domain watch (Outcomes
        (fun journal after => Working domain watch journal after ∧ journal.requestId = id)
        (fun _ after => Waiting domain watch id after)) (prepare plan id) site := by
  apply Safe.andThen
  apply safe_check waiting.watched
  · exact fun error => waiting
  apply Safe.andThen
  apply safe_attempt waiting.watched
  · exact waiting
  intro opened applied
  cases applied
  refine ⟨waiting.watched, ?_⟩
  apply Safe.andThen
  apply safe_current waiting.watched
  · exact waiting
  show SafeFor domain watch _ _ site
  by_cases odd : site.current.isSome ≠ site.route.isSome
  · rw [if_pos odd]
    exact waiting
  rw [if_neg odd]
  apply Safe.andThen
  apply safe_attempt waiting.watched
  · exact waiting
  intro saved applied
  cases applied
  have working := waiting.journaled planned within
    { plan, requestId := id, previous := site.current, previousRoute := site.route } rfl rfl rfl rfl
  exact ⟨working.watched, working, rfl⟩

theorem safe_create :
    SafeFor domain watch (Ends domain watch) (create plan id) site := by
  refine (waiting_lasts.preserves.safe (quiet_attempt rfl) waiting).attempt
    (fun _ _ waiting => waiting.watched) fun _ saved waiting => ?_
  refine (safe_clearFinished waiting).attempt
    (fun _ _ reached => reached) fun _ cleared reached => ?_
  have waiting : Waiting domain watch id cleared := reached
  apply (safe_prepare waiting planned within).seq
  intro answer prepared reached
  cases answer with
  | error error =>
    apply Safe.mono _ (safe_close reached error error (Ends domain watch))
    intro ended after holds
    cases ended <;> exact holds
  | ok journal =>
    obtain ⟨working, own⟩ := reached
    subst own
    apply (safe_publish working).seq
    intro answer published reached
    cases answer with
    | ok result => exact safe_commit reached result
    | error error => exact safe_compensate reached error

end

/-- The request that is watched has not been heard of. -/
def Unheard (watch : Option Track) (id : RequestId) (site : Site) : Prop :=
  ∀ track, watch = some track → track.id = id ∧ site.records id = none

theorem Watched.sweep (watched : Watched domain watch site) (unheard : Unheard watch id site)
    {chance : Chance} : Watched domain watch (site.sweep chance) := by
  obtain ⟨sound, account⟩ := watched
  have before : ∀ {other status}, (site.sweep chance).status? other = some status →
      site.status? other = some status := fun found => Ledger.Records.status?_sweep found
  refine ⟨?_, fun track here => ?_⟩
  · refine sound.less rfl rfl rfl (fun _ there => there) (fun _ running => before running) ?_
    intro other record found
    refine sound.dated other record ?_
    have loaded : (site.records.sweep chance.now chance.recordSwept).load other = some record := found
    unfold Ledger.Records.load Ledger.Records.sweep at loaded
    split at loaded
    · rename_i file same
      split at same
      · contradiction
      · cases loaded
        simp [Ledger.Records.load, same]
    · contradiction
  · obtain ⟨own, absent⟩ := unheard track here
    obtain ⟨journal, lasting, idle, committed, failed⟩ := account track here
    have nothing : site.status? track.id = none := by
      rw [own]
      exact Ledger.Records.status?_of_absent absent
    have still : (site.sweep chance).status? track.id = none := by
      cases found : (site.sweep chance).status? track.id with
      | none => rfl
      | some status => exact absurd (nothing.symm.trans (before found)) (by simp)
    refine ⟨journal, fun other found same => ?_, fun absent _ => ?_, fun ended => ?_, fun ended => ?_⟩
    · have kept := lasting other found same
      simp [nothing] at kept
    · exact idle absent (by simp [nothing])
    · exact absurd (still.symm.trans ended) (by simp)
    · exact absurd (still.symm.trans ended) (by simp)

theorem Watched.begin (watched : Watched domain watch site)
    (mine : ∀ track, watch = some track → track.id = id)
    (unfinished : ∀ track, watch = some track → site.status? id = none ∨
      site.status? id = some .inProgress)
    (unheard : ∀ journal, site.pending = some journal → journal.requestId ≠ id)
    {file : Ledger.File StepError PublishResult} (young : file = .torn ∨ file = .whole .begun) :
    Watched domain watch (site.setRecord id file) := by
  obtain ⟨sound, account⟩ := watched
  have loads : ∀ {other record}, (site.setRecord id file).records.load other = some record →
      record.status ≠ .inProgress → site.records.load other = some record := by
    intro other record found ended
    by_cases same : other = id
    · subst same
      rcases young with torn | begun
      · subst torn
        simp [Site.setRecord] at found
      subst begun
      have loaded : (site.setRecord other (.whole .begun)).records.load other = some .begun :=
        Ledger.Records.load_set_self _
      rw [loaded] at found
      cases found
      exact absurd rfl ended
    · have loaded : (site.setRecord id file).records.load other = site.records.load other :=
        Ledger.Records.load_set_of_ne same file
      rw [← loaded]
      exact found
  have elsewhere : ∀ {journal}, site.pending = some journal →
      (site.setRecord id file).status? journal.requestId = site.status? journal.requestId :=
    fun found => status?_setRecord_of_ne (unheard _ found) file
  refine ⟨?_, fun track here => ?_⟩
  · exact sound.less rfl rfl rfl (fun _ there => there)
      (fun found running => elsewhere found ▸ running)
      fun other record found ended => sound.dated other record (loads found ended) ended
  have own := mine track here
  have young : ∀ {ended : TransactionStatus}, ended ≠ .inProgress →
      (site.setRecord id file).status? track.id ≠ some ended := by
    intro ended differs same
    rw [own] at same
    rcases young with torn | begun
    · subst torn
      simp [Site.status?, Site.setRecord] at same
    · subst begun
      rw [status?_setRecord_self] at same
      exact differs (Option.some.inj same).symm
  have served := (account track here).idle (fun journal found => own ▸ unheard journal found) (by
    rw [own]
    rcases unfinished track here with absent | running
    · simp [absent]
    · simp [running])
  refine ⟨fun journal found same => ?_, fun journal found same => ?_, fun _ _ => served,
    fun ended => absurd ended (young (by simp)), fun _ => served⟩
  · exact absurd (same.trans own) (unheard journal found)
  · exact absurd (same.trans own) (unheard journal found)

theorem watched_lasts : Lasts domain watch (Watched domain watch) where
  watched _ watched := watched
  congr _ _ watched same := watched.congr same

theorem quiet_replay (plan : Plan) (original : RequestId) :
    (replay plan original).Every Quiet := by
  apply Program.every_call_bind (by rfl)
  intro stored
  cases stored with
  | none => trivial
  | some stored =>
  dsimp only
  split
  · trivial
  apply Program.every_call_bind (by rfl)
  intro record
  cases record with
  | none => trivial
  | some record => dsimp only; split <;> trivial

theorem safe_execute (watched : Watched domain watch site)
    (unheard : Unheard watch id site) (planned : ∀ track, watch = some track → track.plan = plan)
    (within : plan.domain = domain) :
    SafeFor domain watch (Ends domain watch) (execute plan id) site := by
  have mine : ∀ track, watch = some track → track.id = id := fun track here => (unheard track here).1
  apply Safe.andThen
  apply safe_attempt watched
  · exact watched
  intro opened applied
  cases applied
  refine ⟨watched, ?_⟩
  apply holding_call_bind
  intro chance fresh
  have swept : Watched domain watch (site.sweep chance) := watched.sweep unheard
  dsimp only [machine_exec, exec]
  cases admission : chance.admission with
  | refused => exact ⟨swept, swept⟩
  | replay original => exact ⟨swept, watched_lasts.preserves.safe (quiet_replay plan original) swept⟩
  | proceed =>
  cases recorded : (site.sweep chance).records id with
  | some file => exact ⟨swept, swept⟩
  | none =>
  have unjournaled : ∀ journal, site.pending = some journal → journal.requestId ≠ id :=
    fresh recorded
  have absent : (site.sweep chance).status? id = none :=
    Ledger.Records.status?_of_absent recorded
  have torn : Watched domain watch ((site.sweep chance).setRecord id .torn) :=
    swept.begin mine (fun _ _ => .inl absent) unjournaled (.inl rfl)
  refine ⟨torn, ?_⟩
  apply Safe.andThen
  apply safe_attempt torn
  · exact torn
  intro begun applied
  cases applied
  have nothing : ((site.sweep chance).setRecord id .torn).status? id = none :=
    Ledger.Records.status?_set_torn
  have running := torn.begin mine (fun _ _ => .inl nothing) unjournaled (.inr rfl)
  have waiting : Waiting domain watch id
      (((site.sweep chance).setRecord id .torn).setRecord id (.whole .begun)) :=
    ⟨running, mine, status?_setRecord_self _, unjournaled⟩
  exact ⟨running, safe_create waiting planned within⟩

/-! ## The recovery -/

theorem safe_finish (watched : Watched domain watch site) :
    SafeFor domain watch (Ends domain watch) finish site := by
  have quiet : finish.Every Quiet := ⟨rfl, fun _ => trivial⟩
  exact watched_lasts.preserves.safe quiet watched

variable {pending : Option Journal}

theorem safe_tidy (watched : Watched domain watch site) (id : RequestId)
    (found : site.pending = pending) (ended : site.status? id ≠ some .inProgress) :
    SafeFor domain watch (Ends domain watch) (tidy id pending) site := by
  unfold tidy
  cases pending with
  | none => exact safe_finish watched
  | some journal =>
  by_cases own : journal.requestId = id
  · simp only [own, if_true]
    have settled : Settled domain watch site := by
      refine ⟨watched, fun other same => ?_⟩
      rw [found] at same
      cases same
      rw [own]
      exact ended
    apply Safe.andThen
    apply safe_removePending settled watched
    exact fun cleared => safe_finish cleared
  · simp only [own, if_false]
    exact safe_finish watched

/-- The pending journal, as the recovery of the request finds it. -/
def Resumed (domain : Domain) (watch : Option Track) (id : RequestId) (pending : Option Journal) :
    Except StepError Unit → Site → Prop :=
  Outcomes (fun _ after => Watched domain watch after ∧ after.pending = pending ∧
      after.status? id ≠ some .inProgress)
    (fun _ after => Watched domain watch after)

theorem safe_resume (watched : Watched domain watch site)
    (mine : ∀ track, watch = some track → track.id = id)
    (running : site.status? id = some .inProgress) (found : site.pending = pending) :
    SafeFor domain watch (Resumed domain watch id pending)
      (resume domain id pending) site := by
  unfold resume
  cases pending with
  | none =>
    have waiting : Waiting domain watch id site :=
      ⟨watched, mine, running, fun journal here => by simp [found] at here⟩
    have quiet : Lasts domain watch
        (fun after => Waiting domain watch id after ∧ after.pending = none) :=
      ⟨fun _ holds => holds.1.watched, fun before after holds same =>
        ⟨waiting_lasts.congr before after holds.1 same, same.pending.trans holds.2⟩⟩
    apply quiet.preserves.call_bind (by rfl) ⟨waiting, found⟩
    intro now clocked holds
    obtain ⟨waiting, found⟩ := holds
    apply safe_attempt waiting.watched
    · exact waiting.watched
    intro saved applied
    cases applied
    refine ⟨waiting.failed _ now, waiting.failed _ now, found, ?_⟩
    rw [status?_setRecord_self]
    simp [Ledger.Record.failed]
  | some journal =>
    by_cases foreign : journal.requestId ≠ id ∨ journal.plan.domain ≠ domain
    · simp only [foreign, if_true]
      exact watched
    simp only [foreign, if_false]
    have own : journal.requestId = id := by
      by_contra apart
      exact foreign (.inl apart)
    subst own
    have working : Working domain watch journal site := ⟨watched, mine, running, found⟩
    apply Safe.andThen
    apply safe_attempt watched
    · exact watched
    intro opened applied
    cases applied
    refine ⟨watched, ?_⟩
    refine (safe_undo working).attempt
      (fun _ _ reached => reached.watched) fun _ undone reached => ?_
    have serving : Serving domain watch journal journal.previous journal.previousRoute undone :=
      reached
    apply serving_lasts.preserves.call_bind (by rfl) serving
    intro now clocked serving
    apply safe_attempt serving.working.watched
    · exact serving.working.watched
    intro saved applied
    cases applied
    exact ⟨(serving.failed _ now).watched, (serving.failed _ now).watched, serving.working.stored,
      (serving.failed _ now).ended journal serving.working.stored⟩

theorem safe_findJournal {post : Except StepError (Option Journal) → Site → Prop}
    (holds : Watched domain watch site) (failed : post (.error internal) site)
    (done : post (.ok site.pending) site) :
    SafeFor domain watch post findJournal site := by
  apply holding_call_bind
  intro chance _
  refine ⟨holds, ?_⟩
  dsimp only [machine_exec, exec]
  cases chance.fails.isNone with
  | false => exact failed
  | true =>
  cases found : site.pending with
  | none =>
    rw [found] at done
    exact done
  | some journal =>
  apply holding_call_bind
  intro chance _
  refine ⟨holds, ?_⟩
  dsimp only [machine_exec, exec]
  rw [found] at done ⊢
  cases chance.fails.isNone with
  | false => exact failed
  | true => exact done

theorem safe_recover (watched : Watched domain watch site)
    (mine : ∀ track, watch = some track → track.id = id) :
    SafeFor domain watch (Ends domain watch) (recover domain id) site := by
  apply Safe.andThen
  apply safe_attempt watched
  · exact watched
  intro opened applied
  cases applied
  refine ⟨watched, ?_⟩
  apply safe_write_bind watched
  · exact watched
  intro locked applied
  cases applied
  refine ⟨watched, ?_⟩
  apply Safe.bind
  apply safe_loadRecord watched
  · exact watched
  intro record status
  apply Safe.andThen
  apply safe_findJournal watched
  · exact watched
  by_cases running : record.status = .inProgress
  · simp only [running, if_true]
    refine (safe_resume watched mine (status.trans (congrArg some running)) rfl).attempt
      (fun _ _ reached => reached) fun _ resumed reached => ?_
    obtain ⟨watched, found, ended⟩ := reached
    exact safe_tidy watched id found ended
  · simp only [running, if_false]
    apply safe_tidy watched id rfl
    rw [status]
    exact fun same => running (Option.some.inj same)

end Process

end OpsEngine.Publish
