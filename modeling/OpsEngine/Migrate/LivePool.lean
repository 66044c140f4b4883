import OpsEngine.Migrate.Operations

namespace OpsEngine.Migrate

open Effect

/-! # The pool behind the live route

A journal says which pools its migration may still have to take apart.  As long
as there is at most one journal, and the one there is says truly how far its
migration has come, the pool the route names is never among them.
-/

/-- The pool the route names holds the domain's identity, service and exec
config. -/
def Served (fleet : Fleet) : Prop :=
  ∃ route runtime, fleet.route? = some route ∧ runtimeOfRoute route.content = some runtime ∧
    (fleet.pools runtime).Whole

/-- The journal on disk is of the same migration, and both are in the cleanup
phase or neither. -/
structure Alike (stored journal : Journal) : Prop where
  same : stored = { journal with phase := stored.phase, target := stored.target }
  cleanup : stored.phase = .cleanup ↔ journal.phase = .cleanup

section Rules

variable [Sha256]

/-- A content the journal's migration may set the route to: its hash is not mistaken for
that of the previous one. -/
def Next (journal : Journal) (content : Text) : Prop :=
  runtimeOfRoute content = some journal.toRuntime ∧
    (ConfigHash.of content = journal.previousRouteSha256 → content = journal.previousRoute)

/-- The route is one the migration has set. -/
def Moved (journal : Journal) (fleet : Fleet) : Prop :=
  ∃ content, Next journal content ∧ fleet.route? = some ⟨journal.routeKind, content⟩

/-- How far the migration of a journal has come. -/
def Standing (journal : Journal) (fleet : Fleet) : Prop :=
  match journal.phase with
  | .preparing => fleet.route? = some ⟨journal.routeKind, journal.previousRoute⟩
  | .cutover =>
    (fleet.route? = some ⟨journal.routeKind, journal.previousRoute⟩ ∨ Moved journal fleet) ∧
    (fleet.pools journal.fromRuntime).Whole
  | .cleanup => Moved journal fleet

/-- The journal is one that `run` wrote, and its migration is where it says. -/
structure Fits (journal : Journal) (fleet : Fleet) : Prop where
  apart : journal.fromRuntime ≠ journal.toRuntime
  previousHash : journal.previousRouteSha256 = .of journal.previousRoute
  previous : runtimeOfRoute journal.previousRoute = some journal.fromRuntime
  standing : Standing journal fleet

structure Sound (fleet : Fleet) : Prop where
  served : Served fleet
  single : fleet.journals.length ≤ 1
  fits : ∀ id journal, (id, .whole journal) ∈ fleet.journals → Fits journal fleet

/-- What holds while a process works from `journal`. -/
structure Held (journal : Journal) (fleet : Fleet) : Prop where
  sound : Sound fleet
  fits : Fits journal fleet
  own : ∃ file, fleet.journals = [(journal.requestId, file)] ∧
    ∀ stored, file = .whole stored → Alike stored journal

/-- The hash tells the content from that of the route file: no collision of SHA-256. -/
def Distinct (fleet : Fleet) (kind : RouteKind) (content : Text) : Prop :=
  ∀ previous ∈ fleet.routeFile kind, ConfigHash.of content = .of previous → content = previous

/-- A migration starts only where no journal is pending, the hash tells a new route from
the previous one, and the journal that announces the cleanup is saved. -/
def Serial (chance : Chance) : Step → Fleet → Prop
  | .createJournal _, fleet => fleet.journals.isEmpty = true
  | .activateRoute kind content _, fleet => Distinct fleet kind content
  | .saveJournal journal, _ => journal.phase = .cleanup → chance.fails = none
  | _, _ => True

instance (chance : Chance) (step : Step) (fleet : Fleet) : Decidable (Serial chance step fleet) := by
  cases step <;> dsimp only [Serial, Distinct] <;> infer_instance

abbrev serial : Discipline Step Fleet Unit Chance := .holding machine Serial Sound

abbrev Keeps {α : Type} (program : Task α) (fleet : Fleet) : Prop :=
  Safe machine serial () (fun _ after => Sound after) program fleet

/-! The journals, the records and the rest of the fleet are apart. -/

variable {before after : Fleet} {runtime : RuntimeId} {operation : Step} {chance : Chance}
    {journal : Journal} {fleet : Fleet}

section

variable (routes : after.route? = before.route?) (pools : after.pools = before.pools)
include routes pools

theorem Standing.congr (standing : Standing journal before) : Standing journal after := by
  unfold Standing Moved at *
  rw [routes, pools]
  exact standing

theorem Fits.congr (fits : Fits journal before) : Fits journal after :=
  { fits with standing := fits.standing.congr routes pools }

omit [Sha256] in
theorem Served.congr (served : Served before) : Served after := by
  unfold Served at *
  rw [routes, pools]
  exact served

end

/-- Removing journals and touching records keeps a fleet sound. -/
theorem Sound.fewer (sound : Sound before)
    (routes : after.route? = before.route?) (pools : after.pools = before.pools)
    (fewer : after.journals.Sublist before.journals) : Sound after where
  served := sound.served.congr routes pools
  single := fewer.length_le.trans sound.single
  fits id journal member := (sound.fits id journal (fewer.subset member)).congr routes pools

theorem Sound.dropJournal (sound : Sound fleet) (id : RequestId) :
    Sound (fleet.dropJournal id) :=
  sound.fewer rfl rfl List.filter_sublist

theorem Sound.setRecord (sound : Sound fleet) (id : RequestId) (record : Option Record) :
    Sound (fleet.setRecord id record) :=
  sound.fewer rfl rfl (List.Sublist.refl _)

theorem Sound.sweep (sound : Sound fleet) (now : Nat) (swept : RequestId → Swept) :
    Sound (fleet.sweep now swept) :=
  sound.fewer rfl rfl List.filter_sublist

/-! The pool of a step. -/

theorem Fits.setPool (fits : Fits journal fleet) (artifacts : Artifacts)
    (unneeded : journal.phase = .cutover → journal.fromRuntime ≠ runtime) :
    Fits journal (fleet.setPool runtime artifacts) := by
  refine { fits with standing := ?_ }
  have standing := fits.standing
  unfold Standing at *
  cases phase : journal.phase with
  | preparing | cleanup => rwa [phase] at standing
  | cutover =>
    rw [phase] at standing
    refine ⟨standing.1, ?_⟩
    have other := unneeded phase
    simpa [Fleet.setPool, Function.update_of_ne other] using standing.2

theorem Sound.setPool (sound : Sound fleet) (artifacts : Artifacts)
    (unserved : ∀ route, fleet.route? = some route → runtimeOfRoute route.content ≠ some runtime)
    (unneeded : ∀ id journal, (id, .whole journal) ∈ fleet.journals → journal.phase = .cutover →
      journal.fromRuntime ≠ runtime) : Sound (fleet.setPool runtime artifacts) where
  served := by
    obtain ⟨route, serving, read, names, whole⟩ := sound.served
    have other : serving ≠ runtime := fun same => unserved route read (same ▸ names)
    refine ⟨route, serving, read, names, ?_⟩
    simpa [Fleet.setPool, Function.update_of_ne other] using whole
  single := sound.single
  fits id journal member :=
    (sound.fits id journal member).setPool artifacts (unneeded id journal member)

omit [Sha256] in
theorem journals_setJournal {id : RequestId} {file : JournalFile}
    (only : fleet.journals = [(id, file)]) (updated : JournalFile) :
    (fleet.setJournal id updated).journals = [(id, updated)] := by
  simp [Fleet.setJournal, Fleet.dropJournal, only]

theorem held_setJournal (sound : Sound fleet)
    (fits : Fits journal fleet) (own : ∃ file, fleet.journals = [(journal.requestId, file)]) :
    Held journal (fleet.setJournal journal.requestId (.whole journal)) := by
  obtain ⟨file, only⟩ := own
  have journals := journals_setJournal only (.whole journal)
  have kept : Fits journal (fleet.setJournal journal.requestId (.whole journal)) := by
    apply Fits.congr _ _ fits <;> rfl
  refine ⟨⟨sound.served.congr rfl rfl, by simp [journals], ?_⟩, kept, _, journals, ?_⟩
  · intro id stored member
    rw [journals] at member
    cases List.mem_singleton.mp member
    exact kept
  · intro stored same
    cases same
    exact ⟨rfl, Iff.rfl⟩

namespace Held

section

variable (held : Held journal fleet)
include held

theorem mark (target : TargetArtifacts) :
    Held (journal.mark target) fleet := by
  obtain ⟨sound, fits, file, only, alike⟩ := held
  refine ⟨sound, ⟨fits.apart, fits.previousHash, fits.previous, fits.standing⟩, file, only,
    fun stored same => ?_⟩
  exact ⟨(alike stored same).same, (alike stored same).cleanup⟩

theorem turn (before : journal.phase ≠ .cleanup) {phase : Phase}
    (after : phase ≠ .cleanup) (standing : Standing (journal.enter phase) fleet) :
    Held (journal.enter phase) fleet := by
  obtain ⟨sound, fits, file, only, alike⟩ := held
  refine ⟨sound, ⟨fits.apart, fits.previousHash, fits.previous, standing⟩, file, only,
    fun stored same => ?_⟩
  have known := alike stored same
  exact ⟨known.same, ⟨fun ended => absurd (known.cleanup.mp ended) before,
    fun ended => absurd ended after⟩⟩

section

variable (route : fleet.route? = some ⟨journal.routeKind, journal.previousRoute⟩)
include route

theorem whole_of_previous :
    (fleet.pools journal.fromRuntime).Whole := by
  obtain ⟨found, runtime, read, names, whole⟩ := held.sound.served
  rw [route] at read
  cases read
  rw [held.fits.previous] at names
  cases names
  exact whole

end

/-- The other pool than the one the route names can be changed, if no cutover of
this migration may go back to it. -/
theorem setPool {route : Route} {serving : RuntimeId} (read : fleet.route? = some route)
    (names : runtimeOfRoute route.content = some serving) (other : serving ≠ runtime)
    (unneeded : ∀ stored, Alike stored journal → stored.phase = .cutover →
      stored.fromRuntime ≠ runtime) (artifacts : Artifacts) :
    Held journal (fleet.setPool runtime artifacts) := by
  obtain ⟨sound, fits, file, only, alike⟩ := held
  refine ⟨sound.setPool artifacts ?_ ?_, fits.setPool artifacts (unneeded journal ⟨rfl, Iff.rfl⟩),
    file, only, alike⟩
  · intro found same
    rw [read] at same
    cases same
    rw [names]
    exact fun same => other (Option.some.inj same)
  · intro id stored member
    rw [only] at member
    cases List.mem_singleton.mp member
    exact unneeded stored (alike stored rfl)

end

end Held

/-- A process works from `journal` and the route is still, or again, the
previous one. -/
structure Before (journal : Journal) (fleet : Fleet) : Prop where
  held : Held journal fleet
  route : fleet.route? = some ⟨journal.routeKind, journal.previousRoute⟩

theorem Before.setPool (ready : Before journal fleet) (artifacts : Artifacts) :
    Before journal (fleet.setPool journal.toRuntime artifacts) := by
  have fits := ready.held.fits
  refine ⟨ready.held.setPool ready.route fits.previous fits.apart ?_ artifacts, ready.route⟩
  intro stored alike _
  rw [alike.same]
  exact fits.apart

inductive PoolStep (runtime : RuntimeId) : Step → Prop where
  | allocateIdentity (source : Identity) : PoolStep runtime (.allocateIdentity runtime source)
  | writeService (identity : Identity) : PoolStep runtime (.writeService runtime identity)
  | activateExecConfig (content : Text) : PoolStep runtime (.activateExecConfig runtime content)
  | removeExecConfig : PoolStep runtime (.removeExecConfig runtime)
  | removeService : PoolStep runtime (.removeService runtime)
  | releaseIdentity : PoolStep runtime (.releaseIdentity runtime)

omit [Sha256] in
@[elab_as_elim] theorem settle_cases {motive : Except StepError Unit × Fleet → Prop} {chance : Chance}
    {before after : Fleet} (failed : ∀ error, motive (.error error, before))
    (late : ∀ error, motive (.error error, after)) (done : motive (.ok (), after)) :
    motive (chance.settle before after) := by
  unfold Chance.settle
  cases chance.fails with
  | none => exact done
  | some error =>
    cases chance.takes with
    | false => exact failed error
    | true => exact late error

theorem pool_step {good : Fleet → Prop} (member : PoolStep runtime operation) (chance : Chance)
    (stays : good fleet) (changes : ∀ artifacts, good (fleet.setPool runtime artifacts)) :
    good (exec chance operation fleet).2 := by
  have settles : ∀ artifacts, good (chance.settle fleet (fleet.setPool runtime artifacts)).2 :=
    fun artifacts => settle_cases (fun _ => stays)
      (fun _ => changes artifacts) (changes artifacts)
  cases member with
  | allocateIdentity source =>
    simp only [exec]
    cases chance.fails with
    | none => exact changes _
    | some error =>
      cases chance.takes with
      | false => exact stays
      | true => exact changes _
  | activateExecConfig content =>
    simp only [exec]
    split
    · exact stays
    · exact settles _
  | writeService | removeExecConfig | removeService | releaseIdentity => exact settles _

/-! The programs. -/

def Kept (before after : Fleet) : Prop :=
  after.route? = before.route? ∧ after.pools = before.pools

theorem machine_exec (chance : Chance) (operation : Step) (fleet : Fleet) :
    machine.exec () chance operation fleet = exec chance operation fleet := rfl

omit [Sha256] in
@[elab_as_elim] theorem store_cases {motive : Except StepError Unit × Fleet → Prop} {chance : Chance}
    {before after : Fleet} (failed : ∀ error, motive (.error error, before))
    (done : motive (.ok (), after)) : motive (chance.store before after) := by
  unfold Chance.store
  cases chance.fails with
  | none => exact done
  | some error => exact failed error

theorem safe_save (held : Held journal fleet) :
    Safe machine serial () (fun answer after => Held journal after ∧ Kept fleet after ∧
        (answer = .ok () → after.journals = [(journal.requestId, .whole journal)]))
      (Store.save journal) fleet := by
  obtain ⟨file, only, _⟩ := held.own
  apply holding_call_bind
  intro chance _
  dsimp only [machine_exec, exec]
  refine store_cases (fun _ => ?_) ?_
  · exact ⟨held.sound, held, ⟨rfl, rfl⟩, nofun⟩
  · have after := held_setJournal held.sound held.fits ⟨file, only⟩
    exact ⟨after.sound, after, ⟨rfl, rfl⟩, fun _ => journals_setJournal only _⟩

theorem Before.kept (ready : Before journal before)
    (held : Held journal after) (kept : Kept before after) : Before journal after :=
  ⟨held, kept.1.trans ready.route⟩

theorem Before.mark (ready : Before journal fleet) (target : TargetArtifacts) :
    Before (journal.mark target) fleet :=
  ⟨ready.held.mark target, ready.route⟩

theorem safe_pool_step {post : Answer operation → Fleet → Prop} (ready : Before journal fleet)
    (member : PoolStep journal.toRuntime operation)
    (continues : ∀ chance, Before journal (exec chance operation fleet).2 →
      post (exec chance operation fleet).1 (exec chance operation fleet).2) :
    Safe machine serial () post (step operation) fleet := by
  apply holding_call
  intro chance _
  have kept := pool_step member chance ready ready.setPool
  exact ⟨kept.held.sound, continues chance kept⟩

theorem safe_removing {removal : Task (Except StepError Unit)} (ready : Before journal fleet)
    (safe : Safe machine serial () (fun _ after => Before journal after) removal fleet)
    (flag : Bool) (what : String) :
    Safe machine serial () (fun _ after => Before journal after) (removing flag what removal)
      fleet := by
  cases flag with
  | false => exact ready
  | true =>
  apply safe.seq
  intro answer after ready
  cases answer with
  | ok _ => exact ready
  | error error => exact ready

theorem safe_removeArtifacts (ready : Before journal fleet) :
    Keeps (removeArtifacts journal) fleet := by
  have removes : ∀ {operation after}, PoolStep journal.toRuntime operation →
      Before journal after →
      Safe machine serial () (fun _ after => Before journal after) (step operation) after :=
    fun member ready => safe_pool_step ready member fun _ kept => kept
  apply (safe_removing ready (removes .removeExecConfig ready) _ _).seq
  intro first fleet ready
  apply (safe_removing ready (removes .removeService ready) _ _).seq
  intro second fleet ready
  apply (safe_removing ready (removes .releaseIdentity ready) _ _).seq
  intro third fleet ready
  apply (safe_save (ready.held.mark ⟨third.1, second.1, first.1⟩)).seq
  intro _ after saved
  split
  · exact saved.1.sound
  · exact saved.1.sound

variable {content : Text} {kind : RouteKind}

omit [Sha256] in
theorem routeFile_of_route? (route : fleet.route? = some ⟨kind, content⟩) :
    fleet.routeFile kind = some content := by
  unfold Fleet.route? at route
  cases backup : fleet.backupRoute with
  | some found =>
    rw [backup] at route
    cases route
    exact backup
  | none =>
    rw [backup] at route
    obtain ⟨found, live, same⟩ := Option.map_eq_some_iff.mp route
    cases same
    exact live

omit [Sha256] in
theorem route?_setRoute (route : fleet.route? = some ⟨kind, content⟩) (updated : Text) :
    (fleet.setRoute kind updated).route? = some ⟨kind, updated⟩ := by
  unfold Fleet.route? at *
  cases backup : fleet.backupRoute with
  | some found =>
    rw [backup] at route
    cases route
    rfl
  | none =>
    rw [backup] at route
    cases live : fleet.liveRoute with
    | none => simp [live] at route
    | some found =>
      simp only [live, Option.map_some, Option.some.injEq, Route.mk.injEq] at route
      obtain ⟨rfl, _⟩ := route
      simp [Fleet.setRoute, backup]

theorem Sound.setRoute (sound : Sound fleet) {updated : Text}
    (route : fleet.route? = some ⟨kind, content⟩) (names : runtimeOfRoute updated = some runtime)
    (whole : (fleet.pools runtime).Whole)
    (standing : ∀ id journal, (id, .whole journal) ∈ fleet.journals →
      Standing journal (fleet.setRoute kind updated)) : Sound (fleet.setRoute kind updated) := by
  have pools : (fleet.setRoute kind updated).pools = fleet.pools := by cases kind <;> rfl
  have journals : (fleet.setRoute kind updated).journals = fleet.journals := by cases kind <;> rfl
  refine ⟨⟨_, runtime, route?_setRoute route updated, names, ?_⟩, ?_, ?_⟩
  · rw [pools]
    exact whole
  · rw [journals]
    exact sound.single
  · intro id journal member
    rw [journals] at member
    exact { sound.fits id journal member with standing := standing id journal member }

/-- A cutover takes the route from the previous content to the new one, or
back. -/
theorem Held.setRoute (held : Held journal fleet)
    (cutover : journal.phase = .cutover) {updated : Text}
    (route : fleet.route? = some ⟨journal.routeKind, content⟩)
    (known : updated = journal.previousRoute ∨ Next journal updated ∧
      (fleet.pools journal.toRuntime).Whole ∧
      ∀ id stored, (id, .whole stored) ∈ fleet.journals → stored.phase = .cutover) :
    Held journal (fleet.setRoute journal.routeKind updated) := by
  obtain ⟨sound, fits, file, only, alike⟩ := held
  have pools : (fleet.setRoute journal.routeKind updated).pools = fleet.pools := by
    cases journal.routeKind <;> rfl
  have journals : (fleet.setRoute journal.routeKind updated).journals = fleet.journals := by
    cases journal.routeKind <;> rfl
  have read := route?_setRoute route updated
  have source : (fleet.pools journal.fromRuntime).Whole := by
    have standing := fits.standing
    simp only [Standing, cutover] at standing
    exact standing.2
  have standing : Standing journal (fleet.setRoute journal.routeKind updated) := by
    simp only [Standing, cutover, read, pools]
    exact ⟨known.imp (congrArg _ <| congrArg _ ·) fun new => ⟨updated, new.1, read⟩, source⟩
  have others : ∀ id stored, (id, .whole stored) ∈ fleet.journals →
      Standing stored (fleet.setRoute journal.routeKind updated) := by
    intro id stored member
    have phases : updated = journal.previousRoute ∨ stored.phase = .cutover :=
      known.imp_right fun new => new.2.2 id stored member
    rw [only] at member
    cases List.mem_singleton.mp member
    obtain ⟨same, cleanup⟩ := alike stored rfl
    unfold Standing
    rw [read, pools]
    cases phase : stored.phase with
    | preparing =>
      rcases phases with rfl | cut
      · rw [same]
      · rw [cut] at phase
        contradiction
    | cutover =>
      rw [same]
      exact ⟨known.imp (congrArg _ <| congrArg _ ·) fun new => ⟨updated, new.1, read⟩, source⟩
    | cleanup =>
      rw [cleanup.mp phase] at cutover
      contradiction
  refine ⟨?_, { fits with standing }, file, journals.trans only, alike⟩
  rcases known with rfl | ⟨new, whole, _⟩
  · exact sound.setRoute route fits.previous source others
  · exact sound.setRoute route new.1 whole others

variable {route : Route}

theorem readRoute_eq (read : (exec chance .readRoute fleet).1 = .ok route) :
    fleet.route? = some route := by
  simp only [exec] at read
  split at read
  · rename_i found
    cases read
    exact found
  · contradiction
  · contradiction

theorem readRoute_same (chance : Chance) (fleet : Fleet) :
    (exec chance .readRoute fleet).2 = fleet := by
  simp only [exec]
  split <;> rfl

inductive Looking : Step → Prop where
  | readIdentity (runtime : RuntimeId) : Looking (.readIdentity runtime)
  | probe (service root : Text) (health : Option HealthCheck) :
      Looking (.probe service root health)
  | stopIdlePool (runtime : RuntimeId) : Looking (.stopIdlePool runtime)
  | readRoute : Looking .readRoute
  | lock : Looking .lock
  | readJournal (id : RequestId) : Looking (.readJournal id)
  | loadRecord (id : RequestId) : Looking (.loadRecord id)
  | now : Looking .now

theorem looking_same (looking : Looking operation) (chance : Chance) (fleet : Fleet) :
    (exec chance operation fleet).2 = fleet := by
  cases looking with
  | readIdentity | readJournal | loadRecord =>
    simp only [exec]
    cases chance.fails <;> rfl
  | probe | stopIdlePool =>
    simp only [exec, Chance.store]
    cases chance.fails <;> rfl
  | readRoute => exact readRoute_same chance fleet
  | lock | now => rfl

theorem safe_looking {α : Type} {rest : Answer operation → Task α} {post : α → Fleet → Prop}
    (sound : Sound fleet) (looking : Looking operation) (continues : ∀ chance,
      Safe machine serial () post (rest (exec chance operation fleet).1) fleet) :
    Safe machine serial () post (step operation >>= rest) fleet := by
  apply holding_call_bind
  intro chance _
  have same : (machine.exec () chance operation fleet).2 = fleet :=
    looking_same looking chance fleet
  rw [same]
  exact ⟨sound, continues chance⟩

theorem safe_activateRoute {expected : ConfigHash}
    {post : Except StepError Unit → Fleet → Prop} (sound : Sound fleet)
    (refused : ∀ error, post (.error error) fleet)
    (moves : Distinct fleet kind content → Sound (fleet.setRoute kind content) ∧
      ∀ answer, post answer (fleet.setRoute kind content)) :
    Safe machine serial () post (step (.activateRoute kind content expected)) fleet := by
  apply holding_call
  intro chance distinct
  obtain ⟨moved, done⟩ := moves distinct
  by_cases guarded : (fleet.routeFile kind).map ConfigHash.of = some expected
  · have allowed : machine.exec () chance (.activateRoute kind content expected) fleet =
        chance.settle fleet (fleet.setRoute kind content) := if_pos guarded
    rw [allowed]
    exact settle_cases (fun error => ⟨sound, refused error⟩)
      (fun _ => ⟨moved, done _⟩) ⟨moved, done _⟩
  · have stays : machine.exec () chance (.activateRoute kind content expected) fleet =
        (.error (chance.fails.getD hashMismatch), fleet) := if_neg guarded
    rw [stays]
    exact ⟨sound, refused _⟩

/-- Once the route is restored it is the previous one; if it is not, nothing was
lost. -/
theorem safe_restoreRoute (held : Held journal fleet) (cutover : journal.phase = .cutover) :
    Safe machine serial () (fun answer after => Held journal after ∧
      (answer = .ok () → after.route? = some ⟨journal.routeKind, journal.previousRoute⟩))
      (restoreRoute journal) fleet := by
  have standing := held.fits.standing
  simp only [Standing, cutover] at standing
  apply safe_looking held.sound .readRoute
  intro chance
  cases answer : (exec chance .readRoute fleet).1 with
  | error error => exact ⟨held, nofun⟩
  | ok route =>
  have found := readRoute_eq answer
  dsimp only
  split
  · rename_i hashed
    refine ⟨held, fun _ => ?_⟩
    rcases standing.1 with back | ⟨content, new, forward⟩
    · exact back
    rw [found, Option.some.injEq] at forward
    subst forward
    rw [found, new.2 hashed]
  · split
    · have kind : fleet.route? = some ⟨journal.routeKind, route.content⟩ := by
        rcases standing.1 with back | ⟨content, _, forward⟩
        · rw [found, Option.some.injEq] at back
          rw [found, back]
        · rw [found, Option.some.injEq] at forward
          rw [found, forward]
      have after := held.setRoute cutover kind (.inl rfl)
      have read := route?_setRoute kind journal.previousRoute
      apply Safe.bind
      refine safe_activateRoute held.sound (fun error => ⟨held, nofun⟩) fun _ => ⟨after.sound, ?_⟩
      · intro answer
        cases answer with
        | error error => exact ⟨after, fun _ => read⟩
        | ok _ => exact ⟨after, fun _ => read⟩
    · exact ⟨held, nofun⟩

theorem safe_rollBack (held : Held journal fleet) (unfinished : journal.phase ≠ .cleanup) :
    Keeps (rollBack journal) fleet := by
  unfold rollBack
  split
  · rename_i cutover
    refine (safe_restoreRoute held cutover).attempt (fun _ _ restored => restored.1.sound) ?_
    intro _ after restored
    have back := restored.2 rfl
    have turned : Held (journal.enter .preparing) after :=
      restored.1.turn unfinished (by simp) back
    apply (safe_save turned).seq
    intro _ later saved
    exact safe_removeArtifacts ⟨saved.1, saved.2.1.1.trans back⟩
  · rename_i other
    have route : fleet.route? = some ⟨journal.routeKind, journal.previousRoute⟩ := by
      have standing := held.fits.standing
      unfold Standing at standing
      cases phase : journal.phase with
      | preparing =>
        rw [phase] at standing
        exact standing
      | cutover => exact absurd phase other
      | cleanup => exact absurd phase unfinished
    exact safe_removeArtifacts ⟨held, route⟩

theorem Sound.store (sound : Sound fleet) (chance : Chance) (stored : Sound after) :
    Sound (chance.store fleet after).2 :=
  store_cases (fun _ => sound) stored

theorem safe_removeJournal (sound : Sound fleet) (id : RequestId) :
    Keeps (step (.removeJournal id)) fleet := by
  apply holding_call
  intro chance _
  exact ⟨sound.store chance (sound.dropJournal id), sound.store chance (sound.dropJournal id)⟩

theorem safe_saveRecord (sound : Sound fleet) (id : RequestId) (record : Record) :
    Keeps (step (.saveRecord id record)) fleet := by
  apply holding_call
  intro chance _
  exact ⟨sound.store chance (sound.setRecord id _), sound.store chance (sound.setRecord id _)⟩

section

variable (held : Held journal fleet)
include held

theorem safe_abort (unfinished : journal.phase ≠ .cleanup) (error : StepError) :
    Keeps (abort journal error) fleet := by
  refine (safe_rollBack held unfinished).attempt (fun _ _ sound => sound) ?_
  intro _ after sound
  apply Safe.bind
  apply (safe_removeJournal sound journal.requestId).seq
  intro _ later sound
  exact sound

theorem Held.clear (cleanup : journal.phase = .cleanup) (artifacts : Artifacts) :
    Held journal (fleet.setPool journal.fromRuntime artifacts) := by
  have standing := held.fits.standing
  simp only [Standing, cleanup] at standing
  obtain ⟨content, new, read⟩ := standing
  refine held.setPool read new.1 held.fits.apart.symm ?_ artifacts
  intro stored alike cutover
  rw [alike.cleanup.mpr cleanup] at cutover
  contradiction

theorem safe_clear_step
    (cleanup : journal.phase = .cleanup) (member : PoolStep journal.fromRuntime operation) :
    Safe machine serial () (fun _ after => Held journal after) (step operation) fleet := by
  apply holding_call
  intro chance _
  have cleared := pool_step member chance held (held.clear cleanup)
  exact ⟨cleared.sound, cleared⟩

theorem safe_cleanOldPool (cleanup : journal.phase = .cleanup) :
    Keeps (cleanOldPool journal) fleet := by
  apply (safe_clear_step held cleanup .removeExecConfig).seq
  intro _ fleet held
  apply (safe_clear_step held cleanup .removeService).seq
  intro _ fleet held
  apply (safe_clear_step held cleanup .releaseIdentity).seq
  intro _ fleet held
  split
  · apply safe_looking held.sound (.stopIdlePool journal.fromRuntime)
    exact fun _ => held.sound
  · exact held.sound

theorem safe_finish (moved : Moved journal fleet) (request : Request) (allocated : Identity) :
    Keeps (finish request journal allocated) fleet := by
  obtain ⟨file, only, _⟩ := held.own
  have fits : Fits (journal.enter .cleanup) fleet :=
    ⟨held.fits.apart, held.fits.previousHash, held.fits.previous, moved⟩
  have after := held_setJournal held.sound fits ⟨file, only⟩
  apply Safe.bind
  apply holding_call_bind
  intro chance admitted
  have saved : chance.fails = none := admitted rfl
  have stored : machine.exec () chance (.saveJournal (journal.enter .cleanup)) fleet =
      (.ok (), fleet.setJournal journal.requestId (.whole (journal.enter .cleanup))) := by
    show chance.store _ _ = _
    simp only [Chance.store, saved]
    rfl
  rw [stored]
  refine ⟨after.sound, ?_⟩
  apply (safe_cleanOldPool after rfl).seq
  intro _ fleet sound
  apply safe_looking sound .now
  exact fun _ => sound

end

theorem allocated_identity {source allocated : Identity}
    (answered : (exec chance (.allocateIdentity runtime source) fleet).1 = .ok allocated) :
    ((exec chance (.allocateIdentity runtime source) fleet).2.pools runtime).identity.isSome := by
  simp only [exec] at answered ⊢
  split at answered
  · simp [Fleet.setPool]
  · contradiction

theorem written_service {identity : Identity}
    (answered : (exec chance (.writeService runtime identity) fleet).1 = .ok ()) :
    (exec chance (.writeService runtime identity) fleet).2.pools runtime =
      { fleet.pools runtime with service := true } := by
  simp only [exec, Chance.settle] at answered ⊢
  split at answered
  · simp [Fleet.setPool]
  · contradiction

theorem activated_execConfig
    (answered : (exec chance (.activateExecConfig runtime content) fleet).1 = .ok ()) :
    (exec chance (.activateExecConfig runtime content) fleet).2.pools runtime =
      { fleet.pools runtime with execConfig := some content } := by
  simp only [exec, Chance.settle] at answered ⊢
  cases absent : (fleet.pools runtime).execConfig with
  | some found =>
    rw [absent] at answered
    contradiction
  | none =>
  rw [absent] at answered
  dsimp only at answered ⊢
  split at answered
  · simp [Fleet.setPool]
  · contradiction

section

variable (ready : Before journal fleet)
include ready

theorem safe_announced
    {α : Type} {creation : Task (Except StepError α)} {post : Except StepError α → Fleet → Prop}
    (refused : ∀ error after, Before journal after → post (.error error) after)
    (safe : ∀ after, Before journal after → after.pools = fleet.pools →
      Safe machine serial () post creation after) :
    Safe machine serial () post (announced journal creation) fleet := by
  apply (safe_save ready.held).seq
  intro answer after saved
  have before := ready.kept saved.1 saved.2.1
  cases answer with
  | error error => exact refused error after before
  | ok _ => exact safe after before saved.2.1.2

/-- What a step that creates an artifact of the target pool leaves: if it
succeeds, the pool is related by `made` to what it was. -/
structure Made (journal : Journal) (made : Artifacts → Prop) {α : Type}
    (answer : Except StepError α) (fleet : Fleet) : Prop where
  ready : Before journal fleet
  made : ∀ result, answer = .ok result → made (fleet.pools journal.toRuntime)

theorem Made.failed {made : Artifacts → Prop} {α : Type} (error : StepError) :
    Made journal made (.error error : Except StepError α) fleet :=
  ⟨ready, nofun⟩

theorem safe_allocateIdentity (source : Identity) :
    Safe machine serial () (Made journal fun pool => pool.identity.isSome)
      (step (.allocateIdentity journal.toRuntime source)) fleet :=
  safe_pool_step ready (.allocateIdentity source) fun _ ready => ⟨ready, fun _ => allocated_identity⟩

theorem safe_writeService (identity : Identity) :
    Safe machine serial ()
      (Made journal fun pool => pool = { fleet.pools journal.toRuntime with service := true })
      (step (.writeService journal.toRuntime identity)) fleet :=
  safe_pool_step ready (.writeService identity) fun _ ready => ⟨ready, fun _ => written_service⟩

theorem safe_activateExecConfig (content : Text) :
    Safe machine serial () (Made journal fun pool =>
        pool = { fleet.pools journal.toRuntime with execConfig := some content })
      (step (.activateExecConfig journal.toRuntime content)) fleet :=
  safe_pool_step ready (.activateExecConfig content) fun _ ready => ⟨ready, fun _ => activated_execConfig⟩

end

/-- What the preparation leaves: the route as it was, the journal with its flags,
and a whole target pool if it succeeded. -/
structure Prepared (journal : Journal) (answer : Except StepError Identity × Journal)
    (fleet : Fleet) : Prop where
  ready : Before answer.2 fleet
  same : answer.2 = journal.mark answer.2.target
  whole : ∀ allocated, answer.1 = .ok allocated → (fleet.pools journal.toRuntime).Whole

theorem Prepared.failed (journal : Journal) {marked : Journal} (ready : Before marked fleet)
    (same : marked = journal.mark marked.target) (error : StepError) :
    Prepared journal (.error error, marked) fleet :=
  ⟨ready, same, nofun⟩

theorem safe_probeTarget (sound : Sound fleet) (request : Request) (root : Text) :
    Safe machine serial () (fun _ after => after = fleet) (probeTarget request root) fleet := by
  apply safe_looking sound (.probe _ _ _)
  intro chance
  cases (exec chance (.probe _ _ _) fleet).1 <;> rfl

theorem safe_prepare (ready : Before journal fleet)
    (request : Request) (target : request.target = journal.toRuntime) (identity : Identity) :
    Safe machine serial () (Prepared journal) (prepare request identity journal) fleet := by
  unfold prepare
  rw [target]
  refine (safe_announced (ready.mark _) (fun error after ready => Made.failed ready error)
    fun after ready _ => safe_allocateIdentity ready identity).attempt
    (fun error _ allocating => Prepared.failed journal allocating.ready rfl error) ?_
  intro allocated first allocating
  have present : (first.pools journal.toRuntime).identity.isSome := allocating.made allocated rfl
  dsimp only
  split
  · exact Prepared.failed journal allocating.ready rfl _
  refine (safe_announced (allocating.ready.mark _)
    (fun error after ready => Made.failed ready error)
    fun after ready same => same ▸ safe_writeService ready allocated).attempt
    (fun error _ writing => Prepared.failed journal writing.ready rfl error) ?_
  intro _ second writing
  have written : second.pools journal.toRuntime =
      { first.pools journal.toRuntime with service := true } := writing.made () rfl
  refine (safe_announced (writing.ready.mark _)
    (fun error after ready => Made.failed ready error)
    fun after ready same => same ▸ safe_activateExecConfig ready
      (poolReverseProxyCaddyfile request.domain allocated.port)).attempt
    (fun error _ activating => Prepared.failed journal activating.ready rfl error) ?_
  intro _ third activating
  have activated : ∀ config, third.pools journal.toRuntime =
      { second.pools journal.toRuntime with execConfig := some config } →
      (third.pools journal.toRuntime).Whole := by
    intro config same
    rw [same, written]
    exact ⟨present, rfl, rfl⟩
  have whole := activated _ (activating.made () rfl)
  apply (safe_probeTarget activating.ready.held.sound request identity.root).seq
  intro answer last same
  subst same
  cases answer with
  | error error => exact Prepared.failed journal activating.ready rfl error
  | ok _ => exact ⟨activating.ready, rfl, fun _ _ => whole⟩

theorem safe_verify (sound : Sound fleet) (request : Request) (kind : RouteKind) (root : Text) :
    Safe machine serial () (fun _ after => after = fleet) (verify request kind root) fleet := by
  unfold verify
  split
  · apply safe_looking sound (.probe _ _ _)
    intro chance
    cases (exec chance (.probe _ _ _) fleet).1 <;> rfl
  · rfl

theorem safe_aborting (held : Held journal fleet)
    (unfinished : journal.phase ≠ .cleanup) (error : StepError) :
    Keeps
    (do return .error (← abort journal error) : Task (Except StepError MigrateResult)) fleet := by
  exact (safe_abort held unfinished error).seq fun _ _ sound => sound

variable {source : RuntimeId}

theorem safe_migrate {request : Request} {newRoute : Text} (ready : Before journal fleet)
    (starts : journal = Journal.start request source route newRoute)
    (names : runtimeOfRoute newRoute = some request.target) (identity : Identity) :
    Keeps (migrate request route newRoute identity journal) fleet := by
  apply (safe_prepare ready request (by rw [starts]; rfl) identity).seq
  intro answer first prepared
  obtain ⟨answer, marked⟩ := answer
  have same : marked = journal.mark marked.target := prepared.same
  have phase : marked.phase = .preparing := by rw [same, starts]; rfl
  have unfinished : marked.phase ≠ .cleanup := by simp [phase]
  have ready : Before marked first := prepared.ready
  cases answer with
  | error error => exact safe_aborting ready.held unfinished error
  | ok allocated =>
  have whole : (first.pools journal.toRuntime).Whole := prepared.whole allocated rfl
  have standing : Standing (marked.enter .cutover) first :=
    ⟨.inl ready.route, ready.held.whole_of_previous ready.route⟩
  have cutover : Held (marked.enter .cutover) first :=
    ready.held.turn unfinished (by simp) standing
  apply (safe_save cutover).seq
  intro answer second saved
  obtain ⟨held, ⟨routes, pools⟩, written⟩ := saved
  have route? : second.route? = some ⟨marked.routeKind, marked.previousRoute⟩ :=
    routes.trans ready.route
  cases answer with
  | error error =>
    -- The journal on disk may or may not be the one of the cutover: both stand.
    have back : Held marked second := by
      have again : Held ((marked.enter .cutover).enter .preparing) second :=
        held.turn (by simp [Journal.enter]) (by simp) route?
      have enters : (marked.enter .cutover).enter .preparing = marked := by
        rw [same, starts]
        rfl
      rw [enters] at again
      exact again
    exact safe_aborting back unfinished error
  | ok _ =>
  have kind : route.kind = marked.routeKind := by rw [same, starts]; rfl
  have target : (second.pools marked.toRuntime).Whole := by
    rw [pools, same]
    exact whole
  have phases : ∀ id stored, (id, .whole stored) ∈ second.journals → stored.phase = .cutover := by
    intro id stored member
    rw [written rfl] at member
    cases List.mem_singleton.mp member
    rfl
  apply Safe.bind
  refine safe_activateRoute held.sound
    (fun error => safe_aborting held (by simp [Journal.enter]) error) fun distinct => ?_
  have new : Next (marked.enter .cutover) newRoute := by
    constructor
    · rw [names, same, starts]
      rfl
    · rw [held.fits.previousHash]
      exact distinct _ (kind ▸ routeFile_of_route? route?)
  rw [kind]
  have moved := held.setRoute rfl route? (.inr ⟨new, target, phases⟩)
  refine ⟨moved.sound, fun answer => ?_⟩
  cases answer with
  | error error => exact safe_aborting moved (by simp [Journal.enter]) error
  | ok _ =>
  apply (safe_verify moved.sound request _ identity.root).seq
  intro answer third unchanged
  subst unchanged
  cases answer with
  | error error => exact safe_aborting moved (by simp [Journal.enter]) error
  | ok _ =>
    have read := route?_setRoute route? newRoute
    exact (safe_finish moved ⟨newRoute, new, read⟩ request allocated).seq fun _ _ sound => sound

section

variable (sound : Sound fleet)
include sound

/-- A sound fleet without journals has one again once the first journal of a
migration is written. -/
theorem before_start (none : fleet.journals = []) {request : Request} {newRoute : Text}
    (read : fleet.route? = some route) (names : runtimeOfRoute route.content = some source)
    (other : source ≠ request.target) {torn : Fleet}
    (created : torn = fleet.setJournal request.requestId .torn) :
    Sound torn ∧ Before (Journal.start request source route newRoute)
      (torn.setJournal request.requestId (.whole (Journal.start request source route newRoute))) := by
  have only : torn.journals = [(request.requestId, .torn)] := by
    simp [created, Fleet.setJournal, Fleet.dropJournal, none]
  have routes : torn.route? = fleet.route? := by rw [created]; rfl
  have pools : torn.pools = fleet.pools := by rw [created]; rfl
  have begun : Sound torn := by
    refine ⟨sound.served.congr routes pools, by simp [only], ?_⟩
    intro id journal member
    rw [only] at member
    cases List.mem_singleton.mp member
  have fits : Fits (Journal.start request source route newRoute) torn :=
    ⟨other, rfl, names, routes.trans read⟩
  exact ⟨begun, held_setJournal begun fits ⟨_, only⟩, routes.trans read⟩

theorem safe_run (request : Request) :
    Keeps (run request) fleet := by
  apply safe_looking sound .readRoute
  intro chance
  cases answered : (exec chance .readRoute fleet).1 with
  | error error => exact sound
  | ok route =>
  have read := readRoute_eq answered
  dsimp only
  cases names : runtimeOfRoute route.content with
  | none => exact sound
  | some source =>
  dsimp only
  split
  · exact sound
  rename_i other
  cases retargeted : retargetRoute route.content request.target with
  | none => exact sound
  | some newRoute =>
  apply safe_looking sound (.readIdentity source)
  intro chance
  match (exec chance (.readIdentity source) fleet).1 with
  | .error error => exact sound
  | .ok none => exact sound
  | .ok (some identity) =>
  apply Safe.bind
  apply holding_call_bind
  intro chance admitted
  have none : fleet.journals = [] := List.isEmpty_iff.mp admitted
  have absent : fleet.journals.lookup request.requestId = Option.none := by rw [none]; rfl
  obtain ⟨begun, ready⟩ := before_start sound none read names other rfl
  have created : machine.exec () chance (.createJournal
      (Journal.start request source route newRoute).requestId) fleet =
      chance.store fleet (fleet.setJournal request.requestId .torn) := by
    show exec chance (.createJournal request.requestId) fleet = _
    simp only [exec, absent]
    rfl
  rw [created]
  refine store_cases (fun _ => ⟨sound, sound⟩) ⟨begun, ?_⟩
  apply holding_call_bind
  intro chance _
  dsimp only [machine_exec, exec]
  exact store_cases (fun _ => ⟨begun, begun⟩)
    ⟨ready.held.sound, safe_migrate ready rfl (runtimeOfRoute_retarget retargeted) identity⟩

theorem safe_replay (original : RequestId) :
    Keeps (replay original) fleet := by
  apply safe_looking sound (.loadRecord original)
  intro chance
  cases (exec chance (.loadRecord original) fleet).1 with
  | none => exact sound
  | some record =>
    dsimp only
    split <;> exact sound

theorem safe_execute (request : Request) :
    Keeps (execute request) fleet := by
  apply holding_call_bind
  intro chance _
  have swept := sound.sweep chance.now chance.swept
  have admitted : Sound (exec chance (.admission request.requestId) fleet).2 := by
    simp only [exec]
    split
    · exact swept.setRecord _ _
    · exact swept
    · exact swept
  refine ⟨admitted, ?_⟩
  cases (machine.exec () chance (.admission request.requestId) fleet).1 with
  | refused => exact admitted
  | replay original => exact safe_replay admitted original
  | proceed =>
  apply (safe_run admitted request).seq
  intro answer after sound
  cases answer with
  | error error =>
    apply safe_looking sound .now
    intro chance
    exact (safe_saveRecord sound _ _).seq fun _ _ sound => sound
  | ok result =>
  apply safe_looking sound .now
  intro chance
  apply (safe_saveRecord sound _ _).seq
  intro saved last sound
  apply (safe_removeJournal sound _).seq
  intro _ _ sound
  cases saved with
  | error _ => exact sound
  | ok _ => exact sound

theorem safe_closeRecord (id : RequestId)
    (status : TransactionStatus) (outcome : Except StepError MigrateResult)
    (record : Option Record) :
    Keeps (closeRecord id status outcome record)
      fleet := by
  unfold closeRecord
  cases record with
  | none => exact sound
  | some record =>
  dsimp only
  split
  · apply safe_looking sound .now
    intro chance
    exact (safe_saveRecord sound _ _).seq fun _ _ sound => sound
  · exact sound

theorem safe_remove (journal : Journal) :
    Keeps (Store.remove journal) fleet := by
  exact (safe_removeJournal sound journal.requestId).seq fun _ _ sound => sound

end

theorem safe_act (held : Held journal fleet) (id : RequestId) (record : Option Record) :
    Keeps (act id journal record) fleet := by
  unfold act
  split
  · exact (safe_remove held.sound journal).seq fun _ _ sound => sound
  split
  · rename_i cleanup
    apply (safe_cleanOldPool held cleanup).seq
    intro warnings first sound
    apply safe_looking sound .now
    intro chance
    apply (safe_closeRecord sound _ _ _ _).seq
    intro _ last sound
    exact (safe_remove sound journal).seq fun _ _ sound => sound
  · rename_i unfinished
    refine (safe_rollBack held unfinished).attempt (fun _ _ sound => sound) ?_
    intro _ after sound
    apply (safe_remove sound journal).seq
    intro _ later sound
    exact (safe_closeRecord sound _ _ _ _).seq fun _ _ sound => sound

theorem held_of_read (sound : Sound fleet) {id : RequestId}
    (read : (exec chance (.readJournal id) fleet).1 = some journal)
    (named : journal.requestId = id) : Held journal fleet := by
  have found : (id, .whole journal) ∈ fleet.journals := by
    simp only [exec] at read
    split at read
    · obtain ⟨file, stored, whole⟩ := Option.bind_eq_some_iff.mp read
      cases file with
      | torn => contradiction
      | whole other =>
      simp only [JournalFile.read] at whole
      split at whole
      · cases whole
        obtain ⟨before, rest, all, _⟩ := List.lookup_eq_some_iff.mp stored
        simp [all]
      · contradiction
    · contradiction
  have only : fleet.journals = [(id, .whole journal)] := by
    cases all : fleet.journals with
    | nil => simp [all] at found
    | cons first rest =>
    have single := sound.single
    rw [all, List.length_cons] at single
    have last : rest = [] := List.length_eq_zero_iff.mp (by omega)
    subst last
    rw [all] at found
    rw [List.mem_singleton.mp found]
  refine ⟨sound, sound.fits id journal found, _, named ▸ only, ?_⟩
  intro stored same
  cases same
  exact ⟨rfl, Iff.rfl⟩

theorem safe_recover (sound : Sound fleet) (domain : Domain) (id : RequestId) :
    Keeps (recover domain id) fleet := by
  apply safe_looking sound .lock
  intro chance
  cases (exec chance .lock fleet).1 with
  | false => exact sound
  | true =>
  apply safe_looking sound (.readJournal id)
  intro chance
  cases read : (exec chance (.readJournal id) fleet).1 with
  | none => exact sound
  | some journal =>
  dsimp only
  split
  · exact sound
  rename_i matches_
  have named : journal.requestId = id := by
    by_contra other
    exact matches_ (.inr other)
  have held := held_of_read sound read named
  apply safe_looking sound (.loadRecord id)
  intro chance
  exact safe_act held id _

/-- What `site.migrateRuntime` and `site.reconcile` do to the domain, with what
they answer. -/
inductive Reply where
  | migrated (result : Except Error MigrateResult)
  | recovered (recovery : Recovery)

inductive Order where
  | migrate (request : Request)
  | recover (domain : Domain) (id : RequestId)

def Order.program : Order → Task Reply
  | .migrate request => do return .migrated (← execute request)
  | .recover domain id => do return .recovered (← Migrate.recover domain id)

theorem safe_order (sound : Sound fleet) (order : Order) :
    Keeps order.program fleet := by
  cases order with
  | migrate request =>
    exact (safe_execute sound request).seq fun _ _ sound => sound
  | recover domain id =>
    exact (safe_recover sound domain id).seq fun _ _ sound => sound

/-- Each order with the environment's decisions for as far as it gets. -/
def begun (orders : List (Order × List Chance)) : List (Turn Step Answer Chance Reply) :=
  orders.map fun order => ⟨order.1.program, order.2⟩

/-- Whatever fails and wherever a migration or a recovery is killed, the pool the
route names stays whole, as long as a migration starts only where no journal is
pending and the journal that announces the cleanup is saved. -/
theorem live_pool_whole {fleet : Fleet} (served : Served fleet) (fresh : fleet.journals = [])
    {orders : List (Order × List Chance)}
    (orderly : machine.Orderly () Serial fleet (begun orders)) :
    Served (machine.turns () fleet (begun orders)) := by
  have sound : Sound fleet := by
    refine ⟨served, by simp [fresh], ?_⟩
    intro id journal member
    rw [fresh] at member
    contradiction
  have kept : Sound (machine.turns () fleet (begun orders)) := by
    apply invariant_turns (fun program => ∃ order : Order, program = order.program)
      (fun _ sound => sound) _ _ orderly sound
    · rintro _ state ⟨order, rfl⟩ sound
      exact safe_order sound order
    · intro turn member
      obtain ⟨order, _, rfl⟩ := List.mem_map.mp member
      exact ⟨order.1, rfl⟩
  exact kept.served

/-! A site on one pool, and a second pool to move it to. -/

end Rules

namespace Sample

def oldPool : RuntimeId := ⟨"php83".toList, php83_valid⟩

def newPool : RuntimeId := ⟨"php84".toList, php84_valid⟩

def site : Domain := ⟨"shop.test".toList, shopTest_valid⟩

def identity : Identity := ⟨"wcp-site-1".toList, 20001, 20001, 8001, "/var/www".toList, false, 1⟩

def fleet : Fleet where
  liveRoute := some "shop.test \x7b\n    reverse_proxy runtime-php83:80\n\x7d\n".toList
  backupRoute := none
  pools runtime := if runtime = oldPool then ⟨some identity, true, some []⟩ else ⟨none, false, none⟩
  journals := []
  records _ := none

def first : RequestId := .numbered 1

def second : RequestId := .numbered 2

def move (id : RequestId) (target : RuntimeId) : Order := .migrate ⟨site, target, none, false, id⟩

scoped instance : Sha256 := .verbatim

def fine : Chance := ⟨none, false, identity, 0, fun _ => ⟨false, false⟩, none⟩

def failing : Chance := { fine with fails := some ⟨.internal, ""⟩ }

def well : List Chance := List.replicate 30 fine

end Sample

open Sample

instance (fleet : Fleet) : Decidable (Served fleet) :=
  decidable_of_iff (∃ route ∈ fleet.route?, ∃ runtime ∈ runtimeOfRoute route.content,
      (fleet.pools runtime).Whole) <| by
    constructor
    · rintro ⟨route, read, runtime, names, whole⟩
      exact ⟨route, runtime, read, names, whole⟩
    · rintro ⟨route, runtime, read, names, whole⟩
      exact ⟨route, read, runtime, names, whole⟩

theorem live_pool_whole_there_and_back :
    Served fleet ∧ Served (machine.turns () fleet (begun
      [(move first newPool, List.replicate 8 fine), (.recover site first, well),
       (move second newPool, well)])) :=
  ⟨by decide +kernel, live_pool_whole (by decide +kernel) rfl (by decide +kernel)⟩

/-- The save before the cleanup fails and the engine is killed in the cleanup:
the recovery goes back to the pool that was being taken apart.  A journal left
from the preparation is acted on after a later migration has succeeded: the
recovery takes the new pool apart. -/
theorem live_pool_dismantled :
    Served fleet ∧ ¬ Served (machine.turns () fleet (begun
        [(move first newPool, List.replicate 15 fine ++ [failing, fine]),
         (.recover site first, well)])) ∧ ¬ Served (machine.turns () fleet (begun
        [(move first newPool, List.replicate 8 fine), (move second newPool, well),
         (.recover site first, well)])) := by
  decide +kernel

end OpsEngine.Migrate
