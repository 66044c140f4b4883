import OpsEngine.Identity.Counters

namespace OpsEngine.Identity

open Effect

/-! # Sites and Unix users

A uid that was handed out is never handed out again, so two sites can only come
to the same uid by way of an account that outlived the domain it is named after.
-/

/-- The names `site_identity` gives to accounts. -/
def isManagedName (name : Text) : Bool := userPrefix.isPrefixOf name

theorem AllocateRequest.isManagedName_wanted (slug : Slug) (request : AllocateRequest) :
    isManagedName (request.wanted slug) = true := by
  unfold AllocateRequest.wanted
  cases named : request.osUser with
  | none => simp [isManagedName, derivedUser]
  | some name =>
    have managed := request.managed name named
    simp only [validManagedUser, Bool.and_eq_true] at managed
    exact managed.1

/-- Records of different domains have different uids, except the old and the new
record of a rename that has written the one and not removed the other. -/
def SeparateSites (host : Host) : Prop :=
  ∀ runtime domain other place one two, host.record? runtime domain = some one →
    host.record? other place = some two → domain ≠ place → one.uid = two.uid →
    runtime = other ∧ ((runtime, domain, place) ∈ host.moving ∨ (runtime, place, domain) ∈ host.moving)

/-- The counter has passed the uid. -/
def Host.Passed (host : Host) (uid : Nat) : Prop :=
  ∃ counter, host.uidCounter = some counter ∧ uid < counter

structure Isolated (host : Host) : Prop where
  accounts : ∀ account ∈ host.passwd, isManagedName account.name = true → host.Passed account.uid
  records : ∀ runtime domain record, host.record? runtime domain = some record →
    host.Passed record.uid
  separate : SeparateSites host

/-- What an account that is found, and what a record that is moved, must not have
in common with a record of another domain. -/
def Guarded (slug : Slug) (host : Host) : Request → Prop
  | .allocate request => host.record? request.runtime request.domain = none →
      ∀ account ∈ host.lookupUser (request.wanted slug), ∀ entry ∈ host.records.entries,
        entry.2.record.uid = account.1 → entry.1.2 = request.domain
  | .rename request => request.fromDomain ≠ request.toDomain →
      ∀ record ∈ host.record? request.runtime request.fromDomain, ∀ entry ∈ host.records.entries,
        entry.2.record.uid = record.uid →
          entry.1 = (request.runtime, request.fromDomain) ∨ entry.1.2 = request.toDomain
  | _ => True

instance (slug : Slug) (host : Host) : (request : Request) → Decidable (Guarded slug host request)
  | .allocate _ => inferInstanceAs (Decidable (_ → ∀ _ ∈ _, ∀ _ ∈ _, _))
  | .rename _ => inferInstanceAs (Decidable (_ → ∀ _ ∈ _, ∀ _ ∈ _, _))
  | .release _ | .update _ | .drift => isTrue trivial

/-- The entries that appear are not site accounts. -/
def Foreign (chance : Chance) (_ : Step) (_ : Host) : Prop :=
  ∀ account ∈ chance.accounts, isManagedName account.name = false

/-- Every request of the sequence is guarded in the host it starts on. -/
def Meets (slug : Slug) : Host → List Turn → Prop
  | _, [] => True
  | host, turn :: rest =>
    Guarded slug host turn.request ∧ (∀ chance ∈ turn.chances, Foreign chance .drift host) ∧
      Meets slug (after slug host turn) rest

variable {host : Host} {record : IdentityRecord} {domain : Domain} {runtime : RuntimeId}
  {uid : Nat} {slug : Slug}

theorem Host.mem_entries (found : host.record? runtime domain = some record) :
    ∃ stored, ⟨(runtime, domain), stored⟩ ∈ host.records.entries ∧ stored.record = record := by
  obtain ⟨stored, lookup, same⟩ := Host.record?_eq_some.mp found
  exact ⟨stored, AList.mem_lookup_iff.mp lookup, same⟩

theorem Host.record?_putRecord (host : Host) (runtime other : RuntimeId) (domain place : Domain)
    (record : IdentityRecord) (source : Source) :
    (host.putRecord runtime domain record source).record? other place =
      if (other, place) = (runtime, domain) then some record else host.record? other place := by
  have stored := host.stored?_putRecord runtime other domain place record source
  unfold Host.stored? at stored
  unfold Host.record?
  rw [stored]
  split <;> rfl

theorem Host.record?_dropRecord {runtime other : RuntimeId} {domain place : Domain}
    (found : (host.dropRecord runtime domain).record? other place = some record) :
    (other, place) ≠ (runtime, domain) ∧ host.record? other place = some record := by
  obtain ⟨stored, lookup, same⟩ := Host.record?_eq_some.mp found
  obtain ⟨apart, there⟩ := Host.stored?_dropRecord lookup
  exact ⟨apart, Host.record?_eq_some.mpr ⟨stored, there, same⟩⟩

theorem Isolated.congr {before after : Host} (isolated : Isolated before)
    (accounts : ∀ account ∈ after.passwd, isManagedName account.name = true → after.Passed account.uid)
    (passed : ∀ uid, before.Passed uid → after.Passed uid)
    (records : after.records = before.records)
    (moving : after.moving = before.moving) : Isolated after := by
  have same : after.record? = before.record? := by
    funext runtime domain
    unfold Host.record?
    rw [records]
  refine ⟨accounts, ?_, ?_⟩
  · intro runtime domain record found
    rw [same] at found
    exact passed _ (isolated.records runtime domain record found)
  · unfold SeparateSites
    rw [same, moving]
    exact isolated.separate

theorem isolated_tolerant : Tolerant Isolated where
  userdel host group name isolated := by
    refine isolated.congr ?_ (fun _ passed => passed) rfl rfl
    intro account member
    exact isolated.accounts account (List.mem_of_mem_filter member)
  groupdel host group name isolated :=
    isolated.congr isolated.accounts (fun _ passed => passed) rfl rfl
  listed host readable isolated := isolated.congr isolated.accounts (fun _ passed => passed) rfl rfl
  record host runtime domain isolated := by
    refine ⟨isolated.accounts, ?_, ?_⟩
    · intro other place record found
      exact isolated.records other place record (Host.record?_dropRecord found).2
    intro first one second two recordOne recordTwo foundOne foundTwo apart uids
    obtain ⟨notOne, thereOne⟩ := Host.record?_dropRecord foundOne
    obtain ⟨notTwo, thereTwo⟩ := Host.record?_dropRecord foundTwo
    obtain ⟨same, listed⟩ :=
      isolated.separate first one second two recordOne recordTwo thereOne thereTwo apart uids
    subst same
    -- neither of the two is the record that went
    have keptOne : ¬ (first = runtime ∧ one = domain) := fun both => notOne (by rw [both.1, both.2])
    have keptTwo : ¬ (first = runtime ∧ two = domain) := fun both => notTwo (by rw [both.1, both.2])
    refine ⟨rfl, listed.imp ?_ ?_⟩ <;>
    · intro member
      refine List.mem_filter.mpr ⟨member, ?_⟩
      simp only [Bool.not_eq_true', Bool.and_eq_false_iff, decide_eq_false_iff_not,
        Bool.or_eq_false_iff]
      tauto

theorem Isolated.handOut (isolated : Isolated host)
    (above : ∀ counter, host.uidCounter = some counter → counter ≤ uid) :
    Isolated (host.handOut uid) := by
  have passed : ∀ other, host.Passed other → (host.handOut uid).Passed other := by
    intro other earlier
    obtain ⟨counter, current, below⟩ := earlier
    have reached := above counter current
    exact ⟨uid + 1, rfl, by omega⟩
  apply isolated.congr _ passed rfl rfl
  intro account member managed
  exact passed _ (isolated.accounts account member managed)

theorem Isolated.rewrite (isolated : Isolated host) (settings : SiteSettings)
    (found : host.record? runtime domain = some record) :
    Isolated (host.putRecord runtime domain { record with settings } (.record domain)) := by
  have traced : ∀ other place one,
      (host.putRecord runtime domain { record with settings } (.record domain)).record? other place =
        some one → ∃ two, host.record? other place = some two ∧ two.uid = one.uid := by
    intro other place one lookup
    rw [Host.record?_putRecord] at lookup
    split at lookup
    · rename_i key
      cases key
      cases lookup
      exact ⟨record, found, rfl⟩
    · exact ⟨one, lookup, rfl⟩
  have moving : (host.putRecord runtime domain { record with settings } (.record domain)).moving =
      host.moving := if_pos rfl
  refine ⟨isolated.accounts, ?_, ?_⟩
  · intro other place one lookup
    obtain ⟨two, there, same⟩ := traced other place one lookup
    rw [← same]
    exact isolated.records other place two there
  · intro first one second two recordOne recordTwo foundOne foundTwo apart uids
    obtain ⟨heldOne, thereOne, sameOne⟩ := traced first one recordOne foundOne
    obtain ⟨heldTwo, thereTwo, sameTwo⟩ := traced second two recordTwo foundTwo
    rw [moving]
    exact isolated.separate first one second two heldOne heldTwo thereOne thereTwo apart
      (by rw [sameOne, sameTwo, uids])

/-- A record at a new place: whatever record of another domain has its uid stands
with it as the two records of a rename. -/
theorem Isolated.place (isolated : Isolated host) {source : Source}
    (passed : host.Passed record.uid) (moving : ∀ entry ∈ host.moving,
      entry ∈ (host.putRecord runtime domain record source).moving)
    (met : ∀ other place two, host.record? other place = some two → two.uid = record.uid →
      place ≠ domain → other = runtime ∧
        (runtime, place, domain) ∈ (host.putRecord runtime domain record source).moving) :
    Isolated (host.putRecord runtime domain record source) := by
  refine ⟨isolated.accounts, ?_, ?_⟩
  · intro other place one lookup
    rw [Host.record?_putRecord] at lookup
    split at lookup
    · cases lookup
      exact passed
    · exact isolated.records other place one lookup
  intro first one second two recordOne recordTwo foundOne foundTwo apart uids
  rw [Host.record?_putRecord] at foundOne foundTwo
  split at foundOne
  · rename_i keyOne
    cases keyOne
    cases foundOne
    split at foundTwo
    · rename_i keyTwo
      cases keyTwo
      contradiction
    · obtain ⟨same, listed⟩ := met second two recordTwo foundTwo uids.symm apart.symm
      subst same
      exact ⟨rfl, .inr listed⟩
  · split at foundTwo
    · rename_i keyTwo
      cases keyTwo
      cases foundTwo
      obtain ⟨same, listed⟩ := met first one recordOne foundOne uids apart
      subst same
      exact ⟨rfl, .inl listed⟩
    · obtain ⟨same, listed⟩ :=
        isolated.separate first one second two recordOne recordTwo foundOne foundTwo apart uids
      exact ⟨same, listed.imp (moving _) (moving _)⟩

/-- Nothing is owed here. -/
def freeDuty : Duty := ⟨fun _ _ _ => True, fun _ _ => True⟩

/-- From the moment a uid was handed out until its record is written. -/
structure Unclaimed (uid : Nat) (host : Host) : Prop where
  isolated : Isolated host
  passed : host.Passed uid
  unclaimed : ∀ runtime domain record, host.record? runtime domain = some record → record.uid ≠ uid

theorem Unclaimed.useradd (unclaimed : Unclaimed uid host) (group : Bool) (name : Text) :
    Isolated (host.called group (.useradd name uid)) := by
  refine unclaimed.isolated.congr ?_ (fun _ passed => passed) rfl rfl
  intro account member managed
  rcases List.mem_append.mp member with old | new
  · exact unclaimed.isolated.accounts account old managed
  · rw [List.mem_singleton.mp new]
    exact unclaimed.passed

theorem preparing_unclaimed (name : Text) (uid : Nat) :
    Preparing freeDuty Isolated (Unclaimed uid) name uid := by
  refine ⟨fun _ unclaimed => unclaimed.isolated, ?_, ?_, fun _ _ => trivial,
    fun host group unclaimed => unclaimed.useradd group name⟩
  · intro host group unclaimed
    exact ⟨isolated_tolerant.groupdel host group name unclaimed.isolated, unclaimed.passed,
      unclaimed.unclaimed⟩
  · intro host group unclaimed
    exact ⟨unclaimed.isolated.congr unclaimed.isolated.accounts (fun _ passed => passed) rfl rfl,
      unclaimed.passed, unclaimed.unclaimed⟩

section

variable (isolated : Isolated host)
include isolated

theorem Isolated.unclaimed_handOut
    (above : ∀ counter, host.uidCounter = some counter → counter ≤ uid) :
    Unclaimed uid (host.handOut uid) := by
  refine ⟨isolated.handOut above, ⟨uid + 1, rfl, Nat.lt_succ_self uid⟩, ?_⟩
  intro runtime domain record found same
  obtain ⟨counter, current, below⟩ := isolated.records runtime domain record found
  have reached := above counter current
  omega

theorem Isolated.countPort (runtime : RuntimeId) (port : Nat) :
    Isolated (host.countPort runtime port) :=
  isolated.congr isolated.accounts (fun _ passed => passed) rfl rfl

theorem Isolated.established (request : AllocateRequest)
    (osUser : Text) (gid port : Nat) (passed : host.Passed uid)
    (alone : ∀ runtime domain record, host.record? runtime domain = some record →
      record.uid = uid → domain = request.domain) :
    Isolated (host.established request osUser uid gid port) := by
  apply (isolated.countPort request.runtime port).place
  · exact passed
  · exact fun _ member => member
  intro runtime domain record found same apart
  exact absurd (alone runtime domain record found same) apart

theorem passed_of_lookupUser {name : Text} {uid gid : Nat}
    (managed : isManagedName name = true) (account : host.lookupUser name = some (uid, gid)) :
    host.Passed uid := by
  unfold Host.lookupUser at account
  rw [Option.map_eq_some_iff] at account
  obtain ⟨entry, found, same⟩ := account
  have named : entry.name = name := by simpa using List.find?_some found
  cases same
  apply isolated.accounts entry (List.mem_of_find?_eq_some found)
  rw [named]
  exact managed

theorem establishes_isolated {request : AllocateRequest}
    (guarded : Guarded slug host (.allocate request))
    (absent : host.record? request.runtime request.domain = none) :
    Establishes slug freeDuty Isolated Unclaimed request host := by
  refine ⟨fun uid above _ => isolated.unclaimed_handOut above, fun uid => preparing_unclaimed _ uid,
    ?_, ?_⟩
  · rintro later uid gid port (rfl | ⟨before, group, unclaimed, rfl⟩) _ _
    · exact isolated.countPort _ port
    · exact (unclaimed.useradd group _).countPort _ port
  rintro later uid gid port (rfl | ⟨before, group, unclaimed, rfl⟩) account _
  · apply isolated.established request _ gid port
    · exact passed_of_lookupUser isolated (request.isManagedName_wanted slug) account
    · intro runtime domain record found uids
      obtain ⟨stored, member, held⟩ := Host.mem_entries found
      exact guarded absent _ account _ member (by rw [held]; exact uids)
  · apply (unclaimed.useradd group _).established request _ gid port unclaimed.passed
    intro runtime domain record found uids
    exact absurd uids (unclaimed.unclaimed runtime domain record found)

theorem isolated_moved {request : RenameRequest} (guarded : Guarded slug host (.rename request))
    (settings : SiteSettings)
    (found : host.record? request.runtime request.fromDomain = some record) :
    Isolated (host.putRecord request.runtime request.toDomain { record with settings }
      (.record request.fromDomain)) := by
  by_cases still : request.fromDomain = request.toDomain
  · rw [← still]
    exact isolated.rewrite settings found
  have moving : (host.putRecord request.runtime request.toDomain { record with settings }
      (.record request.fromDomain)).moving =
        (request.runtime, request.fromDomain, request.toDomain) :: host.moving := if_neg still
  apply isolated.place
  · exact isolated.records _ _ record found
  · intro entry member
    rw [moving]
    exact List.mem_cons_of_mem _ member
  intro other place two there uids apart
  obtain ⟨stored, member, held⟩ := Host.mem_entries there
  rcases guarded still record found _ member (by rw [held]; exact uids) with old | new
  · cases old
    rw [moving]
    exact ⟨rfl, List.mem_cons_self⟩
  · exact absurd new apart

theorem watched_guarded {request : Request} (guarded : Guarded slug host request) :
    Watched Foreign freeDuty Isolated (fun _ later => Isolated later) (request.program slug)
      host := by
  cases request with
  | allocate request =>
    apply watched_allocate isolated_tolerant (fun _ _ => trivial) isolated
    · intro record settings found
      exact isolated.rewrite settings found
    · exact establishes_isolated isolated guarded
  | release request => exact watched_release isolated_tolerant (fun _ _ _ => trivial) isolated
  | update request =>
    apply watched_update isolated
    intro record settings found
    exact isolated.rewrite settings found
  | rename request =>
    apply watched_rename isolated_tolerant isolated
    intro record settings found _
    exact isolated_moved isolated guarded settings found
  | drift =>
  have drifted : ∀ chance, Foreign chance .drift host → Isolated (exec chance .drift host).2 := by
    intro chance foreign
    refine isolated.congr ?_ (fun _ passed => passed) rfl rfl
    intro account member managed
    rcases List.mem_append.mp member with old | new
    · exact isolated.accounts account old managed
    · rw [foreign account new] at managed
      contradiction
  apply watching_call trivial
  intro chance foreign
  exact ⟨drifted chance foreign, drifted chance foreign⟩

theorem isolated_after {turn : Turn} (guarded : Guarded slug host turn.request)
    (foreign : ∀ chance ∈ turn.chances, Foreign chance .drift host) :
    Isolated (after slug host turn) := by
  have follows : ∀ (chances : List Chance) (program : Action Unit) (state : Host),
      (∀ chance ∈ chances, Foreign chance .drift host) →
      machine.Follows () Foreign chances program state := by
    intro chances
    induction chances with
    | nil =>
      intro program state _
      cases program <;> trivial
    | cons chance rest ih =>
      intro program state all
      cases program with
      | done result => trivial
      | perform step next =>
        exact ⟨all chance (by simp), ih _ _ fun other member => all other (by simp [member])⟩
  exact ((watched_guarded isolated guarded).watched.follows isolated
    (follows turn.chances _ _ foreign)).1

end

/-- Records of different sites have different uids in every state that a guarded
sequence of requests reaches. -/
theorem sites_separate (slug : Slug) (start : Host) (bare : start.records = ∅)
    (unmanaged : ∀ account ∈ start.passwd, isManagedName account.name = false)
    (turns : List Turn) (meets : Meets slug start turns) : SeparateSites (run slug start turns) := by
  have none : ∀ runtime domain, start.record? runtime domain = none := by
    intro runtime domain
    unfold Host.record?
    rw [bare]
    rfl
  have begins : Isolated start := by
    refine ⟨?_, ?_, ?_⟩
    · intro account member managed
      rw [unmanaged account member] at managed
      contradiction
    · intro runtime domain record found
      rw [none] at found
      contradiction
    · intro runtime domain other place one two found
      rw [none] at found
      contradiction
  suffices every : ∀ host, Isolated host → Meets slug host turns → Isolated (run slug host turns) from
    (every start begins meets).separate
  clear meets
  induction turns with
  | nil => exact fun _ isolated _ => isolated
  | cons turn rest ih =>
    intro host isolated meets
    obtain ⟨guarded, foreign, later⟩ := meets
    exact ih _ (isolated_after isolated guarded foreign) later

def php84 : RuntimeId := ⟨"php84".toList, php84_valid⟩

def renameAt (runtime : RuntimeId) (old new : Domain) : Request :=
  .rename ⟨runtime, old, new, "/srv/shop".toList⟩

/-- A site moves to another pool and is renamed there once the old record is
gone; then its old domain is given to a second site. -/
def separateTurns : List Turn :=
  [wellTurn (allocateAt php83 shop) 40, wellTurn (allocateAt php84 shop) 40,
    wellTurn (.release ⟨php83, shop, false⟩) 40, wellTurn (renameAt php84 shop blog) 40,
    wellTurn (allocateAt php83 ⟨"new.test".toList, by decide⟩) 40]

theorem meets_separateTurns : Meets plainSlug bareHost separateTurns := by
  have quiet : ∀ steps, ∀ chance ∈ List.replicate steps wellChance, Foreign chance .drift bareHost := by
    intro steps chance member account appears
    rw [(List.mem_replicate.mp member).2] at appears
    contradiction
  refine ⟨by decide +kernel, quiet 40, by decide +kernel, quiet 40, by decide +kernel, quiet 40,
    by decide +kernel, quiet 40, by decide +kernel, quiet 40, trivial⟩

theorem sites_separate_moved :
    Meets plainSlug bareHost separateTurns ∧ SeparateSites (run plainSlug bareHost separateTurns) :=
  ⟨meets_separateTurns,
    sites_separate plainSlug bareHost rfl (by decide) separateTurns meets_separateTurns⟩

/-- A site is renamed and its old domain is allocated again; a site with records in
two pools is renamed in one of them.  Both times two domains have one uid, and no
rename was interrupted. -/
theorem sites_share_uid :
    ¬ SeparateSites (run plainSlug bareHost
      [wellTurn (allocateAt php83 shop) 40, wellTurn (renameAt php83 shop blog) 40,
        wellTurn (allocateAt php83 shop) 40]) ∧ ¬ SeparateSites (run plainSlug bareHost
      [wellTurn (allocateAt php83 shop) 40, wellTurn (allocateAt php84 shop) 40,
        wellTurn (renameAt php84 shop blog) 40]) := by
  constructor
  · intro separate
    have listed := separate php83 shop php83 blog
      ⟨derivedUser plainSlug shop, 10000, 10000, 9001, plainSettings⟩
      ⟨derivedUser plainSlug shop, 10000, 10000, 9000, plainSettings⟩
      (by decide +kernel) (by decide +kernel) (by decide) rfl
    exact absurd listed (by decide +kernel)
  · intro separate
    have listed := separate php83 shop php84 blog
      ⟨derivedUser plainSlug shop, 10000, 10000, 9000, plainSettings⟩
      ⟨derivedUser plainSlug shop, 10000, 10000, 9000, plainSettings⟩
      (by decide +kernel) (by decide +kernel) (by decide) rfl
    exact absurd listed (by decide +kernel)

end OpsEngine.Identity
