import OpsEngine.Identity.Steps

namespace OpsEngine.Identity

open Effect

/-! # Uids and ports are handed out once

The two counters are ahead of everything that was handed out, whatever fails and
wherever a request is killed.
-/

def Host.stored? (host : Host) (runtime : RuntimeId) (domain : Domain) : Option Stored :=
  host.records.lookup (runtime, domain)

variable {host : Host} {runtime : RuntimeId} {record : IdentityRecord}

theorem Host.record?_eq_some {domain : Domain} :
    host.record? runtime domain = some record ↔
      ∃ stored, host.stored? runtime domain = some stored ∧ stored.record = record :=
  Option.map_eq_some_iff

@[simp] theorem Host.stored?_putRecord (host : Host) (runtime other : RuntimeId)
    (domain place : Domain) (record : IdentityRecord) (source : Source) :
    (host.putRecord runtime domain record source).stored? other place =
      if (other, place) = (runtime, domain) then some ⟨record, host.originOf runtime source⟩
      else host.stored? other place := by
  unfold Host.stored? Host.putRecord
  by_cases same : (other, place) = (runtime, domain)
  · rw [if_pos same, same]
    exact AList.lookup_insert _
  · rw [if_neg same]
    exact AList.lookup_insert_ne same

theorem Host.stored?_dropRecord {other : RuntimeId} {domain place : Domain}
    {stored : Stored} (found : (host.dropRecord runtime domain).stored? other place = some stored) :
    (other, place) ≠ (runtime, domain) ∧ host.stored? other place = some stored := by
  unfold Host.stored? Host.dropRecord at *
  have apart : (other, place) ≠ (runtime, domain) := by
    intro same
    rw [same] at found
    exact absurd (found.symm.trans (AList.lookup_erase _ _)) (by simp)
  exact ⟨apart, (AList.lookup_erase_ne apart).symm.trans found⟩

/-- The counters are ahead of what was handed out, and ports tell allocations
apart. -/
structure Counted (host : Host) : Prop where
  handed : ∀ uid ∈ host.handed, ∃ counter, host.uidCounter = some counter ∧ uid < counter
  ported : ∀ runtime domain stored, host.stored? runtime domain = some stored →
    ∃ counter, host.portCounter runtime = some counter ∧ stored.record.port < counter
  apart : ∀ runtime first second one two, host.stored? runtime first = some one →
    host.stored? runtime second = some two → one.record.port = two.record.port →
    one.origin = two.origin

theorem Counted.congr {before after : Host} (counted : Counted before)
    (records : after.records = before.records) (handed : after.handed = before.handed)
    (uids : after.uidCounter = before.uidCounter) (ports : after.portCounter = before.portCounter) :
    Counted after := by
  have stored : after.stored? = before.stored? := by
    funext runtime domain
    unfold Host.stored?
    rw [records]
  refine ⟨?_, ?_, ?_⟩
  · rw [handed, uids]
    exact counted.handed
  · rw [stored, ports]
    exact counted.ported
  · rw [stored]
    exact counted.apart

theorem Counted.called (counted : Counted host) (group : Bool) (call : ToolCall) :
    Counted (host.called group call) := by
  cases call <;> exact counted.congr rfl rfl rfl rfl

theorem counted_tolerant : Tolerant Counted where
  userdel _ group name counted := counted.called group (.userdel name)
  groupdel _ group name counted := counted.called group (.groupdel name)
  listed _ _ counted := counted.congr rfl rfl rfl rfl
  record host runtime domain counted := by
    refine ⟨counted.handed, ?_, ?_⟩
    · intro other place stored found
      exact counted.ported other place stored (Host.stored?_dropRecord found).2
    · intro other first second one two foundOne foundTwo
      exact counted.apart other first second one two (Host.stored?_dropRecord foundOne).2
        (Host.stored?_dropRecord foundTwo).2

theorem Counted.handOut (counted : Counted host) {uid : Nat}
    (above : ∀ counter, host.uidCounter = some counter → counter ≤ uid) :
    Counted (host.handOut uid) := by
  refine ⟨?_, counted.ported, counted.apart⟩
  intro other member
  refine ⟨uid + 1, rfl, ?_⟩
  rcases List.mem_cons.mp member with same | earlier
  · omega
  · obtain ⟨counter, current, below⟩ := counted.handed other earlier
    have reached := above counter current
    omega

theorem Counted.countPort (counted : Counted host) {port : Nat}
    (fresh : host.FreshPort runtime port) : Counted (host.countPort runtime port) := by
  refine ⟨counted.handed, ?_, counted.apart⟩
  intro other domain stored found
  obtain ⟨counter, current, below⟩ := counted.ported other domain stored found
  by_cases same : other = runtime
  · subst same
    have reached := fresh counter current
    exact ⟨port + 1, Function.update_self _ _ _, by omega⟩
  · exact ⟨counter, (Function.update_of_ne same _ _).trans current, below⟩

theorem Counted.handOn (counted : Counted host) {old new : Domain} (settings : SiteSettings)
    (found : host.record? runtime old = some record) :
    Counted (host.putRecord runtime new { record with settings } (.record old)) := by
  obtain ⟨held, stored, same⟩ := Host.record?_eq_some.mp found
  have origin : host.originOf runtime (.record old) = held.origin := by
    have lookup : host.records.lookup (runtime, old) = some held := stored
    simp [Host.originOf, lookup]
  -- the new record stands for the old one
  have traced : ∀ other place one,
      (host.putRecord runtime new { record with settings } (.record old)).stored? other place =
        some one →
      ∃ source two, host.stored? other source = some two ∧ two.record.port = one.record.port ∧
        two.origin = one.origin := by
    intro other place one lookup
    rw [Host.stored?_putRecord] at lookup
    split at lookup
    · rename_i key
      cases key
      cases lookup
      exact ⟨old, held, stored, by rw [same], origin.symm⟩
    · exact ⟨place, one, lookup, rfl, rfl⟩
  refine ⟨counted.handed, ?_, ?_⟩
  · intro other place one lookup
    obtain ⟨source, two, there, port, _⟩ := traced other place one lookup
    rw [← port]
    exact counted.ported other source two there
  · intro other first second one two lookupOne lookupTwo ports
    obtain ⟨sourceOne, heldOne, thereOne, portOne, originOne⟩ := traced other first one lookupOne
    obtain ⟨sourceTwo, heldTwo, thereTwo, portTwo, originTwo⟩ := traced other second two lookupTwo
    rw [← originOne, ← originTwo]
    apply counted.apart other sourceOne sourceTwo heldOne heldTwo thereOne thereTwo
    rw [portOne, portTwo, ports]

theorem Counted.established (counted : Counted host) (request : AllocateRequest)
    (osUser : Text) (uid gid : Nat) {port : Nat} (fresh : host.FreshPort request.runtime port) :
    Counted (host.established request osUser uid gid port) := by
  have counts := counted.countPort fresh
  have unported : ∀ place one, host.stored? request.runtime place = some one →
      one.record.port ≠ port := by
    intro place one lookup same
    obtain ⟨counter, current, below⟩ := counted.ported _ place one lookup
    have reached := fresh counter current
    omega
  refine ⟨counts.handed, ?_, ?_⟩
  · intro other place one lookup
    unfold Host.established at lookup
    rw [Host.stored?_putRecord] at lookup
    split at lookup
    · rename_i key
      cases key
      cases lookup
      exact ⟨port + 1, Function.update_self _ _ _, Nat.lt_succ_self port⟩
    · exact counts.ported other place one lookup
  · intro other first second one two lookupOne lookupTwo ports
    unfold Host.established at lookupOne lookupTwo
    rw [Host.stored?_putRecord] at lookupOne lookupTwo
    split at lookupOne
    · rename_i keyOne
      cases keyOne
      cases lookupOne
      split at lookupTwo
      · cases lookupTwo
        rfl
      · exact absurd ports.symm (unported second two lookupTwo)
    · split at lookupTwo
      · rename_i keyTwo
        cases keyTwo
        cases lookupTwo
        exact absurd ports (unported first one lookupOne)
      · exact counts.apart other first second one two lookupOne lookupTwo ports

/-- The uid of an account that is about to be created: it is the last one handed
out, greater than all before, and nothing but the account's own group has it. -/
def NewUid (name : Text) (id : Nat) (host : Host) : Prop :=
  (∃ earlier, host.handed = id :: earlier ∧ ∀ uid ∈ earlier, uid < id) ∧
    (∀ account ∈ host.passwd, account.uid ≠ id ∧ account.gid ≠ id) ∧
    ∀ entry ∈ host.groups, entry.gid = id → entry.name = name

/-- What a request owes: new accounts get new uids, and a release does not delete
an account that another record names. -/
def Request.duty : Request → Duty
  | .release request => ⟨NewUid, fun name host => host.Unshared request name⟩
  | _ => ⟨NewUid, fun _ _ => True⟩

theorem preparing_newUid {duty : Duty} (creates : duty.creates = NewUid) (name : Text) (id : Nat) :
    Preparing duty Counted (fun host => Counted host ∧ NewUid name id host) name id := by
  refine ⟨fun _ both => both.1, ?_, ?_, ?_, fun _ group both => both.1.called group _⟩
  · intro host group both
    obtain ⟨counted, handed, accounts, groups⟩ := both
    refine ⟨counted.called group _, handed, accounts, ?_⟩
    intro entry member
    exact groups entry (List.mem_of_mem_filter member)
  · intro host group both
    obtain ⟨counted, handed, accounts, groups⟩ := both
    refine ⟨counted.called group _, handed, accounts, ?_⟩
    intro entry member same
    rcases List.mem_append.mp member with old | new
    · exact groups entry old same
    · rw [List.mem_singleton.mp new]
  · intro host both
    rw [creates]
    exact both.2

theorem newUid_handOut (counted : Counted host) {uid : Nat} (name : Text)
    (above : ∀ counter, host.uidCounter = some counter → counter ≤ uid) (unused : host.Unused uid) :
    NewUid name uid (host.handOut uid) := by
  refine ⟨⟨host.handed, rfl, ?_⟩, unused.1, ?_⟩
  · intro other member
    obtain ⟨counter, current, below⟩ := counted.handed other member
    exact Nat.lt_of_lt_of_le below (above counter current)
  · intro entry member same
    exact absurd same (unused.2 entry member)

theorem establishes_counted {slug : Slug} {duty : Duty} (creates : duty.creates = NewUid)
    (request : AllocateRequest) (counted : Counted host) :
    Establishes slug duty Counted
      (fun uid later => Counted later ∧ NewUid (request.wanted slug) uid later) request host := by
  have whence : ∀ later uid, host.Arrived (fun before => Counted before ∧
      NewUid (request.wanted slug) uid before) (request.wanted slug) uid later → Counted later := by
    rintro later uid (rfl | ⟨before, group, both, rfl⟩)
    · exact counted
    · exact both.1.called group _
  refine ⟨?_, fun uid => preparing_newUid creates _ uid, ?_, ?_⟩
  · intro uid above unused
    exact ⟨counted.handOut above, newUid_handOut counted _ above unused⟩
  · intro later uid gid port source _ fresh
    exact (whence later uid source).countPort fresh
  · intro later uid gid port source _ fresh
    exact (whence later uid source).established request _ uid gid fresh

def anything : Chance → Step → Host → Prop := fun _ _ _ => True

theorem watched_request (slug : Slug) (request : Request) (counted : Counted host) :
    Watched anything request.duty Counted (fun _ later => Counted later) (request.program slug)
      host := by
  cases request with
  | allocate request =>
    apply watched_allocate counted_tolerant (fun _ _ => trivial) counted
    · intro record settings found
      exact counted.handOn settings found
    · intro _
      exact establishes_counted rfl request counted
  | release request => exact watched_release counted_tolerant (fun _ _ unshared => unshared) counted
  | update request =>
    apply watched_update counted
    intro record settings found
    exact counted.handOn settings found
  | rename request =>
    apply watched_rename counted_tolerant counted
    intro record settings found _
    exact counted.handOn settings found
  | drift =>
  have drifted : ∀ chance, Counted (exec chance .drift host).2 :=
    fun chance => counted.congr rfl rfl rfl rfl
  intro later moved chance _
  have same : later = host := by
    rcases Relation.ReflTransGen.cases_head moved with equal | ⟨_, impossible, _⟩
    · exact equal.symm
    · exact impossible.elim
  subst same
  exact ⟨⟨trivial, drifted chance⟩, drifted chance⟩

theorem counted_after (slug : Slug) (counted : Counted host) (turn : Turn) :
    Counted (after slug host turn) :=
  ((watched_request slug turn.request counted).watched.follows counted
    (machine.follows_of_forall () (fun _ _ _ => trivial) turn.chances _ _)).1

theorem counted_run (slug : Slug) (counted : Counted host) (turns : List Turn) :
    Counted (run slug host turns) := by
  induction turns generalizing host with
  | nil => exact counted
  | cons turn rest ih => exact ih (counted_after slug counted turn)

def pending (slug : Slug) (host : Host) (turn : Turn) : Option Step :=
  (machine.advance () turn.chances (turn.request.program slug) host).1.pending?

/-- Wherever a sequence of requests is stopped: an account about to be created
gets a new uid, records of different allocations of a pool have different ports,
and a release is not about to delete an account that another record names. -/
theorem identities_truthful (slug : Slug) (start : Host) (counted : Counted start)
    (turns : List Turn) (last : Turn) :
    (∀ name id, pending slug (run slug start turns) last = some (.tool (.useradd name id)) →
      NewUid name id (run slug start (turns ++ [last]))) ∧ (∀ runtime first second one two,
      (run slug start (turns ++ [last])).stored? runtime first = some one →
      (run slug start (turns ++ [last])).stored? runtime second = some two →
      one.origin ≠ two.origin → one.record.port ≠ two.record.port) ∧
    (∀ request name, last.request = .release request →
      pending slug (run slug start turns) last = some (.tool (.userdel name)) →
      (run slug start (turns ++ [last])).Unshared request name) := by
  have before := counted_run slug counted turns
  have ends : run slug start (turns ++ [last]) = after slug (run slug start turns) last := by
    unfold run
    rw [List.foldl_append]
    rfl
  have left := counted_after slug before last
  have owed : ∀ step, pending slug (run slug start turns) last = some step →
      last.request.duty.check step (after slug (run slug start turns) last) := by
    intro step next
    exact (watched_request slug last.request before).pending
      (machine.follows_of_forall () (fun _ _ _ => trivial) last.chances _ _)
      (fun _ _ => ⟨⟨false, false, false, .refused, [], [], fun _ _ => false, fun _ _ => false, 0⟩,
        trivial⟩) next
  rw [ends]
  refine ⟨?_, ?_, ?_⟩
  · intro name id next
    have check := owed _ next
    cases request : last.request with
    | allocate _ | release _ | update _ | rename _ | drift =>
      rw [request] at check
      exact check
  · intro runtime first second one two foundOne foundTwo origins ports
    exact origins (left.apart runtime first second one two foundOne foundTwo ports)
  · intro request name same next
    have check := owed _ next
    rw [same] at check
    exact check

/-! A host on which two sites are allocated. -/

def shop : Domain := ⟨"shop.test".toList, shopTest_valid⟩

def php83 : RuntimeId := ⟨"php83".toList, php83_valid⟩

def plainSlug : Slug := fun domain => domain.text

def bareHost : Host :=
  { records := ∅, readable := fun _ _ => false, services := fun _ _ => false, uidCounter := none
    portCounter := fun _ => none, legacyCounter := none, passwd := [⟨"root".toList, 0, 0⟩]
    groups := [⟨"root".toList, 0⟩], handed := [], births := 0, moving := [] }

def wellChance : Chance :=
  { fails := false, takes := false, group := true, admission := .proceed, accounts := [], groups := []
    readable := fun _ _ => true, services := fun _ _ => false, now := 0 }

def wellTurn (request : Request) (steps : Nat) : Turn := ⟨request, List.replicate steps wellChance⟩

def plainSettings : SiteSettings := ⟨"/srv/shop".toList, false, 1⟩

def allocateAt (runtime : RuntimeId) (domain : Domain) : Request :=
  .allocate ⟨runtime, domain, none, by simp, plainSettings, false⟩

theorem counted_bareHost : Counted bareHost := by
  refine ⟨?_, ?_, ?_⟩
  · intro uid member
    contradiction
  · intro runtime domain stored found
    contradiction
  · intro runtime first second one two found
    contradiction

def blog : Domain := ⟨"blog.test".toList, by decide⟩

/-- An allocation killed once it has made its account. -/
def killedAllocation : Turn := wellTurn (allocateAt php83 shop) 14

theorem identities_truthful_shop :
    (run plainSlug bareHost [killedAllocation]).handed = [10000] ∧
    NewUid (derivedUser plainSlug blog) 10001
      (run plainSlug bareHost [killedAllocation, wellTurn (allocateAt php83 blog) 10]) :=
  have next : pending plainSlug (run plainSlug bareHost [killedAllocation])
      (wellTurn (allocateAt php83 blog) 10) =
        some (.tool (.useradd (derivedUser plainSlug blog) 10001)) := by decide +kernel
  ⟨by decide +kernel, (identities_truthful plainSlug bareHost counted_bareHost [killedAllocation]
    (wellTurn (allocateAt php83 blog) 10)).1 _ _ next⟩

end OpsEngine.Identity
