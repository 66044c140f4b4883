import OpsEngine.Identity.Operations

namespace OpsEngine.Identity

open Effect

/-! # What the steps of a request do

Rules for a request that has the host to itself.  A rule for reading gives back
what was read; a rule for writing gives the host before and after.
-/

def Step.isQuiet : Step → Bool
  | .admission | .openRuntimeRoot | .openServicesRoot | .serviceExists _ _ | .readRecord _ _
  | .createPoolDir _ | .passwd | .groups | .readUidCounter | .readLegacyCounter
  | .readPortCounter _ | .saveRecord | .now => true
  | _ => false

variable {step : Step}

theorem exec_quiet (quiet : step.isQuiet = true) (chance : Chance) (host : Host) :
    (exec chance step host).2 = host := by
  cases step with
  | openRuntimeRoot | openServicesRoot | createPoolDir _ =>
    simp only [exec, Chance.store]
    split <;> rfl
  | admission | serviceExists _ _ | readRecord _ _ | passwd | groups | readUidCounter
  | readLegacyCounter | readPortCounter _ | saveRecord | now => rfl
  | drift | writeRecord _ _ _ _ | removeRecord _ _ | allRecords | writeUidCounter _
  | writePortCounter _ _ | tool _ => contradiction

/-- What is owed before an account is created, and before one is deleted. -/
structure Duty where
  creates : Text → Nat → Host → Prop
  deletes : Text → Host → Prop

def Duty.check (duty : Duty) : Step → Host → Prop
  | .tool (.useradd name id), host => duty.creates name id host
  | .tool (.userdel name), host => duty.deletes name host
  | _, _ => True

theorem Duty.check_quiet (duty : Duty) (quiet : step.isQuiet = true) (host : Host) :
    duty.check step host := by
  cases step with
  | tool _ => contradiction
  | _ => trivial

/-- A program that has the host to itself, meets its duty and has `invariant`
wherever it can be stopped. -/
abbrev Watched {α : Type} (admits : Chance → Step → Host → Prop) (duty : Duty)
    (invariant : Host → Prop) (post : α → Host → Prop) (program : Action α) (host : Host) : Prop :=
  Safe machine (.watching machine admits duty.check invariant) () post program host

/-- It leaves `invariant` behind, too. -/
abbrev Keeps {α : Type} (admits : Chance → Step → Host → Prop) (duty : Duty)
    (invariant : Host → Prop) (program : Action α) (host : Host) : Prop :=
  Watched admits duty invariant (fun _ later => invariant later) program host

section Rules

variable {admits : Chance → Step → Host → Prop} {duty : Duty} {invariant : Host → Prop}
  {host : Host} {post : Answer step → Host → Prop}

theorem watched_quiet (quiet : step.isQuiet = true) (holds : invariant host)
    (continues : ∀ chance, post (exec chance step host).1 host) :
    Watched admits duty invariant post (perform step) host := by
  apply watching_call (duty.check_quiet quiet host)
  intro chance _
  have same : (machine.exec () chance step host).2 = host := exec_quiet quiet chance host
  rw [same]
  exact ⟨holds, continues chance⟩

theorem watched_any (quiet : step.isQuiet = true)
    (holds : invariant host) (continues : ∀ answer, post answer host) :
    Watched admits duty invariant post (perform step) host :=
  watched_quiet quiet holds fun _ => continues _

theorem watched_reads {failure value : Answer step} (quiet : step.isQuiet = true)
    (reads : ∀ chance, (exec chance step host).1 = if chance.fails then failure else value)
    (holds : invariant host) (failed : post failure host) (read : post value host) :
    Watched admits duty invariant post (perform step) host := by
  apply watched_quiet quiet holds
  intro chance
  rw [reads]
  split
  · exact failed
  · exact read

theorem watched_passwd {post : Except Error (List Account) → Host → Prop} (holds : invariant host)
    (failed : post (.error .io) host) (read : post (.ok host.passwd) host) :
    Watched admits duty invariant post (perform .passwd) host :=
  watched_reads rfl (fun _ => rfl) holds failed read

theorem watched_groups {post : Except Error (List GroupEntry) → Host → Prop}
    (holds : invariant host)
    (failed : post (.error .io) host) (read : post (.ok host.groups) host) :
    Watched admits duty invariant post (perform .groups) host :=
  watched_reads rfl (fun _ => rfl) holds failed read

variable {runtime : RuntimeId} {domain : Domain} {request : AllocateRequest}

theorem watched_readRecord {post : Except Error (Option IdentityRecord) → Host → Prop}
    (holds : invariant host) (failed : post (.error .io) host)
    (read : post (.ok (host.record? runtime domain)) host) :
    Watched admits duty invariant post (readRecord runtime domain) host :=
  watched_reads rfl (fun _ => rfl) holds failed read

theorem watched_allRecords
    {post : Except Error (List ((RuntimeId × Domain) × IdentityRecord)) → Host → Prop}
    (listed : ∀ readable, invariant { host with readable } ∧
      post (.error .io) { host with readable } ∧
      post (.ok (host.readableRecords readable)) { host with readable }) :
    Watched admits duty invariant post (perform .allRecords) host := by
  apply watching_call trivial
  intro chance _
  obtain ⟨kept, failed, read⟩ := listed chance.readable
  have execs : machine.exec () chance .allRecords host =
      (if chance.fails then .error .io else .ok (host.readableRecords chance.readable),
        { host with readable := chance.readable }) := rfl
  rw [execs]
  cases chance.fails
  · exact ⟨kept, read⟩
  · exact ⟨kept, failed⟩

/-- The host after a uid was handed out. -/
def Host.handOut (host : Host) (uid : Nat) : Host :=
  { host with uidCounter := some (uid + 1), handed := uid :: host.handed }

def Host.countPort (host : Host) (runtime : RuntimeId) (port : Nat) : Host :=
  { host with portCounter := Function.update host.portCounter runtime (some (port + 1)) }

/-- What an account tool answers says nothing about whether it took effect. -/
@[elab_as_elim] theorem settle_cases {motive : Bool × Host → Prop} {chance : Chance}
    {before after : Host} (failed : motive (false, before))
    (done : ∀ answer, motive (answer, after)) : motive (chance.settle before after) := by
  unfold Chance.settle
  cases chance.fails with
  | false => exact done true
  | true =>
    cases chance.takes with
    | false => exact failed
    | true => exact done false

section Written

variable {post : Except Error Unit → Host → Prop}

theorem watched_store {after : Host} (chance : Chance) (holds : invariant host)
    (failed : post (.error .io) host) (written : invariant after ∧ post (.ok ()) after) :
    invariant (chance.store host after).2 ∧
      post (chance.store host after).1 (chance.store host after).2 := by
  unfold Chance.store
  cases chance.fails with
  | false => exact written
  | true => exact ⟨holds, failed⟩

theorem watched_writeUidCounter {uid : Nat} (holds : invariant host)
    (failed : post (.error .io) host)
    (written : invariant (host.handOut uid) ∧ post (.ok ()) (host.handOut uid)) :
    Watched admits duty invariant post (perform (.writeUidCounter uid)) host :=
  watching_call trivial fun chance _ => watched_store chance holds failed written

theorem watched_writePortCounter {port : Nat} (holds : invariant host)
    (failed : post (.error .io) host) (written : invariant (host.countPort runtime port) ∧
      post (.ok ()) (host.countPort runtime port)) :
    Watched admits duty invariant post (perform (.writePortCounter runtime port)) host :=
  watching_call trivial fun chance _ => watched_store chance holds failed written

theorem watched_writeRecord {record : IdentityRecord} {source : Source} (holds : invariant host)
    (failed : post (.error .io) host)
    (written : invariant (host.putRecord runtime domain record source) ∧
      ∀ answer, post answer (host.putRecord runtime domain record source)) :
    Watched admits duty invariant post (writeRecord runtime domain record source) host := by
  apply Safe.bind
  apply watched_quiet rfl holds
  intro chance
  cases fails : chance.fails <;> simp only [exec, Chance.store, fails]
  · apply watching_call trivial
    intro chance _
    have execs : machine.exec () chance (.writeRecord runtime domain record source) host =
        (if (chance.settle host (host.putRecord runtime domain record source)).1 then .ok ()
          else .error .io, (chance.settle host (host.putRecord runtime domain record source)).2) := rfl
    rw [execs]
    exact settle_cases ⟨holds, failed⟩ fun _ => ⟨written.1, written.2 _⟩
  · exact failed

theorem watched_removeRecord {post : Except Error Bool → Host → Prop} (holds : invariant host)
    (failed : post (.error .io) host) (removed : invariant (host.dropRecord runtime domain) ∧
      ∀ found, post (.ok found) (host.dropRecord runtime domain)) :
    Watched admits duty invariant post (perform (.removeRecord runtime domain)) host := by
  apply watching_call trivial
  intro chance _
  have execs : machine.exec () chance (.removeRecord runtime domain) host =
      if chance.fails then (.error .io, host)
      else (.ok (host.record? runtime domain).isSome, host.dropRecord runtime domain) := rfl
  rw [execs]
  split
  · exact ⟨holds, failed⟩
  · exact ⟨removed.1, removed.2 _⟩

/-- A tool is refused or fails, or has its effect; what is owed of a new account
is owed before. -/
theorem watched_tool {call : ToolCall} (checked : duty.check (.tool call) host)
    (holds : invariant host) (failed : post (.error (.tool call.label)) host)
    (called : host.refuses call = false → ∀ group, invariant (host.called group call) ∧
      ∀ answer, post answer (host.called group call)) :
    Watched admits duty invariant post (runTool call) host := by
  apply Safe.bind
  apply watching_call checked
  intro chance _
  have execs : machine.exec () chance (.tool call) host = if host.refuses call then (false, host)
      else chance.settle host (host.called chance.group call) := rfl
  rw [execs]
  cases refused : host.refuses call with
  | true => exact ⟨holds, failed⟩
  | false =>
  obtain ⟨kept, continues⟩ := called refused chance.group
  refine settle_cases ⟨holds, failed⟩ fun answer => ?_
  cases answer <;> exact ⟨kept, continues _⟩

end Written

/-! ## The account database -/

def Host.lookupUser (host : Host) (name : Text) : Option (Nat × Nat) :=
  (host.passwd.find? fun account => account.name = name).map fun account => (account.uid, account.gid)

variable {name : Text}

theorem watched_lookupUser {post : Except Error (Option (Nat × Nat)) → Host → Prop}
    (holds : invariant host) (failed : post (.error .io) host)
    (found : post (.ok (host.lookupUser name)) host) :
    Watched admits duty invariant post (lookupUser name) host :=
  Safe.bind (watched_passwd holds failed found)

theorem watched_groupExists {post : Except Error Bool → Host → Prop}
    (holds : invariant host) (failed : post (.error .io) host)
    (found : ∀ there, post (.ok there) host) :
    Watched admits duty invariant post (groupExists name) host :=
  Safe.bind (watched_groups holds failed (found _))

/-- An id that is free in both files. -/
def Host.Unused (host : Host) (id : Nat) : Prop :=
  (∀ account ∈ host.passwd, account.uid ≠ id ∧ account.gid ≠ id) ∧
    ∀ entry ∈ host.groups, entry.gid ≠ id

theorem watched_idInUse {id : Nat} {post : Except Error Bool → Host → Prop} (holds : invariant host)
    (failed : post (.error .io) host) (used : post (.ok true) host)
    (unused : host.Unused id → post (.ok false) host) :
    Watched admits duty invariant post (idInUse id) host := by
  apply Safe.bind
  apply watched_passwd holds
  · exact failed
  dsimp only
  split
  · exact used
  rename_i noAccount
  apply Safe.bind
  apply watched_groups holds
  · exact failed
  show post (.ok (host.groups.any fun entry => decide (entry.gid = id))) host
  cases anyGroup : host.groups.any fun entry => decide (entry.gid = id) with
  | true => exact used
  | false =>
  apply unused
  constructor
  · intro account member
    simp only [List.any_eq_true, Bool.or_eq_true, decide_eq_true_eq, not_exists,
      not_and, not_or] at noAccount
    exact noAccount account member
  · intro entry member same
    rw [List.any_eq_false] at anyGroup
    exact anyGroup entry member (by simpa using same)

section Ids

variable {post : Except Error Nat → Host → Prop}

section

variable (holds : invariant host) (failed : ∀ error, post (.error error) host)
include holds failed

/-- Handing out an id: it is new, free, and its counter is saved. -/
theorem watched_firstFree {fuel candidate : Nat}
    (found : ∀ id, candidate ≤ id → host.Unused id → post (.ok id) host) :
    Watched admits duty invariant post (firstFree fuel candidate) host := by
  induction fuel generalizing candidate with
  | zero => exact failed _
  | succ fuel ih =>
    apply Safe.bind
    apply watched_idInUse holds
    · exact failed _
    · exact ih fun id above => found id (by omega)
    · exact fun unused => found candidate (by omega) unused

theorem watched_nextUid
    (found : ∀ next, (∀ counter, host.uidCounter = some counter → counter ≤ next) →
      post (.ok next) host) :
    Watched admits duty invariant post nextUid host := by
  apply Safe.bind
  apply watched_reads rfl (fun _ => rfl) holds
  · exact failed _
  cases counter : host.uidCounter with
  | some next =>
    apply found next
    intro other same
    rw [counter] at same
    cases same
    exact le_rfl
  | none =>
  apply Safe.bind
  apply watched_any rfl holds
  intro legacy
  apply Safe.bind
  apply watched_passwd holds
  · exact failed _
  apply Safe.bind
  apply watched_groups holds
  · exact failed _
  · apply found
    intro other same
    rw [counter] at same
    contradiction

theorem watched_allocateUid
    (handed : ∀ uid, (∀ counter, host.uidCounter = some counter → counter ≤ uid) →
      host.Unused uid → invariant (host.handOut uid) ∧ post (.ok uid) (host.handOut uid)) :
    Watched admits duty invariant post allocateUid host := by
  apply Safe.bind
  apply watched_nextUid holds
  · exact failed
  intro next above
  apply Safe.bind
  apply watched_firstFree holds
  · exact failed
  intro uid atLeast unused
  dsimp only
  split
  · exact failed _
  · apply Safe.bind
    apply watched_writeUidCounter holds
    · exact failed _
    · exact handed uid (fun counter same => Nat.le_trans (above counter same) atLeast) unused

end

end Ids

/-! ## Creating and deleting accounts -/

/-- What holds from the moment an account may be deleted until it is gone. -/
structure Removing (duty : Duty) (invariant stays : Host → Prop) (name : Text) : Prop where
  holds : ∀ host, stays host → invariant host
  checked : ∀ host, stays host → duty.deletes name host
  userdel : ∀ host group, stays host → stays (host.called group (.userdel name))
  groupdel : ∀ host group, stays host → stays (host.called group (.groupdel name))

section Accounts

variable {name : Text} {id : Nat} {stays : Host → Prop} {post : Except Error Unit → Host → Prop}

section Removal

variable (removing : Removing duty invariant stays name) (here : stays host)
include removing here

section

variable (continues : ∀ answer later, stays later → post answer later)
include continues

theorem watched_groupdel :
    Watched admits duty invariant post (runTool (.groupdel name)) host := by
  apply watched_tool (by trivial) (removing.holds host here)
  · exact continues _ host here
  · intro _ group
    have after := removing.groupdel host group here
    exact ⟨removing.holds _ after, fun answer => continues answer _ after⟩

theorem watched_deleteGroup :
    Watched admits duty invariant post (deleteGroup name) host := by
  apply Safe.bind
  apply watched_groupExists (removing.holds host here)
  · exact continues _ host here
  · intro there
    cases there with
    | false => exact continues _ host here
    | true => exact watched_groupdel removing here continues

theorem watched_deleteAccount :
    Watched admits duty invariant post (deleteAccount name) host := by
  apply Safe.bind
  apply watched_lookupUser (removing.holds host here)
  · exact continues _ host here
  cases host.lookupUser name with
  | none => exact watched_deleteGroup removing here continues
  | some found =>
  apply Safe.bind
  apply watched_tool (by exact removing.checked host here) (removing.holds host here)
  · exact continues _ host here
  intro _ group
  have after := removing.userdel host group here
  refine ⟨removing.holds _ after, fun answer => ?_⟩
  cases answer with
  | error error => exact continues _ _ after
  | ok _ => exact watched_deleteGroup removing after continues

end

theorem watched_verifyAccount (failed : ∀ error later, stays later → post (.error error) later)
    (verified : host.lookupUser name = some (id, id) → post (.ok ()) host) :
    Watched admits duty invariant post (verifyAccount name id) host := by
  apply Safe.bind
  apply watched_lookupUser (removing.holds host here)
  · exact failed _ host here
  dsimp only
  split
  · rename_i found
    exact verified found
  · apply Safe.bind
    apply watched_deleteAccount removing here
    intro _ later after
    exact failed _ later after

end Removal

/-- What holds from the moment the id was handed out until the account is there.
A group of that name comes and goes. -/
structure Preparing (duty : Duty) (invariant early : Host → Prop) (name : Text) (id : Nat) : Prop where
  holds : ∀ host, early host → invariant host
  groupdel : ∀ host group, early host → early (host.called group (.groupdel name))
  groupadd : ∀ host group, early host → early (host.called group (.groupadd name id))
  checked : ∀ host, early host → duty.creates name id host
  useradd : ∀ host group, early host → invariant (host.called group (.useradd name id))

section Creation

variable {early : Host → Prop} (removing : Removing duty invariant invariant name)
  (preparing : Preparing duty invariant early name id) (here : early host)
  (failed : ∀ error later, invariant later → post (.error error) later)
  (created : ∀ before group, early before →
    (before.called group (.useradd name id)).lookupUser name = some (id, id) →
    post (.ok ()) (before.called group (.useradd name id)))
include removing preparing here failed created

/-- The account itself, once no group has its name. -/
theorem watched_addAccount :
    Watched admits duty invariant post (do
      match ← runTool (.groupadd name id) with
      | .error error => return .error error
      | .ok () =>
        match ← runTool (.useradd name id) with
        | .error error =>
          let _ ← runTool (.groupdel name)
          return .error error
        | .ok () => verifyAccount name id) host := by
  apply Safe.bind
  apply watched_tool (by trivial) (preparing.holds host here)
  · exact failed _ host (preparing.holds host here)
  intro _ group
  have grouped := preparing.groupadd host group here
  have kept := preparing.holds _ grouped
  refine ⟨kept, fun answer => ?_⟩
  cases answer with
  | error error => exact failed _ _ kept
  | ok _ =>
  apply Safe.bind
  apply watched_tool (by exact preparing.checked _ grouped) kept
  · exact Safe.bind (watched_groupdel removing kept fun _ later after => failed _ later after)
  intro _ other
  have there := preparing.useradd _ other grouped
  refine ⟨there, fun answer => ?_⟩
  cases answer with
  | error error =>
    exact Safe.bind (watched_groupdel removing there fun _ later after => failed _ later after)
  | ok _ =>
    apply watched_verifyAccount removing there failed
    exact created _ other grouped

theorem watched_createAccount :
    Watched admits duty invariant post (createAccount name id) host := by
  have kept := preparing.holds host here
  apply Safe.bind
  apply Safe.bind
  apply watched_groupExists kept
  · exact failed _ host kept
  intro there
  cases there with
  | false => exact watched_addAccount removing preparing here failed created
  | true =>
  apply watched_tool (by trivial) kept
  · exact failed _ host kept
  intro _ group
  have cleared := preparing.groupdel host group here
  refine ⟨preparing.holds _ cleared, fun answer => ?_⟩
  cases answer with
  | error error => exact failed _ _ (preparing.holds _ cleared)
  | ok _ => exact watched_addAccount removing preparing cleared failed created

end Creation

end Accounts

/-! ## The frame of a request -/

theorem watched_runAdmitted {R : Type} {body : Except Error Unit → Action (Except Error R)}
    (holds : invariant host) (failed : ∀ error, body (.error error) = return .error error)
    (safe : Keeps admits duty invariant (body (.ok ())) host) :
    Keeps admits duty invariant (forget (runAdmitted (perform .openRuntimeRoot >>= body))) host := by
  apply Safe.bind
  apply Safe.bind
  apply watched_any rfl holds
  intro admission
  cases admission with
  | refused => exact holds
  | replay => exact holds
  | proceed =>
  have opening : Keeps admits duty invariant (perform .openRuntimeRoot >>= body) host := by
    apply Safe.bind
    apply watched_any rfl holds
    intro opened
    cases opened with
    | error error =>
      rw [failed]
      exact holds
    | ok _ => exact safe
  refine opening.attempt (fun _ _ kept => kept) ?_
  intro result later kept
  apply Safe.bind
  apply watched_any rfl kept
  intro saved
  cases saved <;> exact kept

theorem watched_resultOf {domain : Domain} {record : IdentityRecord}
    {created changed : Bool} (holds : invariant host) :
    Keeps admits duty invariant (resultOf runtime domain record created changed) host := by
  apply Safe.bind
  apply watched_any rfl holds
  intro now
  exact holds

/-! ## The requests -/

/-- Nothing is lost by taking away accounts, groups and records, or by looking at
the records. -/
structure Tolerant (invariant : Host → Prop) : Prop where
  userdel : ∀ host group name, invariant host → invariant (host.called group (.userdel name))
  groupdel : ∀ host group name, invariant host → invariant (host.called group (.groupdel name))
  record : ∀ host runtime domain, invariant host → invariant (host.dropRecord runtime domain)
  listed : ∀ host readable, invariant host → invariant { host with readable }

theorem Tolerant.removing (tolerant : Tolerant invariant)
    (free : ∀ name host, duty.deletes name host) (name : Text) :
    Removing duty invariant invariant name :=
  ⟨fun _ holds => holds, fun host _ => free name host, fun host group => tolerant.userdel host group name,
    fun host group => tolerant.groupdel host group name⟩

/-- A port the pool's counter has not passed yet. -/
def Host.FreshPort (host : Host) (runtime : RuntimeId) (port : Nat) : Prop :=
  ∀ counter, host.portCounter runtime = some counter → counter ≤ port

theorem watched_allocatePort {post : Except Error Nat → Host → Prop} (holds : invariant host)
    (failed : ∀ error, post (.error error) host)
    (handed : ∀ port, host.FreshPort runtime port → invariant (host.countPort runtime port) ∧
      post (.ok port) (host.countPort runtime port)) :
    Watched admits duty invariant post (allocatePort runtime) host := by
  apply Safe.bind
  apply watched_any rfl holds
  intro created
  cases created with
  | error error => exact failed error
  | ok _ =>
  apply Safe.bind
  apply watched_reads rfl (fun _ => rfl) holds
  · exact failed _
  dsimp only
  split
  · exact failed _
  apply Safe.bind
  apply watched_writePortCounter holds
  · exact failed _
  · apply handed
    intro counter same
    rw [same]
    exact le_rfl

def AllocateRequest.record (request : AllocateRequest) (osUser : Text) (uid gid port : Nat) :
    IdentityRecord :=
  { osUser, uid, gid, port, settings := request.settings }

/-- What the host looks like once the record of a new allocation is there. -/
def Host.established (host : Host) (request : AllocateRequest) (osUser : Text)
    (uid gid port : Nat) : Host :=
  (host.countPort request.runtime port).putRecord request.runtime request.domain
    (request.record osUser uid gid port) .allocation

theorem watched_finish {osUser : Text} {uid gid : Nat} (holds : invariant host)
    (counted : ∀ port, host.FreshPort request.runtime port →
      invariant (host.countPort request.runtime port))
    (written : ∀ port, host.FreshPort request.runtime port →
      invariant (host.established request osUser uid gid port)) :
    Keeps admits duty invariant (finish request osUser uid gid) host := by
  apply Safe.bind
  apply watched_allocatePort holds
  · exact fun _ => holds
  intro port fresh
  refine ⟨counted port fresh, ?_⟩
  apply Safe.bind
  apply watched_writeRecord (counted port fresh)
  · exact counted port fresh
  · refine ⟨written port fresh, fun answer => ?_⟩
    cases answer <;> exact written port fresh

/-- The account is there, and it is the one just created where there was none. -/
def Host.Arrived (host : Host) (early : Host → Prop) (name : Text) (uid : Nat) (later : Host) : Prop :=
  later = host ∨ ∃ before group, early before ∧ later = before.called group (.useradd name uid)

/-- What an allocation may do to a host on which the request finds no record. -/
structure Establishes (slug : Slug) (duty : Duty) (invariant : Host → Prop)
    (early : Nat → Host → Prop) (request : AllocateRequest) (host : Host) : Prop where
  handOut : ∀ uid, (∀ counter, host.uidCounter = some counter → counter ≤ uid) →
    host.Unused uid → early uid (host.handOut uid)
  preparing : ∀ uid, Preparing duty invariant (early uid) (request.wanted slug) uid
  counted : ∀ later uid gid port, host.Arrived (early uid) (request.wanted slug) uid later →
    later.lookupUser (request.wanted slug) = some (uid, gid) →
    later.FreshPort request.runtime port → invariant (later.countPort request.runtime port)
  written : ∀ later uid gid port, host.Arrived (early uid) (request.wanted slug) uid later →
    later.lookupUser (request.wanted slug) = some (uid, gid) →
    later.FreshPort request.runtime port →
    invariant (later.established request (request.wanted slug) uid gid port)

variable {slug : Slug} {early : Nat → Host → Prop}

/-- From the account on. -/
theorem watched_ending (tolerant : Tolerant invariant)
    (free : ∀ name host, duty.deletes name host)
    (establishes : Establishes slug duty invariant early request host) {later : Host}
    {uid gid : Nat} {created : Bool} (kept : invariant later)
    (whence : host.Arrived (early uid) (request.wanted slug) uid later)
    (account : later.lookupUser (request.wanted slug) = some (uid, gid)) :
    Keeps admits duty invariant (do
      match ← finish request (request.wanted slug) uid gid with
      | .ok record => resultOf request.runtime request.domain record created true
      | .error error =>
        undoAllocation request (request.wanted slug) created
        return .error error) later := by
  apply (watched_finish kept (fun port => establishes.counted later uid gid port whence account)
    fun port => establishes.written later uid gid port whence account).seq
  intro answer last after
  cases answer with
  | ok record => exact watched_resultOf after
  | error error =>
  apply Safe.bind
  have undo : ∀ host, invariant host → Keeps admits duty invariant
      (if created then (do let _ ← deleteAccount (request.wanted slug); return ())
        else return ()) host := by
    intro host holds
    split
    · exact Safe.bind (watched_deleteAccount (tolerant.removing free _) holds fun _ _ last => last)
    · exact holds
  apply Safe.bind
  apply watched_removeRecord after
  · exact undo last after
  · have gone := tolerant.record last request.runtime request.domain after
    exact ⟨gone, fun _ => undo _ gone⟩

theorem watched_establish
    (tolerant : Tolerant invariant) (free : ∀ name host, duty.deletes name host)
    (holds : invariant host) (establishes : Establishes slug duty invariant early request host) :
    Keeps admits duty invariant (establish slug request) host := by
  apply Safe.bind
  apply Safe.bind
  apply watched_lookupUser holds
  · exact holds
  cases account : host.lookupUser (request.wanted slug) with
  | some found =>
    obtain ⟨uid, gid⟩ := found
    dsimp only
    split
    · exact holds
    · exact watched_ending tolerant free establishes holds (.inl rfl) account
  | none =>
  dsimp only
  split
  · apply Safe.bind
    apply watched_allocateUid holds
    · exact fun _ => holds
    intro uid above unused
    have handed := establishes.handOut uid above unused
    refine ⟨(establishes.preparing uid).holds _ handed, ?_⟩
    apply Safe.bind
    apply watched_createAccount (tolerant.removing free _) (establishes.preparing uid) handed
    · exact fun _ _ last => last
    · intro before group is found
      exact watched_ending tolerant free establishes
        ((establishes.preparing uid).useradd before group is) (.inr ⟨before, group, is, rfl⟩) found
  · exact holds

theorem watched_adjust {wanted : Text} {record : IdentityRecord} (holds : invariant host)
    (rewritten : ∀ settings, invariant (host.putRecord request.runtime request.domain
      { record with settings } (.record request.domain))) :
    Keeps admits duty invariant (adjust request wanted record) host := by
  unfold adjust
  split
  · exact holds
  apply Safe.bind
  apply watched_lookupUser holds
  · exact holds
  dsimp only
  split
  · exact holds
  split
  · exact watched_resultOf holds
  apply Safe.bind
  apply watched_writeRecord holds
  · exact holds
  · refine ⟨rewritten _, fun answer => ?_⟩
    cases answer with
    | error error => exact rewritten _
    | ok _ => exact watched_resultOf (rewritten _)

theorem watched_allocate
    (tolerant : Tolerant invariant) (free : ∀ name host, duty.deletes name host)
    (holds : invariant host)
    (rewritten : ∀ record settings, host.record? request.runtime request.domain = some record →
      invariant (host.putRecord request.runtime request.domain { record with settings }
        (.record request.domain)))
    (establishes : host.record? request.runtime request.domain = none →
      Establishes slug duty invariant early request host) :
    Keeps admits duty invariant (Request.program slug (.allocate request)) host := by
  refine watched_runAdmitted holds (fun _ => rfl) ?_
  have absent : Watched admits duty invariant (fun _ later => later = host)
      (checkAbsent slug request) host := by
    unfold checkAbsent
    split
    · apply Safe.bind
      apply watched_readRecord holds
      · rfl
      cases host.record? request.runtime request.domain with
      | some record => rfl
      | none =>
        apply Safe.bind
        apply watched_lookupUser holds
        · rfl
        · cases host.lookupUser (request.wanted slug) <;> rfl
    · rfl
  apply absent.seq
  intro answer later same
  subst same
  cases answer with
  | error error => exact holds
  | ok _ =>
  apply Safe.bind
  apply watched_readRecord holds
  · exact holds
  · cases found : later.record? request.runtime request.domain with
    | some record => exact watched_adjust holds (rewritten record · found)
    | none => exact watched_establish tolerant free holds (establishes found)

/-- No record that could be read, other than the one to be released, names the
account. -/
def Host.Unshared (host : Host) (request : ReleaseRequest) (name : Text) : Prop :=
  ∀ runtime domain record, host.record? runtime domain = some record →
    host.readable runtime domain = true → (runtime, domain) ≠ (request.runtime, request.domain) →
    record.osUser ≠ name

theorem mem_readableRecords {readable : RuntimeId → Domain → Bool}
    {domain : Domain} {record : IdentityRecord} (found : host.record? runtime domain = some record)
    (reads : readable runtime domain = true) :
    ((runtime, domain), record) ∈ host.readableRecords readable := by
  unfold Host.record? at found
  rw [Option.map_eq_some_iff] at found
  obtain ⟨stored, lookup, same⟩ := found
  rw [Host.readableRecords, List.mem_map]
  refine ⟨⟨(runtime, domain), stored⟩, List.mem_filter.mpr ⟨?_, reads⟩, by rw [same]⟩
  exact AList.mem_lookup_iff.mp lookup

variable {request : ReleaseRequest}

theorem watched_retireAccount (tolerant : Tolerant invariant)
    (checked : ∀ later, later.Unshared request name → duty.deletes name later)
    (holds : invariant host) :
    Keeps admits duty invariant (retireAccount request name) host := by
  have removing : Removing duty invariant
      (fun later => invariant later ∧ later.Unshared request name) name :=
    ⟨fun _ both => both.1, fun later both => checked later both.2,
      fun later group both => ⟨tolerant.userdel later group name both.1, both.2⟩,
      fun later group both => ⟨tolerant.groupdel later group name both.1, both.2⟩⟩
  apply Safe.bind
  apply watched_any rfl holds
  intro opened
  cases opened with
  | error error => exact holds
  | ok _ =>
  apply Safe.bind
  apply watched_any rfl holds
  intro there
  cases there with
  | true => exact holds
  | false =>
  apply Safe.bind
  apply watched_allRecords
  intro readable
  have kept := tolerant.listed host readable holds
  refine ⟨kept, kept, ?_⟩
  dsimp only
  split
  · exact kept
  rename_i alone
  have unshared : ({ host with readable } : Host).Unshared request name := by
    intro runtime domain record found reads other same
    apply alone
    rw [List.any_eq_true]
    refine ⟨_, mem_readableRecords found reads, ?_⟩
    simp only [Bool.and_eq_true, decide_eq_true_eq]
    exact ⟨same, other⟩
  apply Safe.bind
  apply watched_lookupUser kept
  · exact kept
  cases ({ host with readable } : Host).lookupUser name with
  | none => exact kept
  | some found =>
  dsimp only
  split
  · exact kept
  · apply Safe.bind
    apply watched_deleteAccount removing ⟨kept, unshared⟩
    intro answer later after
    cases answer <;> exact after.1

theorem watched_release (tolerant : Tolerant invariant)
    (checked : ∀ name later, later.Unshared request name → duty.deletes name later)
    (holds : invariant host) :
    Keeps admits duty invariant (Request.program slug (.release request)) host := by
  refine watched_runAdmitted holds (fun _ => rfl) ?_
  apply Safe.bind
  apply watched_readRecord holds
  · exact holds
  have account : Keeps admits duty invariant
      (retire slug request (host.record? request.runtime request.domain)) host := by
    unfold retire
    split
    · exact watched_retireAccount tolerant (checked _) holds
    · exact holds
  apply account.seq
  intro answer later after
  cases answer with
  | error error => exact after
  | ok result =>
  apply Safe.bind
  apply watched_removeRecord after
  · exact after
  have gone := tolerant.record later request.runtime request.domain after
  refine ⟨gone, fun _ => ?_⟩
  apply Safe.bind
  apply watched_any rfl gone
  intro now
  exact gone

theorem watched_update {request : UpdateRequest} (holds : invariant host)
    (rewritten : ∀ record settings, host.record? request.runtime request.domain = some record →
      invariant (host.putRecord request.runtime request.domain { record with settings }
        (.record request.domain))) :
    Keeps admits duty invariant (Request.program slug (.update request)) host := by
  refine watched_runAdmitted holds (fun _ => rfl) ?_
  apply Safe.bind
  apply watched_readRecord holds
  · exact holds
  cases found : host.record? request.runtime request.domain with
  | none => exact holds
  | some record =>
  dsimp only
  split
  · exact watched_resultOf holds
  have kept := rewritten record { record.settings with root := request.root } found
  apply Safe.bind
  apply watched_writeRecord holds
  · exact holds
  · refine ⟨kept, fun answer => ?_⟩
    cases answer with
    | error error => exact kept
    | ok _ => exact watched_resultOf kept

theorem watched_rename {request : RenameRequest} (tolerant : Tolerant invariant)
    (holds : invariant host) (moved : ∀ record settings,
      host.record? request.runtime request.fromDomain = some record →
      (request.fromDomain ≠ request.toDomain → ∀ other,
        host.record? request.runtime request.toDomain = some other →
          other = { record with settings }) →
      invariant (host.putRecord request.runtime request.toDomain { record with settings }
        (.record request.fromDomain))) :
    Keeps admits duty invariant (Request.program slug (.rename request)) host := by
  refine watched_runAdmitted holds (fun _ => rfl) ?_
  apply Safe.bind
  apply watched_readRecord holds
  · exact holds
  apply Safe.bind
  apply watched_readRecord holds
  · exact holds
  cases found : host.record? request.runtime request.fromDomain with
  | none =>
    cases host.record? request.runtime request.toDomain with
    | none => exact holds
    | some done =>
      dsimp only
      split
      · exact watched_resultOf holds
      · exact holds
  | some record =>
  dsimp only
  split
  · exact holds
  rename_i free
  have kept := moved record { record.settings with root := request.root } found (by
    intro apart other existing
    simpa [apart, existing] using free)
  apply Safe.bind
  apply watched_writeRecord holds
  · exact holds
  refine ⟨kept, fun answer => ?_⟩
  cases answer with
  | error error => exact kept
  | ok _ =>
  dsimp only
  split
  · exact watched_resultOf kept
  apply Safe.bind
  apply watched_removeRecord kept
  · exact kept
  · have gone := tolerant.record _ request.runtime request.fromDomain kept
    exact ⟨gone, fun _ => watched_resultOf gone⟩

end Rules

end OpsEngine.Identity
