import Mathlib.Data.Fintype.Basic
import OpsEngine.Migrate.Operations
import OpsEngine.Transaction.Ledger

namespace OpsEngine.Create

open Effect
open Migrate (Identity StepError)

/-! # `site.create`

The host as the creation of one domain sees it, and the programs of `site_create`
and `site_create_host`.  Every creation and recovery holds the lock of the
domain's scope for its whole body, so they run one after another.
-/

structure Plan where
  domain : Domain
  runtime : RuntimeId
  relativeRoot : Option Text
  profile : Option Text
  workerMode : Bool
  workerCount : Int
  named : domain.text ≠ "sites".toList
  workers : 1 ≤ workerCount ∧ workerCount ≤ 64
deriving DecidableEq

structure CreateResult where
  domain : Domain
  runtimeId : RuntimeId
  root : Text
  port : Nat
deriving DecidableEq

inductive Artifact where
  | identity
  | root
  | service
  | exec
  | route
deriving DecidableEq

instance : Fintype Artifact :=
  ⟨{.identity, .root, .service, .exec, .route}, fun artifact => by cases artifact <;> decide⟩

/-- What `pending/<request id>.json` says.  A flag is set before the step that
creates the artifact. -/
structure Journal where
  requestId : RequestId
  plan : Plan
  root : Text
  identity : Bool
  rootAttempted : Bool
  service : Bool
  exec : Bool
  route : Bool
  completed : Option CreateResult
deriving DecidableEq

def Journal.start (id : RequestId) (plan : Plan) (root : Text) : Journal :=
  { requestId := id, plan, root, identity := false, rootAttempted := false, service := false
    exec := false, route := false, completed := none }

def Journal.flags (journal : Journal) : Artifact → Bool
  | .identity => journal.identity
  | .root => journal.rootAttempted
  | .service => journal.service
  | .exec => journal.exec
  | .route => journal.route

def Journal.mark (journal : Journal) : Artifact → Journal
  | .identity => { journal with identity := true }
  | .root => { journal with rootAttempted := true }
  | .service => { journal with service := true }
  | .exec => { journal with exec := true }
  | .route => { journal with route := true }

def Journal.complete (journal : Journal) (result : CreateResult) : Journal :=
  { journal with completed := some result }

/-- An artifact on the host, with the request that made it. -/
structure Owned (α : Type) where
  owner : RequestId
  value : α
deriving DecidableEq

/-- A file of `pending/`.  An atomic write goes through `<name>.tmp`. -/
inductive PendingName where
  | journal (id : RequestId)
  | temp (id : RequestId)
deriving DecidableEq

structure Site where
  records : Ledger.Records StepError CreateResult
  plans : RequestId → Option Plan
  journals : List (RequestId × Journal)
  temps : List RequestId
  allocations : Ledger.Records StepError Identity
  identity : Option (Owned Identity)
  /-- The content root, with the uid and gid it belongs to. -/
  root : Option (Owned (Nat × Nat))
  service : Option (Owned Identity)
  exec : Option (Owned Text)
  route : Option (Owned Text)
  /-- The requests whose site answered through the ingress. -/
  verified : List RequestId

namespace Site

def owner (site : Site) : Artifact → Option RequestId
  | .identity => site.identity.map Owned.owner
  | .root => site.root.map Owned.owner
  | .service => site.service.map Owned.owner
  | .exec => site.exec.map Owned.owner
  | .route => site.route.map Owned.owner

def drop (site : Site) : Artifact → Site
  | .identity => { site with identity := none }
  | .root => { site with root := none }
  | .service => { site with service := none }
  | .exec => { site with exec := none }
  | .route => { site with route := none }

def journal? (site : Site) (id : RequestId) : Option Journal := site.journals.lookup id

def status? (site : Site) (id : RequestId) : Option TransactionStatus := site.records.status? id

def setRecord (site : Site) (id : RequestId) (file : Ledger.File StepError CreateResult) : Site :=
  { site with records := site.records.set id file }

def dropJournal (site : Site) (id : RequestId) : Site :=
  { site with journals := site.journals.filter (·.1 ≠ id) }

def setJournal (site : Site) (journal : Journal) : Site :=
  { site with journals := (journal.requestId, journal) :: (site.dropJournal journal.requestId).journals }

/-- `pending/` as it is listed, up to the order. -/
def pending (site : Site) : List PendingName :=
  site.journals.map (fun entry => .journal entry.1) ++ site.temps.map .temp

def free (site : Site) : Bool :=
  site.identity.isNone && site.root.isNone && site.service.isNone && site.exec.isNone &&
    site.route.isNone

end Site

inductive Admission where
  | busy
  | failed
  | replay (original : RequestId)
  | proceed

inductive Target where
  | pool (runtime : RuntimeId)
  | ingress

inductive Creation where
  | root (identity : Identity)
  | service (identity : Identity)
  | exec (content : Text)
  | route (content : Text)

def Creation.artifact : Creation → Artifact
  | .root _ => .root
  | .service _ => .service
  | .exec _ => .exec
  | .route _ => .route

/-- What the backend removes, with what it expects there. -/
inductive Removal where
  | route (expected : Text)
  | exec (expected : Text)
  | service (expected : Identity)
  | root (owner : Nat × Nat)
  | identity

def Removal.artifact : Removal → Artifact
  | .route _ => .route
  | .exec _ => .exec
  | .service _ => .service
  | .root _ => .root
  | .identity => .identity

namespace Site

def put (site : Site) (id : RequestId) : Creation → Site
  | .root identity => { site with root := some ⟨id, identity.uid, identity.gid⟩ }
  | .service identity => { site with service := some ⟨id, identity⟩ }
  | .exec content => { site with exec := some ⟨id, content⟩ }
  | .route content => { site with route := some ⟨id, content⟩ }

/-- Only `write_service` writes over what is there. -/
def blocks (site : Site) : Creation → Bool
  | .root _ => site.root.isSome
  | .service _ => false
  | .exec _ => site.exec.isSome
  | .route _ => site.route.isSome

/-- A removal refuses what is not as expected. -/
def fits (site : Site) : Removal → Bool
  | .route expected => site.route.all (·.value = expected)
  | .exec expected => site.exec.all (·.value = expected)
  | .service expected => site.service.all (·.value = expected)
  | .root owner => site.root.all (·.value = owner)
  | .identity => true

end Site

inductive Step where
  | openScope
  | admission (id : RequestId)
  | beginRecord (id : RequestId)
  | lock
  | savePlan (id : RequestId) (plan : Plan)
  | loadPlan (id : RequestId)
  | loadRecord (id : RequestId)
  | saveRecord (id : RequestId) (record : Ledger.Record StepError CreateResult)
  | listPending
  | stageJournal (journal : Journal)
  | installJournal (journal : Journal)
  | journalExists (id : RequestId)
  | readJournal (id : RequestId)
  | removeJournal (id : RequestId)
  | appendAudit
  | now
  | checkAvailable (plan : Plan)
  | allocateNew (plan : Plan) (root : Text) (id : RequestId)
  | make (creation : Creation) (id : RequestId)
  | ensurePool (plan : Plan)
  | probe (target : Target) (root : Text) (id : RequestId)
  | readRoute
  | readIdentity
  | loadAllocation (id : RequestId)
  | remove (removal : Removal)
  | sweepAllocations

/-- What `state::load` makes of an allocation's record. -/
inductive Loaded where
  | notFound
  | unreadable
  | found (record : Ledger.Record StepError Identity)

/-- The identity that a committed allocation recorded. -/
def Loaded.proof? : Loaded → Option Identity
  | .found ⟨.committed, _, some (.ok proof)⟩ => some proof
  | _ => none

def Answer : Step → Type
  | .admission _ => Admission
  | .openScope | .beginRecord _ | .lock | .savePlan _ _ | .saveRecord _ _ | .stageJournal _
  | .installJournal _ | .journalExists _ | .removeJournal _ | .appendAudit => Bool
  | .loadPlan _ => Option Plan
  | .loadRecord _ => Option (Ledger.Record StepError CreateResult)
  | .listPending => Option (List PendingName)
  | .readJournal _ => Option Journal
  | .now => Nat
  | .checkAvailable _ => Except StepError Text
  | .allocateNew _ _ _ => Except StepError Identity
  | .readRoute => Except StepError (Option Text)
  | .readIdentity => Except StepError (Option Identity)
  | .loadAllocation _ => Loaded
  | .sweepAllocations => Unit
  | _ => Except StepError Unit

/-- What a failed or killed allocation has made of its own record. -/
inductive Remnant where
  | unrecorded
  | torn
  | begun
  | failed
deriving DecidableEq

structure Chance where
  /-- The step fails with this error. -/
  fails : Option StepError
  /-- A step that fails has its effect all the same. -/
  takes : Bool
  admission : Admission
  now : Nat
  /-- What a retention sweep can remove. -/
  journalSwept : RequestId → Bool
  recordSwept : RequestId → Bool
  /-- The order `pending/` is listed in. -/
  listing : List PendingName
  root : Text
  identity : Identity
  /-- An allocation that succeeds saves its record. -/
  recorded : Bool
  remnant : Remnant

def Chance.settle (chance : Chance) (before after : Site) : Except StepError Unit × Site :=
  match chance.fails with
  | none => (.ok (), after)
  | some error => (.error error, if chance.takes then after else before)

/-- As `settle`, for an operation on the engine's own files: it fails without an
effect. -/
def Chance.store (chance : Chance) (before after : Site) : Bool × Site :=
  if chance.fails.isNone then (true, after) else (false, before)

/-- `prune_completed` on the scope of the creations: with an expired record goes
`pending/<request id>.json`. -/
def Site.sweep (site : Site) (chance : Chance) : Site :=
  { site with
    records := site.records.sweep chance.now chance.recordSwept
    journals := site.journals.filter fun entry =>
      !(site.records.expired chance.now entry.1 && chance.journalSwept entry.1) }

def internal : StepError := ⟨.internal,
  "site creation journal is unavailable; inspect operation status before retrying"⟩

def conflict : StepError := ⟨.conflict, "site creation is active or requires explicit recovery"⟩

def invalid : StepError := ⟨.invalidInput, "invalid site creation plan"⟩

/-- The host's own conflict. -/
def occupied : StepError := ⟨.conflict, "the site creation target is not free"⟩

/-- The settings of an allocation come from its request. -/
def Chance.allocated (chance : Chance) (plan : Plan) (root : Text) : Identity :=
  { chance.identity with root, workerMode := plan.workerMode, workerCount := plan.workerCount }

def Remnant.leave (remnant : Remnant) (error : StepError) (now : Nat) (id : RequestId)
    (allocations : Ledger.Records StepError Identity) : Ledger.Records StepError Identity :=
  match remnant with
  | .unrecorded => allocations
  | .torn => allocations.set id .torn
  | .begun => allocations.set id (.whole .begun)
  | .failed => allocations.set id (.whole (.failed error now))

/-- `site_identity::allocate` for a new site, with its own record. -/
def Site.allocate (site : Site) (chance : Chance) (plan : Plan) (root : Text) (id : RequestId) :
    Except StepError Identity × Site :=
  let identity := chance.allocated plan root
  match chance.fails, site.identity with
  | none, none =>
    let record : Ledger.Record StepError Identity :=
      if chance.recorded then .committed identity chance.now else .begun
    (.ok identity,
      { site with identity := some ⟨id, identity⟩
                  allocations := site.allocations.set id (.whole record) })
  | fails, _ =>
    let error := fails.getD occupied
    let left := { site with
      allocations := chance.remnant.leave error chance.now id site.allocations }
    (.error error,
      if chance.takes && site.identity.isNone then { left with identity := some ⟨id, identity⟩ }
      else left)

def exec (chance : Chance) : (step : Step) → Site → Answer step × Site
  | .openScope, site => chance.store site site
  | .admission id, site =>
    let swept := site.sweep chance
    match chance.admission, swept.records id with
    | .proceed, none => (.proceed, swept.setRecord id .torn)
    | .proceed, some _ => (.failed, swept)
    | answer, _ => (answer, swept)
  | .beginRecord id, site => chance.store site (site.setRecord id (.whole .begun))
  | .lock, site => chance.store site site
  | .savePlan id plan, site =>
    chance.store site { site with plans := Function.update site.plans id (some plan) }
  | .loadPlan id, site => (if chance.fails.isNone then site.plans id else none, site)
  | .loadRecord id, site => (if chance.fails.isNone then site.records.load id else none, site)
  | .saveRecord id record, site => chance.store site (site.setRecord id (.whole record))
  | .listPending, site =>
    if chance.fails.isNone then
      (some (if chance.listing.Perm site.pending then chance.listing else site.pending), site)
    else (none, site)
  | .stageJournal journal, site =>
    let staged := { site with temps := journal.requestId :: site.temps.erase journal.requestId }
    if chance.fails.isNone then (true, staged) else (false, if chance.takes then staged else site)
  | .installJournal journal, site =>
    chance.store site { site.setJournal journal with temps := site.temps.erase journal.requestId }
  | .journalExists id, site => ((site.journal? id).isSome, site)
  | .readJournal id, site => (if chance.fails.isNone then site.journal? id else none, site)
  | .removeJournal id, site =>
    if (site.journal? id).isSome then chance.store site (site.dropJournal id) else (false, site)
  | .appendAudit, site => chance.store site site
  | .now, site => (chance.now, site)
  | .checkAvailable _, site =>
    match chance.fails with
    | some error => (.error error, site)
    | none => (if site.free then .ok chance.root else .error occupied, site)
  | .allocateNew plan root id, site => site.allocate chance plan root id
  | .make creation id, site =>
    if site.blocks creation then (.error (chance.fails.getD occupied), site)
    else chance.settle site (site.put id creation)
  | .ensurePool _, site => chance.settle site site
  | .probe target _ id, site =>
    match target with
    | .pool _ => chance.settle site site
    | .ingress =>
      match chance.fails with
      | some error => (.error error, site)
      | none => (.ok (), { site with verified := id :: site.verified })
  | .readRoute, site =>
    match chance.fails with
    | some error => (.error error, site)
    | none => (.ok (site.route.map Owned.value), site)
  | .readIdentity, site =>
    match chance.fails with
    | some error => (.error error, site)
    | none => (.ok (site.identity.map Owned.value), site)
  | .loadAllocation id, site =>
    match chance.fails, site.allocations id with
    | none, none => (.notFound, site)
    | none, some (.whole record) => (.found record, site)
    | _, _ => (.unreadable, site)
  | .remove removal, site =>
    if site.fits removal then chance.settle site (site.drop removal.artifact)
    else (.error (chance.fails.getD occupied), site)
  | .sweepAllocations, site =>
    ((), { site with allocations := site.allocations.sweep chance.now chance.recordSwept })

/-- One process at a time works on the domain: it holds the scope's lock. -/
def machine : Machine Step Answer Site Unit Chance where
  exec _ := exec
  exit _ site := site

abbrev Task (α : Type) := Program Step Answer α

abbrev step (step : Step) : Task (Answer step) := Program.call step

/-! The steps of the backend, under the names they have there. -/

abbrev allocateNew (plan : Plan) (root : Text) (id : RequestId) : Task (Except StepError Identity) :=
  step (.allocateNew plan root id)

abbrev prepareNewRoot (identity : Identity) (id : RequestId) : Task (Except StepError Unit) :=
  step (.make (.root identity) id)

abbrev writeService (identity : Identity) (id : RequestId) : Task (Except StepError Unit) :=
  step (.make (.service identity) id)

abbrev activateExecConfig (content : Text) (id : RequestId) : Task (Except StepError Unit) :=
  step (.make (.exec content) id)

abbrev createRoute (content : Text) (id : RequestId) : Task (Except StepError Unit) :=
  step (.make (.route content) id)

abbrev ensurePool (plan : Plan) : Task (Except StepError Unit) := step (.ensurePool plan)

abbrev probe (target : Target) (root : Text) (id : RequestId) : Task (Except StepError Unit) :=
  step (.probe target root id)

abbrev remove (removal : Removal) : Task (Except StepError Unit) := step (.remove removal)

def andThen {α β : Type} (first : Task (Except StepError α)) (next : α → Task (Except StepError β)) :
    Task (Except StepError β) := do
  match ← first with
  | .error error => return .error error
  | .ok value => next value

/-! ## The backend's removals -/

structure Backend where
  removeCreatedRoute : Plan → Text → Task (Except StepError Unit)
  removeCreatedExec : Plan → RequestId → Task (Except StepError Unit)
  removeCreatedService : Plan → RequestId → Task (Except StepError Unit)
  removeEmptyRoot : Plan → RequestId → Task (Except StepError Unit)
  releaseCreatedIdentity : Plan → RequestId → Task (Except StepError Unit)

namespace HostBackend

/-- `HostBackend::creation_identity`: the identity the request's own allocation
recorded, if the site has no other. -/
def creationIdentity (id : RequestId) : Task (Except StepError Identity) := do
  let loaded ← step (.loadAllocation id)
  match loaded.proof? with
  | none => return .error occupied
  | some proof =>
    match ← step .readIdentity with
    | .error error => return .error error
    | .ok none => return .ok proof
    | .ok (some current) => if current = proof then return .ok proof else return .error occupied

def removeCreatedRoute (expected : Text) : Task (Except StepError Unit) := do
  match ← step .readRoute with
  | .error error => return .error error
  | .ok none => return .ok ()
  | .ok (some content) =>
    if content = expected then remove (.route expected) else return .error occupied

def removeCreatedExec (plan : Plan) (id : RequestId) : Task (Except StepError Unit) :=
  andThen (creationIdentity id) fun proof =>
    remove (.exec (Migrate.poolReverseProxyCaddyfile plan.domain proof.port))

def removeCreatedService (id : RequestId) : Task (Except StepError Unit) :=
  andThen (creationIdentity id) fun proof => remove (.service proof)

def removeEmptyRoot (id : RequestId) : Task (Except StepError Unit) :=
  andThen (creationIdentity id) fun proof => remove (.root (proof.uid, proof.gid))

/-- The answer where the allocation left no identity that is known to be its own. -/
def unlessPresent : Task (Except StepError Unit) := do
  match ← step .readIdentity with
  | .error error => return .error error
  | .ok none => return .ok ()
  | .ok (some _) => return .error occupied

def releaseCreatedIdentity (id : RequestId) : Task (Except StepError Unit) := do
  match ← step (.loadAllocation id) with
  | .notFound => unlessPresent
  | .unreadable => return .error ⟨.internal, "identity allocation evidence is unreadable"⟩
  | .found record =>
    if record.status = .failed then unlessPresent
    else if record.status ≠ .committed then
      return .error ⟨.internal, "interrupted identity allocation requires inspection"⟩
    else
      match ← step .readIdentity with
      | .error error => return .error error
      | .ok none => return .ok ()
      | .ok (some current) =>
        match record.outcome with
        | some (.ok result) =>
          if result.uid = current.uid ∧ result.gid = current.gid ∧ result.port = current.port ∧
              result.osUser = current.osUser then
            remove .identity
          else return .error occupied
        | _ => return .error occupied

end HostBackend

def hostBackend : Backend where
  removeCreatedRoute _ expected := HostBackend.removeCreatedRoute expected
  removeCreatedExec := HostBackend.removeCreatedExec
  removeCreatedService _ := HostBackend.removeCreatedService
  removeEmptyRoot _ := HostBackend.removeEmptyRoot
  releaseCreatedIdentity _ := HostBackend.releaseCreatedIdentity

/-! ## The creation -/

def ingressConfig (plan : Plan) : Text :=
  let domain := plan.domain.text
  let runtime := plan.runtime.text
  domain ++ " \x7b\n    import /etc/wcp/ingress.d/bans/*.caddy\n    reverse_proxy runtime-".toList ++
    runtime ++ ":80 \x7b\n        header_up X-Request-ID \x7bhttp.request.uuid\x7d\n".toList ++
    "        header_up X-WCP-Runtime-ID ".toList ++ runtime ++
    "\n        header_down X-Request-ID \x7bhttp.request.uuid\x7d\n    \x7d\n".toList ++
    "    log_append request_id \x7bhttp.request.uuid\x7d\n    log_append domain ".toList ++ domain ++
    "\n    log_append runtime_id ".toList ++ runtime ++ "\n\x7d\n".toList

def save (journal : Journal) : Task (Except StepError Unit) := do
  match ← step (.stageJournal journal) with
  | false => return .error internal
  | true =>
    match ← step (.installJournal journal) with
    | false => return .error internal
    | true => return .ok ()

/-- One removal of `undo`, if the journal says the artifact may exist. -/
def removing (flag : Bool) (removal : Task (Except StepError Unit)) : Task (Except StepError Unit) :=
  if flag then removal else return .ok ()

def undo (backend : Backend) (journal : Journal) : Task (Except StepError Unit) :=
  let plan := journal.plan
  let id := journal.requestId
  andThen (removing journal.route (backend.removeCreatedRoute plan (ingressConfig plan))) fun () =>
  andThen (removing journal.exec (backend.removeCreatedExec plan id)) fun () =>
  andThen (removing journal.service (backend.removeCreatedService plan id)) fun () =>
  andThen (removing journal.rootAttempted (backend.removeEmptyRoot plan id)) fun () =>
  removing journal.identity (backend.releaseCreatedIdentity plan id)

/-- A step that creates an artifact, once the journal says that it may exist. -/
def announced {α : Type} (journal : Journal) (creation : Task (Except StepError α)) :
    Task (Except StepError α) :=
  andThen (save journal) fun () => creation

/-- The `?` operator of `run`, whose journal is still there when it failed. -/
def proceed {α β : Type} (journal : Journal) (attempt : Task (Except StepError α))
    (next : α → Task (Except StepError β × Journal)) : Task (Except StepError β × Journal) := do
  match ← attempt with
  | .error error => return (.error error, journal)
  | .ok value => next value

/-- `run`, from the service on. -/
def publish (plan : Plan) (id : RequestId) (root : Text) (identity : Identity) (journal : Journal) :
    Task (Except StepError CreateResult × Journal) :=
  let journal := journal.mark .service
  proceed journal (announced journal (writeService identity id)) fun () =>
  let journal := journal.mark .exec
  proceed journal (announced journal (activateExecConfig
    (Migrate.poolReverseProxyCaddyfile plan.domain identity.port) id)) fun () =>
  proceed journal (probe (.pool plan.runtime) root id) fun () =>
  let journal := journal.mark .route
  proceed journal (announced journal (createRoute (ingressConfig plan) id)) fun () =>
  proceed journal (probe .ingress root id) fun () =>
  let result := { domain := plan.domain, runtimeId := plan.runtime, root, port := identity.port }
  let journal := journal.complete result
  proceed journal (save journal) fun () => return (.ok result, journal)

def run (plan : Plan) (id : RequestId) (root : Text) (journal : Journal) :
    Task (Except StepError CreateResult × Journal) :=
  let journal := journal.mark .identity
  proceed journal (announced journal (allocateNew plan root id)) fun identity =>
  let journal := journal.mark .root
  proceed journal (announced journal (prepareNewRoot identity id)) fun () =>
  proceed journal (ensurePool plan) fun () =>
  publish plan id root identity journal

/-- The record of a request that failed; the error is answered once it is saved. -/
def close {α : Type} (id : RequestId) (recorded answered : StepError) :
    Task (Except StepError α) := do
  let now ← step .now
  match ← step (.saveRecord id (.failed recorded now)) with
  | false => return .error internal
  | true => return .error answered

/-- The scan of `pending/`: what finished requests left is removed. -/
def clearFinished (id : RequestId) : List PendingName → Task (Except StepError Unit)
  | [] => return .ok ()
  | .temp _ :: _ => return .error internal
  | .journal old :: rest => do
    match ← step (.loadRecord old) with
    | none => return .error internal
    | some record =>
      if record.status = .inProgress then
        close id ⟨.conflict, "an earlier creation requires recovery"⟩ conflict
      else
        match ← step (.removeJournal old) with
        | false => return .error internal
        | true => clearFinished id rest

def commit (id : RequestId) (result : CreateResult) : Task (Except StepError CreateResult) := do
  let now ← step .now
  match ← step (.saveRecord id (.committed result now)) with
  | false => return .error internal
  | true =>
    let _ ← step .appendAudit
    let _ ← step (.removeJournal id)
    return .ok result

def compensate (backend : Backend) (id : RequestId) (error : StepError) (journal : Journal) :
    Task (Except StepError CreateResult) := do
  match ← undo backend journal with
  | .error _ => return .error ⟨.internal,
      "site creation failed and requires explicit recovery; retained content was not deleted"⟩
  | .ok () =>
    let now ← step .now
    match ← step (.saveRecord id (.failed error now)) with
    | false => return .error internal
    | true =>
      let _ ← step .appendAudit
      match ← step (.removeJournal id) with
      | false => return .error internal
      | true => return .error error

/-- `execute`, from the first journal on. -/
def build (backend : Backend) (plan : Plan) (id : RequestId) (root : Text) :
    Task (Except StepError CreateResult) :=
  let journal := Journal.start id plan root
  andThen (save journal) fun () => do
    match ← run plan id root journal with
    | (.ok result, _) => commit id result
    | (.error error, journal) => compensate backend id error journal

def create (backend : Backend) (plan : Plan) (id : RequestId) :
    Task (Except StepError CreateResult) := do
  match ← step (.savePlan id plan) with
  | false => return .error internal
  | true =>
    match ← step .listPending with
    | none => return .error internal
    | some names =>
      andThen (clearFinished id names) fun () => do
        match ← step (.checkAvailable plan) with
        | .error error => close id error error
        | .ok root => build backend plan id root

def replay (plan : Plan) (original : RequestId) : Task (Except StepError CreateResult) := do
  match ← step (.loadPlan original) with
  | none => return .error internal
  | some stored =>
    if stored ≠ plan then
      return .error ⟨.conflict, "the idempotency key belongs to a different creation plan"⟩
    else
      match ← step (.loadRecord original) with
      | none => return .error internal
      | some record =>
        match record.status, record.outcome with
        | .inProgress, _ => return .error conflict
        | .committed, some (.ok result) => return .ok result
        | .committed, _ => return .error internal
        | .failed, some (.error error) =>
          return .error ⟨error.code, "site creation failed; inspect the recorded outcome"⟩
        | .failed, _ =>
          return .error ⟨.internal, "site creation failed; inspect the recorded outcome"⟩

def execute (backend : Backend) (plan : Plan) (id : RequestId) :
    Task (Except StepError CreateResult) := do
  match ← step .openScope with
  | false => return .error internal
  | true =>
    match ← step (.admission id) with
    | .busy => return .error conflict
    | .failed => return .error internal
    | .replay original => replay plan original
    | .proceed =>
      match ← step (.beginRecord id) with
      | false => return .error internal
      | true => create backend plan id

/-! ## The recovery -/

abbrev Recovery := Except StepError (Ledger.Record StepError CreateResult)

/-- The end of `recover`: the record that was decided on is saved. -/
def conclude (id : RequestId) (record : Ledger.Record StepError CreateResult) : Task Recovery := do
  match ← step .appendAudit with
  | false => return .error internal
  | true =>
    match ← step (.saveRecord id record) with
    | false => return .error internal
    | true =>
      match ← step (.removeJournal id) with
      | false => return .error internal
      | true => return .ok record

/-- `recover` of a request that is in progress. -/
def resume (backend : Backend) (domain : Domain) (id : RequestId) : Task Recovery := do
  match ← step (.readJournal id) with
  | none => return .error internal
  | some journal =>
    if journal.requestId ≠ id ∨ journal.plan.domain ≠ domain then return .error invalid
    else
      match journal.completed with
      | some result =>
        let now ← step .now
        conclude id (.committed result now)
      | none =>
        andThen (undo backend journal) fun () => do
          let now ← step .now
          conclude id (.failed ⟨.cancelled,
            "interrupted creation was compensated; no published site remains"⟩ now)

/-- `recover` of a request that is finished: its journal goes. -/
def tidy (domain : Domain) (id : RequestId) (record : Ledger.Record StepError CreateResult) :
    Task Recovery := do
  match ← step (.journalExists id) with
  | false => return .ok record
  | true =>
    match ← step (.readJournal id) with
    | none => return .error internal
    | some journal =>
      if journal.requestId ≠ id ∨ journal.plan.domain ≠ domain then return .error invalid
      else
        match ← step (.removeJournal id) with
        | false => return .error internal
        | true => return .ok record

def recover (backend : Backend) (domain : Domain) (id : RequestId) : Task Recovery := do
  match ← step .openScope with
  | false => return .error internal
  | true =>
    match ← step .lock with
    | false => return .error conflict
    | true =>
      match ← step (.loadRecord id) with
      | none => return .error internal
      | some record =>
        if record.status = .inProgress then resume backend domain id else tidy domain id record

end OpsEngine.Create
