import OpsEngine.Effect.Turns
import OpsEngine.Migrate.Journal
import OpsEngine.Transaction.Ledger

namespace OpsEngine.Publish

open Effect
open Migrate (StepError)

/-! # `site.publishStatic`

The host as the publications of one domain see it, and the programs of
`static_publish` and of its backend `static_publish_host`.  Every publication and
recovery holds the lock of the domain's scope for its whole body, so they run one
after another.
-/

structure Plan where
  domain : Domain
  sourcePath : Text
  spaFallback : Bool
deriving DecidableEq

structure PublishResult where
  domain : Domain
  releaseId : RequestId
  previousReleaseId : Option RequestId
  publishingRoot : Text
  spaFallback : Bool
deriving DecidableEq

structure Journal where
  plan : Plan
  requestId : RequestId
  previous : Option RequestId
  previousRoute : Option Text
deriving DecidableEq

structure Site where
  records : Ledger.Records StepError PublishResult
  plans : RequestId → Option Plan
  pending : Option Journal
  staging : RequestId → Bool
  releases : RequestId → Bool
  current : Option RequestId
  links : RequestId → Option RequestId
  route : Option Text

namespace Site

def status? (site : Site) (id : RequestId) : Option TransactionStatus := site.records.status? id

def setRecord (site : Site) (id : RequestId) (file : Ledger.File StepError PublishResult) : Site :=
  { site with records := site.records.set id file }

end Site

inductive Admission where
  | refused
  | replay (original : RequestId)
  | proceed

/-- What changes the engine's own files.  It fails without an effect. -/
inductive Write where
  | openScope
  | lock
  | beginRecord (id : RequestId)
  | saveRecord (id : RequestId) (record : Ledger.Record StepError PublishResult)
  | savePlan (id : RequestId) (plan : Plan)
  | savePending (journal : Journal)
  | removePending
  | appendAudit
  | openSite
  | createStaging (id : RequestId)
  | copyArtifact (id : RequestId)
  | sealArtifact (id : RequestId)
  | installRelease (id : RequestId)
  | openRelease (id : RequestId)
  | removeLink (nonce : RequestId)
  | makeLink (nonce target : RequestId)
  | swapLink (nonce : RequestId)
  | removeCurrent
  | syncSite

/-- The site that is left, where what is there allows it. -/
def Write.apply (site : Site) : Write → Option Site
  | .openScope | .lock | .appendAudit | .openSite | .syncSite => some site
  | .beginRecord id => some (site.setRecord id (.whole .begun))
  | .saveRecord id record => some (site.setRecord id (.whole record))
  | .savePlan id plan => some { site with plans := Function.update site.plans id (some plan) }
  | .savePending journal => some { site with pending := some journal }
  | .removePending => if site.pending.isSome then some { site with pending := none } else none
  | .createStaging id =>
    if site.staging id then none
    else some { site with staging := Function.update site.staging id true }
  | .copyArtifact id | .sealArtifact id => if site.staging id then some site else none
  | .installRelease id =>
    if site.staging id && !site.releases id then
      some { site with staging := Function.update site.staging id false
                       releases := Function.update site.releases id true }
    else none
  | .openRelease id => if site.releases id then some site else none
  | .removeLink nonce =>
    if (site.links nonce).isSome then
      some { site with links := Function.update site.links nonce none }
    else none
  | .makeLink nonce target =>
    if (site.links nonce).isSome then none
    else some { site with links := Function.update site.links nonce (some target) }
  | .swapLink nonce =>
    match site.links nonce with
    | none => none
    | some target =>
      some { site with current := some target, links := Function.update site.links nonce none }
  | .removeCurrent => if site.current.isSome then some { site with current := none } else none

inductive Step where
  | admission (id : RequestId)
  | write (write : Write)
  | loadPlan (id : RequestId)
  | loadRecord (id : RequestId)
  | pendingExists
  | findPending
  | readPending
  | readCurrent
  | linkExists (nonce : RequestId)
  | markerExists
  | now
  | inspect
  | readRoute
  | setRoute (content : Text) (guard : Option Text)
  | removeRoute (guard : Text)
  | probe (release : Option RequestId)

def Answer : Step → Type
  | .admission _ => Admission
  | .write _ | .pendingExists | .linkExists _ | .markerExists => Bool
  | .loadPlan _ => Option Plan
  | .loadRecord _ => Option (Ledger.Record StepError PublishResult)
  | .findPending => Option Bool
  | .readPending => Option Journal
  | .readCurrent => Option (Option RequestId)
  | .now => Nat
  | .readRoute => Except StepError (Option Text)
  | .inspect | .setRoute _ _ | .removeRoute _ | .probe _ => Except StepError Unit

structure Chance where
  fails : Option StepError
  /-- A step of the ingress that fails has its effect all the same. -/
  takes : Bool
  admission : Admission
  now : Nat
  recordSwept : RequestId → Bool
  /-- The artifact brings a `wcp-release.txt` of its own. -/
  marker : Bool

def internal : StepError :=
  ⟨.internal, "static publication requires status inspection or recovery"⟩

def conflict : StepError := ⟨.conflict, "static publication is active or requires recovery"⟩

def invalid : StepError := ⟨.invalidInput, "invalid static publication plan"⟩

/-- The route changed behind the engine's back. -/
def refused : StepError := ⟨.conflict, "static route activation requires recovery"⟩

def Chance.settle (chance : Chance) (before after : Site) : Except StepError Unit × Site :=
  match chance.fails with
  | none => (.ok (), after)
  | some error => (.error error, if chance.takes then after else before)

/-- `prune_completed`: it knows `pending/<id>.json` and not `pending.json`. -/
def Site.sweep (site : Site) (chance : Chance) : Site :=
  { site with records := site.records.sweep chance.now chance.recordSwept }

def exec (chance : Chance) : (step : Step) → Site → Answer step × Site
  | .admission id, site =>
    let swept := site.sweep chance
    match chance.admission, swept.records id with
    | .proceed, none => (.proceed, swept.setRecord id .torn)
    | .proceed, some _ => (.refused, swept)
    | answer, _ => (answer, swept)
  | .write write, site =>
    match chance.fails, write.apply site with
    | none, some after => (true, after)
    | _, _ => (false, site)
  | .loadPlan id, site => (if chance.fails.isNone then site.plans id else none, site)
  | .loadRecord id, site => (if chance.fails.isNone then site.records.load id else none, site)
  | .pendingExists, site => (chance.fails.isNone && site.pending.isSome, site)
  | .findPending, site => (if chance.fails.isNone then some site.pending.isSome else none, site)
  | .readPending, site => (if chance.fails.isNone then site.pending else none, site)
  | .readCurrent, site => (if chance.fails.isNone then some site.current else none, site)
  | .linkExists nonce, site => (chance.fails.isNone && (site.links nonce).isSome, site)
  | .markerExists, site => (chance.marker, site)
  | .now, site => (chance.now, site)
  | .inspect, site | .probe _, site => chance.settle site site
  | .readRoute, site =>
    match chance.fails with
    | some error => (.error error, site)
    | none => (.ok site.route, site)
  | .setRoute content guard, site =>
    if site.route = guard then chance.settle site { site with route := some content }
    else (.error (chance.fails.getD refused), site)
  | .removeRoute guard, site =>
    if site.route = some guard then chance.settle site { site with route := none }
    else (.error (chance.fails.getD refused), site)

/-- One process at a time works on the domain: it holds the scope's lock. -/
def machine : Machine Step Answer Site Unit Chance where
  exec _ := exec
  exit _ site := site

abbrev Task (α : Type) := Program Step Answer α

abbrev step (step : Step) : Task (Answer step) := Program.call step

def attempt (write : Write) : Task (Except StepError Unit) := do
  match ← step (.write write) with
  | false => return .error internal
  | true => return .ok ()

/-! ## The host's backend -/

def render (domain : Domain) (spa : Bool) : Text :=
  let fallback := if spa then
    "    @navigation \x7b\n        not path_regexp extension \\.[^/]+$\n".toList ++
      "        not file \x7bpath\x7d \x7bpath\x7d/index.html\n    \x7d\n".toList ++
      "    rewrite @navigation /index.html\n".toList
    else []
  domain.text ++ " \x7b\n    import /etc/wcp/ingress.d/bans/*.caddy\n".toList ++
    "    root * /srv/wcp-static/".toList ++ domain.text ++ "/current\n".toList ++
    "    header Cache-Control \"no-cache\"\n".toList ++
    "    header /wcp-release.txt Cache-Control \"no-store\"\n".toList ++ fallback ++
    "    file_server\n\x7d\n".toList

def Plan.rendered (plan : Plan) : Text := render plan.domain plan.spaFallback

abbrev readRoute : Task (Except StepError (Option Text)) := step .readRoute

abbrev inspect : Task (Except StepError Unit) := step .inspect

abbrev setRoute (content : Text) (guard : Option Text) : Task (Except StepError Unit) :=
  step (.setRoute content guard)

abbrev removeRoute (guard : Text) : Task (Except StepError Unit) := step (.removeRoute guard)

abbrev probe (release : Option RequestId) : Task (Except StepError Unit) := step (.probe release)

def check (plan : Plan) : Task (Except StepError (Option Text)) :=
  inspect.andThen fun () =>
  readRoute.andThen fun previous =>
    match previous with
    | none => return .ok none
    | some content =>
      if content = render plan.domain false ∨ content = render plan.domain true then
        return .ok (some content)
      else return .error ⟨.conflict, "existing route is not managed static hosting"⟩

def activateRoute (plan : Plan) (previous : Option Text) : Task (Except StepError Unit) :=
  setRoute plan.rendered previous

def restoreRoute (plan : Plan) (previous : Option Text) : Task (Except StepError Unit) :=
  readRoute.andThen fun current =>
    if current ≠ some plan.rendered ∧ current ≠ previous then
      return .error ⟨.conflict, "route changed during recovery"⟩
    else
      match previous, current with
      | some old, _ => setRoute old current
      | none, some content => removeRoute content
      | none, none => return .ok ()

/-! ## The publication -/

def current : Task (Except StepError (Option RequestId)) := do
  match ← step .readCurrent with
  | none => return .error internal
  | some release => return .ok release

/-- The first part of `switch`: a link that an earlier attempt left goes. -/
def clearLink (nonce : RequestId) : Task (Except StepError Unit) := do
  match ← step (.linkExists nonce) with
  | false => return .ok ()
  | true => attempt (.removeLink nonce)

def switch (target : Option RequestId) (nonce : RequestId) : Task (Except StepError Unit) :=
  (clearLink nonce).andThen fun () =>
    match target with
    | some id =>
      (attempt (.openRelease id)).andThen fun () =>
      (attempt (.makeLink nonce id)).andThen fun () =>
      (attempt (.swapLink nonce)).andThen fun () =>
      attempt .syncSite
    | none =>
      current.andThen fun live =>
        match live with
        | some _ => (attempt .removeCurrent).andThen fun () => attempt .syncSite
        | none => attempt .syncSite

def save (journal : Journal) : Task (Except StepError Unit) := attempt (.savePending journal)

def undo (journal : Journal) : Task (Except StepError Unit) :=
  current.andThen fun live =>
    if live ≠ some journal.requestId ∧ live ≠ journal.previous then return .error conflict
    else
      (switch journal.previous journal.requestId).andThen fun () =>
      (restoreRoute journal.plan journal.previousRoute).andThen fun () =>
      probe journal.previous

/-- The first closure of `execute`: everything up to the journal. -/
def prepare (plan : Plan) (id : RequestId) : Task (Except StepError Journal) :=
  (check plan).andThen fun route =>
  (attempt .openSite).andThen fun () =>
  current.andThen fun previous =>
    if previous.isSome ≠ route.isSome then return .error conflict
    else
      let journal := { plan, requestId := id, previous, previousRoute := route }
      (save journal).andThen fun () => return .ok journal

def Journal.result (journal : Journal) : PublishResult :=
  { domain := journal.plan.domain
    releaseId := journal.requestId
    previousReleaseId := journal.previous
    publishingRoot := "/var/lib/wcp-static/".toList ++ journal.plan.domain.text ++ "/current".toList
    spaFallback := journal.plan.spaFallback }

/-- The copy of the artifact, up to `releases/<id>`. -/
def stage (id : RequestId) : Task (Except StepError Unit) := do
  match ← step .markerExists with
  | true => return .error invalid
  | false =>
    (attempt (.createStaging id)).andThen fun () => do
      match ← step (.write (.copyArtifact id)) with
      | false => return .error ⟨.invalidInput, "static artifact validation failed"⟩
      | true =>
        (attempt (.sealArtifact id)).andThen fun () =>
        (attempt (.installRelease id)).andThen fun () =>
        attempt .syncSite

/-- The second closure of `execute`. -/
def publish (journal : Journal) : Task (Except StepError PublishResult) :=
  let id := journal.requestId
  (stage id).andThen fun () =>
  (switch (some id) id).andThen fun () =>
  (activateRoute journal.plan journal.previousRoute).andThen fun () =>
  (probe (some id)).andThen fun () =>
  return .ok journal.result

def close {α : Type} (id : RequestId) (recorded answered : StepError) :
    Task (Except StepError α) := do
  let now ← step .now
  (attempt (.saveRecord id (.failed recorded now))).andThen fun () => return .error answered

def commit (id : RequestId) (result : PublishResult) : Task (Except StepError PublishResult) := do
  let now ← step .now
  (attempt (.saveRecord id (.committed result now))).andThen fun () => do
    let _ ← step (.write .appendAudit)
    (attempt .removePending).andThen fun () => return .ok result

def compensate (journal : Journal) (error : StepError) : Task (Except StepError PublishResult) :=
  (undo journal).andThen fun () => do
    let now ← step .now
    (attempt (.saveRecord journal.requestId (.failed error now))).andThen fun () => do
      let _ ← step (.write .appendAudit)
      (attempt .removePending).andThen fun () => return .error error

/-- What an earlier publication left: a journal of a finished one goes. -/
def clearFinished (id : RequestId) : Task (Except StepError Unit) := do
  match ← step .pendingExists with
  | false => return .ok ()
  | true =>
    match ← step .readPending with
    | none => return .error internal
    | some pending =>
      match ← step (.loadRecord pending.requestId) with
      | none => return .error internal
      | some previous =>
        if previous.status = .inProgress then
          close id ⟨.conflict, "earlier publication requires recovery"⟩ conflict
        else attempt .removePending

def create (plan : Plan) (id : RequestId) : Task (Except StepError PublishResult) :=
  (attempt (.savePlan id plan)).andThen fun () =>
  (clearFinished id).andThen fun () => do
    match ← prepare plan id with
    | .error error => close id error error
    | .ok journal =>
      match ← publish journal with
      | .ok result => commit id result
      | .error error => compensate journal error

def replay (plan : Plan) (original : RequestId) : Task (Except StepError PublishResult) := do
  match ← step (.loadPlan original) with
  | none => return .error internal
  | some stored =>
    if stored ≠ plan then return .error conflict
    else
      match ← step (.loadRecord original) with
      | none => return .error internal
      | some record =>
        match record.status, record.outcome with
        | .committed, some (.ok result) => return .ok result
        | .committed, _ => return .error internal
        | .inProgress, _ => return .error conflict
        | .failed, _ => return .error ⟨.conflict,
            "static publication previously failed; use a new request after inspection"⟩

def execute (plan : Plan) (id : RequestId) : Task (Except StepError PublishResult) :=
  (attempt .openScope).andThen fun () => do
    match ← step (.admission id) with
    | .refused => return .error conflict
    | .replay original => replay plan original
    | .proceed => (attempt (.beginRecord id)).andThen fun () => create plan id

/-! ## The recovery -/

def finish : Task (Except StepError Unit) := do
  let _ ← step (.write .appendAudit)
  return .ok ()

/-- The end of `recover`: a journal of the request goes. -/
def tidy (id : RequestId) (journal : Option Journal) : Task (Except StepError Unit) :=
  match journal with
  | none => finish
  | some journal =>
    if journal.requestId = id then (attempt .removePending).andThen fun () => finish else finish

def cancel (id : RequestId) (message : String) : Task (Except StepError Unit) := do
  let now ← step .now
  attempt (.saveRecord id (.failed ⟨.cancelled, message⟩ now))

/-- `recover` of a request that is in progress, up to its record. -/
def resume (domain : Domain) (id : RequestId) (journal : Option Journal) :
    Task (Except StepError Unit) :=
  match journal with
  | none =>
    cancel id "interrupted before publication checkpoint; no serving changes were attempted"
  | some journal =>
    if journal.requestId ≠ id ∨ journal.plan.domain ≠ domain then return .error conflict
    else
      (attempt .openSite).andThen fun () =>
      (undo journal).andThen fun () =>
      cancel id "interrupted publication rolled back; previous serving state verified"

def findJournal : Task (Except StepError (Option Journal)) := do
  match ← step .findPending with
  | none => return .error internal
  | some false => return .ok none
  | some true =>
    match ← step .readPending with
    | none => return .error internal
    | some journal => return .ok (some journal)

def recover (domain : Domain) (id : RequestId) : Task (Except StepError Unit) :=
  (attempt .openScope).andThen fun () => do
    match ← step (.write .lock) with
    | false => return .error conflict
    | true =>
      match ← step (.loadRecord id) with
      | none => return .error internal
      | some record =>
        findJournal.andThen fun journal =>
          if record.status = .inProgress then
            (resume domain id journal).andThen fun () => tidy id journal
          else tidy id journal

end OpsEngine.Publish
