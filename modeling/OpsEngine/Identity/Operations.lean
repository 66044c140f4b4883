import Mathlib.Algebra.Group.Nat.Defs
import OpsEngine.Identity.Host

namespace OpsEngine.Identity

open Effect

/-! # `site.allocateIdentity`, `site.releaseIdentity`, `site.updateIdentity`, `site.renameIdentity` -/

abbrev perform (step : Step) : Action (Answer step) := Program.call step

abbrev callTool (call : ToolCall) : Action Bool := perform (.tool call)

abbrev serviceExists (runtime : RuntimeId) (domain : Domain) : Action Bool :=
  perform (.serviceExists runtime domain)

abbrev saveRecord : Action Bool := perform .saveRecord

structure AllocateRequest where
  runtime : RuntimeId
  domain : Domain
  osUser : Option Text
  managed : ∀ name ∈ osUser, validManagedUser name = true
  settings : SiteSettings
  requireAbsent : Bool

structure ReleaseRequest where
  runtime : RuntimeId
  domain : Domain
  removeUser : Bool

structure UpdateRequest where
  runtime : RuntimeId
  domain : Domain
  root : Text

structure RenameRequest where
  runtime : RuntimeId
  fromDomain : Domain
  toDomain : Domain
  root : Text

structure IdentityResult where
  runtime : Text
  domain : Text
  osUser : Text
  uid : Nat
  gid : Nat
  port : Nat
  settings : SiteSettings
  userCreated : Bool
  changed : Bool
  completedAtUnixSecs : Nat

structure ReleaseResult where
  runtime : Text
  domain : Text
  osUser : Option Text
  recordRemoved : Bool
  userRemoved : Bool
  userRetained : Bool
  completedAtUnixSecs : Nat

/-! ## Accounts -/

def lookupUser (name : Text) : Action (Except Error (Option (Nat × Nat))) := do
  match ← perform .passwd with
  | .error error => return .error error
  | .ok accounts =>
    return .ok ((accounts.find? fun account => account.name = name).map
      fun account => (account.uid, account.gid))

def groupExists (name : Text) : Action (Except Error Bool) := do
  match ← perform .groups with
  | .error error => return .error error
  | .ok groups => return .ok (groups.any fun entry => entry.name = name)

def idInUse (id : Nat) : Action (Except Error Bool) := do
  match ← perform .passwd with
  | .error error => return .error error
  | .ok accounts =>
    if accounts.any fun account => account.uid = id || account.gid = id then return .ok true
    else
      match ← perform .groups with
      | .error error => return .error error
      | .ok groups => return .ok (groups.any fun entry => entry.gid = id)

def usedIds (accounts : List Account) (groups : List GroupEntry) : List Nat :=
  (accounts.flatMap (fun account => [account.uid, account.gid]) ++ groups.map GroupEntry.gid).filter
    fun id => uidStart ≤ id && id < uidMax

def nextUid : Action (Except Error Nat) := do
  match ← perform .readUidCounter with
  | .error error => return .error error
  | .ok (some next) => return .ok next
  | .ok none =>
    let legacy ← perform .readLegacyCounter
    match ← perform .passwd with
    | .error error => return .error error
    | .ok accounts =>
      match ← perform .groups with
      | .error error => return .error error
      | .ok groups =>
        let used := ((usedIds accounts groups).max?.map (· + 1)).getD 0
        return .ok (max (max uidStart (legacy.getD 0)) used)

def uidsExhausted : Error := .exhausted "the site uid range is exhausted"

/-- The first id from `candidate` on that is not in use.  The ids are 32 bits
wide, `fuel` is what is left of them. -/
def firstFree : Nat → Nat → Action (Except Error Nat)
  | 0, _ => return .error uidsExhausted
  | fuel + 1, candidate => do
    match ← idInUse candidate with
    | .error error => return .error error
    | .ok true => firstFree fuel (candidate + 1)
    | .ok false => return .ok candidate

def allocateUid : Action (Except Error Nat) := do
  match ← nextUid with
  | .error error => return .error error
  | .ok next =>
    match ← firstFree (2 ^ 32 - next) next with
    | .error error => return .error error
    | .ok candidate =>
      if uidMax ≤ candidate then return .error uidsExhausted
      else
        match ← perform (.writeUidCounter candidate) with
        | .error error => return .error error
        | .ok () => return .ok candidate

def allocatePort (runtime : RuntimeId) : Action (Except Error Nat) := do
  match ← perform (.createPoolDir runtime) with
  | .error error => return .error error
  | .ok () =>
    match ← perform (.readPortCounter runtime) with
    | .error error => return .error error
    | .ok counter =>
      let next := counter.getD portStart
      if portMax < next then
        return .error (.exhausted "the runtime pool's port range is exhausted")
      else
        match ← perform (.writePortCounter runtime next) with
        | .error error => return .error error
        | .ok () => return .ok next

def runTool (call : ToolCall) : Action (Except Error Unit) := do
  if ← callTool call then return .ok () else return .error (.tool call.label)

def deleteGroup (name : Text) : Action (Except Error Unit) := do
  match ← groupExists name with
  | .error error => return .error error
  | .ok true => runTool (.groupdel name)
  | .ok false => return .ok ()

def deleteAccount (name : Text) : Action (Except Error Unit) := do
  match ← lookupUser name with
  | .error error => return .error error
  | .ok (some _) =>
    match ← runTool (.userdel name) with
    | .error error => return .error error
    | .ok () => deleteGroup name
  | .ok none => deleteGroup name

/-- The new account is looked up again. -/
def verifyAccount (name : Text) (id : Nat) : Action (Except Error Unit) := do
  match ← lookupUser name with
  | .error error => return .error error
  | .ok found =>
    if found = some (id, id) then return .ok ()
    else
      let _ ← deleteAccount name
      return .error (.conflict "the new account does not have the requested ids")

def createAccount (name : Text) (id : Nat) : Action (Except Error Unit) := do
  -- a group of an earlier interrupted attempt
  match ← deleteGroup name with
  | .error error => return .error error
  | .ok () =>
    match ← runTool (.groupadd name id) with
    | .error error => return .error error
    | .ok () =>
      match ← runTool (.useradd name id) with
      | .error error =>
        let _ ← runTool (.groupdel name)
        return .error error
      | .ok () => verifyAccount name id

/-! ## Requests -/

inductive Reply (R : Type) where
  | replayed
  | answered (outcome : Except Error R)

def runAdmitted {R : Type} (body : Action (Except Error R)) : Action (Reply R) := do
  match ← perform .admission with
  | .refused => return .answered (.error .refused)
  | .replay => return .replayed
  | .proceed =>
    match ← body with
    | .error error => return .answered (.error error)
    | .ok result =>
      if ← saveRecord then return .answered (.ok result)
      else return .answered (.error .postCommit)

def resultOf (runtime : RuntimeId) (domain : Domain) (record : IdentityRecord)
    (userCreated changed : Bool) : Action (Except Error IdentityResult) := do
  let now ← perform .now
  return .ok
    { runtime := runtime.text
      domain := domain.text
      osUser := record.osUser
      uid := record.uid
      gid := record.gid
      port := record.port
      settings := record.settings
      userCreated
      changed
      completedAtUnixSecs := now }

def writeRecord (runtime : RuntimeId) (domain : Domain) (record : IdentityRecord)
    (source : Source) : Action (Except Error Unit) := do
  match ← perform (.createPoolDir runtime) with
  | .error error => return .error error
  | .ok () => perform (.writeRecord runtime domain record source)

/-- The account a request wants: the one it names, or the one derived from the
domain. -/
def AllocateRequest.wanted (slug : Slug) (request : AllocateRequest) : Text :=
  request.osUser.getD (derivedUser slug request.domain)

/-- A record that is there keeps its account and port. -/
def adjust (request : AllocateRequest) (wanted : Text) (record : IdentityRecord) :
    Action (Except Error IdentityResult) := do
  if record.osUser ≠ wanted then
    return .error (.conflict "the site's record names a different account")
  else
    match ← lookupUser record.osUser with
    | .error error => return .error error
    | .ok found =>
      if found ≠ some (record.uid, record.gid) then
        return .error (.conflict "the record names a missing account")
      else if record.settings = request.settings then
        resultOf request.runtime request.domain record false false
      else
        let record := { record with settings := request.settings }
        match ← writeRecord request.runtime request.domain record (.record request.domain) with
        | .error error => return .error error
        | .ok () => resultOf request.runtime request.domain record false true

/-- The account of a new record: uid, gid, and whether it was created. -/
def obtainAccount (slug : Slug) (request : AllocateRequest) :
    Action (Except Error (Nat × Nat × Bool)) := do
  let wanted := request.wanted slug
  match ← lookupUser wanted with
  | .error error => return .error error
  | .ok (some (uid, gid)) =>
    if uid < minSiteIdentity || gid < minSiteIdentity then
      return .error (.conflict "the account is not a site identity")
    else return .ok (uid, gid, false)
  | .ok none =>
    if wanted = derivedUser slug request.domain then
      match ← allocateUid with
      | .error error => return .error error
      | .ok id =>
        match ← createAccount wanted id with
        | .error error => return .error error
        | .ok () => return .ok (id, id, true)
    else return .error (.conflict "the requested account does not exist")

/-- The port and the record of a new allocation. -/
def finish (request : AllocateRequest) (osUser : Text) (uid gid : Nat) :
    Action (Except Error IdentityRecord) := do
  match ← allocatePort request.runtime with
  | .error error => return .error error
  | .ok port =>
    let record : IdentityRecord := { osUser, uid, gid, port, settings := request.settings }
    match ← writeRecord request.runtime request.domain record .allocation with
    | .error error => return .error error
    | .ok () => return .ok record

/-- What a failed allocation takes back; the uid stays burned. -/
def undoAllocation (request : AllocateRequest) (wanted : Text) (created : Bool) : Action Unit := do
  let _ ← perform (.removeRecord request.runtime request.domain)
  if created then
    let _ ← deleteAccount wanted
    return ()
  else return ()

def establish (slug : Slug) (request : AllocateRequest) :
    Action (Except Error IdentityResult) := do
  match ← obtainAccount slug request with
  | .error error => return .error error
  | .ok (uid, gid, created) =>
    match ← finish request (request.wanted slug) uid gid with
    | .ok record => resultOf request.runtime request.domain record created true
    | .error error =>
      undoAllocation request (request.wanted slug) created
      return .error error

def readRecord (runtime : RuntimeId) (domain : Domain) :
    Action (Except Error (Option IdentityRecord)) := perform (.readRecord runtime domain)

def adoption : Error := .conflict "a new site cannot adopt an existing identity"

/-- A new site must have neither a record nor an account. -/
def checkAbsent (slug : Slug) (request : AllocateRequest) : Action (Except Error Unit) := do
  if request.requireAbsent then
    match ← readRecord request.runtime request.domain with
    | .error error => return .error error
    | .ok (some _) => return .error adoption
    | .ok none =>
      match ← lookupUser (request.wanted slug) with
      | .error error => return .error error
      | .ok (some _) => return .error adoption
      | .ok none => return .ok ()
  else return .ok ()

def allocateBody (slug : Slug) (request : AllocateRequest) :
    Action (Except Error IdentityResult) := do
  match ← perform .openRuntimeRoot with
  | .error error => return .error error
  | .ok () =>
    match ← checkAbsent slug request with
    | .error error => return .error error
    | .ok () =>
      match ← readRecord request.runtime request.domain with
      | .error error => return .error error
      | .ok (some record) => adjust request (request.wanted slug) record
      | .ok none => establish slug request

def allocate (slug : Slug) (request : AllocateRequest) : Action (Reply IdentityResult) :=
  runAdmitted (allocateBody slug request)

/-- What became of the account of a released record. -/
structure Retired where
  removed : Bool
  retained : Bool

/-- The account goes when no other record names it. -/
def retireAccount (request : ReleaseRequest) (name : Text) : Action (Except Error Retired) := do
  match ← perform .openServicesRoot with
  | .error error => return .error error
  | .ok () =>
    if ← serviceExists request.runtime request.domain then
      return .error .serviceStillPresent
    else
      match ← perform .allRecords with
      | .error error => return .error error
      | .ok records =>
        if records.any fun entry =>
            entry.2.osUser = name && entry.1 ≠ (request.runtime, request.domain) then
          return .ok { removed := false, retained := true }
        else
          match ← lookupUser name with
          | .error error => return .error error
          | .ok none => return .ok { removed := false, retained := false }
          | .ok (some (uid, gid)) =>
            if !validManagedUser name || uid < minSiteIdentity || gid < minSiteIdentity then
              return .error (.conflict "the account is not a managed site identity")
            else
              match ← deleteAccount name with
              | .error error => return .error error
              | .ok () => return .ok { removed := true, retained := false }

def retire (slug : Slug) (request : ReleaseRequest) (record : Option IdentityRecord) :
    Action (Except Error Retired) :=
  if request.removeUser then
    retireAccount request
      ((record.map IdentityRecord.osUser).getD (derivedUser slug request.domain))
  else return .ok { removed := false, retained := false }

def releaseBody (slug : Slug) (request : ReleaseRequest) :
    Action (Except Error ReleaseResult) := do
  match ← perform .openRuntimeRoot with
  | .error error => return .error error
  | .ok () =>
    match ← readRecord request.runtime request.domain with
    | .error error => return .error error
    | .ok record =>
      match ← retire slug request record with
      | .error error => return .error error
      | .ok retired =>
        -- the record goes last
        match ← perform (.removeRecord request.runtime request.domain) with
        | .error error => return .error error
        | .ok recordRemoved =>
          let now ← perform .now
          return .ok
            { runtime := request.runtime.text
              domain := request.domain.text
              osUser := (record.map IdentityRecord.osUser).or
                (if request.removeUser then some (derivedUser slug request.domain) else none)
              recordRemoved
              userRemoved := retired.removed
              userRetained := retired.retained
              completedAtUnixSecs := now }

def release (slug : Slug) (request : ReleaseRequest) : Action (Reply ReleaseResult) :=
  runAdmitted (releaseBody slug request)

def updateBody (request : UpdateRequest) : Action (Except Error IdentityResult) := do
  match ← perform .openRuntimeRoot with
  | .error error => return .error error
  | .ok () =>
    match ← readRecord request.runtime request.domain with
    | .error error => return .error error
    | .ok none => return .error .recordMissing
    | .ok (some record) =>
      if record.settings.root = request.root then
        resultOf request.runtime request.domain record false false
      else
        let record := { record with settings := { record.settings with root := request.root } }
        match ← writeRecord request.runtime request.domain record (.record request.domain) with
        | .error error => return .error error
        | .ok () => resultOf request.runtime request.domain record false true

def update (request : UpdateRequest) : Action (Reply IdentityResult) :=
  runAdmitted (updateBody request)

/-- The new record, then the old one. -/
def move (request : RenameRequest) (record : IdentityRecord) :
    Action (Except Error IdentityResult) := do
  match ← writeRecord request.runtime request.toDomain record (.record request.fromDomain) with
  | .error error => return .error error
  | .ok () =>
    if request.fromDomain = request.toDomain then
      resultOf request.runtime request.toDomain record false true
    else
      match ← perform (.removeRecord request.runtime request.fromDomain) with
      | .error error => return .error error
      | .ok _ => resultOf request.runtime request.toDomain record false true

def renameBody (request : RenameRequest) : Action (Except Error IdentityResult) := do
  match ← perform .openRuntimeRoot with
  | .error error => return .error error
  | .ok () =>
    match ← readRecord request.runtime request.toDomain with
    | .error error => return .error error
    | .ok existing =>
      match ← readRecord request.runtime request.fromDomain with
      | .error error => return .error error
      | .ok (some found) =>
        let moved := { found with settings := { found.settings with root := request.root } }
        if request.fromDomain ≠ request.toDomain && existing.any fun other => other ≠ moved then
          return .error (.conflict "the new domain already has a record")
        else move request moved
      | .ok none =>
        match existing with
        | some done =>
          if done.settings.root = request.root then
            resultOf request.runtime request.toDomain done false false
          else return .error .recordMissing
        | none => return .error .recordMissing

def rename (request : RenameRequest) : Action (Reply IdentityResult) :=
  runAdmitted (renameBody request)

/-! ## What runs one after another -/

inductive Request where
  | allocate (request : AllocateRequest)
  | release (request : ReleaseRequest)
  | update (request : UpdateRequest)
  | rename (request : RenameRequest)
  | drift

def forget {α : Type} (program : Action α) : Action Unit := do
  let _ ← program
  return ()

def Request.program (slug : Slug) : Request → Action Unit
  | .allocate request => forget (Identity.allocate slug request)
  | .release request => forget (Identity.release slug request)
  | .update request => forget (Identity.update request)
  | .rename request => forget (Identity.rename request)
  | .drift => perform .drift

structure Turn where
  request : Request
  chances : List Chance

def after (slug : Slug) (host : Host) (turn : Turn) : Host :=
  (machine.advance () turn.chances (turn.request.program slug) host).2

def run (slug : Slug) (host : Host) (turns : List Turn) : Host := turns.foldl (after slug) host

end OpsEngine.Identity
