import OpsEngine.Ingress.Host

namespace OpsEngine.Ingress

open Effect Files

/-! # The operations on routes

`activate_live`, `transition`, `set_enabled`, `remove` and `apply_managed_file`
of the ingress, `activate` and `remove` of the runtime configurations, from the
point on where a request is admitted.
-/

inductive RestoreFailure where
  | file (error : IoError)
  | reload
deriving DecidableEq

inductive ActivateError where
  | io (error : IoError)
  | path
  | hashGuardMismatch
  | validateFailed
  | reloadFailedAndRestored
  | reloadFailedUnchanged
  | recoveryFailed (restore : RestoreFailure)
deriving DecidableEq

/-- Everything but a live route that could not be put back. -/
def liveWasRestored : ActivateError → Bool
  | .recoveryFailed (.file _) => false
  | _ => true

structure Activation where
  activated : Bool

def discard (path : FilePath) : Action Unit := do
  let _ ← removeFile path
  return ()

/-- The file already has the content: the reload confirms it. -/
def confirm (service : Service) : Action (Except ActivateError Activation) := do
  if ← reload service then return .ok { activated := false }
  else return .error .reloadFailedUnchanged

/-- The previous content is copied aside, if there is one. -/
def keepPrevious (paths : RoutePaths) : Option Text → Action (Except IoError Unit)
  | some previous => writeAtomic paths.backup previous
  | none => return .ok ()

def putBack (paths : RoutePaths) : Option Text → Action (Except IoError Unit)
  | some _ => rename paths.backup paths.live
  | none => removeFile paths.live

def swapIn (service : Service) (paths : RoutePaths) (current : Option Text) :
    Action (Except ActivateError Activation) := do
  match ← rename paths.staged paths.live with
  | .error error =>
    discard paths.staged
    discard paths.backup
    return .error (.io error)
  | .ok () =>
    if ← reload service then
      discard paths.backup
      return .ok { activated := true }
    else
      match ← putBack paths current with
      | .error error => return .error (.recoveryFailed (.file error))
      | .ok () =>
        if ← reload service then return .error .reloadFailedAndRestored
        else return .error (.recoveryFailed .reload)

def install (service : Service) (paths : RoutePaths) (current : Option Text) :
    Action (Except ActivateError Activation) := do
  -- `resolve_existing` of the staged path
  if ← «exists» paths.staged then
    if ← validate service paths.staged then
      match ← keepPrevious paths current with
      | .error error =>
        discard paths.staged
        return .error (.io error)
      | .ok () => swapIn service paths current
    else
      discard paths.staged
      return .error .validateFailed
  else
    discard paths.staged
    return .error .path

/-- The sequence `ingress::activate::activate_live` and
`runtime_config::activate::activate` have in common. -/
def replaceLive [Sha256] (service : Service) (live : FilePath) (content : Text) (guard : HashGuard)
    (backupSuffix : Text) : Action (Except ActivateError Activation) := do
  let paths := RoutePaths.new live backupSuffix
  match ← readOptional live with
  | .error error => return .error (.io error)
  | .ok current =>
    if guard.isSatisfiedBy current = false then return .error .hashGuardMismatch
    else if current = some content then confirm service
    else
      match ← writeAtomic paths.staged content with
      | .error error => return .error (.io error)
      | .ok () => install service paths current

def activateLive [Sha256] (domain : Domain) (content : Text) (guard : HashGuard)
    (backupSuffix : Text) : Action (Except ActivateError Activation) := do
  match ← openDir .routes with
  | .error error => return .error (.io error)
  | .ok () => replaceLive .ingress (routePath domain) content guard backupSuffix

/-- `runtime_config::activate::activate`. -/
def activateFragment [Sha256] (runtime : RuntimeId) (domain : Domain) (content : Text)
    (guard : HashGuard) (backupSuffix : Text) : Action (Except ActivateError Activation) := do
  match ← openDir (.pool runtime) with
  | .error error => return .error (.io error)
  | .ok () =>
    match ← createDirAll (.pool runtime) with
    | .error error => return .error (.io error)
    | .ok () =>
      replaceLive (.pool runtime) (fragmentPath runtime domain) content guard backupSuffix

/-- How the operations fail; `LifecycleError` of the two lifecycles. -/
inductive OperationError where
  | io (error : IoError)
  | activate (error : ActivateError)
  | notFound
  | conflict (message : String)
  | hashGuardMismatch

/-! ## Transitions -/

structure Rename where
  source : FilePath
  target : FilePath

/-- The renames done, and the error that stopped them. -/
def applyRenames (applied : List Rename) : List Rename → Action (List Rename × Option IoError)
  | [] => return (applied, none)
  | step :: rest => do
    match ← rename step.source step.target with
    | .ok () => applyRenames (applied ++ [step]) rest
    | .error error => return (applied, some error)

def undoEach (first : Option IoError) : List Rename → Action (Except IoError Unit)
  | [] =>
    match first with
    | some error => return .error error
    | none => return .ok ()
  | step :: rest => do
    match ← rename step.target step.source with
    | .ok () => undoEach first rest
    | .error error => undoEach (first <|> some error) rest

def undo (applied : List Rename) : Action (Except IoError Unit) := undoEach none applied.reverse

/-- The last error other than a file that is gone already. -/
def cleanUp (failure : Option IoError) : List FilePath → Action (Except ActivateError Unit)
  | [] =>
    match failure with
    | some error => return .error (.io error)
    | none => return .ok ()
  | path :: rest => do
    match ← removeFile path with
    | .ok () => cleanUp failure rest
    | .error .notFound => cleanUp failure rest
    | .error error => cleanUp (some error) rest

def revert (service : Service) (renames : List Rename) : Action (Except ActivateError Unit) := do
  match ← undo renames with
  | .error error => return .error (.recoveryFailed (.file error))
  | .ok () =>
    if ← reload service then return .error .reloadFailedAndRestored
    else return .error (.recoveryFailed .reload)

def transition (renames : List Rename) (reloadService : Option Service) (cleanup : List FilePath) :
    Action (Except ActivateError Unit) := do
  match ← applyRenames [] renames with
  | (applied, some error) =>
    match ← undo applied with
    | .ok () => return .error (.io error)
    | .error restore => return .error (.io restore)
  | (_, none) =>
    match reloadService with
    | none => cleanUp none cleanup
    | some service =>
      if ← reload service then cleanUp none cleanup else revert service renames

structure SetEnabledRequest where
  domain : Domain
  enabled : Bool
  expectedHash : ConfigHash
  requestId : RequestId

structure SetEnabledResult where
  domain : Text
  enabled : Bool
  changed : Bool
  contentSha256 : ConfigHash
  changedAtUnixSecs : Nat

def bothExist : String :=
  "both the live and the disabled route exist for this domain; resolve it manually"

def setEnabledResult (request : SetEnabledRequest) (changed : Bool) :
    Action (Except OperationError SetEnabledResult) := do
  let now ← unixNowSecs
  return .ok
    { domain := request.domain.text
      enabled := request.enabled
      changed
      contentSha256 := request.expectedHash
      changedAtUnixSecs := now }

def SetEnabledRequest.rename (request : SetEnabledRequest) : Rename :=
  if request.enabled then ⟨disabledRoutePath request.domain, routePath request.domain⟩
  else ⟨routePath request.domain, disabledRoutePath request.domain⟩

def setEnabledBody [Sha256] (request : SetEnabledRequest) :
    Action (Except OperationError SetEnabledResult) := do
  match ← openDir .routes with
  | .error error => return .error (.io error)
  | .ok () =>
    match ← readOptional request.rename.source with
    | .error error => return .error (.io error)
    | .ok source =>
      match ← readOptional request.rename.target with
      | .error error => return .error (.io error)
      | .ok destination =>
        match source, destination with
        | some content, none =>
          if ConfigHash.of content ≠ request.expectedHash then return .error .hashGuardMismatch
          else
            match ← transition [request.rename] (some .ingress) [] with
            | .error error => return .error (.activate error)
            | .ok () => setEnabledResult request true
        | some _, some _ => return .error (.conflict bothExist)
        | none, some content =>
          if ConfigHash.of content ≠ request.expectedHash then return .error .hashGuardMismatch
          else if ← reload .ingress then setEnabledResult request false
          else return .error (.activate .reloadFailedUnchanged)
        | none, none => return .error .notFound

structure RemoveRouteRequest where
  domain : Domain
  expectedHash : ConfigHash
  expectedBackupHash : Option ConfigHash
  requestId : RequestId

structure RemoveRouteResult where
  domain : Text
  wasLive : Bool
  removedMaintenanceBackup : Bool
  contentSha256 : ConfigHash
  removedAtUnixSecs : Nat

/-- The paths a removal moves aside: the route and the backup, if there is one. -/
def RemoveRouteRequest.staged (request : RemoveRouteRequest) (wasLive : Bool)
    (backup : Option Text) : List FilePath :=
  (if wasLive then routePath request.domain else disabledRoutePath request.domain) ::
    (if backup.isSome then [backupRoutePath request.domain] else [])

def asideOf (id : RequestId) (path : FilePath) : FilePath := rollbackSibling path id.text

def removeStaged [Sha256] (request : RemoveRouteRequest) (wasLive : Bool) (content : Text)
    (backup : Option Text) : Action (Except OperationError RemoveRouteResult) := do
  if ConfigHash.of content ≠ request.expectedHash then return .error .hashGuardMismatch
  -- an omitted backup hash asserts that there is no backup
  else if backup.map ConfigHash.of ≠ request.expectedBackupHash then
    return .error .hashGuardMismatch
  else
    let staged := request.staged wasLive backup
    match ← transition (staged.map fun path => ⟨path, asideOf request.requestId path⟩)
        (if wasLive then some .ingress else none)
        (staged.map (asideOf request.requestId)) with
    | .error error => return .error (.activate error)
    | .ok () =>
      let now ← unixNowSecs
      return .ok
        { domain := request.domain.text
          wasLive
          removedMaintenanceBackup := backup.isSome
          contentSha256 := .of content
          removedAtUnixSecs := now }

def removeBody [Sha256] (request : RemoveRouteRequest) :
    Action (Except OperationError RemoveRouteResult) := do
  match ← openDir .routes with
  | .error error => return .error (.io error)
  | .ok () =>
    match ← readOptional (routePath request.domain) with
    | .error error => return .error (.io error)
    | .ok live =>
      match ← readOptional (disabledRoutePath request.domain) with
      | .error error => return .error (.io error)
      | .ok disabled =>
        match ← readOptional (backupRoutePath request.domain) with
        | .error error => return .error (.io error)
        | .ok backup =>
          match live, disabled with
          | some _, some _ => return .error (.conflict bothExist)
          | some content, none => removeStaged request true content backup
          | none, some content => removeStaged request false content backup
          | none, none => return .error .notFound

structure RemoveConfigRequest where
  runtime : RuntimeId
  domain : Domain
  expectedHash : ConfigHash
  requestId : RequestId

structure RemoveConfigResult where
  runtime : Text
  domain : Text
  contentSha256 : ConfigHash
  removedAtUnixSecs : Nat

/-- `runtime_config::remove::remove`. -/
def removeFragmentBody [Sha256] (request : RemoveConfigRequest) :
    Action (Except OperationError RemoveConfigResult) := do
  match ← openDir (.pool request.runtime) with
  | .error error => return .error (.io error)
  | .ok () =>
    let live := fragmentPath request.runtime request.domain
    match ← readOptional live with
    | .error error => return .error (.io error)
    | .ok none => return .error .notFound
    | .ok (some content) =>
      if ConfigHash.of content ≠ request.expectedHash then return .error .hashGuardMismatch
      else
        match ← transition [⟨live, asideOf request.requestId live⟩] (some (.pool request.runtime))
            [asideOf request.requestId live] with
        | .error error => return .error (.activate error)
        | .ok () =>
          let now ← unixNowSecs
          return .ok
            { runtime := request.runtime.text
              domain := request.domain.text
              contentSha256 := .of content
              removedAtUnixSecs := now }

/-! ## The files every route imports -/

/-- The file of `ingress.applyBans`, and that of `ingress.applyAdminPaths`. -/
inductive ManagedFile where
  | bans
  | adminPaths (domain : Domain)

def ManagedFile.path : ManagedFile → FilePath
  | .bans => ⟨.bans, "bans.caddy".toList⟩
  | .adminPaths domain => adminPath domain

structure ManagedFileOutcome where
  changed : Bool

/-- The files `apply_managed_file` writes besides the managed one. -/
structure ManagedPaths where
  live : FilePath
  staged : FilePath
  wrapper : FilePath
  rollback : FilePath

def ManagedPaths.new (id : RequestId) (live : FilePath) : ManagedPaths :=
  { live
    staged := sibling live ".tmp".toList
    wrapper := ⟨.routes, ".bans-validate-".toList ++ id.text ++ ".tmp".toList⟩
    rollback := asideOf id live }

/-- A throw-away site block around the staged file. -/
def wrapperText (stagedPath : Text) : Text :=
  "http://bans-validate.invalid \x7b\n    import ".toList ++ stagedPath ++
    "\n    respond 200\n\x7d\n".toList

def discardManaged (paths : ManagedPaths) : Action Unit := do
  discard paths.staged
  discard paths.wrapper

/-- The validated file is swapped in. -/
def swapManaged (paths : ManagedPaths) (current : Option Text) :
    Action (Except ActivateError Unit) := do
  let outcome ← transition
    ((if current.isSome then [⟨paths.live, paths.rollback⟩] else []) ++ [⟨paths.staged, paths.live⟩])
    (some .ingress) (if current.isSome then [paths.rollback] else [])
  discardManaged paths
  return outcome

/-- From the staged file on. -/
def validateManaged (paths : ManagedPaths) (current : Option Text) (stagedPath : Text) :
    Action (Except ActivateError Unit) := do
  if ← «exists» paths.staged then
    match ← writeAtomic paths.wrapper (wrapperText stagedPath) with
    | .error error =>
      discardManaged paths
      return .error (.io error)
    | .ok () =>
      if ← «exists» paths.wrapper then
        let validated ← validate .ingress paths.wrapper
        discard paths.wrapper
        if validated then swapManaged paths current
        else
          discardManaged paths
          return .error .validateFailed
      else
        discardManaged paths
        return .error .path
  else
    discardManaged paths
    return .error .path

/-- `apply_bans::apply_managed_file`, below the ingress root at `root`. -/
def applyManagedFile (root : Text) (id : RequestId) (file : ManagedFile) (content : Option Text) :
    Action (Except ActivateError ManagedFileOutcome) := do
  let paths := ManagedPaths.new id file.path
  match ← openDir .routes with
  | .error error => return .error (.io error)
  | .ok () =>
    match ← createDirAll .bans with
    | .error error => return .error (.io error)
    | .ok () =>
      match ← readOptional paths.live with
      | .error error => return .error (.io error)
      | .ok current =>
        if current = content then
          if ← reload .ingress then return .ok { changed := false }
          else return .error .reloadFailedUnchanged
        else
          match content with
          | none =>
            match ← transition [⟨paths.live, paths.rollback⟩] (some .ingress) [paths.rollback] with
            | .error error => return .error error
            | .ok () => return .ok { changed := true }
          | some content =>
            match ← writeAtomic paths.staged content with
            | .error error => return .error (.io error)
            | .ok () =>
              match ← validateManaged paths current
                  (root ++ "/bans/".toList ++ paths.staged.name) with
              | .error error => return .error error
              | .ok () => return .ok { changed := true }

end OpsEngine.Ingress
