import OpsEngine.Deploy.Pipeline

namespace OpsEngine

open Effect Files

/-! # `site.deploy` and `site.rollback`

The two requests, their results and the pipelines they run.
-/

namespace Json

def text? (json : Json) (name : String) : Option Text :=
  match json.field? name with
  | some (.string value) => some value
  | _ => none

def number? (json : Json) (name : String) : Option Nat :=
  match json.field? name with
  | some (.number value) => some value
  | _ => none

def optional? {α : Type} (json : Json) (name : String) (parse : Text → Option α) :
    Option (Option α) :=
  match json.field? name with
  | none | some .null => some none
  | some (.string value) => (parse value).map some
  | some _ => none

def releaseId? (value : Text) : Option ReleaseId := (ReleaseId.parse value).toOption

end Json

namespace Deploy

structure Request where
  siteId : SiteId
  revision : GitCommitSha
  requestId : RequestId
  idempotencyKey : Option IdempotencyKey

/-- `DeployResult`.  Reading a stored result back does not check its `commit`. -/
structure Result where
  releaseId : ReleaseId
  previousReleaseId : Option ReleaseId
  commit : Text
  activatedAtUnixSecs : Nat

def Result.encode (result : Result) : Json :=
  .object [("releaseId", .string result.releaseId.text),
    ("previousReleaseId", Recovery.releaseJson result.previousReleaseId),
    ("commit", .string result.commit),
    ("activatedAtUnixSecs", .number result.activatedAtUnixSecs)]

def Result.decode (json : Json) : Option Result := do
  let releaseId ← (json.text? "releaseId").bind Json.releaseId?
  let previousReleaseId ← json.optional? "previousReleaseId" Json.releaseId?
  let commit ← json.text? "commit"
  let activatedAtUnixSecs ← json.number? "activatedAtUnixSecs"
  return { releaseId, previousReleaseId, commit, activatedAtUnixSecs }

inductive SourceError where
  | resolve (error : Resolve.Error)
  | staging (error : Staging.Error)
deriving DecidableEq

abbrev Error := ReleaseError SourceError Result

def SourceError.protocol : SourceError → ErrorCode × String
  | .resolve .invalidRemoteUrl => (.invalidInput, "repository URL is not valid")
  | .resolve .notAuthorized =>
    (.invalidInput, "revision is not the current tip of an allowed branch")
  | .resolve (.run error) => (spawnErrorCode error, "could not query the remote repository")
  | .resolve .subprocessFailed => (.subprocessFailed, "querying the remote repository failed")
  | .staging .invalidRemoteUrl => (.invalidInput, "repository URL is not valid")
  | .staging .revisionMismatch =>
    (.conflict, "the remote branch changed while the release was being staged")
  | .staging (.clone error) | .staging (.verify error) =>
    (spawnErrorCode error, "staging the release failed")
  | .staging .cloneFailed => (.subprocessFailed, "cloning the release failed")
  | .staging .io | .staging .alreadyExists | .staging .ownership =>
    (.internal, "staging the release failed")

def texts : ErrorTexts SourceError :=
  { internal := "internal deploy error", source := SourceError.protocol
    invalid := "validating the release failed" }

def source (repository : RepositoryPolicy) (request : Request) (identity : SiteIdentity) :
    Action (Except Error FilePath) := do
  match ← Resolve.resolveAllowedRevision repository.url repository.allowedBranches
      request.revision (some repository.credentialId) with
  | .error error => return .error (.source (.resolve error))
  | .ok branch =>
    match ← checkCancelled with
    | .error error => return .error error
    | .ok () =>
      match ← Staging.prepare (.ofRequest request.requestId) identity repository.url branch
          request.revision (some repository.credentialId) with
      | .error error => return .error (.source (.staging error))
      | .ok path => return .ok path

def pipeline (manifest : SiteManifest) (request : Request) : Pipeline SourceError Result where
  manifest := manifest
  operation := .siteDeploy
  siteId := request.siteId
  requestId := request.requestId
  idempotencyKey := request.idempotencyKey
  target := .ofRequest request.requestId
  revision := some request.revision
  source := source manifest.repository request
  result previous now :=
    { releaseId := .ofRequest request.requestId, previousReleaseId := previous
      commit := request.revision.text, activatedAtUnixSecs := now }
  encode := Result.encode
  decode := Result.decode
  texts := texts

def execute (manifest : SiteManifest) (request : Request) : Action (Except Error Result) :=
  (pipeline manifest request).execute

end Deploy

namespace Rollback

structure Request where
  siteId : SiteId
  releaseId : ReleaseId
  requestId : RequestId
  idempotencyKey : Option IdempotencyKey

/-- `RollbackResult`. -/
structure Result where
  releaseId : ReleaseId
  previousReleaseId : Option ReleaseId
  activatedAtUnixSecs : Nat

def Result.encode (result : Result) : Json :=
  .object [("releaseId", .string result.releaseId.text),
    ("previousReleaseId", Recovery.releaseJson result.previousReleaseId),
    ("activatedAtUnixSecs", .number result.activatedAtUnixSecs)]

def Result.decode (json : Json) : Option Result := do
  let releaseId ← (json.text? "releaseId").bind Json.releaseId?
  let previousReleaseId ← json.optional? "previousReleaseId" Json.releaseId?
  let activatedAtUnixSecs ← json.number? "activatedAtUnixSecs"
  return { releaseId, previousReleaseId, activatedAtUnixSecs }

abbrev Error := ReleaseError Eligibility.Error Result

def texts : ErrorTexts Eligibility.Error :=
  { internal := "internal rollback error"
    source := fun _ =>
      (.invalidInput, "release is not a retained rollback target for this site")
    invalid := "the retained release failed integrity validation" }

/-- The rollback's own part of the pipeline: the release must still be there. -/
def source (request : Request) : Action (Except Error FilePath) := do
  match ← Eligibility.resolveRetainedRelease request.releaseId with
  | .error error => return .error (.source error)
  | .ok path => return .ok path

def pipeline (manifest : SiteManifest) (request : Request) :
    Pipeline Eligibility.Error Result where
  manifest := manifest
  operation := .siteRollback
  siteId := request.siteId
  requestId := request.requestId
  idempotencyKey := request.idempotencyKey
  target := request.releaseId
  revision := none
  source _ := source request
  result previous now :=
    { releaseId := request.releaseId, previousReleaseId := previous, activatedAtUnixSecs := now }
  encode := Result.encode
  decode := Result.decode
  texts := texts

def execute (manifest : SiteManifest) (request : Request) : Action (Except Error Result) :=
  (pipeline manifest request).execute

end Rollback

inductive SiteRequest where
  | deploy (manifest : SiteManifest) (request : Deploy.Request)
  | rollback (manifest : SiteManifest) (request : Rollback.Request)

inductive SiteResponse where
  | deploy (result : Except Deploy.Error Deploy.Result)
  | rollback (result : Except Rollback.Error Rollback.Result)

namespace SiteRequest

def siteId : SiteRequest → SiteId
  | .deploy _ request => request.siteId
  | .rollback _ request => request.siteId

def requestId : SiteRequest → RequestId
  | .deploy _ request => request.requestId
  | .rollback _ request => request.requestId

def target : SiteRequest → ReleaseId
  | .deploy _ request => .ofRequest request.requestId
  | .rollback _ request => request.releaseId

def program : SiteRequest → Action SiteResponse
  | .deploy manifest request => do return .deploy (← Deploy.execute manifest request)
  | .rollback manifest request => do return .rollback (← Rollback.execute manifest request)

end SiteRequest

abbrev SitePool (ι : Type) := Pool SysOp (Op.Result Answer) (System ι) ι SiteResponse

def SitePool.start {ι : Type} (state : System ι) (requests : ι → SiteRequest) : SitePool ι :=
  { state, threads := fun actor => some (requests actor).program }

/-! Values for concrete runs. -/

def sampleSite : SiteId := .numbered 1

def sampleRelease (number : Nat) : ReleaseId := .ofRequest (.numbered number)

def sampleRevision : GitCommitSha :=
  ⟨List.replicate 40 'a', by decide⟩

def sampleManifest : SiteManifest :=
  { siteId := sampleSite, contentRoot := expectedCurrent sampleSite, siteUser := "web".toList
    repository :=
      { url := "ssh://host/repo".toList, allowedBranches := ["main".toList]
        credentialId := sampleSite } }

/-- What the host's programs print when everything is in order. -/
def printed (request : ProcessRequest) : Text :=
  if request.program = "id" then "1000\n".toList
  else if argument "ls-remote" ∈ request.args then
    sampleRevision.text ++ "\trefs/heads/main\n".toList
  else if argument "rev-parse" ∈ request.args then sampleRevision.text
  else []

/-- The clock at `now`, nothing cancelled, every program succeeds, and a
release's directory is as old as its number is small. -/
def siteAnswer (now : Nat) : (query : Query) → Answer query
  | .now => now
  | .cancelled => false
  | .modified ⟨_, .release release⟩ => release.requestId.uuid.toNat
  | .modified _ => (0 : Nat)
  | .chown _ _ => .ok ()
  | .process request => .ok { termination := .exited true, stdout := printed request }

def siteChoice : SysChoice := { fault := false, order := [], answer := siteAnswer 0 }

def siteSteps {ι : Type} (actor : ι) (count : Nat) : List (Event ι SysChoice) :=
  List.replicate count (.step actor siteChoice)

end OpsEngine
