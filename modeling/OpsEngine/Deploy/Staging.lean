import Mathlib.Algebra.Group.Nat.Defs
import OpsEngine.Data.Search
import OpsEngine.Data.Uuid
import OpsEngine.Data.Words
import OpsEngine.Deploy.Releases

namespace OpsEngine

open Effect Files

/-! # Staging a release

`deploy::resolve`, `deploy::staging` and `deploy::validate`: everything a deploy
or a rollback finds out by running `id` and `git`.
-/

def ProcessOutput.succeeded (output : ProcessOutput) : Bool :=
  output.termination = .exited true

def argument (text : String) : Argument := .text text.toList

namespace Staging

inductive IdentityError where
  | run (error : ProcessRunError)
  | lookup
  | parse
deriving DecidableEq

def idRequest (flag : String) (siteUser : Text) : ProcessRequest :=
  { program := "id", args := [argument flag, argument "--", .text siteUser], runAs := none }

def runId (flag : String) (siteUser : Text) : Action (Except IdentityError Nat) := do
  match ← runProcess (idRequest flag siteUser) with
  | .error error => return .error (.run error)
  | .ok output =>
    if !output.succeeded then return .error .lookup
    else
      match Text.parseU32 (Text.trim output.stdout) with
      | none => return .error .parse
      | some id => return .ok id

def resolveSiteIdentity (siteUser : Text) : Action (Except IdentityError SiteIdentity) := do
  match ← runId "-u" siteUser with
  | .error error => return .error error
  | .ok uid =>
    match ← runId "-g" siteUser with
    | .error error => return .error error
    | .ok gid => return .ok { uid, gid }

end Staging

/-- The pinned SSH identity of one `git` invocation. -/
def sshArguments : Option SiteId → List Argument
  | none => []
  | some credentialId => [argument "-c", .sshCommand credentialId]

def startsWithDash : Text → Bool
  | '-' :: _ => true
  | _ => false

namespace Resolve

inductive Error where
  | invalidRemoteUrl
  | run (error : ProcessRunError)
  | notAuthorized
  | subprocessFailed
deriving DecidableEq

def lsRemoteRequest (remoteUrl : Text) (allowedBranches : List Text)
    (identityFile : Option SiteId) : ProcessRequest :=
  { program := "git"
    args := sshArguments identityFile ++ [argument "ls-remote", argument "--", .text remoteUrl] ++
      allowedBranches.map fun branch => .text ("refs/heads/".toList ++ branch)
    runAs := none }

/-- The branch a line of `git ls-remote` names, if it is at `revision`. -/
def branchAt (revision : GitCommitSha) (line : Text) : Option Text :=
  match Text.splitOnce? ['\t'] line with
  | none => none
  | some (sha, reference) =>
    if sha = revision.text then Text.stripStart? "refs/heads/".toList reference else none

def resolveAllowedRevision (remoteUrl : Text) (allowedBranches : List Text)
    (revision : GitCommitSha) (identityFile : Option SiteId) : Action (Except Error Text) :=
  if startsWithDash remoteUrl then return .error .invalidRemoteUrl
  else do
    match ← runProcess (lsRemoteRequest remoteUrl allowedBranches identityFile) with
    | .error error => return .error (.run error)
    | .ok output =>
      if !output.succeeded then return .error .subprocessFailed
      else
        match (Text.lines output.stdout).findSome? (branchAt revision) with
        | none => return .error .notAuthorized
        | some branch => return .ok branch

end Resolve

namespace Staging

inductive Error where
  | invalidRemoteUrl
  | io
  | alreadyExists
  | ownership
  | clone (error : ProcessRunError)
  | cloneFailed
  | revisionMismatch
  | verify (error : ProcessRunError)
deriving DecidableEq

def cloneRequest (target : FilePath) (identity : SiteIdentity) (remoteUrl branch : Text)
    (identityFile : Option SiteId) : ProcessRequest :=
  { program := "git"
    args := sshArguments identityFile ++ [argument "clone", argument "--branch", .text branch,
      argument "--single-branch", argument "--", .text remoteUrl, .path target]
    runAs := some identity }

def cloneAs (target : FilePath) (identity : SiteIdentity) (remoteUrl branch : Text)
    (identityFile : Option SiteId) : Action (Except Error Unit) := do
  match ← runProcess (cloneRequest target identity remoteUrl branch identityFile) with
  | .error error => return .error (.clone error)
  | .ok output => if output.succeeded then return .ok () else return .error .cloneFailed

def headRequest (target : FilePath) (identity : SiteIdentity) : ProcessRequest :=
  { program := "git"
    args := [argument "-C", .path target, argument "rev-parse", argument "HEAD"]
    runAs := some identity }

/-- Only the output is compared; how `git` ended is not looked at. -/
def verifyHead (target : FilePath) (identity : SiteIdentity) (revision : GitCommitSha) :
    Action (Except Error Unit) := do
  match ← runProcess (headRequest target identity) with
  | .error error => return .error (.verify error)
  | .ok output =>
    if Text.trim output.stdout = revision.text then return .ok () else return .error .revisionMismatch

/-- The part of `prepare` that fills the directory it created. -/
def populate (release : ReleaseId) (identity : SiteIdentity) (remoteUrl branch : Text)
    (revision : GitCommitSha) (identityFile : Option SiteId) : Action (Except Error FilePath) := do
  match ← chown (releasePath release) identity with
  | .error _ => return .error .ownership
  | .ok () =>
    match ← cloneAs (releasePath release) identity remoteUrl branch identityFile with
    | .error error => return .error error
    | .ok () =>
      match ← verifyHead (releasePath release) identity revision with
      | .error error => return .error error
      | .ok () => return .ok (releasePath release)

/-- A failure after the directory was created leaves it in place. -/
def prepare (release : ReleaseId) (identity : SiteIdentity) (remoteUrl branch : Text)
    (revision : GitCommitSha) (identityFile : Option SiteId) : Action (Except Error FilePath) :=
  if startsWithDash remoteUrl then return .error .invalidRemoteUrl
  else do
    match ← openDir .content with
    | .error _ => return .error .io
    | .ok () =>
      match ← createDirAll .releases with
      | .error _ => return .error .io
      | .ok () =>
        match ← createDir (releasePath release) with
        | .error .alreadyExists => return .error .alreadyExists
        | .error _ => return .error .io
        | .ok () =>
          if !(← present (releasePath release)) then return .error .io
          else populate release identity remoteUrl branch revision identityFile

end Staging

namespace Validate

inductive Error where
  | run (error : ProcessRunError)
  | corrupt
  | dirtyWorkingTree
deriving DecidableEq

def gitRequest (path : FilePath) (identity : SiteIdentity) (args : List String) : ProcessRequest :=
  { program := "git", args := [argument "-C", .path path] ++ args.map argument
    runAs := some identity }

def validateStagedRelease (path : FilePath) (identity : SiteIdentity) :
    Action (Except Error Unit) := do
  match ← runProcess (gitRequest path identity ["fsck", "--no-progress", "--no-dangling"]) with
  | .error error => return .error (.run error)
  | .ok checked =>
    if !checked.succeeded then return .error .corrupt
    else
      match ← runProcess (gitRequest path identity ["status", "--porcelain"]) with
      | .error error => return .error (.run error)
      | .ok status =>
        if !status.succeeded then return .error .dirtyWorkingTree
        else if !status.stdout.isEmpty then return .error .dirtyWorkingTree
        else return .ok ()

end Validate

/-- The operations that only ask the world outside the disk. -/
def Asking (operation : SysOp) : Prop := ∃ query, operation = .ask query

theorem Staging.runId_every {flag : String} {siteUser : Text} :
    (runId flag siteUser).Every Asking := by
  refine Program.every_call_bind ⟨_, rfl⟩ fun answer => ?_
  split
  · trivial
  split
  · trivial
  · split <;> trivial

theorem Staging.resolveSiteIdentity_every {siteUser : Text} :
    (resolveSiteIdentity siteUser).Every Asking := by
  refine runId_every.bind fun uid => ?_
  split
  · trivial
  refine runId_every.bind fun gid => ?_
  split <;> trivial

theorem Resolve.resolveAllowedRevision_every {remoteUrl : Text} {allowedBranches : List Text}
    {revision : GitCommitSha} {identityFile : Option SiteId} :
    (resolveAllowedRevision remoteUrl allowedBranches revision identityFile).Every Asking := by
  unfold resolveAllowedRevision
  split
  · trivial
  refine Program.every_call_bind ⟨_, rfl⟩ fun answer => ?_
  split
  · trivial
  split
  · trivial
  · split <;> trivial

theorem Staging.populate_every {release : ReleaseId} {identity : SiteIdentity}
    {remoteUrl branch : Text} {revision : GitCommitSha} {identityFile : Option SiteId} :
    (populate release identity remoteUrl branch revision identityFile).Every Asking := by
  refine Program.every_call_bind ⟨_, rfl⟩ fun owned => ?_
  split
  · trivial
  refine Program.Every.bind (Program.every_call_bind ⟨_, rfl⟩ fun output => ?_) fun cloned => ?_
  · split
    · trivial
    · split <;> trivial
  split
  · trivial
  refine Program.Every.bind (Program.every_call_bind ⟨_, rfl⟩ fun output => ?_) fun verified => ?_
  · split
    · trivial
    · split <;> trivial
  split <;> trivial

theorem Validate.validateStagedRelease_every {path : FilePath} {identity : SiteIdentity} :
    (validateStagedRelease path identity).Every Asking := by
  refine Program.every_call_bind ⟨_, rfl⟩ fun checked => ?_
  split
  · trivial
  split
  · trivial
  refine Program.every_call_bind ⟨_, rfl⟩ fun status => ?_
  split
  · trivial
  split
  · trivial
  · split <;> trivial

end OpsEngine
