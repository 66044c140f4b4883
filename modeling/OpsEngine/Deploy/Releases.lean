import Mathlib.Data.List.Sort
import OpsEngine.System

namespace OpsEngine

open Effect Files

/-! # Releases and the `current` link

`deploy::activate`, `deploy::cleanup` and `rollback::eligibility`: switching
`current`, retention of release directories, and which of them a rollback may
name.
-/

def releasePath (release : ReleaseId) : FilePath := ⟨.releases, .release release⟩

def currentPath : FilePath := ⟨.site, .current⟩

def tempLinkPath (release : ReleaseId) : FilePath := ⟨.site, .currentTmp release⟩

namespace Activate

inductive Error where
  | io
  | unrecognizedCurrentTarget
deriving DecidableEq

def parseReleaseSymlinkTarget (target : FilePath) : Option ReleaseId :=
  if target.dir = .releases then target.name.releaseId? else none

/-- What a read of the `current` link says. -/
def previousRelease : Except IoError FilePath → Except Error (Option ReleaseId)
  | .error .notFound => .ok none
  | .error _ => .error .io
  | .ok target =>
    match parseReleaseSymlinkTarget target with
    | some release => .ok (some release)
    | none => .error .unrecognizedCurrentTarget

def readPreviousRelease : Action (Except Error (Option ReleaseId)) := do
  return previousRelease (← readLink currentPath)

def currentRelease : Action (Except Error (Option ReleaseId)) := do
  match ← openDir .content with
  | .error _ => return .error .io
  | .ok () => readPreviousRelease

/-- The commit point is the rename: everything before it can be abandoned. -/
def switch (release : ReleaseId) : Action (Except Error Unit) := do
  match ← symlink (tempLinkPath release) (releasePath release) with
  | .error _ => return .error .io
  | .ok () =>
    match ← rename (tempLinkPath release) currentPath with
    | .error _ => return .error .io
    | .ok () => return .ok ()

def activate (release : ReleaseId) : Action (Except Error (Option ReleaseId)) := do
  match ← openDir .content with
  | .error _ => return .error .io
  | .ok () =>
    match ← createDirAll .site with
    | .error _ => return .error .io
    | .ok () =>
      match ← readPreviousRelease with
      | .error error => return .error error
      | .ok previous =>
        match ← switch release with
        | .error error => return .error error
        | .ok () => return .ok previous

end Activate

namespace Cleanup

def defaultRetainCount : Nat := 5

/-- The entries named by a release, each with its modification time. -/
def candidates : List Name → Action (List (ReleaseId × Nat))
  | [] => return []
  | name :: names => do
    match name.releaseId? with
    | none => candidates names
    | some release =>
      let modified ← modified (releasePath release)
      let rest ← candidates names
      return (release, modified) :: rest

/-- A stable sort by descending modification time. -/
def newestFirst (candidates : List (ReleaseId × Nat)) : List ReleaseId :=
  (candidates.insertionSort fun first second => second.2 ≤ first.2).map Prod.fst

/-- The loop over the sorted candidates from `index` on. -/
def removeFrom (active : ReleaseId) (retain index : Nat) :
    List ReleaseId → Action (List ReleaseId)
  | [] => return []
  | release :: releases =>
    if release = active ∨ index < retain then removeFrom active retain (index + 1) releases
    else do
      match ← removeDirAll (releasePath release) with
      | .error _ => removeFrom active retain (index + 1) releases
      | .ok () =>
        let removed ← removeFrom active retain (index + 1) releases
        return release :: removed

def pruneOldReleases (active : ReleaseId) (retain : Nat) :
    Action (Except IoError (List ReleaseId)) := do
  match ← openDir .content with
  | .error error => return .error error
  | .ok () =>
    match ← listDir .releases with
    | .error .notFound => return .ok []
    | .error error => return .error error
    | .ok entries =>
      let found ← candidates (entries.map Prod.fst)
      let removed ← removeFrom active retain 0 (newestFirst found)
      return .ok removed

/-- The operations of a retention sweep: it never removes the release it takes
for the active one. -/
inductive Pruning (active : ReleaseId) : SysOp → Prop where
  | openDir : Pruning active (.openDir .content)
  | list : Pruning active (.list .releases)
  | modified (release : ReleaseId) : Pruning active (.ask (.modified (releasePath release)))
  | remove (release : ReleaseId) (superseded : release ≠ active) :
      Pruning active (.removeDirAll (releasePath release))

theorem candidates_every {active : ReleaseId} {names : List Name} :
    (candidates names).Every (Pruning active) := by
  induction names with
  | nil => trivial
  | cons name names ih =>
    unfold candidates
    split
    · exact ih
    · exact Program.every_call_bind (.modified _) fun _ => ih.bind fun _ => trivial

theorem removeFrom_every {active : ReleaseId} {retain index : Nat} {releases : List ReleaseId} :
    (removeFrom active retain index releases).Every (Pruning active) := by
  induction releases generalizing index with
  | nil => trivial
  | cons release releases ih =>
    unfold removeFrom
    split
    · exact ih
    · rename_i superseded
      have apart : release ≠ active := fun same => superseded (.inl same)
      refine Program.every_call_bind (.remove release apart) fun removed => ?_
      split
      · exact ih
      · exact ih.bind fun _ => trivial

theorem pruneOldReleases_every {active : ReleaseId} {retain : Nat} :
    (pruneOldReleases active retain).Every (Pruning active) := by
  refine Program.every_call_bind .openDir fun opened => ?_
  split
  · trivial
  refine Program.every_call_bind .list fun entries => ?_
  split
  · trivial
  · trivial
  · exact candidates_every.bind fun _ =>
      removeFrom_every.bind fun _ => trivial

end Cleanup

namespace Eligibility

inductive Error where
  | notFound
  | io
deriving DecidableEq

/-- Only the presence of the release directory is looked at. -/
def resolveRetainedRelease (release : ReleaseId) : Action (Except Error FilePath) := do
  match ← openDir .content with
  | .error _ => return .error .io
  | .ok () =>
    if !(← present (releasePath release)) then return .error .notFound
    else if !(← present (releasePath release)) then return .error .notFound
    else return .ok (releasePath release)

end Eligibility

end OpsEngine
