import OpsEngine.Effect.Evaluate
import OpsEngine.Swap.Fstab

namespace OpsEngine.Swap

open Effect

/-! # Creating, deleting and resizing the swap file

Three things change in turn: the file, whether the kernel swaps to it, and the
entry of `/etc/fstab`.  A change that fails has no effect, but for a write of
`/etc/fstab` that fails after its rename.  What stands around the three operations,
the admission of the request and its record, is left out.
-/

inductive Stage where
  | allocate
  | format
  | enable
  | disable
  | persist
  | remove
deriving DecidableEq

inductive Error where
  | io
  | cancelled
  | alreadyExists
  | unsafeSwapPath
  | insufficientSpace
  /-- a tool that could not be run, or failed -/
  | tool (stage : Stage)
  | filesystem (stage : Stage)
  | rollbackFailed (stage : Stage)
deriving DecidableEq

structure SwapFile where
  length : Nat
  allocated : Nat
  active : Bool
deriving DecidableEq

inductive Slot where
  | absent
  /-- a link, a directory, a device -/
  | foreign
  | file (found : SwapFile)
deriving DecidableEq

structure Host where
  slot : Slot
  fstab : Text
  /-- free bytes next to the swap file -/
  available : Nat
deriving DecidableEq

def Slot.active : Slot → Bool
  | .file found => found.active
  | _ => false

def Slot.length? : Slot → Option Nat
  | .file found => some found.length
  | _ => none

def Slot.setActive (active : Bool) : Slot → Slot
  | .file found => .file { found with active }
  | slot => slot

/-- The two places that build a swap file. -/
inductive Build where
  | requested
  | previous
deriving DecidableEq

inductive Tool where
  | fallocate (bytes : Nat)
  | mkswap
  | swapon
deriving DecidableEq

/-- The places that write `/etc/fstab`: the change itself, its undoing, and the removal of
an entry for a file that is lost. -/
inductive Write where
  | persist
  | restore
  | drop
deriving DecidableEq

inductive Change where
  | openNew (build : Build)
  | tool (build : Build) (tool : Tool)
  | removePartial (build : Build)
  | swapon
  | swapoff (undo : Bool)
  | removeFile (undo : Bool)
  | writeFstab (write : Write) (contents : Text)
deriving DecidableEq

inductive Step where
  | inspect
  | isActive
  | available
  | readFstab
  | check
  | change (change : Change)
deriving DecidableEq

def Answer : Step → Type
  | .inspect => Except Error (Option SwapFile)
  | .isActive => Except Error Bool
  | .available => Except Error Nat
  | .readFstab => Except Error Text
  | .check => Except Error Unit
  | .change _ => Bool

inductive Outcome where
  | done
  /-- it fails and has no effect -/
  | failed
  /-- it fails after its effect: only a write of `/etc/fstab` does, once it has renamed -/
  | late
deriving DecidableEq

structure Weather where
  inspects : Bool
  readsSwaps : Bool
  measures : Bool
  readsFstab : Bool
  cancelled : Bool
  change : Change → Outcome

def Tool.effect : Tool → Slot → Slot
  | .fallocate bytes, .file found => .file { found with length := bytes, allocated := bytes }
  | .swapon, slot => slot.setActive true
  | _, slot => slot

def Change.effect : Change → Host → Host
  | .openNew _, host => { host with slot := .file ⟨0, 0, false⟩ }
  | .tool _ used, host => { host with slot := used.effect host.slot }
  | .removePartial _, host | .removeFile _, host => { host with slot := .absent }
  | .swapon, host => { host with slot := host.slot.setActive true }
  | .swapoff _, host => { host with slot := host.slot.setActive false }
  | .writeFstab _ contents, host => { host with fstab := contents }

/-- A file is created only where there is nothing. -/
def Change.possible : Change → Host → Bool
  | .openNew _, host => decide (host.slot = .absent)
  | _, _ => true

def Change.writes : Change → Bool
  | .writeFstab _ _ => true
  | _ => false

variable (weather : Weather)

def Host.inspected (host : Host) : Except Error (Option SwapFile) :=
  if !weather.inspects then .error .io
  else match host.slot with
    | .absent => .ok none
    | .foreign => .error .unsafeSwapPath
    | .file found => .ok (some found)

/-- Whether a change succeeds, and the host after it. -/
def attempt (change : Change) (host : Host) : Bool × Host :=
  match weather.change change with
  | .done => if change.possible host then (true, change.effect host) else (false, host)
  | .failed => (false, host)
  | .late => (false, if change.writes then change.effect host else host)

def perform : (step : Step) → Host → Answer step × Host
  | .inspect, host => (host.inspected weather, host)
  | .isActive, host => (if weather.readsSwaps then .ok host.slot.active else .error .io, host)
  | .available, host => (if weather.measures then .ok host.available else .error .io, host)
  | .readFstab, host => (if weather.readsFstab then .ok host.fstab else .error .io, host)
  | .check, host => (if weather.cancelled then .error .cancelled else .ok (), host)
  | .change change, host => attempt weather change host

/-! ## The operations -/

abbrev Task (α : Type) := Program Step Answer α

abbrev step (step : Step) : Task (Answer step) := Program.call step

abbrev inspect : Task (Except Error (Option SwapFile)) := step .inspect

abbrev isActive : Task (Except Error Bool) := step .isActive

abbrev available : Task (Except Error Nat) := step .available

abbrev readFstab : Task (Except Error Text) := step .readFstab

abbrev check : Task (Except Error Unit) := step .check

abbrev change (change : Change) : Task Bool := step (.change change)

def mib : Nat := 1024 * 1024

structure SwapResult where
  sizeMb : Option Nat
  changed : Bool
deriving DecidableEq

/-- The tools one after the other; the first that fails takes the partial file with it. -/
def runTools (build : Build) : List (Tool × Stage) → Task (Except Error Unit)
  | [] => pure (.ok ())
  | (tool, stage) :: others => do
    if ← change (.tool build tool) then runTools build others
    else if ← change (.removePartial build) then pure (.error (.tool stage))
    else pure (.error (.rollbackFailed stage))

def buildTools (bytes : Nat) (enable : Bool) : List (Tool × Stage) :=
  [(.fallocate bytes, .allocate), (.mkswap, .format)] ++
    if enable then [(.swapon, .enable)] else []

def buildSwap (build : Build) (bytes : Nat) (enable : Bool) : Task (Except Error Unit) := do
  if ← change (.openNew build) then runTools build (buildTools bytes enable)
  else pure (.error (.filesystem .allocate))

variable (path : SwapPath)

/-- `create` once the file is in use. -/
def persist (sizeMb : Nat) (fstab : Text) : Task (Except Error SwapResult) := do
  match withEntry path fstab with
  | none => pure (.ok ⟨some sizeMb, true⟩)
  | some updated =>
    if ← change (.writeFstab .persist updated) then pure (.ok ⟨some sizeMb, true⟩)
    else if ← change (.swapoff true) then
      if ← change (.removeFile true) then pure (.error (.filesystem .persist))
      else pure (.error (.rollbackFailed .persist))
    else pure (.error (.rollbackFailed .persist))

def create (sizeMb : Nat) : Task (Except Error SwapResult) :=
  inspect.andThen fun found =>
    if found.isSome then pure (.error .alreadyExists) else
    available.andThen fun free =>
    if free < sizeMb * mib then pure (.error .insufficientSpace) else
    readFstab.andThen fun fstab =>
    check.andThen fun _ =>
    (buildSwap .requested (sizeMb * mib) true).andThen fun _ => persist path sizeMb fstab

/-- `reenable`: the swap goes back on, or the error says that it did not. -/
def reenable (active : Bool) (stage : Stage) : Task (Except Error SwapResult) := do
  if active then
    if ← change .swapon then pure (.error (.filesystem stage))
    else pure (.error (.rollbackFailed stage))
  else pure (.error (.filesystem stage))

/-- `delete` once the swap is off. -/
def removeSwap (active : Bool) (fstab : Text) (pruned : Option Text) :
    Task (Except Error SwapResult) := do
  if ← change (.removeFile false) then pure (.ok ⟨none, true⟩)
  else
    match pruned with
    | none => reenable active .remove
    | some _ =>
      if ← change (.writeFstab .restore fstab) then reenable active .remove
      else pure (.error (.rollbackFailed .remove))

def dropSwap (active : Bool) (fstab : Text) (pruned : Option Text) :
    Task (Except Error SwapResult) := do
  match pruned with
  | none => removeSwap active fstab none
  | some text =>
    if ← change (.writeFstab .persist text) then removeSwap active fstab (some text)
    else reenable active .persist

/-- `delete` once it goes ahead.  A failed `swapoff` leaves everything as it was. -/
def disableAndDrop (active : Bool) (fstab : Text) (pruned : Option Text) :
    Task (Except Error SwapResult) := do
  if active then
    if ← change (.swapoff false) then dropSwap active fstab pruned
    else pure (.error (.tool .disable))
  else dropSwap active fstab pruned

def delete : Task (Except Error SwapResult) :=
  inspect.andThen fun found =>
    isActive.andThen fun active =>
    readFstab.andThen fun fstab =>
    let pruned := withoutEntry path fstab
    if !found.isSome && !active && pruned.isNone then pure (.ok ⟨none, false⟩) else
    check.andThen fun _ => disableAndDrop active fstab pruned

def restoreFstab (fstab : Text) (entry : Option Text) : Task Bool :=
  match entry with
  | none => pure true
  | some _ => change (.writeFstab .restore fstab)

/-- A step failed: `error` if what was changed is back, else a failed rollback. -/
def orRollbackFailed (restored : Bool) (error : Error) (stage : Stage) :
    Except Error SwapResult :=
  .error (if restored then error else .rollbackFailed stage)

def stageOf : Error → Stage
  | .tool stage | .filesystem stage | .rollbackFailed stage => stage
  | _ => .allocate

/-- Both builds failed: the entry goes, so that the next boot does not wait for the file. -/
def dropEntry (fstab : Text) (stage : Stage) : Task (Except Error SwapResult) := do
  match withoutEntry path fstab with
  | none => pure (.error (.rollbackFailed stage))
  | some pruned =>
    let _ ← change (.writeFstab .drop pruned)
    pure (.error (.rollbackFailed stage))

/-- `resize` after the new file could not be built: the previous one is built again. -/
def rebuild (found : SwapFile) (fstab : Text) (entry : Option Text) (error : Error) :
    Task (Except Error SwapResult) := do
  let again ← match error with
    | .rollbackFailed _ => pure (.error error)
    | _ => buildSwap .previous found.length found.active
  match again with
  | .error _ => dropEntry path fstab (stageOf error)
  | .ok _ =>
    let restored ← restoreFstab fstab entry
    pure (orRollbackFailed restored error (stageOf error))

/-- `resize` once the swap is off. -/
def replaceSwap (sizeMb : Nat) (found : SwapFile) (fstab : Text) (entry : Option Text) :
    Task (Except Error SwapResult) := do
  if ← change (.removeFile false) then
    match ← buildSwap .requested (sizeMb * mib) true with
    | .ok _ => pure (.ok ⟨some sizeMb, true⟩)
    | .error error => rebuild path found fstab entry error
  else if found.active then
    if ← change .swapon then
      let restored ← restoreFstab fstab entry
      pure (orRollbackFailed restored (.filesystem .remove) .remove)
    else pure (.error (.rollbackFailed .remove))
  else
    let restored ← restoreFstab fstab entry
    pure (orRollbackFailed restored (.filesystem .remove) .remove)

/-- `resize` once the entry is there. -/
def disableAndReplace (sizeMb : Nat) (found : SwapFile) (fstab : Text) (entry : Option Text) :
    Task (Except Error SwapResult) := do
  if found.active then
    if ← change (.swapoff false) then replaceSwap path sizeMb found fstab entry
    else
      let restored ← restoreFstab fstab entry
      pure (orRollbackFailed restored (.tool .disable) .disable)
  else replaceSwap path sizeMb found fstab entry

/-- `resize` once it goes ahead: the entry comes first, every later step keeps the path. -/
def persistAndReplace (sizeMb : Nat) (found : SwapFile) (fstab : Text) (entry : Option Text) :
    Task (Except Error SwapResult) := do
  match entry with
  | none => disableAndReplace path sizeMb found fstab entry
  | some updated =>
    if ← change (.writeFstab .persist updated) then
      disableAndReplace path sizeMb found fstab entry
    else pure (.error (.filesystem .persist))

def resize (sizeMb : Nat) : Task (Except Error SwapResult) :=
  inspect.andThen fun seen =>
    match seen with
    | none => create path sizeMb
    | some found =>
      isActive.andThen fun active =>
      readFstab.andThen fun fstab =>
      let entry := withEntry path fstab
      if found.length = sizeMb * mib ∧ active ∧ entry.isNone then
        pure (.ok ⟨some sizeMb, false⟩) else
      available.andThen fun free =>
      if free + found.allocated < sizeMb * mib then pure (.error .insufficientSpace) else
      check.andThen fun _ => persistAndReplace path sizeMb { found with active } fstab entry

inductive Action where
  | create (sizeMb : Nat)
  | delete
  | resize (sizeMb : Nat)

def Action.run : Action → Task (Except Error SwapResult)
  | .create sizeMb => Swap.create path sizeMb
  | .delete => Swap.delete path
  | .resize sizeMb => Swap.resize path sizeMb

end OpsEngine.Swap
