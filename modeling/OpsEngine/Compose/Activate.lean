import OpsEngine.Ingress.Host

namespace OpsEngine.ComposeConfig

open Ingress (HashGuard)

/-! # The compose file of a stack

`compose.activateConfig` checks a new file aside, puts it in place, brings the stack up
with it, and goes back to the previous file if that fails.
-/

/-- The files of a stack with the temporary siblings they are written through, what was last
brought up, and every `up` that ran, with the file it ran on and how it ended. -/
structure Stack where
  live : Option Text
  staged : Option Text
  stagedTemp : Option Text
  backup : Option Text
  backupTemp : Option Text
  up : Option Text
  ups : List (Option Text × Bool)

/-- How a `write_atomic` ends: done, or failed before the temporary file was created, or
failed with the first `count` characters in it. -/
inductive Write where
  | done
  | unopened
  | broken (count : Nat)
deriving DecidableEq

def Write.works : Write → Bool
  | .done => true
  | _ => false

def Write.breaks : Write → Bool
  | .broken _ => true
  | _ => false

/-- The temporary file and the target after a `write_atomic`. -/
def writeAtomic (write : Write) (contents : Text) (temp target : Option Text) :
    Option Text × Option Text :=
  match write with
  | .done => (none, some contents)
  | .unopened => (temp, target)
  | .broken count => (some (contents.take count), target)

/-- Which steps work.  `restore` is the rename of the backup, or the removal of the new
file where there was none before. -/
structure Works where
  opened : Bool
  read : Bool
  stage : Write
  resolve : Bool
  check : Bool
  keep : Write
  swap : Bool
  up : Bool
  restore : Bool
  upAgain : Bool

inductive RestoreFailure where
  | file
  | reload

inductive ActivateError where
  | io
  | path
  | hashGuardMismatch
  | validateFailed
  | reloadFailedAndRestored
  | reloadFailedUnchanged
  | recoveryFailed (restore : RestoreFailure)

def Stack.stage (stack : Stack) (write : Write) (content : Text) : Stack :=
  let (stagedTemp, staged) := writeAtomic write content stack.stagedTemp stack.staged
  { stack with stagedTemp, staged }

/-- The previous content is copied aside, if there is one. -/
def Stack.keep (stack : Stack) (write : Write) : Option Text → Stack
  | some previous =>
    let (backupTemp, backup) := writeAtomic write previous stack.backupTemp stack.backup
    { stack with backupTemp, backup }
  | none => stack

/-- `docker compose up -d`, which fails without a file. -/
def Stack.bringUp (stack : Stack) (works : Bool) : Bool × Stack :=
  let runs := works && stack.live.isSome
  (runs, { stack with
    up := if runs then stack.live else stack.up
    ups := (stack.live, runs) :: stack.ups })

/-- Puts the previous file back, or takes the new one away. -/
def Stack.restored (stack : Stack) (previous : Option Text) : Stack :=
  if previous.isSome then { stack with live := stack.backup, backup := none }
  else { stack with live := none }

/-- From the rename of the checked file on. -/
def Stack.swapIn (stack : Stack) (works : Works) (previous : Option Text) :
    Except ActivateError Bool × Stack :=
  if ¬ works.swap then (.error .io, { stack with staged := none, backup := none })
  else
    match { stack with live := stack.staged, staged := none }.bringUp works.up with
    | (true, after) => (.ok true, { after with backup := none })
    | (false, after) =>
      if ¬ works.restore then (.error (.recoveryFailed .file), after)
      else
        match (after.restored previous).bringUp works.upAgain with
        | (true, last) => (.error .reloadFailedAndRestored, last)
        | (false, last) => (.error (.recoveryFailed .reload), last)

def activate [Sha256] (works : Works) (content : Text) (guard : HashGuard) (stack : Stack) :
    Except ActivateError Bool × Stack :=
  if ¬ works.opened ∨ ¬ works.read then (.error .io, stack)
  else if ¬ guard.isSatisfiedBy stack.live then (.error .hashGuardMismatch, stack)
  else if stack.live = some content then
    match stack.bringUp works.up with
    | (true, after) => (.ok false, after)
    | (false, after) => (.error .reloadFailedUnchanged, after)
  else
    let staging := stack.stage works.stage content
    if ¬ works.stage.works then (.error .io, staging)
    else if ¬ works.resolve then (.error .path, { staging with staged := none })
    else if ¬ works.check then (.error .validateFailed, { staging with staged := none })
    else
      let kept := staging.keep works.keep stack.live
      if stack.live.isSome ∧ ¬ works.keep.works then (.error .io, { kept with staged := none })
      else kept.swapIn works stack.live

/-- No file, or one that is up. -/
def Stack.settled (previous : Option Text) : Stack :=
  ⟨previous, none, none, none, none, previous, []⟩

/-- The previous file is in place and was brought up again, or there is none as before. -/
def Stack.Restored (stack : Stack) (previous : Option Text) : Prop :=
  stack.live = previous ∧ (previous.isSome = true → (previous, true) ∈ stack.ups)

/-- What the answer says of the stack. -/
structure Reported (works : Works) (content : Text) (previous : Option Text)
    (answer : Except ActivateError Bool) (after : Stack) : Prop where
  ok : ∀ activated, answer = .ok activated → after.live = some content ∧ after.up = some content
  untouched : answer = .error .hashGuardMismatch ∨ answer = .error .validateFailed ∨
    answer = .error .io → after.live = previous ∧ after.ups = []
  restored : answer = .error .reloadFailedAndRestored ↔
    previous ≠ some content ∧ (some content, false) ∈ after.ups ∧ after.Restored previous
  recovery : ∀ restore, answer = .error (.recoveryFailed restore) →
    works.restore = false ∨ previous.isSome = true ∧ works.upAgain = false
  clean : after.staged = none ∧ after.stagedTemp = none ∧ after.backupTemp = none ∧
    (after.backup = none ∨ answer = .error (.recoveryFailed .file))

/-! ## Where it goes wrong -/

section Conditions

variable [Sha256] (works : Works) (content : Text) (guard : HashGuard) (previous : Option Text)

/-- A new content is written aside. -/
def Works.stages : Bool :=
  works.opened && works.read && guard.isSatisfiedBy previous && previous != some content

/-- It passed its check. -/
def Works.checks : Bool :=
  works.stages content guard previous && works.stage.works && works.resolve && works.check

/-- A first activation brings the new file up and fails. -/
def Works.failsFirst : Bool :=
  works.checks content guard previous && previous.isNone && works.swap && !works.up && works.restore

/-- Neither of the two writes is broken off, and no first activation fails to come up. -/
def Works.Fair : Prop :=
  (works.stages content guard previous = true → works.stage.breaks = false) ∧
    (works.checks content guard previous = true → previous.isSome = true →
      works.keep.breaks = false) ∧
    works.failsFirst content guard previous = false

end Conditions

section Reports

variable {works : Works} {content : Text} {guard : HashGuard} {previous : Option Text}

/-- A stack with the checked content beside the live file, and a copy of the live file. -/
def Stack.ready (content : Text) (previous : Option Text) : Stack :=
  ⟨previous, some content, none, previous, none, previous, []⟩

theorem swapIn_reported (other : previous ≠ some content)
    (first : previous = none → works.swap = true → works.up = false → works.restore = false) :
    Reported works content previous ((Stack.ready content previous).swapIn works previous).1
      ((Stack.ready content previous).swapIn works previous).2 := by
  have replaced : some content ≠ previous := fun same => other same.symm
  cases swap : works.swap with
  | false => constructor <;> simp [Stack.ready, Stack.swapIn, swap]
  | true =>
  cases up : works.up with
  | true => constructor <;> simp [Stack.ready, Stack.swapIn, Stack.bringUp, swap, up]
  | false =>
  cases restore : works.restore with
  | false => constructor <;> simp_all [Stack.ready, Stack.swapIn, Stack.bringUp, Stack.Restored]
  | true =>
  cases previous with
  | none => simp [first rfl swap up] at restore
  | some file =>
    cases again : works.upAgain <;> constructor <;>
      simp_all [Stack.ready, Stack.swapIn, Stack.bringUp, Stack.restored, Stack.Restored]

variable [Sha256]

theorem failsFirst_answer (fails : works.failsFirst content guard previous = true) :
    works.restore = true ∧ previous = none ∧
      (activate works content guard (.settled previous)).1 = .error (.recoveryFailed .reload) := by
  simp only [Works.failsFirst, Works.checks, Works.stages, Bool.and_eq_true,
    Option.isNone_iff_eq_none, Bool.not_eq_true'] at fails
  obtain ⟨⟨⟨⟨⟨⟨⟨admits, stages⟩, resolves⟩, checks⟩, rfl⟩, swaps⟩, down⟩, restores⟩ := fails
  have written : works.stage = .done := by
    revert stages
    cases works.stage <;> simp [Write.works]
  simp_all [activate, Stack.settled, Stack.stage, Stack.keep, Stack.swapIn, writeAtomic, Write.works,
    Stack.bringUp, Stack.restored]

theorem broken_stage_stays (stages : works.stages content guard previous = true)
    (breaks : works.stage.breaks = true) :
    (activate works content guard (.settled previous)).2.stagedTemp ≠ none := by
  simp only [Works.stages, Bool.and_eq_true, bne_iff_ne, ne_eq] at stages
  cases write : works.stage with
  | done | unopened => simp [write, Write.breaks] at breaks
  | broken count =>
    simp [activate, Stack.settled, Stack.stage, writeAtomic, Write.works, stages, write]

theorem broken_keep_stays (checks : works.checks content guard previous = true)
    (present : previous.isSome = true) (breaks : works.keep.breaks = true) :
    (activate works content guard (.settled previous)).2.backupTemp ≠ none := by
  simp only [Works.checks, Works.stages, Bool.and_eq_true, bne_iff_ne, ne_eq] at checks
  obtain ⟨file, rfl⟩ := Option.isSome_iff_exists.mp present
  cases write : works.keep with
  | done | unopened => simp [write, Write.breaks] at breaks
  | broken count =>
    simp_all [activate, Stack.settled, Stack.stage, Stack.keep, writeAtomic, Write.works]

theorem reported_of_fair (fair : works.Fair content guard previous) :
    Reported works content previous (activate works content guard (.settled previous)).1
      (activate works content guard (.settled previous)).2 := by
  obtain ⟨staging, keeping, first⟩ := fair
  unfold activate
  split
  · constructor <;> simp [Stack.settled]
  split
  · constructor <;> simp [Stack.settled]
  split
  · rename_i same
    cases works.up <;> constructor <;> simp_all [Stack.settled, Stack.bringUp]
  rename_i opens guarded other
  have stages : works.stages content guard previous = true := by
    simpa [Works.stages, Stack.settled] using And.intro (And.intro opens guarded) other
  cases stage : works.stage with
  | broken count => simp [stages, stage, Write.breaks] at staging
  | unopened => constructor <;> simp [Write.works, Stack.stage, writeAtomic, Stack.settled]
  | done =>
  rw [if_neg (by simp [Write.works])]
  split
  · constructor <;> simp [Stack.stage, writeAtomic, Stack.settled]
  split
  · constructor <;> simp [Stack.stage, writeAtomic, Stack.settled]
  rename_i resolves passes
  have checks : works.checks content guard previous = true := by
    simp_all [Works.checks, Write.works]
  have comes : previous = none → works.swap = true → works.up = false → works.restore = false := by
    rintro rfl swaps down
    simpa [Works.failsFirst, checks, swaps, down] using first
  cases previous with
  | none => exact swapIn_reported other comes
  | some file =>
  cases keep : works.keep with
  | broken count => simp [checks, keep, Write.breaks] at keeping
  | unopened => constructor <;> simp [Stack.stage, Stack.keep, writeAtomic, Write.works, Stack.settled]
  | done => exact swapIn_reported other comes

/-- The answer says what is up and what is left, exactly in the fair cases. -/
theorem activation_reported_iff (works : Works) (content : Text) (guard : HashGuard)
    (previous : Option Text) :
    Reported works content previous (activate works content guard (.settled previous)).1
        (activate works content guard (.settled previous)).2 ↔
      works.Fair content guard previous := by
  refine ⟨fun reported => ⟨fun stages => ?_, fun checks present => ?_, ?_⟩, reported_of_fair⟩
  · by_contra breaks
    exact broken_stage_stays stages (by simpa using breaks) reported.clean.2.1
  · by_contra breaks
    exact broken_keep_stays checks present (by simpa using breaks) reported.clean.2.2.1
  · by_contra fails
    obtain ⟨restores, rfl, answer⟩ := failsFirst_answer (by simpa using fails)
    rcases reported.recovery _ answer with failed | ⟨impossible, _⟩
    · rw [restores] at failed
      contradiction
    · contradiction

end Reports

/-- Only the `up` of the new file fails. -/
def upFails : Works := ⟨true, true, .done, true, true, .done, true, false, true, true⟩

theorem first_activation_unreported : letI := Sha256.verbatim
    ¬ Reported upFails [] none (activate upFails [] .absent (.settled none)).1
      (activate upFails [] .absent (.settled none)).2 := by
  intro reported
  rcases reported.recovery .reload rfl with impossible | ⟨impossible, _⟩ <;> contradiction

end OpsEngine.ComposeConfig
