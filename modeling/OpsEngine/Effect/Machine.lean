import Mathlib.Logic.Function.Basic
import OpsEngine.Effect.Program

namespace OpsEngine.Effect

/-! # Machines, pools of actors and their runs

A machine answers one operation of one actor at a time.  Everything the
environment decides is a `Choice`, so a run is determined by the schedule that
produced it and every interleaving is some schedule.
-/

structure Machine (Op : Type) (Res : Op → Type) (State Actor Choice : Type) where
  exec : Actor → Choice → (operation : Op) → State → Res operation × State
  /-- What the kernel does to the shared state when an actor's process ends. -/
  exit : Actor → State → State

/-- One event of a schedule. -/
inductive Event (Actor Choice : Type) where
  | step (actor : Actor) (choice : Choice)
  | kill (actor : Actor)

/-- Actors running side by side over one shared state.  A killed actor has no
program any more. -/
structure Pool (Op : Type) (Res : Op → Type) (State Actor : Type) (α : Type) where
  state : State
  threads : Actor → Option (Program Op Res α)

variable {Op : Type} {Res : Op → Type} {State Actor Choice α β : Type}

namespace Machine

/-- Run one program alone to its end.  `choices` are the environment's
decisions, one for each operation. -/
def solo (machine : Machine Op Res State Actor Choice) (actor : Actor) :
    (Nat → Choice) → Program Op Res α → State → α × State
  | _, .done result, state => (result, state)
  | choices, .perform operation next, state =>
    let answered := machine.exec actor (choices 0) operation state
    machine.solo actor (fun index => choices (index + 1)) (next answered.1) answered.2

/-- Run one program alone for as many operations as there are choices. -/
def advance (machine : Machine Op Res State Actor Choice) (actor : Actor) :
    List Choice → Program Op Res α → State → Program Op Res α × State
  | choice :: rest, .perform operation next, state =>
    let answered := machine.exec actor choice operation state
    machine.advance actor rest (next answered.1) answered.2
  | _, program, state => (program, state)

end Machine

namespace Pool

variable [DecidableEq Actor]

def step (machine : Machine Op Res State Actor Choice)
    (pool : Pool Op Res State Actor α) : Event Actor Choice → Pool Op Res State Actor α
  | .step actor choice =>
    match pool.threads actor with
    | some (.perform operation next) =>
      let answered := machine.exec actor choice operation pool.state
      { state := answered.2
        threads := Function.update pool.threads actor (some (next answered.1)) }
    | _ => pool
  | .kill actor =>
    { state := machine.exit actor pool.state
      threads := Function.update pool.threads actor none }

def run (machine : Machine Op Res State Actor Choice)
    (pool : Pool Op Res State Actor α) (events : List (Event Actor Choice)) :
    Pool Op Res State Actor α :=
  events.foldl (step machine) pool

@[simp] theorem run_cons (machine : Machine Op Res State Actor Choice)
    (pool : Pool Op Res State Actor α) (event : Event Actor Choice)
    (events : List (Event Actor Choice)) :
    pool.run machine (event :: events) = (pool.step machine event).run machine events := rfl

@[simp] theorem run_append (machine : Machine Op Res State Actor Choice)
    (pool : Pool Op Res State Actor α) (before after : List (Event Actor Choice)) :
    pool.run machine (before ++ after) = (pool.run machine before).run machine after :=
  List.foldl_append

def outcome (pool : Pool Op Res State Actor α) (actor : Actor) : Option α :=
  (pool.threads actor).bind Program.result?

def pending (pool : Pool Op Res State Actor α) (actor : Actor) : Option Op :=
  (pool.threads actor).bind Program.pending?

/-- The event satisfies `admits` in the pool it happens in. -/
def Allows (admits : Actor → Choice → Op → State → Prop) (pool : Pool Op Res State Actor α) :
    Event Actor Choice → Prop
  | .step actor choice =>
    ∀ operation ∈ pool.pending actor, admits actor choice operation pool.state
  | .kill _ => True

/-- Every event of the schedule satisfies `admits` where it happens. -/
def Respects (machine : Machine Op Res State Actor Choice)
    (admits : Actor → Choice → Op → State → Prop) :
    Pool Op Res State Actor α → List (Event Actor Choice) → Prop
  | _, [] => True
  | pool, event :: events =>
    pool.Allows admits event ∧ Respects machine admits (pool.step machine event) events

theorem respects_append {machine : Machine Op Res State Actor Choice}
    {admits : Actor → Choice → Op → State → Prop} {pool : Pool Op Res State Actor α}
    {before after : List (Event Actor Choice)} :
    pool.Respects machine admits (before ++ after) ↔
      pool.Respects machine admits before ∧ (pool.run machine before).Respects machine admits after := by
  induction before generalizing pool with
  | nil => exact (Iff.of_eq (true_and _)).symm
  | cons event before ih => simp only [List.cons_append, Respects, ih, and_assoc, run_cons]

section Decidable

variable {admits : Actor → Choice → Op → State → Prop}
  [∀ actor choice operation state, Decidable (admits actor choice operation state)]

instance decidableAllows (pool : Pool Op Res State Actor α) :
    (event : Event Actor Choice) → Decidable (pool.Allows admits event)
  | .step actor choice =>
    inferInstanceAs
      (Decidable (∀ operation ∈ pool.pending actor, admits actor choice operation pool.state))
  | .kill _ => isTrue trivial

instance decidableRespects (machine : Machine Op Res State Actor Choice) :
    (pool : Pool Op Res State Actor α) → (events : List (Event Actor Choice)) →
      Decidable (pool.Respects machine admits events)
  | _, [] => isTrue trivial
  | pool, event :: events =>
    @instDecidableAnd _ _ (decidableAllows pool event)
      (decidableRespects machine (pool.step machine event) events)

end Decidable

variable {pool : Pool Op Res State Actor α}

omit [DecidableEq Actor] in
theorem Allows.perform {admits : Actor → Choice → Op → State → Prop} {actor : Actor}
    {choice : Choice} {operation : Op} {next : Res operation → Program Op Res α}
    (allowed : pool.Allows admits (.step actor choice))
    (found : pool.threads actor = some (.perform operation next)) :
    admits actor choice operation pool.state :=
  allowed operation (by simp [pending, found, Program.pending?])

omit [DecidableEq Actor] in
theorem threads_of_pending {actor : Actor} {operation : Op}
    (found : pool.pending actor = some operation) :
    ∃ next, pool.threads actor = some (.perform operation next) := by
  obtain ⟨program, thread, next⟩ := Option.bind_eq_some_iff.mp found
  cases program with
  | done result => simp [Program.pending?] at next
  | perform performed rest =>
    cases next
    exact ⟨rest, thread⟩

omit [DecidableEq Actor] in
theorem threads_of_outcome {actor : Actor} {result : α}
    (returned : pool.outcome actor = some result) : pool.threads actor = some (.done result) := by
  obtain ⟨program, thread, ended⟩ := Option.bind_eq_some_iff.mp returned
  cases program with
  | done value =>
    cases ended
    exact thread
  | perform operation next => simp [Program.result?] at ended

theorem step_of_perform {machine : Machine Op Res State Actor Choice} {actor : Actor}
    {operation : Op} {next : Res operation → Program Op Res α}
    (running : pool.threads actor = some (.perform operation next)) (choice : Choice) :
    pool.step machine (.step actor choice) =
      { state := (machine.exec actor choice operation pool.state).2
        threads := Function.update pool.threads actor
          (some (next (machine.exec actor choice operation pool.state).1)) } := by
  simp only [step, running]

/-- A step either performs the scheduled actor's pending operation, or the
actor has nothing to perform and the pool stays as it is, or a process ends. -/
theorem step_cases (machine : Machine Op Res State Actor Choice)
    (pool : Pool Op Res State Actor α) (event : Event Actor Choice) :
    (∃ actor choice operation next, event = .step actor choice ∧
      pool.threads actor = some (.perform operation next)) ∨
    pool.step machine event = pool ∨ ∃ actor, event = .kill actor := by
  cases event with
  | kill actor => exact .inr (.inr ⟨actor, rfl⟩)
  | step actor choice =>
  cases running : pool.threads actor with
  | none => exact .inr (.inl (by simp only [step, running]))
  | some program =>
    cases program with
    | done result => exact .inr (.inl (by simp only [step, running]))
    | perform operation next => exact .inl ⟨actor, choice, operation, next, rfl, running⟩

end Pool

end OpsEngine.Effect
