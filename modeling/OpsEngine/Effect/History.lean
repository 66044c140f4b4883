import OpsEngine.Effect.RelyGuarantee

namespace OpsEngine.Effect

/-! # Journals

A recorded machine keeps, beside the shared state, what each actor has done so
far.  The journals change nothing about a run; they let a statement about one
step speak of the answers that led to it.
-/

/-- What an actor has done, latest first. -/
abbrev Journal (Op : Type) (Res : Op → Type) := List (Sigma Res)

structure Recorded (Op : Type) (Res : Op → Type) (State Actor : Type) where
  state : State
  journals : Actor → Journal Op Res

variable {Op : Type} {Res : Op → Type} {State Actor Choice α β : Type}

def Recorded.start (state : State) : Recorded Op Res State Actor :=
  { state, journals := fun _ => [] }

variable [DecidableEq Actor]

def Machine.recorded (machine : Machine Op Res State Actor Choice) :
    Machine Op Res (Recorded Op Res State Actor) Actor Choice where
  exec actor choice operation recorded :=
    let answered := machine.exec actor choice operation recorded.state
    (answered.1,
      { state := answered.2
        journals := Function.update recorded.journals actor
          (⟨operation, answered.1⟩ :: recorded.journals actor) })
  exit actor recorded := { recorded with state := machine.exit actor recorded.state }

section Recorded

variable {machine : Machine Op Res State Actor Choice} {actor other : Actor} {choice : Choice}
  {operation : Op} {recorded : Recorded Op Res State Actor}

theorem recorded_state :
    (machine.recorded.exec actor choice operation recorded).2.state =
      (machine.exec actor choice operation recorded.state).2 := rfl

theorem journal_self :
    (machine.recorded.exec actor choice operation recorded).2.journals actor =
      ⟨operation, (machine.exec actor choice operation recorded.state).1⟩ ::
        recorded.journals actor :=
  Function.update_self _ _ _

theorem journal_of_ne (distinct : other ≠ actor) :
    (machine.recorded.exec actor choice operation recorded).2.journals other =
      recorded.journals other :=
  Function.update_of_ne distinct _ _

theorem journal_grows :
    recorded.journals other <:+
      (machine.recorded.exec actor choice operation recorded).2.journals other := by
  by_cases same : other = actor
  · subst same
    rw [journal_self]
    exact List.suffix_cons _ _
  · simp [journal_of_ne same]

end Recorded

namespace Pool

def forget (pool : Pool Op Res (Recorded Op Res State Actor) Actor α) :
    Pool Op Res State Actor α :=
  { state := pool.state.state, threads := pool.threads }

section

variable (machine : Machine Op Res State Actor Choice)
  (pool : Pool Op Res (Recorded Op Res State Actor) Actor α)
include machine pool

theorem forget_step (event : Event Actor Choice) :
    (pool.step machine.recorded event).forget = pool.forget.step machine event := by
  cases event with
  | kill actor => rfl
  | step actor choice =>
  cases running : pool.threads actor with
  | none => simp only [step, forget, running]
  | some program =>
  cases program with
  | done result => simp only [step, forget, running]
  | perform operation next =>
    have forgotten : pool.forget.threads actor = some (.perform operation next) := running
    rw [step_of_perform running, step_of_perform forgotten]
    rfl

theorem forget_run (events : List (Event Actor Choice)) :
    (pool.run machine.recorded events).forget = pool.forget.run machine events := by
  induction events generalizing pool with
  | nil => rfl
  | cons event events ih => rw [run_cons, run_cons, ih, forget_step]

end

end Pool

/-- Every operation of an actor is allowed by its own journal. -/
def Discipline.journaled (admits : Actor → Choice → Op → Recorded Op Res State Actor → Prop)
    (allowed : Actor → Journal Op Res → Op → Prop) :
    Discipline Op (Recorded Op Res State Actor) Actor Choice where
  rely actor before after := after.journals actor = before.journals actor
  admits := admits
  keeps actor _ operation recorded := allowed actor (recorded.journals actor) operation

section Journaled

variable {machine : Machine Op Res State Actor Choice}
  {admits : Actor → Choice → Op → Recorded Op Res State Actor → Prop}
  {allowed : Actor → Journal Op Res → Op → Prop} {actor : Actor}
  {recorded : Recorded Op Res State Actor}

theorem Discipline.journaled_sound :
    (Discipline.journaled admits allowed :
      Discipline Op (Recorded Op Res State Actor) Actor Choice).Sound machine.recorded where
  step _ _ _ _ _ distinct _ _ := journal_of_ne (Ne.symm distinct)
  exit _ _ _ _ := rfl

omit [DecidableEq Actor] in
theorem stable_journal (assertion : Journal Op Res → Prop) :
    Stable ((Discipline.journaled admits allowed :
      Discipline Op (Recorded Op Res State Actor) Actor Choice).rely actor)
      fun recorded => assertion (recorded.journals actor) := by
  intro before after same holds
  have unchanged : after.journals actor = before.journals actor := same
  rw [unchanged]
  exact holds

theorem journaled_call_bind {post : β → Recorded Op Res State Actor → Prop} {operation : Op}
    {rest : Res operation → Program Op Res β}
    (first : allowed actor (recorded.journals actor) operation)
    (second : ∀ answer after, after.journals actor = ⟨operation, answer⟩ :: recorded.journals actor →
      Safe machine.recorded (.journaled admits allowed) actor post (rest answer) after) :
    Safe machine.recorded (.journaled admits allowed) actor post (Program.call operation >>= rest)
      recorded := by
  apply safe_call_bind _ (stable_journal (· = recorded.journals actor)) rfl
  intro before choice same _
  refine ⟨?_, second _ _ ?_⟩
  · show allowed actor (before.journals actor) operation
    rw [same]
    exact first
  · rw [journal_self, same]
    rfl

/-- Operations that every journal allows only lengthen the journal. -/
theorem journaled_every {program : Program Op Res α} {quiet : Op → Prop}
    (allows : ∀ operation journal, quiet operation → allowed actor journal operation)
    (every : program.Every quiet) :
    Safe machine.recorded (.journaled admits allowed) actor
      (fun _ after => recorded.journals actor <:+ after.journals actor) program recorded := by
  have start : recorded.journals actor <:+ recorded.journals actor := List.suffix_refl _
  refine Safe.of_every (stable_journal (recorded.journals actor <:+ ·)) ?_ every start
  intro operation choice state silent longer _
  refine ⟨allows operation _ silent, ?_⟩
  rw [journal_self]
  exact longer.trans (List.suffix_cons _ _)

end Journaled

end OpsEngine.Effect
