import OpsEngine.Effect.Program

namespace OpsEngine.Effect.Program

/-! # A program alone, every operation answered by one function

Where nobody else acts, and what the environment decides can be read off the
operation, a program is a function of the state.
-/

variable {Op : Type} {Res : Op → Type} {State α β ε : Type}
variable (answer : (operation : Op) → State → Res operation × State)

def evaluate : Program Op Res α → State → α × State
  | done result, state => (result, state)
  | perform operation next, state =>
    (next (answer operation state).1).evaluate (answer operation state).2

@[simp] theorem evaluate_done (result : α) (state : State) :
    (done result : Program Op Res α).evaluate answer state = (result, state) := rfl

@[simp] theorem evaluate_perform (operation : Op) (next : Res operation → Program Op Res α)
    (state : State) : (perform operation next).evaluate answer state =
      (next (answer operation state).1).evaluate answer (answer operation state).2 := rfl

theorem evaluate_bind (program : Program Op Res α) (rest : α → Program Op Res β)
    (state : State) : (program >>= rest).evaluate answer state =
      (rest (program.evaluate answer state).1).evaluate answer (program.evaluate answer state).2 := by
  induction program generalizing state with
  | done result => rfl
  | perform operation next ih =>
    rw [perform_bind, evaluate_perform, ih, evaluate_perform]

section AndThen

variable {answer} {program : Program Op Res (Except ε α)} {rest : α → Program Op Res (Except ε β)}
variable {state later : State}

theorem evaluate_andThen_ok {result : α}
    (returned : program.evaluate answer state = (.ok result, later)) :
    (program.andThen rest).evaluate answer state = (rest result).evaluate answer later := by
  rw [andThen, evaluate_bind, returned]

theorem evaluate_andThen_error {reason : ε}
    (returned : program.evaluate answer state = (.error reason, later)) :
    (program.andThen rest).evaluate answer state = (.error reason, later) := by
  rw [andThen, evaluate_bind, returned]
  rfl

end AndThen

end OpsEngine.Effect.Program
