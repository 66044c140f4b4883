namespace OpsEngine.Effect

/-! # Programs over atomic operations

A `Program` is a tree of atomic operations.  Each operation is performed by
whatever machine runs the program, and its answer selects the rest.  A program
is well founded, so it performs finitely many operations whatever the answers are.
-/

inductive Program (Op : Type) (Res : Op → Type) (α : Type) : Type where
  | done (result : α)
  | perform (operation : Op) (next : Res operation → Program Op Res α)

namespace Program

variable {Op : Type} {Res : Op → Type} {α β γ : Type}

def call (operation : Op) : Program Op Res (Res operation) :=
  perform operation done

protected def bind : Program Op Res α → (α → Program Op Res β) → Program Op Res β
  | done result, rest => rest result
  | perform operation next, rest =>
    perform operation fun answer => (next answer).bind rest

instance : Monad (Program Op Res) where
  pure := done
  bind := Program.bind

@[simp] theorem pure_eq_done (result : α) :
    (pure result : Program Op Res α) = done result := rfl

@[simp] theorem done_bind (result : α) (rest : α → Program Op Res β) :
    (done result >>= rest) = rest result := rfl

@[simp] theorem perform_bind (operation : Op) (next : Res operation → Program Op Res α)
    (rest : α → Program Op Res β) :
    (perform operation next >>= rest) = perform operation fun answer => next answer >>= rest := rfl

protected theorem bind_assoc (program : Program Op Res α) (middle : α → Program Op Res β)
    (rest : β → Program Op Res γ) :
    (program >>= middle >>= rest) = program >>= fun result => middle result >>= rest := by
  induction program with
  | done result => rfl
  | perform operation next ih =>
    exact congrArg _ (funext ih)

def result? : Program Op Res α → Option α
  | done result => some result
  | perform _ _ => none

def pending? : Program Op Res α → Option Op
  | done _ => none
  | perform operation _ => some operation

/-- Every operation the program can perform, whatever the answers before it,
satisfies `allowed`. -/
def Every (allowed : Op → Prop) : Program Op Res α → Prop
  | done _ => True
  | perform operation next => allowed operation ∧ ∀ answer, (next answer).Every allowed

@[simp] theorem every_call {allowed : Op → Prop} {operation : Op} :
    (call operation : Program Op Res (Res operation)).Every allowed ↔ allowed operation :=
  ⟨fun every => every.1, fun holds => ⟨holds, fun _ => trivial⟩⟩

variable {allowed : Op → Prop}

theorem every_call_bind {operation : Op}
    {rest : Res operation → Program Op Res β} (first : allowed operation)
    (second : ∀ answer, (rest answer).Every allowed) :
    (call operation >>= rest).Every allowed :=
  ⟨first, second⟩

theorem Every.mono {small large : Op → Prop}
    (implies : ∀ operation, small operation → large operation)
    {program : Program Op Res α} (every : program.Every small) : program.Every large := by
  induction program with
  | done result => trivial
  | perform operation next ih =>
    exact ⟨implies operation every.1, fun answer => ih answer (every.2 answer)⟩

variable {program : Program Op Res α} {rest : α → Program Op Res β}

theorem Every.bind (first : program.Every allowed)
    (second : ∀ result, (rest result).Every allowed) :
    (program >>= rest).Every allowed := by
  induction program with
  | done result => exact second result
  | perform operation next ih =>
    exact ⟨first.1, fun answer => ih answer (first.2 answer)⟩

def andThen {ε : Type} (first : Program Op Res (Except ε α)) (next : α → Program Op Res (Except ε β)) :
    Program Op Res (Except ε β) :=
  first >>= fun answer =>
    match answer with
    | .error error => done (.error error)
    | .ok value => next value

theorem Every.andThen {ε : Type} {program : Program Op Res (Except ε α)}
    {next : α → Program Op Res (Except ε β)} (first : program.Every allowed)
    (second : ∀ value, (next value).Every allowed) : (program.andThen next).Every allowed := by
  apply first.bind
  intro answer
  cases answer with
  | error error => trivial
  | ok value => exact second value

/-- Whatever the answers are, the program returns a result in `results`. -/
def Returns (results : α → Prop) : Program Op Res α → Prop
  | done result => results result
  | perform _ next => ∀ answer, (next answer).Returns results

theorem returns_trivial {program : Program Op Res α} : program.Returns fun _ => True := by
  induction program with
  | done result => trivial
  | perform operation next ih => exact ih

theorem returns_call_bind {results : β → Prop} {operation : Op}
    {rest : Res operation → Program Op Res β} (second : ∀ answer, (rest answer).Returns results) :
    (call operation >>= rest).Returns results :=
  second

theorem Returns.bind {middle : α → Prop} {results : β → Prop} (first : program.Returns middle)
    (second : ∀ result, middle result → (rest result).Returns results) :
    (program >>= rest).Returns results := by
  induction program with
  | done result => exact second result first
  | perform operation next ih => exact fun answer => ih answer (first answer)

theorem Every.bind_returns {middle : α → Prop} (first : program.Every allowed)
    (returns : program.Returns middle)
    (second : ∀ result, middle result → (rest result).Every allowed) :
    (program >>= rest).Every allowed := by
  induction program with
  | done result => exact second result returns
  | perform operation next ih =>
    exact ⟨first.1, fun answer => ih answer (first.2 answer) (returns answer)⟩

end Program

end OpsEngine.Effect
