import OpsEngine.Effect.History

namespace OpsEngine.Effect

/-! # One actor amid others

`Reaches` runs one program, with the interference the others are allowed
between any two of its operations.  Where it stops is where it can be killed.
-/

variable {Op : Type} {Res : Op → Type} {State Actor Choice α β : Type}

inductive Reaches (machine : Machine Op Res State Actor Choice) (rely : State → State → Prop)
    (actor : Actor) : Program Op Res α → State → Program Op Res α → State → Prop where
  | refl (program : Program Op Res α) (state : State) :
      Reaches machine rely actor program state program state
  | step {operation : Op} {next : Res operation → Program Op Res α} {state after : State}
      {rest : Program Op Res α} (choice : Choice)
      (more : Reaches machine rely actor (next (machine.exec actor choice operation state).1)
        (machine.exec actor choice operation state).2 rest after) :
      Reaches machine rely actor (.perform operation next) state rest after
  | interfered {operation : Op} {next : Res operation → Program Op Res α}
      {before state after : State} {rest : Program Op Res α} (moved : rely before state)
      (more : Reaches machine rely actor (.perform operation next) state rest after) :
      Reaches machine rely actor (.perform operation next) before rest after

/-- One actor amid others that move the state along `rely`.  `crash` is what
holds wherever the actor can be killed. -/
def Discipline.amid (rely : State → State → Prop) (crash : State → Prop) :
    Discipline Op State Actor Choice where
  rely _ := rely
  admits _ _ _ _ := True
  keeps _ _ _ state := crash state

variable {machine : Machine Op Res State Actor Choice} {rely : State → State → Prop}
  {crash : State → Prop} {actor : Actor} {post : α → State → Prop}
  {program rest : Program Op Res α} {state after : State}

theorem Safe.reaches (safe : Safe machine (.amid rely crash) actor post program state)
    (reached : Reaches machine rely actor program state rest after) :
    Safe machine (.amid rely crash) actor post rest after := by
  induction reached with
  | refl program state => exact safe
  | step choice more ih => exact ih (safe _ .refl choice trivial).2
  | interfered moved more ih => exact ih (safe.interfered moved)

/-- Where a safe program stops, it has returned or its crash condition holds. -/
theorem Safe.reached [Nonempty Choice]
    (safe : Safe machine (.amid rely crash) actor post program state)
    (reached : Reaches machine rely actor program state rest after) :
    match rest with
    | .done result => post result after
    | .perform _ _ => crash after := by
  have left := safe.reaches reached
  cases rest with
  | done result => exact left
  | perform operation next =>
    have some : Nonempty Choice := inferInstance
    obtain ⟨choice⟩ := some
    exact (left after .refl choice trivial).1

theorem Reaches.advance (choices : List Choice) (program : Program Op Res α) (state : State) :
    Reaches machine rely actor program state (machine.advance actor choices program state).1
      (machine.advance actor choices program state).2 := by
  induction choices generalizing program state with
  | nil => cases program <;> exact .refl _ _
  | cons choice choices ih =>
    cases program with
    | done result => exact .refl _ _
    | perform operation next => exact .step choice (ih _ _)

theorem Safe.and {other : State → Prop} {second : α → State → Prop}
    (one : Safe machine (.amid rely crash) actor post program state)
    (two : Safe machine (.amid rely other) actor second program state) :
    Safe machine (.amid rely fun state => crash state ∧ other state) actor
      (fun result after => post result after ∧ second result after) program state := by
  induction program generalizing state with
  | done result => exact ⟨one, two⟩
  | perform operation next ih =>
    intro later moved choice admitted
    obtain ⟨kept, left⟩ := one later moved choice admitted
    obtain ⟨also, right⟩ := two later moved choice admitted
    exact ⟨⟨kept, also⟩, ih _ left right⟩

theorem Safe.weaken {weak : State → Prop} (implies : ∀ state, crash state → weak state)
    (safe : Safe machine (.amid rely crash) actor post program state) :
    Safe machine (.amid rely weak) actor post program state := by
  induction program generalizing state with
  | done result => exact safe
  | perform operation next ih =>
    intro later moved choice admitted
    obtain ⟨kept, left⟩ := safe later moved choice admitted
    exact ⟨implies later kept, ih _ left⟩

/-- An assertion that the others cannot break and that implies the crash
condition. -/
theorem Preserves.amid {allowed : Op → Prop} {assertion : State → Prop}
    (stable : Stable rely assertion) (implies : ∀ state, assertion state → crash state)
    (step : ∀ operation choice state, allowed operation → assertion state →
      assertion (machine.exec actor choice operation state).2) :
    Preserves machine (.amid rely crash) actor allowed assertion where
  stable := stable
  step operation choice state member holds _ :=
    ⟨implies state holds, step operation choice state member holds⟩

/-- Alone, the program gets to an operation of `target` whatever the admitted choices. -/
def Meets (machine : Machine Op Res State Actor Choice) (actor : Actor) (admits : Choice → Prop)
    (target : Op → Prop) : Program Op Res α → State → Prop
  | .done _, _ => False
  | .perform operation next, state =>
    target operation ∨ ∀ choice, admits choice →
      Meets machine actor admits target (next (machine.exec actor choice operation state).1)
        (machine.exec actor choice operation state).2

section Meets

variable {admits : Choice → Prop} {target : Op → Prop}

theorem Meets.bind {rest : α → Program Op Res β} {crash : Op → State → Prop}
    (safe : Safe machine (.alone admits crash) actor
      (fun result after => Meets machine actor admits target (rest result) after) program state) :
    Meets machine actor admits target (program >>= rest) state := by
  induction program generalizing state with
  | done result => exact safe
  | perform operation next ih =>
    refine .inr fun choice admitted => ?_
    exact ih _ (safe state .refl choice admitted).2

theorem meets_call_bind {operation : Op} {rest : Res operation → Program Op Res β}
    (stepped : ∀ choice, admits choice →
      Meets machine actor admits target (rest (machine.exec actor choice operation state).1)
        (machine.exec actor choice operation state).2) :
    Meets machine actor admits target (Program.call operation >>= rest) state :=
  .inr stepped

theorem Meets.advance (meets : Meets machine actor admits target program state)
    {choices : Nat → Choice} (admitted : ∀ index, admits (choices index)) :
    ∃ count operation,
      (machine.advance actor ((List.range count).map choices) program state).1.pending? =
        some operation ∧ target operation := by
  induction program generalizing state choices with
  | done result => exact meets.elim
  | perform operation next ih =>
    rcases meets with here | later
    · exact ⟨0, operation, rfl, here⟩
    obtain ⟨count, found, pending, hit⟩ :=
      ih _ (later (choices 0) (admitted 0)) fun index => admitted (index + 1)
    refine ⟨count + 1, found, ?_, hit⟩
    rw [List.range_succ_eq_map, List.map_cons, List.map_map]
    exact pending

end Meets

section Recorded

variable [DecidableEq Actor] {history : Recorded Op Res State Actor}

/-- The others move the state and leave the actor's journal alone. -/
def Beside (actor : Actor) (rely : State → State → Prop) (before after : Recorded Op Res State Actor) :
    Prop :=
  rely before.state after.state ∧ after.journals actor = before.journals actor

omit [DecidableEq Actor] in
theorem beside_closure {before after : Recorded Op Res State Actor}
    (moved : Relation.ReflTransGen (Beside actor rely) before after) :
    Relation.ReflTransGen rely before.state after.state := by
  induction moved with
  | refl => exact .refl
  | tail _ last before => exact before.tail last.1

theorem Safe.recorded (safe : Safe machine (.amid rely crash) actor post program history.state) :
    Safe machine.recorded (.amid (Beside actor rely) fun recorded => crash recorded.state) actor
      (fun result after => post result after.state) program history := by
  induction program generalizing history with
  | done result => exact safe
  | perform operation next ih =>
    intro later moved choice _
    obtain ⟨kept, left⟩ := safe later.state (beside_closure moved) choice trivial
    exact ⟨kept, ih _ left⟩

end Recorded

end OpsEngine.Effect
