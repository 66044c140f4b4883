import OpsEngine.Effect.RelyGuarantee

namespace OpsEngine.Effect

/-! # Turns

Programs that run one after another over one state.  A turn stops where its
choices run out, so it may have ended or have been killed at any operation; the
next turn starts on whatever it left.
-/

/-- A program, with the environment's decisions for as far as it gets. -/
structure Turn (Op : Type) (Res : Op → Type) (Choice α : Type) where
  program : Program Op Res α
  choices : List Choice

variable {Op : Type} {Res : Op → Type} {State Actor Choice α β : Type} {program : Program Op Res α}
  {choices : List Choice}

namespace Machine

def turn (machine : Machine Op Res State Actor Choice) (actor : Actor) (state : State)
    (turn : Turn Op Res Choice α) : State :=
  machine.exit actor (machine.advance actor turn.choices turn.program state).2

def turns (machine : Machine Op Res State Actor Choice) (actor : Actor) (state : State)
    (turns : List (Turn Op Res Choice α)) : State :=
  turns.foldl (machine.turn actor) state

/-- Each choice is one that `admits` allows where it is used. -/
def Follows (machine : Machine Op Res State Actor Choice) (actor : Actor)
    (admits : Choice → Op → State → Prop) : List Choice → Program Op Res α → State → Prop
  | choice :: rest, .perform operation next, state =>
    admits choice operation state ∧
      machine.Follows actor admits rest (next (machine.exec actor choice operation state).1)
        (machine.exec actor choice operation state).2
  | _, _, _ => True

theorem follows_of_forall (machine : Machine Op Res State Actor Choice) (actor : Actor)
    {admits : Choice → Op → State → Prop}
    (free : ∀ choice operation state, admits choice operation state) (choices : List Choice)
    (program : Program Op Res α) (state : State) :
    machine.Follows actor admits choices program state := by
  induction choices generalizing program state with
  | nil => cases program <;> trivial
  | cons choice rest ih =>
    cases program with
    | done result => trivial
    | perform operation next => exact ⟨free choice operation state, ih _ _⟩

/-- Every turn follows `admits` from the state it starts in. -/
def Orderly (machine : Machine Op Res State Actor Choice) (actor : Actor)
    (admits : Choice → Op → State → Prop) : State → List (Turn Op Res Choice α) → Prop
  | _, [] => True
  | state, turn :: rest =>
    machine.Follows actor admits turn.choices turn.program state ∧
      machine.Orderly actor admits (machine.turn actor state turn) rest

variable {machine : Machine Op Res State Actor Choice}

theorem Follows.mono {actor : Actor} {strong weak : Choice → Op → State → Prop}
    (implies : ∀ choice operation state, strong choice operation state → weak choice operation state) {state : State}
    (follows : machine.Follows actor strong choices program state) :
    machine.Follows actor weak choices program state := by
  induction choices generalizing program state with
  | nil => cases program <;> trivial
  | cons choice rest ih =>
    cases program with
    | done result => trivial
    | perform operation next => exact ⟨implies _ _ _ follows.1, ih follows.2⟩

theorem Orderly.mono {actor : Actor} {strong weak : Choice → Op → State → Prop}
    (implies : ∀ choice operation state, strong choice operation state → weak choice operation state)
    {turns : List (Turn Op Res Choice α)} {state : State}
    (orderly : machine.Orderly actor strong state turns) :
    machine.Orderly actor weak state turns := by
  induction turns generalizing state with
  | nil => trivial
  | cons turn rest ih => exact ⟨orderly.1.mono implies, ih orderly.2⟩

section Decidable

variable {admits : Choice → Op → State → Prop}
  [∀ choice operation state, Decidable (admits choice operation state)]

instance decidableFollows (machine : Machine Op Res State Actor Choice) (actor : Actor) :
    (choices : List Choice) → (program : Program Op Res α) → (state : State) →
      Decidable (machine.Follows actor admits choices program state)
  | choice :: rest, .perform operation next, state =>
    @instDecidableAnd _ _ inferInstance
      (decidableFollows machine actor rest (next (machine.exec actor choice operation state).1)
        (machine.exec actor choice operation state).2)
  | [], _, _ => isTrue trivial
  | _ :: _, .done _, _ => isTrue trivial

instance decidableOrderly (machine : Machine Op Res State Actor Choice) (actor : Actor) :
    (state : State) → (turns : List (Turn Op Res Choice α)) →
      Decidable (machine.Orderly actor admits state turns)
  | _, [] => isTrue trivial
  | state, turn :: rest =>
    @instDecidableAnd _ _ (decidableFollows machine actor turn.choices turn.program state)
      (decidableOrderly machine actor (machine.turn actor state turn) rest)

end Decidable

end Machine

/-- One actor alone, at whose every step `invariant` is to hold again. -/
def Discipline.holding (machine : Machine Op Res State Actor Choice)
    (admits : Choice → Op → State → Prop) (invariant : State → Prop) :
    Discipline Op State Actor Choice where
  rely _ _ _ := False
  admits _ choice operation state := admits choice operation state
  keeps actor choice operation state := invariant (machine.exec actor choice operation state).2

variable {post : α → State → Prop} {operation : Op}

section Holding

variable {machine : Machine Op Res State Actor Choice} {admits : Choice → Op → State → Prop}
  {invariant : State → Prop} {actor : Actor} {state : State}

theorem stable_holding (assertion : State → Prop) :
    Stable ((Discipline.holding machine admits invariant).rely actor) assertion :=
  fun _ _ impossible => impossible.elim

theorem holding_call_bind {post : β → State → Prop} {rest : Res operation → Program Op Res β}
    (stepped : ∀ choice, admits choice operation state →
      invariant (machine.exec actor choice operation state).2 ∧
      Safe machine (.holding machine admits invariant) actor post
        (rest (machine.exec actor choice operation state).1)
        (machine.exec actor choice operation state).2) :
    Safe machine (.holding machine admits invariant) actor post (Program.call operation >>= rest)
      state := by
  apply safe_call_bind (· = state) (stable_holding _) rfl
  intro before choice same admitted
  subst before
  exact stepped choice admitted

theorem holding_call {post : Res operation → State → Prop}
    (stepped : ∀ choice, admits choice operation state →
      invariant (machine.exec actor choice operation state).2 ∧
      post (machine.exec actor choice operation state).1
        (machine.exec actor choice operation state).2) :
    Safe machine (.holding machine admits invariant) actor post (Program.call operation) state := by
  apply safe_call (· = state) (stable_holding _) rfl
  intro before choice same admitted
  subst before
  exact stepped choice admitted

/-- A turn of a safe program, stopped anywhere, leaves the invariant, and its
postcondition where it has ended. -/
theorem Safe.follows
    (safe : Safe machine (.holding machine admits invariant) actor post program state)
    (holds : invariant state) (follows : machine.Follows actor admits choices program state) :
    invariant (machine.advance actor choices program state).2 ∧
      ∀ result, (machine.advance actor choices program state).1 = .done result →
        post result (machine.advance actor choices program state).2 := by
  induction choices generalizing program state with
  | nil =>
    cases program with
    | done result =>
      refine ⟨holds, fun other ended => ?_⟩
      cases ended
      exact safe
    | perform operation next => exact ⟨holds, fun other ended => by cases ended⟩
  | cons choice choices ih =>
    cases program with
    | done result =>
      refine ⟨holds, fun other ended => ?_⟩
      cases ended
      exact safe
    | perform operation next =>
      obtain ⟨kept, rest⟩ := safe state .refl choice follows.1
      exact ih rest kept follows.2

variable {turns : List (Turn Op Res Choice α)}

/-- The run lemma: an invariant that every turn keeps holds after every orderly
sequence of turns. -/
theorem invariant_turns (Started : Program Op Res α → Prop)
    (exits : ∀ state, invariant state → invariant (machine.exit actor state))
    (safe : ∀ program state, Started program → invariant state →
      Safe machine (.holding machine admits invariant) actor (fun _ after => invariant after)
        program state) (started : ∀ turn ∈ turns, Started turn.program)
    (orderly : machine.Orderly actor admits state turns) (holds : invariant state) :
    invariant (machine.turns actor state turns) := by
  induction turns generalizing state with
  | nil => exact holds
  | cons turn turns ih =>
    have begins := safe turn.program state (started turn (by simp)) holds
    have left := (begins.follows holds orderly.1).1
    exact ih (fun other member => started other (by simp [member])) orderly.2 (exits _ left)

end Holding

/-- As `holding`, where besides `check` is owed of every operation in the state it
is about to be performed in. -/
def Discipline.watching (machine : Machine Op Res State Actor Choice)
    (admits : Choice → Op → State → Prop) (check : Op → State → Prop) (invariant : State → Prop) :
    Discipline Op State Actor Choice where
  rely _ _ _ := False
  admits _ choice operation state := admits choice operation state
  keeps actor choice operation state :=
    check operation state ∧ invariant (machine.exec actor choice operation state).2

section Watching

variable {machine : Machine Op Res State Actor Choice} {admits : Choice → Op → State → Prop}
  {check : Op → State → Prop} {invariant : State → Prop} {actor : Actor} {state : State}

theorem watching_call {post : Res operation → State → Prop} (checked : check operation state)
    (stepped : ∀ choice, admits choice operation state →
      invariant (machine.exec actor choice operation state).2 ∧
      post (machine.exec actor choice operation state).1
        (machine.exec actor choice operation state).2) :
    Safe machine (.watching machine admits check invariant) actor post (Program.call operation)
      state := by
  have stable : Stable ((Discipline.watching machine admits check invariant).rely actor) (· = state) :=
    fun _ _ impossible => impossible.elim
  apply safe_call (· = state) stable rfl
  intro before choice same admitted
  subst before
  obtain ⟨kept, safe⟩ := stepped choice admitted
  exact ⟨⟨checked, kept⟩, safe⟩

theorem Safe.watched
    (safe : Safe machine (.watching machine admits check invariant) actor post program state) :
    Safe machine (.holding machine admits invariant) actor post program state := by
  induction program generalizing state with
  | done result => exact safe
  | perform operation next ih =>
    intro later moved choice admitted
    have same : later = state := by
      rcases Relation.ReflTransGen.cases_head moved with equal | ⟨_, impossible, _⟩
      · exact equal.symm
      · exact impossible.elim
    subst same
    obtain ⟨⟨_, kept⟩, rest⟩ := safe later .refl choice admitted
    exact ⟨kept, ih _ rest⟩

theorem Safe.pending
    (safe : Safe machine (.watching machine admits check invariant) actor post program state)
    (follows : machine.Follows actor admits choices program state)
    (possible : ∀ operation state, ∃ choice, admits choice operation state)
    (next : (machine.advance actor choices program state).1.pending? = some operation) :
    check operation (machine.advance actor choices program state).2 := by
  induction choices generalizing program state with
  | nil =>
    cases program with
    | done result => contradiction
    | perform first rest =>
      cases Option.some.inj next
      obtain ⟨choice, admitted⟩ := possible operation state
      exact (safe state .refl choice admitted).1.1
  | cons choice choices ih =>
    cases program with
    | done result => contradiction
    | perform first rest =>
      obtain ⟨_, safeRest⟩ := safe state .refl choice follows.1
      exact ih safeRest follows.2 next

end Watching

end OpsEngine.Effect
