import Mathlib.Logic.Relation
import OpsEngine.Effect.Machine

namespace OpsEngine.Effect

open Function

open Relation (ReflTransGen)

/-! # Rely-guarantee reasoning for programs

`Safe` follows one actor through its program.  The others may move the state along
`rely` between any two of the actor's operations; the actor owes `keeps` at each
operation it performs; only steps that satisfy `admits` are considered, which is how
a condition on runs enters.  With an empty `rely` this is a Hoare logic with a crash
condition.
-/

structure Discipline (Op State Actor Choice : Type) where
  rely : Actor → State → State → Prop
  admits : Actor → Choice → Op → State → Prop
  keeps : Actor → Choice → Op → State → Prop

variable {Op : Type} {Res : Op → Type} {State Actor Choice α β : Type}

def Safe (machine : Machine Op Res State Actor Choice)
    (discipline : Discipline Op State Actor Choice) (actor : Actor)
    (post : α → State → Prop) : Program Op Res α → State → Prop
  | .done result, state => post result state
  | .perform operation next, state =>
    ∀ later, ReflTransGen (discipline.rely actor) state later →
      ∀ choice, discipline.admits actor choice operation later →
        discipline.keeps actor choice operation later ∧
        Safe machine discipline actor post
          (next (machine.exec actor choice operation later).1)
          (machine.exec actor choice operation later).2

/-- An assertion the interference of the others cannot break. -/
def Stable (rely : State → State → Prop) (assertion : State → Prop) : Prop :=
  ∀ before after, rely before after → assertion before → assertion after

variable {rely : State → State → Prop} {after : State} {assertion : State → Prop}

theorem Stable.closure (stable : Stable rely assertion) {before : State}
    (moved : ReflTransGen rely before after) (holds : assertion before) : assertion after := by
  induction moved with
  | refl => exact holds
  | tail _ last ih => exact stable _ _ last ih

theorem Stable.and {first second : State → Prop}
    (one : Stable rely first) (two : Stable rely second) :
    Stable rely (fun state => first state ∧ second state) :=
  fun before after moved holds => ⟨one before after moved holds.1, two before after moved holds.2⟩

/-- A postcondition for a fallible program, by its two ways to end. -/
def Outcomes {ε : Type} (good : α → State → Prop) (bad : ε → State → Prop) :
    Except ε α → State → Prop
  | .ok result, state => good result state
  | .error error, state => bad error state

variable {results : α → Prop} {program : Program Op Res α} {choices : List Choice}

section Rules

variable {machine : Machine Op Res State Actor Choice}
  {discipline : Discipline Op State Actor Choice} {actor : Actor} {program : Program Op Res α}
  {state : State} {post : α → State → Prop} {operation : Op} {allowed : Op → Prop}
  {assertion : State → Prop}

theorem Safe.mono {weak strong : α → State → Prop}
    (implies : ∀ result state, strong result state → weak result state) {state : State}
    (safe : Safe machine discipline actor strong program state) :
    Safe machine discipline actor weak program state := by
  induction program generalizing state with
  | done result => exact implies result state safe
  | perform operation next ih =>
    intro later moved choice admitted
    obtain ⟨kept, rest⟩ := safe later moved choice admitted
    exact ⟨kept, ih _ rest⟩

theorem Safe.outcomes {ε : Type} {program : Program Op Res (Except ε α)}
    (safe : Safe machine discipline actor (fun _ => assertion) program state) :
    Safe machine discipline actor (Outcomes (fun _ => assertion) fun _ => assertion) program state :=
  safe.mono fun result _ holds => by cases result <;> exact holds

/-- What a program returns whatever the answers are, it also returns here. -/
theorem Safe.returns (safe : Safe machine discipline actor post program state)
    (returns : program.Returns results) :
    Safe machine discipline actor (fun result after => post result after ∧ results result)
      program state := by
  induction program generalizing state with
  | done result => exact ⟨safe, returns⟩
  | perform operation next ih =>
    intro later moved choice admitted
    obtain ⟨kept, rest⟩ := safe later moved choice admitted
    exact ⟨kept, ih _ rest (returns _)⟩

variable {rest : α → Program Op Res β}

theorem Safe.bind {post : β → State → Prop} (safe : Safe machine discipline actor
      (fun result after => Safe machine discipline actor post (rest result) after) program state) :
    Safe machine discipline actor post (program >>= rest) state := by
  induction program generalizing state with
  | done result => exact safe
  | perform operation next ih =>
    intro later moved choice admitted
    obtain ⟨kept, tail⟩ := safe later moved choice admitted
    exact ⟨kept, ih _ tail⟩

/-- The rule of sequence: what the first program leaves is what the rest starts from. -/
theorem Safe.seq {middle : α → State → Prop} {post : β → State → Prop}
    (safe : Safe machine discipline actor middle program state)
    (continues : ∀ result after, middle result after →
      Safe machine discipline actor post (rest result) after) :
    Safe machine discipline actor post (program >>= rest) state :=
  Safe.bind (Safe.mono continues safe)

/-- The program returns `value` and leaves the state. -/
abbrev Answers (machine : Machine Op Res State Actor Choice)
    (discipline : Discipline Op State Actor Choice) (actor : Actor) (program : Program Op Res α)
    (value : α) (state : State) : Prop :=
  Safe machine discipline actor (fun result after => result = value ∧ state = after) program state

theorem Answers.bind {post : β → State → Prop} {value : α}
    (answers : Answers machine discipline actor program value state)
    (continues : Safe machine discipline actor post (rest value) state) :
    Safe machine discipline actor post (program >>= rest) state := by
  apply answers.seq
  rintro _ _ ⟨rfl, rfl⟩
  exact continues

/-- The same for a fallible program, by how it ended. -/
theorem Safe.attempt {ε : Type} {middle : Except ε α → State → Prop} {post : β → State → Prop}
    {program : Program Op Res (Except ε α)} {rest : Except ε α → Program Op Res β}
    (safe : Safe machine discipline actor middle program state)
    (failed : ∀ error after, middle (.error error) after →
      Safe machine discipline actor post (rest (.error error)) after)
    (passed : ∀ value after, middle (.ok value) after →
      Safe machine discipline actor post (rest (.ok value)) after) :
    Safe machine discipline actor post (program >>= rest) state := by
  apply safe.seq
  intro answer after outcome
  cases answer with
  | error error => exact failed error after outcome
  | ok value => exact passed value after outcome

theorem Safe.andThen {ε : Type} {post : Except ε β → State → Prop}
    {program : Program Op Res (Except ε α)} {next : α → Program Op Res (Except ε β)}
    (safe : Safe machine discipline actor (Outcomes
      (fun value after => Safe machine discipline actor post (next value) after)
      (fun error after => post (.error error) after)) program state) :
    Safe machine discipline actor post (program.andThen next) state :=
  safe.attempt (fun _ _ outcome => outcome) fun _ _ outcome => outcome

variable {next : Res operation → Program Op Res α}

/-- A program that still has operations to perform tolerates interference. -/
theorem Safe.interfered {before : State}
    (safe : Safe machine discipline actor post (.perform operation next) before)
    (moved : discipline.rely actor before after) :
    Safe machine discipline actor post (.perform operation next) after :=
  fun later further => safe later (ReflTransGen.head moved further)

theorem safe_perform (assertion : State → Prop)
    (stable : Stable (discipline.rely actor) assertion) (holds : assertion state)
    (stepped : ∀ before choice, assertion before → discipline.admits actor choice operation before →
      discipline.keeps actor choice operation before ∧ Safe machine discipline actor post
        (next (machine.exec actor choice operation before).1)
        (machine.exec actor choice operation before).2) :
    Safe machine discipline actor post (.perform operation next) state :=
  fun later moved choice admitted =>
    stepped later choice (stable.closure moved holds) admitted

variable {rest : Res operation → Program Op Res β}

theorem safe_call_bind {post : β → State → Prop} (assertion : State → Prop)
    (stable : Stable (discipline.rely actor) assertion) (holds : assertion state)
    (stepped : ∀ before choice, assertion before → discipline.admits actor choice operation before →
      discipline.keeps actor choice operation before ∧ Safe machine discipline actor post
        (rest (machine.exec actor choice operation before).1)
        (machine.exec actor choice operation before).2) :
    Safe machine discipline actor post (Program.call operation >>= rest) state :=
  safe_perform assertion stable holds stepped

theorem safe_call {post : Res operation → State → Prop}
    (assertion : State → Prop) (stable : Stable (discipline.rely actor) assertion)
    (holds : assertion state)
    (stepped : ∀ before choice, assertion before → discipline.admits actor choice operation before →
      discipline.keeps actor choice operation before ∧
      post (machine.exec actor choice operation before).1
        (machine.exec actor choice operation before).2) :
    Safe machine discipline actor post (Program.call operation) state :=
  safe_perform assertion stable holds stepped

/-- An assertion that every operation of a program keeps survives the program. -/
theorem Safe.of_every (stable : Stable (discipline.rely actor) assertion)
    (kept : ∀ operation choice state, allowed operation → assertion state →
      discipline.admits actor choice operation state →
      discipline.keeps actor choice operation state ∧
      assertion (machine.exec actor choice operation state).2) (every : program.Every allowed)
    (holds : assertion state) :
    Safe machine discipline actor (fun _ after => assertion after) program state := by
  induction program generalizing state with
  | done result => exact holds
  | perform operation next ih =>
    refine safe_perform assertion stable holds fun before choice asserted admitted => ?_
    obtain ⟨keeps, after⟩ := kept operation choice before every.1 asserted admitted
    exact ⟨keeps, ih _ (every.2 _) after⟩

/-- Where nothing is owed, any program will do. -/
theorem safe_of_keeps (kept : ∀ choice operation state, discipline.keeps actor choice operation state)
    (program : Program Op Res α) (state : State) :
    Safe machine discipline actor (fun _ _ => True) program state := by
  induction program generalizing state with
  | done result => trivial
  | perform operation next ih => exact fun now _ choice _ => ⟨kept choice operation now, ih _ _⟩

/-- Operations that keep an assertion no interference can break. -/
structure Preserves (machine : Machine Op Res State Actor Choice)
    (discipline : Discipline Op State Actor Choice) (actor : Actor) (allowed : Op → Prop)
    (assertion : State → Prop) : Prop where
  stable : Stable (discipline.rely actor) assertion
  step : ∀ operation choice state, allowed operation → assertion state →
    discipline.admits actor choice operation state →
    discipline.keeps actor choice operation state ∧
      assertion (machine.exec actor choice operation state).2

theorem Preserves.mono {small large : Op → Prop}
    (preserves : Preserves machine discipline actor large assertion)
    (implies : ∀ operation, small operation → large operation) :
    Preserves machine discipline actor small assertion :=
  ⟨preserves.stable, fun operation choice state allowed =>
    preserves.step operation choice state (implies operation allowed)⟩

section

variable (preserves : Preserves machine discipline actor allowed assertion)
include preserves

theorem Preserves.safe (every : program.Every allowed) (holds : assertion state) :
    Safe machine discipline actor (fun _ after => assertion after) program state :=
  Safe.of_every preserves.stable preserves.step every holds

theorem Preserves.call_bind
    {post : β → State → Prop} (member : allowed operation) (holds : assertion state)
    (continues : ∀ answer after, assertion after →
      Safe machine discipline actor post (rest answer) after) :
    Safe machine discipline actor post (Program.call operation >>= rest) state := by
  apply safe_call_bind assertion preserves.stable holds
  intro before choice asserted admitted
  obtain ⟨kept, after⟩ := preserves.step operation choice before member asserted admitted
  exact ⟨kept, continues _ _ after⟩

/-- As `call_bind`, when what follows depends on the state the operation was
performed in. -/
theorem Preserves.step_bind
    {post : β → State → Prop} (member : allowed operation) (holds : assertion state)
    (continues : ∀ before choice, assertion before →
      discipline.admits actor choice operation before →
      Safe machine discipline actor post (rest (machine.exec actor choice operation before).1)
        (machine.exec actor choice operation before).2) :
    Safe machine discipline actor post (Program.call operation >>= rest) state := by
  apply safe_call_bind assertion preserves.stable holds
  intro before choice asserted admitted
  obtain ⟨kept, _⟩ := preserves.step operation choice before member asserted admitted
  exact ⟨kept, continues before choice asserted admitted⟩

end

/-- Alone and uninterrupted, a safe program ends in its postcondition. -/
theorem Safe.solo (safe : Safe machine discipline actor post program state) {choices : Nat → Choice}
    (admitted : ∀ index operation before,
      discipline.admits actor (choices index) operation before) :
    post (machine.solo actor choices program state).1
      (machine.solo actor choices program state).2 := by
  induction program generalizing state choices with
  | done result => exact safe
  | perform operation next ih =>
    obtain ⟨_, rest⟩ := safe state .refl (choices 0) (admitted 0 operation state)
    exact ih _ rest fun index => admitted (index + 1)

/-- Alone and stopped after any number of operations, what is left of a safe
program is safe in the state it was stopped in. -/
theorem Safe.advance (safe : Safe machine discipline actor post program state)
    (admitted : ∀ choice ∈ choices, ∀ operation before,
      discipline.admits actor choice operation before) :
    Safe machine discipline actor post (machine.advance actor choices program state).1
      (machine.advance actor choices program state).2 := by
  induction choices generalizing program state with
  | nil => cases program <;> exact safe
  | cons choice choices ih =>
    cases program with
    | done result => exact safe
    | perform operation next =>
      obtain ⟨_, rest⟩ := safe state .refl choice (admitted choice (by simp) operation state)
      exact ih rest fun other member => admitted other (by simp [member])

end Rules

/-- Each actor's steps, and the end of each process, are interference the
other actors rely on. -/
structure Discipline.Sound (discipline : Discipline Op State Actor Choice)
    (machine : Machine Op Res State Actor Choice) : Prop where
  step : ∀ actor other choice operation state, actor ≠ other →
    discipline.admits actor choice operation state →
    discipline.keeps actor choice operation state →
    discipline.rely other state (machine.exec actor choice operation state).2
  exit : ∀ actor other state, actor ≠ other →
    discipline.rely other state (machine.exit actor state)

/-- The discipline in which every actor guarantees `guarantee` at each of its
steps and relies on the others' guarantees. -/
def Discipline.guaranteed (machine : Machine Op Res State Actor Choice)
    (admits : Actor → Choice → Op → State → Prop) (guarantee : Actor → State → State → Prop) :
    Discipline Op State Actor Choice where
  rely actor before after := ∃ other, other ≠ actor ∧ guarantee other before after
  admits := admits
  keeps actor choice operation state :=
    guarantee actor state (machine.exec actor choice operation state).2

variable {operation : Op}

section Guaranteed

variable {machine : Machine Op Res State Actor Choice}
  {admits : Actor → Choice → Op → State → Prop} {guarantee : Actor → State → State → Prop}

theorem Discipline.guaranteed_sound
    (exits : ∀ actor state, guarantee actor state (machine.exit actor state)) :
    (Discipline.guaranteed machine admits guarantee).Sound machine where
  step actor _ _ _ _ distinct _ kept := ⟨actor, distinct, kept⟩
  exit actor _ state distinct := ⟨actor, distinct, exits actor state⟩

theorem guaranteed_keeps {actor : Actor} {choice : Choice}
    {state : State} {answer : Res operation}
    (answered : machine.exec actor choice operation state = (answer, after))
    (guaranteed : guarantee actor state after) :
    (Discipline.guaranteed machine admits guarantee).keeps actor choice operation state := by
  show guarantee actor state (machine.exec actor choice operation state).2
  rw [answered]
  exact guaranteed

theorem stable_of_guarantee {actor : Actor}
    (kept : ∀ other before after, other ≠ actor → guarantee other before after →
      assertion before → assertion after) :
    Stable ((Discipline.guaranteed machine admits guarantee).rely actor) assertion :=
  fun before after moved holds =>
    let ⟨other, distinct, guaranteed⟩ := moved
    kept other before after distinct guaranteed holds

theorem stable_true (rely : State → State → Prop) : Stable rely fun _ => True :=
  fun _ _ _ _ => trivial

end Guaranteed

/-- One actor alone.  `crash` is what holds whenever it is about to perform an
operation, and so wherever it can be killed. -/
def Discipline.alone (admits : Choice → Prop) (crash : Op → State → Prop) :
    Discipline Op State Actor Choice where
  rely _ _ _ := False
  admits _ choice _ _ := admits choice
  keeps _ _ operation state := crash operation state

section Alone

variable {machine : Machine Op Res State Actor Choice} {admits : Choice → Prop}
  {crash : Op → State → Prop} {actor : Actor} {state : State}

theorem stable_alone (assertion : State → Prop) :
    Stable
    ((Discipline.alone admits crash : Discipline Op State Actor Choice).rely actor) assertion :=
  fun _ _ impossible => impossible.elim

variable {post : β → State → Prop}

theorem alone_call_bind {rest : Res operation → Program Op Res β} (crashed : crash operation state)
    (stepped : ∀ choice, admits choice → Safe machine (.alone admits crash) actor post
        (rest (machine.exec actor choice operation state).1)
        (machine.exec actor choice operation state).2) :
    Safe machine (.alone admits crash) actor post (Program.call operation >>= rest) state := by
  apply safe_call_bind (· = state) (stable_alone _) rfl
  rintro _ choice rfl admitted
  exact ⟨crashed, stepped choice admitted⟩

theorem alone_call {post : Res operation → State → Prop} (crashed : crash operation state)
    (stepped : ∀ choice, admits choice → post (machine.exec actor choice operation state).1
        (machine.exec actor choice operation state).2) :
    Safe machine (.alone admits crash) actor post (Program.call operation) state := by
  apply safe_call (· = state) (stable_alone _) rfl
  rintro _ choice rfl admitted
  exact ⟨crashed, stepped choice admitted⟩

section Exec

variable {operation : Op} {answer : Res operation} {after : State}
  (crashed : crash operation state)
  (execs : ∀ {choice}, admits choice → machine.exec actor choice operation state = (answer, after))

include crashed execs

/-- A call of which the discipline leaves one outcome. -/
theorem alone_exec {post : Res operation → State → Prop} (done : post answer after) :
    Safe machine (.alone admits crash) actor post (Program.call operation) state := by
  apply alone_call crashed
  intro choice admitted
  rw [execs admitted]
  exact done

theorem alone_exec_bind {rest : Res operation → Program Op Res β}
    (continues : Safe machine (.alone admits crash) actor post (rest answer) after) :
    Safe machine (.alone admits crash) actor post (Program.call operation >>= rest) state := by
  apply alone_call_bind crashed
  intro choice admitted
  rw [execs admitted]
  exact continues

end Exec

variable {program : Program Op Res α}

theorem Safe.and_alone {other : Op → State → Prop} {first second : α → State → Prop}
    (one : Safe machine (.alone admits crash) actor first program state)
    (two : Safe machine (.alone admits other) actor second program state) :
    Safe machine (.alone admits crash) actor (fun result after => first result after ∧
      second result after) program state := by
  induction program generalizing state with
  | done result => exact ⟨one, two⟩
  | perform operation next ih =>
    intro later moved choice admitted
    cases moved with
    | refl =>
      obtain ⟨kept, rest⟩ := one state .refl choice admitted
      exact ⟨kept, ih _ rest (two state .refl choice admitted).2⟩
    | tail _ impossible => exact impossible.elim

variable {post : α → State → Prop}

/-- Where a safe program is stopped, it is either at its end or its crash
condition holds for the operation it was about to perform. -/
theorem Safe.stopped (safe : Safe machine (.alone admits crash) actor post program state)
    (admitted : ∀ choice ∈ choices, admits choice) (some : ∃ choice, admits choice) :
    match (machine.advance actor choices program state).1 with
    | .done result => post result (machine.advance actor choices program state).2
    | .perform operation _ => crash operation (machine.advance actor choices program state).2 := by
  have rest : Safe machine (.alone admits crash) actor post
      (machine.advance actor choices program state).1
      (machine.advance actor choices program state).2 :=
    safe.advance fun choice member _ _ => admitted choice member
  obtain ⟨choice, allowed⟩ := some
  split
  · rename_i result ended
    rw [ended] at rest
    exact rest
  · rename_i operation next ended
    rw [ended] at rest
    exact (rest _ .refl choice allowed).1

end Alone

namespace Pool

variable [DecidableEq Actor] {machine : Machine Op Res State Actor Choice}
  {discipline : Discipline Op State Actor Choice} {post : Actor → α → State → Prop}

/-- Every actor that still runs is safe in the shared state. -/
def Running (machine : Machine Op Res State Actor Choice)
    (discipline : Discipline Op State Actor Choice) (post : Actor → α → State → Prop)
    (pool : Pool Op Res State Actor α) : Prop :=
  ∀ actor operation next, pool.threads actor = some (.perform operation next) →
    Safe machine discipline actor (post actor) (.perform operation next) pool.state

variable {pool : Pool Op Res State Actor α} {events : List (Event Actor Choice)} {actor : Actor}
  {choice : Choice} {event : Event Actor Choice}

section

variable (sound : discipline.Sound machine) (running : pool.Running machine discipline post)
include sound running

/-- An event is a step of the actor in question, which is safe there and then, or leaves
its thread and moves the state at most as it relies on. -/
theorem step_thread (admitted : pool.Allows discipline.admits event) {thread : Program Op Res α}
    (found : (pool.step machine event).threads actor = some thread) :
    Safe machine discipline actor (post actor) thread (pool.step machine event).state ∨
      pool.threads actor = some thread ∧ ((pool.step machine event).state = pool.state ∨
        discipline.rely actor pool.state (pool.step machine event).state) := by
  rcases step_cases machine pool event with
    ⟨other, choice, operation, next, rfl, stepping⟩ | same | ⟨other, rfl⟩
  · have allowed := admitted.perform stepping
    obtain ⟨kept, rest⟩ := running other operation next stepping pool.state .refl choice allowed
    rw [step_of_perform stepping] at found ⊢
    by_cases same : actor = other
    · subst same
      simp only [update_self, Option.some.injEq] at found
      exact .inl (found ▸ rest)
    · simp only [update_of_ne same] at found
      exact .inr ⟨found, .inr (sound.step other actor choice operation pool.state (Ne.symm same)
        allowed kept)⟩
  · rw [same] at found ⊢
    exact .inr ⟨found, .inl rfl⟩
  · by_cases same : actor = other
    · subst same
      simp [step] at found
    · simp only [step, update_of_ne same] at found
      exact .inr ⟨found, .inr (sound.exit other actor pool.state (Ne.symm same))⟩

/-- The step lemma: one event keeps every running actor safe. -/
theorem running_step (admitted : pool.Allows discipline.admits event) :
    (pool.step machine event).Running machine discipline post := by
  intro actor operation next found
  rcases step_thread sound running admitted found with safe | ⟨before, same | moved⟩
  · exact safe
  · rw [same]
    exact running actor operation next before
  · exact (running actor operation next before).interfered moved

/-- The run lemma: running actors stay safe along every admitted schedule. -/
theorem running_run (respects : pool.Respects machine discipline.admits events) :
    (pool.run machine events).Running machine discipline post := by
  induction events generalizing pool with
  | nil => exact running
  | cons event events ih =>
    exact ih (running_step sound running respects.1) respects.2

end

omit [DecidableEq Actor] in
/-- An actor owes its obligation at the operation it is about to perform. -/
theorem kept_pending (running : pool.Running machine discipline post)
    (found : pool.pending actor = some operation)
    (admitted : discipline.admits actor choice operation pool.state) :
    discipline.keeps actor choice operation pool.state := by
  obtain ⟨next, thread⟩ := threads_of_pending found
  exact (running actor _ _ thread pool.state .refl choice admitted).1

/-- The actor that takes a step and returns meets its postcondition there and
then. -/
theorem returned_outcome (running : pool.Running machine discipline post)
    (admitted : pool.Allows discipline.admits (.step actor choice))
    (pending : pool.outcome actor = none) {result : α}
    (returned : (pool.step machine (.step actor choice)).outcome actor = some result) :
    post actor result (pool.step machine (.step actor choice)).state := by
  rcases step_cases machine pool (.step actor choice) with
    ⟨_, _, operation, next, same, found⟩ | same | ⟨_, impossible⟩
  · cases same
    obtain ⟨_, rest⟩ :=
      running actor operation next found pool.state .refl choice (admitted.perform found)
    have ended := threads_of_outcome returned
    rw [step_of_perform found] at ended ⊢
    simp only [update_self, Option.some.injEq] at ended
    rw [ended] at rest
    exact rest
  · rw [same, pending] at returned
    contradiction
  · contradiction

/-- What an actor returned with stays true when the others cannot break it. -/
def Settled (post : Actor → α → State → Prop) (pool : Pool Op Res State Actor α) : Prop :=
  ∀ actor result, pool.threads actor = some (.done result) → post actor result pool.state

omit [DecidableEq Actor] in
theorem safe_start (safe : ∀ actor program, pool.threads actor = some program →
      Safe machine discipline actor (post actor) program pool.state) :
    pool.Running machine discipline post ∧ pool.Settled post :=
  ⟨fun actor _ _ found => safe actor _ found, fun actor _ found => safe actor _ found⟩

section

variable (sound : discipline.Sound machine)
  (stable : ∀ actor result, Stable (discipline.rely actor) (post actor result))
  (running : pool.Running machine discipline post) (settled : pool.Settled post)
include sound stable running settled

theorem settled_step (admitted : pool.Allows discipline.admits event) :
    (pool.step machine event).Settled post := by
  intro actor result found
  rcases step_thread sound running admitted found with holds | ⟨before, same | moved⟩
  · exact holds
  · rw [same]
    exact settled actor result before
  · exact stable actor result _ _ moved (settled actor result before)

theorem settled_run (respects : pool.Respects machine discipline.admits events) :
    (pool.run machine events).Settled post := by
  induction events generalizing pool with
  | nil => exact settled
  | cons event events ih =>
    exact ih (running_step sound running respects.1)
      (settled_step sound stable running settled respects.1) respects.2

end

theorem respects_of_forall {admits : Actor → Choice → Op → State → Prop}
    (allowed : ∀ event ∈ events, ∀ pool : Pool Op Res State Actor α, pool.Allows admits event)
    (pool : Pool Op Res State Actor α) : pool.Respects machine admits events := by
  induction events generalizing pool with
  | nil => trivial
  | cons event events ih =>
    refine ⟨allowed event (by simp) pool, ih (fun other member => ?_) _⟩
    exact allowed other (by simp [member])

/-- A running actor can be brought to its end by steps of its own alone. -/
theorem exists_finish (machine : Machine Op Res State Actor Choice)
    (found : pool.threads actor = some program)
    (returns : program.Returns results) (choice : Choice) :
    ∃ count result,
      (pool.run machine (List.replicate count (.step actor choice))).threads actor =
        some (.done result) ∧ results result ∧ ∀ other, other ≠ actor →
        (pool.run machine (List.replicate count (.step actor choice))).threads other =
          pool.threads other := by
  induction program generalizing pool with
  | done result => exact ⟨0, result, found, returns, fun _ _ => rfl⟩
  | perform operation next ih =>
    have stepped : (pool.step machine (.step actor choice)).threads = update pool.threads actor
          (some (next (machine.exec actor choice operation pool.state).1)) := by
      rw [step_of_perform found]
    have continues : (pool.step machine (.step actor choice)).threads actor =
        some (next (machine.exec actor choice operation pool.state).1) := by
      rw [stepped, update_self]
    obtain ⟨count, result, ended, holds, others⟩ := ih _ continues (returns _)
    refine ⟨count + 1, result, ended, holds, fun other distinct => ?_⟩
    rw [List.replicate_succ, run_cons, others other distinct, stepped,
      update_of_ne distinct]

/-- A running actor can be brought to its end with everyone else still safe,
if some choice is always admitted. -/
theorem exists_settled (sound : discipline.Sound machine)
    (stable : ∀ actor result, Stable (discipline.rely actor) (post actor result))
    (running : pool.Running machine discipline post)
    (settled : pool.Settled post) (found : pool.threads actor = some program)
    (returns : program.Returns results)
    (always : ∀ operation state, discipline.admits actor choice operation state) :
    ∃ later : Pool Op Res State Actor α,
      later.Running machine discipline post ∧ later.Settled post ∧
      (∃ result, later.threads actor = some (.done result) ∧ results result) ∧
      ∀ other, other ≠ actor → later.threads other = pool.threads other := by
  obtain ⟨count, result, ended, holds, others⟩ := exists_finish machine found returns choice
  have respects : pool.Respects machine discipline.admits
      (List.replicate count (.step actor choice)) := by
    apply respects_of_forall
    intro event member pool
    rw [List.eq_of_mem_replicate member]
    exact fun operation _ => always operation pool.state
  exact ⟨_, running_run sound running respects, settled_run sound stable running settled respects,
    ⟨result, ended, holds⟩, others⟩

/-- An invariant that every kept step and every process exit preserves holds
after every admitted schedule. -/
theorem invariant_run (sound : discipline.Sound machine) {invariant : State → Prop}
    (steps : ∀ actor choice operation state, discipline.admits actor choice operation state →
      discipline.keeps actor choice operation state → invariant state →
      invariant (machine.exec actor choice operation state).2)
    (exits : ∀ actor state, invariant state → invariant (machine.exit actor state))
    (running : pool.Running machine discipline post)
    (respects : pool.Respects machine discipline.admits events) (holds : invariant pool.state) :
    invariant (pool.run machine events).state := by
  induction events generalizing pool with
  | nil => exact holds
  | cons event events ih =>
    refine ih (running_step sound running respects.1) respects.2 ?_
    rcases step_cases machine pool event with
      ⟨actor, choice, operation, next, rfl, found⟩ | same | ⟨actor, rfl⟩
    · have allowed := respects.1.perform found
      obtain ⟨kept, _⟩ := running actor operation next found pool.state .refl choice allowed
      rw [step_of_perform found]
      exact steps actor choice operation pool.state allowed kept holds
    · rw [same]
      exact holds
    · exact exits actor pool.state holds

end Pool

end OpsEngine.Effect
