import OpsEngine.Ingress.Activation

namespace OpsEngine.Ingress

open Effect Files Function

/-! # What a transition can leave

A transition is three loops over lists: the renames, their reversal and the
cleanup.  Each loop is followed over the list, and what it can leave is told by
the steps it took.
-/

section Loops

variable {Step Shape : Type} {effect : Shape → Step → Shape} {faulty : Prop}

/-- Some of the steps in their order; one is left out only where a call can
fail, and the rest after any point. -/
inductive Partly (faulty : Prop) (effect : Shape → Step → Shape) : List Step → Shape → Shape → Prop where
  | stop (steps : List Step) (shape : Shape) : Partly faulty effect steps shape shape
  | take {step : Step} {rest : List Step} {shape final : Shape}
      (later : Partly faulty effect rest (effect shape step) final) :
      Partly faulty effect (step :: rest) shape final
  | skip {step : Step} {rest : List Step} {shape final : Shape} (fault : faulty)
      (later : Partly faulty effect rest shape final) :
      Partly faulty effect (step :: rest) shape final

theorem Partly.whole (steps : List Step) (shape : Shape) :
    Partly faulty effect steps shape (steps.foldl effect shape) := by
  induction steps generalizing shape with
  | nil => exact .stop [] shape
  | cons step rest ih => exact .take (ih (effect shape step))

end Loops

variable {Index : Type} [DecidableEq Index]

/-- A file moves to another place in its group; nothing happens where there is
none. -/
def Shape.shift (shape : Shape Index) (move : Index × Index) : Shape Index :=
  if (shape move.1).isSome = true
  then Function.update (Function.update shape move.1 none) move.2 (shape move.1) else shape

def Shape.drop (shape : Shape Index) (index : Index) : Shape Index := Function.update shape index none

section Contract

variable {paths : Index → FilePath} {before after : Routes} {shape : Shape Index} {admits : Admits}
  {invariant : HostState → Prop} {servers : Servers}

def renameOf (paths : Index → FilePath) (move : Index × Index) : Rename :=
  ⟨paths move.1, paths move.2⟩

def back (move : Index × Index) : Index × Index := (move.2, move.1)

variable {shape : Shape Index}

theorem Shape.shift_back {move : Index × Index} {index : Index}
    (present : (shape move.1).isSome = true) (spared : index = move.2 → shape move.2 = none) :
    (shape.shift move).shift (back move) index = shape index := by
  have there : shape.shift move =
      update (update shape move.1 none) move.2 (shape move.1) := if_pos present
  have found : shape.shift move move.2 = shape move.1 := by rw [there, update_self]
  have again : (shape.shift move).shift (back move) =
      update (update (shape.shift move) move.2 none) move.1
        (shape.shift move move.2) := if_pos (by rw [back, found]; exact present)
  rw [again]
  by_cases first : index = move.1
  · rw [first, update_self, found]
  rw [update_of_ne first]
  by_cases second : index = move.2
  · rw [second, update_self, spared second]
  · rw [update_of_ne second, there, update_of_ne second, update_of_ne first]

section Group

variable (group : FileGroup paths before after shape) (injective : Function.Injective paths)
include group injective

theorem FileGroup.holding_shift (move : Index × Index)
    {post : Except IoError Unit → HostState → Prop} (here : invariant ⟨after, servers⟩)
    (failed : ∀ error, (Calm admits → shape move.1 = none) → post (.error error) ⟨after, servers⟩)
    (moved : ∀ later, (shape move.1).isSome = true → FileGroup paths before later (shape.shift move) →
      invariant ⟨later, servers⟩ ∧ post (.ok ()) ⟨later, servers⟩) :
    SafeOn serve admits invariant () post (rename (paths move.1) (paths move.2))
      ⟨after, servers⟩ := by
  apply group.holding_rename injective move.1 move.2 here failed
  intro later present grouped
  apply moved later present
  rw [Shape.shift, if_pos present]
  exact grouped

/-- What the renames left: all of them were done, or some from the first on. -/
def AppliedPost (admits : Admits) (paths : Index → FilePath) (before : Routes)
    (moves : List (Index × Index)) (earlier : List (Index × Index)) (shape : Shape Index)
    (servers : Servers) (answer : List Rename × Option IoError) (later : HostState) : Prop :=
  later.world = servers ∧ ∃ taken, taken <+: moves ∧
    FileGroup paths before later.disk (taken.foldl Shape.shift shape) ∧
    answer.1 = (earlier ++ taken).map (renameOf paths) ∧
    (answer.2 = none → taken = moves) ∧
    (answer.2.isSome = true → Calm admits → ∃ move rest, moves = taken ++ move :: rest ∧
      taken.foldl Shape.shift shape move.1 = none)

theorem safe_applyRenames (moves earlier : List (Index × Index))
    (holds : ∀ taken, taken <+: moves → ∀ later,
      FileGroup paths before later (taken.foldl Shape.shift shape) → invariant ⟨later, servers⟩) :
    SafeOn serve admits invariant () (AppliedPost admits paths before moves earlier shape servers)
      (applyRenames (earlier.map (renameOf paths)) (moves.map (renameOf paths)))
      ⟨after, servers⟩ := by
  induction moves generalizing shape after earlier with
  | nil =>
    refine ⟨rfl, [], List.prefix_rfl, group, ?_, fun _ => rfl, fun impossible => ?_⟩
    · simp
    · contradiction
  | cons move rest ih =>
    have here : invariant ⟨after, servers⟩ := holds [] List.nil_prefix after group
    apply Safe.bind
    apply FileGroup.holding_shift group injective move here
    · intro error cause
      refine ⟨rfl, [], List.nil_prefix, group, ?_, fun impossible => ?_, fun _ calm => ?_⟩
      · simp
      · contradiction
      · exact ⟨move, rest, rfl, cause calm⟩
    intro later present grouped
    have further : ∀ taken, taken <+: rest → ∀ last,
        FileGroup paths before last (taken.foldl Shape.shift (shape.shift move)) →
          invariant ⟨last, servers⟩ := by
      intro taken starts last
      exact holds (move :: taken) ((List.prefix_cons_inj move).mpr starts) last
    refine ⟨further [] List.nil_prefix later grouped, ?_⟩
    have loop := ih grouped (earlier ++ [move]) further
    have same : (earlier ++ [move]).map (renameOf paths) =
        earlier.map (renameOf paths) ++ [renameOf paths move] := by simp
    rw [same] at loop
    apply loop.mono
    intro answer last outcome
    obtain ⟨world, taken, starts, grouped, applied, complete, stuck⟩ := outcome
    refine ⟨world, move :: taken, (List.prefix_cons_inj move).mpr starts, grouped, ?_, ?_, ?_⟩
    · rw [applied]
      simp
    · intro clean
      rw [complete clean]
    · intro stopped calm
      obtain ⟨next, others, split, absent⟩ := stuck stopped calm
      exact ⟨next, others, by rw [split]; rfl, absent⟩

def UndonePost (admits : Admits) (paths : Index → FilePath) (before : Routes)
    (moves : List (Index × Index)) (shape : Shape Index) (servers : Servers) :
    Except IoError Unit → HostState → Prop :=
  Outcomes
    (fun _ later => later.world = servers ∧
      FileGroup paths before later.disk (moves.foldl Shape.shift shape))
    (fun _ later => later.world = servers ∧ ∃ final,
      FileGroup paths before later.disk final ∧
        Partly (¬ Calm admits) Shape.shift moves shape final)

theorem safe_undoEach (moves : List (Index × Index)) (first : Option IoError)
    (holds : ∀ final, Partly (¬ Calm admits) Shape.shift moves shape final → ∀ later,
      FileGroup paths before later final → invariant ⟨later, servers⟩) :
    SafeOn serve admits invariant ()
      (fun answer later => UndonePost admits paths before moves shape servers answer later ∧
        (first.isSome = true → ∃ error, answer = .error error))
      (undoEach first (moves.map fun move => renameOf paths (back move))) ⟨after, servers⟩ := by
  induction moves generalizing shape after first with
  | nil =>
    cases first with
    | none => exact ⟨⟨rfl, group⟩, fun impossible => by contradiction⟩
    | some error => exact ⟨⟨rfl, shape, group, .stop [] shape⟩, fun _ => ⟨error, rfl⟩⟩
  | cons move rest ih =>
    have here : invariant ⟨after, servers⟩ := holds shape (.stop _ shape) after group
    apply Safe.bind
    apply FileGroup.holding_shift group injective move here
    · intro error cause
      have still : ∀ final, Partly (¬ Calm admits) Shape.shift rest shape final →
          Partly (¬ Calm admits) Shape.shift (move :: rest) shape final := by
        intro final later
        by_cases calm : Calm admits
        · apply Partly.take
          have absent : ¬ (shape move.1).isSome = true := by
            rw [cause calm]
            simp
          rw [Shape.shift, if_neg absent]
          exact later
        · exact .skip calm later
      have loop := ih group (first <|> some error) fun final later => holds final (still final later)
      apply loop.mono
      intro answer last outcome
      obtain ⟨error', rfl⟩ := outcome.2 (by cases first <;> rfl)
      obtain ⟨world, final, grouped, partly⟩ := outcome.1
      exact ⟨⟨world, final, grouped, still final partly⟩, fun _ => ⟨error', rfl⟩⟩
    · intro later present grouped
      have further : ∀ final, Partly (¬ Calm admits) Shape.shift rest (shape.shift move) final →
          ∀ last, FileGroup paths before last final → invariant ⟨last, servers⟩ :=
        fun final partly => holds final (.take partly)
      refine ⟨further _ (.stop _ _) later grouped, ?_⟩
      apply (ih grouped first further).mono
      intro answer last outcome
      refine ⟨?_, outcome.2⟩
      cases answer with
      | ok _ => exact outcome.1
      | error error =>
        obtain ⟨world, final, grouped, partly⟩ := outcome.1
        exact ⟨world, final, grouped, .take partly⟩

theorem safe_undo (moves : List (Index × Index))
    (holds : ∀ final, Partly (¬ Calm admits) Shape.shift (moves.reverse.map back) shape final →
      ∀ later, FileGroup paths before later final → invariant ⟨later, servers⟩) :
    SafeOn serve admits invariant ()
      (UndonePost admits paths before (moves.reverse.map back) shape servers)
      (undo (moves.map (renameOf paths))) ⟨after, servers⟩ := by
  have turned : (moves.map (renameOf paths)).reverse =
      (moves.reverse.map back).map fun move => renameOf paths (back move) := by
    simp [comp_def, back]
  unfold undo
  rw [turned]
  apply (safe_undoEach group injective (moves.reverse.map back) none holds).mono
  intro answer later outcome
  exact outcome.1

/-- What the cleanup left: an answer of success means that everything is gone. -/
def CleanedPost (admits : Admits) (paths : Index → FilePath) (before : Routes) (indices : List Index)
    (failure : Option IoError) (shape : Shape Index) (servers : Servers)
    (answer : Except ActivateError Unit) (later : HostState) : Prop :=
  (later.world = servers ∧ ∃ final, FileGroup paths before later.disk final ∧
    Partly (¬ Calm admits) Shape.drop indices shape final ∧
    (answer = .ok () → final = indices.foldl Shape.drop shape)) ∧
  (failure.isSome = true → ∃ error, answer = .error (.io error)) ∧
  (∀ error, answer = .error error → ∃ cause, error = .io cause) ∧
  (Calm admits → failure = none → answer = .ok ())

theorem safe_cleanUp (indices : List Index) (failure : Option IoError)
    (holds : ∀ final, Partly (¬ Calm admits) Shape.drop indices shape final → ∀ later,
      FileGroup paths before later final → invariant ⟨later, servers⟩) :
    SafeOn serve admits invariant () (CleanedPost admits paths before indices failure shape servers)
      (cleanUp failure (indices.map paths)) ⟨after, servers⟩ := by
  induction indices generalizing shape after failure with
  | nil =>
    cases failure with
    | none =>
      refine ⟨⟨rfl, shape, group, .stop [] shape, fun _ => rfl⟩, ?_, ?_, fun _ _ => rfl⟩
      · nofun
      · intro error impossible
        contradiction
    | some error =>
      refine ⟨⟨rfl, shape, group, .stop [] shape, ?_⟩, fun _ => ⟨error, rfl⟩, ?_, ?_⟩
      · nofun
      · intro other same
        cases same
        exact ⟨error, rfl⟩
      · nofun
  | cons index rest ih =>
    have here : invariant ⟨after, servers⟩ := holds shape (.stop _ shape) after group
    have further : ∀ final, Partly (¬ Calm admits) Shape.drop rest (shape.drop index) final →
        ∀ last, FileGroup paths before last final → invariant ⟨last, servers⟩ :=
      fun final partly => holds final (.take partly)
    have gone : ∀ later, FileGroup paths before later (shape.drop index) →
        SafeOn serve admits invariant ()
          (CleanedPost admits paths before (index :: rest) failure shape servers)
          (cleanUp failure (rest.map paths)) ⟨later, servers⟩ := by
      intro later grouped
      apply (ih grouped failure further).mono
      intro answer last outcome
      obtain ⟨⟨world, final, grouped, partly, complete⟩, recorded, shape, calm⟩ := outcome
      exact ⟨⟨world, final, grouped, .take partly, complete⟩, recorded, shape, calm⟩
    apply Safe.bind
    apply group.holding_remove injective index here
    · intro rough
      have stuck : ∀ final, Partly (¬ Calm admits) Shape.drop rest shape final →
          Partly (¬ Calm admits) Shape.drop (index :: rest) shape final :=
        fun final later => .skip rough later
      apply (ih group (some .other) fun final partly => holds final (stuck final partly)).mono
      intro answer last outcome
      obtain ⟨⟨world, final, grouped, partly, _⟩, recorded, shape, _⟩ := outcome
      obtain ⟨error, failed⟩ := recorded rfl
      refine ⟨⟨world, final, grouped, stuck final partly, ?_⟩, fun _ => ⟨error, failed⟩, shape, ?_⟩
      · intro impossible
        rw [failed] at impossible
        contradiction
      · intro calm
        exact absurd calm rough
    · intro absent
      have same : shape.drop index = shape := by
        rw [Shape.drop, update_eq_self_iff]
        exact absent.symm
      apply gone after
      rw [same]
      exact group
    · intro later grouped
      exact ⟨further _ (.stop _ _) later grouped, gone later grouped⟩

end Group

/-- A shape a transition can leave: some of the moves were made and some of those
taken back, or all were made and some of the cleanup is done. -/
def Transiting (faulty : Prop) (moves : List (Index × Index)) (cleanup : List Index)
    (shape final : Shape Index) : Prop :=
  (∃ taken, taken <+: moves ∧
    Partly faulty Shape.shift (taken.reverse.map back) (taken.foldl Shape.shift shape) final) ∨
  Partly faulty Shape.drop cleanup (moves.foldl Shape.shift shape) final

/-- Every move finds a file. -/
def Founded (moves : List (Index × Index)) (shape : Shape Index) : Prop :=
  ∀ taken move rest, moves = taken ++ move :: rest → taken.foldl Shape.shift shape move.1 ≠ none

def ServedThen (reloadService : Option Service) (servers : Servers) (cleaned : FilePath → Prop)
    (later : HostState) : Prop :=
  match reloadService with
  | none => later.world = servers
  | some service => ∃ view : View, later.world = servers.reloaded service view ∧
      ∀ path, ¬ cleaned path → view path = later.disk.look path

/-- What a transition answers, and what it then left. -/
def TransitionPost (admits : Admits) (paths : Index → FilePath) (before : Routes)
    (moves : List (Index × Index)) (cleanup : List Index) (reloadService : Option Service)
    (shape : Shape Index) (servers : Servers) (answer : Except ActivateError Unit)
    (later : HostState) : Prop :=
  (∃ final, FileGroup paths before later.disk final ∧
    Transiting (¬ Calm admits) moves cleanup shape final ∧
    match answer with
    | .ok _ => final = cleanup.foldl Shape.drop (moves.foldl Shape.shift shape) ∧
        ServedThen reloadService servers (fun path => ∃ index ∈ cleanup, path = paths index) later
    | .error .reloadFailedAndRestored =>
      final = (moves.reverse.map back).foldl Shape.shift (moves.foldl Shape.shift shape) ∧
      ∃ service, reloadService = some service ∧
        later.world = servers.reloaded service later.disk.look
    | .error (.io _) | .error (.recoveryFailed _) => True
    | .error _ => False) ∧
  (Smooth admits → Founded moves shape → answer = .ok ())

theorem foldl_drop_of_not_mem {indices : List Index} {index : Index}
    (kept : index ∉ indices) : indices.foldl Shape.drop shape index = shape index := by
  induction indices generalizing shape with
  | nil => rfl
  | cons head rest ih =>
    have apart : index ≠ head := fun same => kept (by simp [same])
    have later : index ∉ rest := fun member => kept (by simp [member])
    rw [List.foldl_cons, ih later, Shape.drop, update_of_ne apart]

variable {moves : List (Index × Index)} {cleanup : List Index}
  (injective : Function.Injective paths)
  (holds : ∀ final, Transiting (¬ Calm admits) moves cleanup shape final → ∀ later servers,
    FileGroup paths before later final → invariant ⟨later, servers⟩)
include injective holds

theorem safe_finish {reloadService : Option Service} {current : Servers}
    (group : FileGroup paths before after (moves.foldl Shape.shift shape))
    (served : ∀ later, (∀ path, ¬ (∃ index ∈ cleanup, path = paths index) →
      after.look path = later.look path) →
      ServedThen reloadService servers (fun path => ∃ index ∈ cleanup, path = paths index)
        ⟨later, current⟩) :
    SafeOn serve admits invariant ()
      (TransitionPost admits paths before moves cleanup reloadService shape servers)
      (cleanUp none (cleanup.map paths)) ⟨after, current⟩ := by
  have safe : SafeOn serve admits invariant () _ _ ⟨after, current⟩ :=
    safe_cleanUp group injective cleanup none
      fun final partly later grouped => holds final (.inr partly) later current grouped
  apply safe.mono
  intro answer later outcome
  obtain ⟨⟨world, final, grouped, partly, complete⟩, _, shapes, calm⟩ := outcome
  obtain ⟨later, _⟩ := later
  subst world
  refine ⟨⟨final, grouped, .inr partly, ?_⟩, fun smooth _ => calm smooth.calm rfl⟩
  cases answer with
  | error error =>
    obtain ⟨cause, rfl⟩ := shapes error rfl
    trivial
  | ok _ =>
  have whole := complete rfl
  refine ⟨whole, served later fun path kept => group.agree grouped fun index same => ?_⟩
  have spared : index ∉ cleanup := fun member => kept ⟨index, member, same⟩
  rw [whole, foldl_drop_of_not_mem spared]

theorem safe_revert {service : Service}
    (group : FileGroup paths before after (moves.foldl Shape.shift shape))
    (refused : ¬ Smooth admits) :
    SafeOn serve admits invariant ()
      (TransitionPost admits paths before moves cleanup (some service) shape servers)
      (revert service (moves.map (renameOf paths))) ⟨after, servers⟩ := by
  have transiting : ∀ final, Partly (¬ Calm admits) Shape.shift (moves.reverse.map back)
      (moves.foldl Shape.shift shape) final →
      Transiting (¬ Calm admits) moves cleanup shape final :=
    fun final partly => .inl ⟨moves, List.prefix_rfl, partly⟩
  have safe : SafeOn serve admits invariant () _ _ ⟨after, servers⟩ :=
    safe_undo group injective moves
      fun final partly later grouped => holds final (transiting final partly) later servers grouped
  apply safe.seq
  intro answer later outcome
  obtain ⟨later, _⟩ := later
  cases answer with
  | error error =>
    obtain ⟨rfl, final, grouped, partly⟩ := outcome
    exact ⟨⟨final, grouped, transiting final partly, trivial⟩, fun smooth => absurd smooth refused⟩
  | ok _ =>
  obtain ⟨rfl, grouped⟩ := outcome
  have whole := transiting _ (Partly.whole (moves.reverse.map back) (moves.foldl Shape.shift shape))
  apply holding_ask
  intro confirmed _
  refine ⟨holds _ whole later _ grouped, ?_⟩
  cases confirmed with
  | true =>
    exact ⟨⟨_, grouped, whole, rfl, service, rfl, rfl⟩, fun smooth => absurd smooth refused⟩
  | false => exact ⟨⟨_, grouped, whole, trivial⟩, fun smooth => absurd smooth refused⟩

/-- The contract of a transition that starts on `shape` and may be stopped
anywhere. -/
theorem safe_transition (group : FileGroup paths before after shape)
    (reloadService : Option Service) :
    SafeOn serve admits invariant ()
      (TransitionPost admits paths before moves cleanup reloadService shape servers)
      (transition (moves.map (renameOf paths)) reloadService (cleanup.map paths))
      ⟨after, servers⟩ := by
  have started : ∀ taken, taken <+: moves →
      Transiting (¬ Calm admits) moves cleanup shape (taken.foldl Shape.shift shape) :=
    fun taken starts => .inl ⟨taken, starts, .stop _ _⟩
  have renamed : SafeOn serve admits invariant () _ _ ⟨after, servers⟩ :=
    safe_applyRenames group injective moves []
      fun taken starts later grouped => holds _ (started taken starts) later servers grouped
  apply renamed.seq
  intro answer later outcome
  obtain ⟨later, current⟩ := later
  obtain ⟨applied, stopped⟩ := answer
  obtain ⟨rfl, taken, starts, grouped, done, complete, stuck⟩ := outcome
  cases stopped with
  | some error =>
    subst done
    have smoothly : Smooth admits → Founded moves shape →
        ∀ answer : Except ActivateError Unit, answer = .ok () := by
      intro smooth founded
      obtain ⟨move, rest, split, absent⟩ := stuck rfl smooth.calm
      exact absurd absent (founded taken move rest split)
    have undone : ∀ final, Partly (¬ Calm admits) Shape.shift (taken.reverse.map back)
        (taken.foldl Shape.shift shape) final →
        Transiting (¬ Calm admits) moves cleanup shape final :=
      fun final partly => .inl ⟨taken, starts, partly⟩
    have safe : SafeOn serve admits invariant () _ _ ⟨later, current⟩ :=
      safe_undo grouped injective taken
        fun final partly last regrouped => holds final (undone final partly) last current regrouped
    apply safe.seq
    intro answer last outcome
    cases answer with
    | ok _ =>
      exact ⟨⟨_, outcome.2, undone _ (Partly.whole _ _), trivial⟩,
        fun smooth founded => smoothly smooth founded _⟩
    | error error =>
      obtain ⟨_, final, regrouped, partly⟩ := outcome
      exact ⟨⟨final, regrouped, undone final partly, trivial⟩,
        fun smooth founded => smoothly smooth founded _⟩
  | none =>
    have all := complete rfl
    subst all
    cases reloadService with
    | none => exact safe_finish injective holds grouped fun _ _ => rfl
    | some service =>
    apply holding_ask
    intro answer answered
    refine ⟨holds _ (started taken starts) later _ grouped, ?_⟩
    cases answer with
    | true =>
      apply safe_finish injective holds grouped
      intro last same
      exact ⟨later.look, rfl, same⟩
    | false =>
      exact safe_revert injective holds grouped fun smooth => smooth.reload_ne answered

end Contract

end OpsEngine.Ingress
