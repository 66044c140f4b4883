import Mathlib.Logic.Function.Basic
import OpsEngine.Data.Uuid

namespace OpsEngine.Compose

/-! # Stacks under the compose root

`compose.action` and `compose.remove` run `docker compose` on the file of a stack.  The
project of the hosting stack is to be protected whatever the name of the stack that
declares it.
-/

/-- Bounded ASCII, so its characters are its bytes. -/
def isStackName : Text → Bool
  | [] => false
  | first :: rest => rest.length < 64 && first.isAlphanum &&
    rest.all fun c => c.isAlphanum || c == '_' || c == '.' || c == '-'

structure StackName where
  text : Text
  valid : isStackName text = true

def hostingStack : Text := "wp-stack".toList

def managedProject : Text := "wcp".toList

def isManagedProject (name : Text) : Bool := name.map Char.toLower == managedProject

def isManagedStack (name : StackName) : Bool :=
  name.text == hostingStack || isManagedProject name.text

inductive Action where
  | up
  | down
  | restart
  | pull
deriving DecidableEq

def Action.isDestructive (action : Action) : Bool := action == .down

structure ActionRequest where
  stackName : StackName
  action : Action
  requestId : RequestId
  idempotencyKey : Option IdempotencyKey
  unmanaged : action.isDestructive = true → isManagedStack stackName = false

structure RemoveRequest where
  stackName : StackName
  requestId : RequestId
  idempotencyKey : Option IdempotencyKey
  unmanaged : isManagedStack stackName = false

inductive Request where
  | action (request : ActionRequest)
  | remove (request : RemoveRequest)

namespace Request

def stackName : Request → StackName
  | .action request => request.stackName
  | .remove request => request.stackName

/-- What `docker compose` is run with. -/
def verb : Request → Action
  | .action request => request.action
  | .remove _ => .down

def takesStackLock : Request → Bool
  | .action request => request.stackName.text == hostingStack
  | .remove _ => false

end Request

/-! ## The host

A file does not change while a request is at work.
-/

/-- `document` is what `docker compose -f file config --format json` prints, `name?` the
text in the field `name` of a JSON document. -/
structure Host (File : Type) where
  document : File → List UInt8
  name? : List UInt8 → Option Text

def captureBytes : Nat := 256 * 1024

variable {File : Type}

namespace Host

def managed (host : Host File) (printed : List UInt8) : Bool :=
  (host.name? printed).any isManagedProject

/-- The project of the file is the managed one. -/
def Managed (host : Host File) (file : File) : Prop := host.managed (host.document file) = true

/-- What `require_not_managed_project` refuses.  A document it cannot read is none. -/
def refused (host : Host File) (file : File) : Bool :=
  host.managed ((host.document file).take captureBytes)

end Host

/-! ## Requests side by side -/

/-- Where a request stands.  A file is `allowed` once it has passed the check of its
project, or needs none. -/
inductive Phase (File : Type) where
  | idle
  | started (request : Request)
  | locked (request : Request)
  | admitted (request : Request)
  | resolved (request : Request) (file : File) (allowed : Bool)
  | running (request : Request) (file : File)
  | removing (request : Request) (file : File)

/-- The lock `stacks/wcp`, which other operations take as well. -/
inductive StackLock where
  | free
  | held (id : Nat)
  | elsewhere
deriving DecidableEq

structure State (File : Type) where
  stackLock : StackLock
  phases : Nat → Phase File

def State.initial : State File := ⟨.free, fun _ => .idle⟩

def State.enter (state : State File) (id : Nat) (phase : Phase File) : State File :=
  { state with phases := Function.update state.phases id phase }

def State.leave (state : State File) (id : Nat) : State File :=
  { state.enter id .idle with
    stackLock := if state.stackLock = .held id then .free else state.stackLock }

/-- What a request comes to by itself; it may end at any time, with its result, a replay
or any error. -/
inductive Happening (File : Type) where
  | start (request : Request)
  | preflight
  | composeFile (file : File)
  | config
  | compose
  | succeed
  | finish

/-- Nothing for a request that ends. -/
def Phase.next (host : Host File) : Phase File → Happening File → Option (Phase File)
  | .idle, .start request => some (.started request)
  | .locked request, .preflight => some (.admitted request)
  | .admitted request, .composeFile file =>
    some (.resolved request file (!request.verb.isDestructive))
  | .resolved request file false, .config =>
    if host.refused file then none else some (.resolved request file true)
  | .resolved request file true, .compose => some (.running request file)
  | .running (.remove request) file, .succeed => some (.removing (.remove request) file)
  | .running (.action _) _, .succeed | _, .finish => none
  | phase, _ => some phase

inductive Event (File : Type) where
  | session (id : Nat) (happening : Happening File)
  | stackLock (id : Nat)
  | elsewhere (taken : Bool)

def step (host : Host File) (state : State File) : Event File → State File
  | .session id happening =>
    match (state.phases id).next host happening with
    | some phase => state.enter id phase
    | none => state.leave id
  | .stackLock id =>
    match state.phases id with
    | .started request =>
      if request.takesStackLock then
        if state.stackLock = .free then
          { state.enter id (.locked request) with stackLock := .held id }
        else state.leave id
      else state.enter id (.locked request)
    | _ => state
  | .elsewhere taken =>
    match state.stackLock, taken with
    | .free, true => { state with stackLock := .elsewhere }
    | .elsewhere, false => { state with stackLock := .free }
    | _, _ => state

def run (host : Host File) (events : List (Event File)) : State File :=
  events.foldl (step host) State.initial

/-- The managed project is not taken down and its directory not deleted, and whoever
starts it has the lock. -/
structure State.Guarded (state : State File) (host : Host File) : Prop where
  running : ∀ id request file, state.phases id = .running request file → host.Managed file →
    request.verb ≠ .down ∧ (request.verb ≠ .pull → state.stackLock = .held id)
  removing : ∀ id request file, state.phases id = .removing request file → ¬ host.Managed file

/-- That the project is the managed one shows in what the request goes by: the captured
part of the document, or the name of the stack. -/
def Request.Tells (request : Request) (host : Host File) (file : File) : Prop :=
  host.Managed file →
    match request.verb with
    | .down => host.refused file = true
    | .up | .restart => request.stackName.text = hostingStack
    | .pull => True

/-! ## What a request knows where it stands -/

def Request.Passed (request : Request) (host : Host File) (file : File) : Prop :=
  request.verb = .down → host.refused file = false

/-- `mine`: the request has the lock. -/
def Phase.Fits (host : Host File) (mine : Prop) : Phase File → Prop
  | .idle | .started _ => ¬ mine
  | .locked request | .admitted request => mine ↔ request.takesStackLock = true
  | .resolved request file allowed =>
    (mine ↔ request.takesStackLock = true) ∧ (allowed = true → request.Passed host file)
  | .running request file => (mine ↔ request.takesStackLock = true) ∧ request.Passed host file
  | .removing request file => request.verb = .down ∧ request.Passed host file

def State.Sound (state : State File) (host : Host File) : Prop :=
  ∀ id, (state.phases id).Fits host (state.stackLock = .held id)

theorem Request.takesStackLock_iff {request : Request} (spared : request.verb ≠ .down) :
    request.takesStackLock = true ↔ request.stackName.text = hostingStack := by
  cases request with
  | action request => exact beq_iff_eq
  | remove request => exact absurd rfl spared

section Steps

variable {host : Host File} {state : State File} {id : Nat} {phase : Phase File}

theorem State.Sound.put (sound : state.Sound host) {stackLock : StackLock}
    (fits : phase.Fits host (stackLock = .held id))
    (others : ∀ other, other ≠ id → (stackLock = .held other ↔ state.stackLock = .held other)) :
    State.Sound ⟨stackLock, Function.update state.phases id phase⟩ host := by
  intro other
  by_cases same : other = id
  · subst same
    simpa using fits
  · have holds := sound other
    rw [← others other same] at holds
    simpa [Function.update_of_ne same] using holds

theorem State.Sound.enter (sound : state.Sound host)
    (fits : phase.Fits host (state.stackLock = .held id)) : (state.enter id phase).Sound host :=
  sound.put fits fun _ _ => Iff.rfl

theorem State.Sound.leave (sound : state.Sound host) : (state.leave id).Sound host := by
  refine sound.put ?_ fun other differs => ?_
  · by_cases mine : state.stackLock = .held id <;> simp [Phase.Fits, mine]
  · by_cases mine : state.stackLock = .held id
    · simp [mine, Ne.symm differs]
    · simp [mine]

theorem Phase.Fits.next {mine : Prop} {after : Phase File} {happening : Happening File}
    (fits : phase.Fits host mine) (moved : phase.next host happening = some after) :
    after.Fits host mine := by
  unfold Phase.next at moved
  split at moved
  · cases moved
    exact fits
  · cases moved
    exact fits
  · cases moved
    refine ⟨fits, fun harmless destructive => ?_⟩
    simp [Action.isDestructive, destructive] at harmless
  · split at moved
    · contradiction
    · rename_i accepted
      cases moved
      exact ⟨fits.1, fun _ _ => Bool.eq_false_iff.mpr accepted⟩
  · cases moved
    exact ⟨fits.1, fits.2 rfl⟩
  · cases moved
    exact ⟨rfl, fits.2⟩
  · contradiction
  · contradiction
  · cases moved
    exact fits

theorem State.Sound.step (sound : state.Sound host) (event : Event File) :
    (step host state event).Sound host := by
  cases event with
  | session id happening =>
    simp only [Compose.step]
    split
    · rename_i moved
      exact sound.enter ((sound id).next moved)
    · exact sound.leave
  | stackLock id =>
    simp only [Compose.step]
    split
    · rename_i request stands
      have apart := sound id
      rw [stands] at apart
      split
      · rename_i takes
        split
        · rename_i free
          refine sound.put ?_ fun other differs => ?_
          · simp [Phase.Fits, takes]
          · simp [free, Ne.symm differs]
        · exact sound.leave
      · rename_i spares
        exact sound.enter ⟨fun mine => absurd mine apart, fun takes => absurd takes spares⟩
    · exact sound
  | elsewhere taken =>
    simp only [Compose.step]
    split <;> first | exact sound | (intro id; have holds := sound id; simp_all)

end Steps

theorem sound_run (host : Host File) (events : List (Event File)) :
    (run host events).Sound host := by
  have started : (State.initial : State File).Sound host := by
    simp [State.Sound, State.initial, Phase.Fits]
  unfold run
  revert started
  generalize (State.initial : State File) = state
  intro sound
  induction events generalizing state with
  | nil => exact sound
  | cons event rest ih => exact ih _ (sound.step event)

/-- The hosting stack is guarded just while every request at work tells it. -/
theorem hosting_stack_guarded_iff (host : Host File) (events : List (Event File)) :
    (run host events).Guarded host ↔
      ∀ id request file, (run host events).phases id = .running request file ∨
        (run host events).phases id = .removing request file → request.Tells host file := by
  have sound := sound_run host events
  generalize run host events = state at sound
  have known : ∀ {id phase}, state.phases id = phase →
      phase.Fits host (state.stackLock = .held id) := fun stands => stands ▸ sound _
  constructor
  · rintro guarded id request file (stands | stands) managed
    · obtain ⟨spared, locked⟩ := guarded.running id request file stands managed
      have holds := known stands
      cases verb : request.verb with
      | down => exact absurd verb spared
      | up | restart =>
        have takes := holds.1.mp (locked (by simp [verb]))
        exact (Request.takesStackLock_iff spared).mp takes
      | pull => trivial
    · exact absurd managed (guarded.removing id request file stands)
  · intro tells
    refine ⟨fun id request file stands managed => ?_, fun id request file stands managed => ?_⟩
    · have told := tells id request file (.inl stands) managed
      have holds := known stands
      cases verb : request.verb with
      | down =>
        rw [verb] at told
        exact absurd told (by simp [holds.2 verb])
      | up | restart =>
        rw [verb] at told
        have spared : request.verb ≠ .down := by simp [verb]
        exact ⟨nofun, fun _ => holds.1.mpr ((Request.takesStackLock_iff spared).mpr told)⟩
      | pull => exact ⟨nofun, fun other => absurd rfl other⟩
    · have told := tells id request file (.inr stands) managed
      obtain ⟨destructive, passed⟩ := known stands
      rw [destructive] at told
      exact absurd told (by simp [passed destructive])

def blog : StackName := ⟨"blog".toList, by decide⟩

def someRequest : RequestId := .numbered 1

def upBlog : Request := .action ⟨blog, .up, someRequest, none, nofun⟩

def downBlog : Request := .action ⟨blog, .down, someRequest, none, fun _ => by decide⟩

def ascii (text : String) : List UInt8 := text.toList.map fun c => UInt8.ofNat c.toNat

def opening : List UInt8 := ascii "\x7b\"name\":\"wcp\",\"x\":\""

/-- Files by the length of a field, all of the managed project.  The text of an object
ends in a brace. -/
def padded : Host Nat where
  document length := opening ++ (List.replicate length 97 ++ ascii "\"\x7d")
  name? printed := if printed.getLast? = some 125 then some managedProject else none

theorem padded_managed (length : Nat) : padded.Managed length := by
  have closed : (padded.document length).getLast? = some 125 := by
    simp only [padded, List.getLast?_append]
    rfl
  simp only [Host.Managed, Host.managed, padded] at closed ⊢
  rw [if_pos closed]
  decide

theorem padded_unseen : padded.refused captureBytes = false := by
  have inside : opening.length = 19 := by decide
  have cut : ((padded.document captureBytes).take captureBytes).getLast? = some 97 := by
    simp only [padded, List.getLast?_take]
    rw [if_neg (by decide), List.getElem?_append_right (by rw [inside]; decide), inside,
      List.getElem?_append_left (by rw [List.length_replicate]; decide), List.getElem?_replicate,
      if_pos (by decide), Option.some_or]
  simp only [Host.refused, Host.managed, padded] at cut ⊢
  rw [cut]
  rfl

/-- A request that has the engine to itself goes through the steps with the file. -/
def alone (request : Request) (file : File) (steps : List (Happening File)) : List (Event File) :=
  .session 0 (.start request) :: .stackLock 0 :: .session 0 .preflight ::
    .session 0 (.composeFile file) :: steps.map (.session 0)

theorem down_runs {host : Host File} {file : File} (unseen : host.refused file = false) :
    (run host (alone downBlog file [.config, .compose])).phases 0 = .running downBlog file := by
  have unlocked : downBlog.takesStackLock = false := by decide
  have destructive : downBlog.verb.isDestructive = true := rfl
  simp [alone, run, step, Phase.next, State.enter, State.initial, unlocked, destructive, unseen]

/-- Started without the lock, and taken down after a check that saw a part of the
document. -/
theorem hosting_stack_reached :
    ¬ (run padded (alone upBlog 0 [.compose])).Guarded padded ∧
      ¬ (run padded (alone downBlog captureBytes [.config, .compose])).Guarded padded := by
  constructor
  · intro guarded
    have locked := (guarded.running 0 upBlog 0 rfl (padded_managed 0)).2 nofun
    contradiction
  · intro guarded
    have spared := (guarded.running 0 _ _ (down_runs padded_unseen) (padded_managed _)).1
    exact spared rfl

end OpsEngine.Compose
