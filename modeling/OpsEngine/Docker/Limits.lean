import Mathlib.Algebra.Group.Nat.Defs
import Mathlib.Logic.Function.Basic
import OpsEngine.Data.Identifiers

namespace OpsEngine.Docker

/-! # The limits of a container

`docker.setLimits` reads the limits of the container before it has any lock, plans by
what it read, and updates the container under the lock of its scope.  To `docker update`
a zero is a limit to be left as it is.
-/

/-- A finite float that is not negative: `mantissa / 2 ^ scale`. -/
structure Cpus where
  mantissa : Nat
  scale : Nat

/-- What `{:.6}` prints, in millionths: the nearest one, of two the even one. -/
def Cpus.micros (cpus : Cpus) : Nat :=
  let scaled := cpus.mantissa * 1000000
  let unit := 2 ^ cpus.scale
  let low := scaled / unit
  let rest := scaled % unit
  if 2 * rest < unit ∨ 2 * rest = unit ∧ low % 2 = 0 then low else low + 1

def Cpus.nanos (cpus : Cpus) : Nat := 1000 * cpus.micros

def minMemoryBytes : Nat := 4 * 1024 * 1024

def restartPolicies : List Text :=
  ["no".toList, "always".toList, "unless-stopped".toList, "on-failure".toList,
    "on-failure:3".toList]

/-- A request that was accepted. -/
structure LimitsRequest where
  cpus : Cpus
  memoryBytes : Nat
  restartPolicy : Option Text
  idempotencyKey : Option IdempotencyKey
  enough : memoryBytes = 0 ∨ minMemoryBytes ≤ memoryBytes
  listed : ∀ policy ∈ restartPolicy, policy ∈ restartPolicies

structure Context where
  hostCores : Nat
  hostMemoryBytes : Option Nat

inductive Error where
  | cpusAboveHost
  | memoryAboveHost
  | hostResourcesUnknown

def checkLimitBounds (ctx : Context) (request : LimitsRequest) : Except Error Unit :=
  if ctx.hostCores * 2 ^ request.cpus.scale < request.cpus.mantissa then .error .cpusAboveHost
  else if request.memoryBytes ≠ 0 then
    match ctx.hostMemoryBytes with
    | none => .error .hostResourcesUnknown
    | some total => if total < request.memoryBytes then .error .memoryAboveHost else .ok ()
  else .ok ()

/-- Zero is no limit. -/
structure Limits where
  nanoCpus : Nat
  memoryBytes : Nat

/-- The options of `docker update`. -/
structure Flags where
  cpus : Option Cpus
  memory : Option Nat
  memorySwap : Option Nat
  restart : Option Text

structure LimitsResult where
  cpus : Cpus
  memoryBytes : Nat
  raisedToHostMax : Bool

/-- One limit: the value for `docker update`, the limit that results, and whether it was
raised to the maximum. -/
def planLimit {α : Type} (asked current : Nat) (value maximum zero : α) : Option α × α × Bool :=
  if 0 < asked then (some value, value, false)
  else if 0 < current then (some maximum, maximum, true)
  else (none, zero, false)

def planLimits (ctx : Context) (request : LimitsRequest) (resolved : Limits) :
    Except Error (Flags × LimitsResult) :=
  let cpus := planLimit request.cpus.mantissa resolved.nanoCpus request.cpus ⟨ctx.hostCores, 0⟩ ⟨0, 0⟩
  let memory := planLimit request.memoryBytes resolved.memoryBytes request.memoryBytes
    (ctx.hostMemoryBytes.getD 0) 0
  if memory.2.2 ∧ ctx.hostMemoryBytes = none then .error .hostResourcesUnknown
  else .ok ({ cpus := cpus.1, memory := memory.1, restart := request.restartPolicy
              memorySwap := memory.1.map fun bytes => min (bytes * 2) (2 ^ 64 - 1) },
    ⟨cpus.2.1, memory.2.1, cpus.2.2 || memory.2.2⟩)

def written : Option Nat → Nat → Nat
  | some (value + 1), _ => value + 1
  | _, current => current

def Limits.update (limits : Limits) (flags : Flags) : Limits where
  nanoCpus := written (flags.cpus.map Cpus.nanos) limits.nanoCpus
  memoryBytes := written flags.memory limits.memoryBytes

/-! ## Requests side by side -/

inductive Phase where
  | idle
  | started (request : LimitsRequest)
  | inspected (request : LimitsRequest) (resolved : Limits)
  | admitted (request : LimitsRequest) (resolved : Limits)

structure Session where
  phase : Phase
  /-- what the limits have been since the request started -/
  moments : List Limits

/-- `holder` has the lock of the scope.  The keys in `records` were used; a result is
there once the request has committed. -/
structure State where
  limits : Limits
  holder : Option Nat
  records : List (IdempotencyKey × Option LimitsResult)
  sessions : Nat → Session

def State.initial (limits : Limits) : State := ⟨limits, none, [], fun _ => ⟨.idle, []⟩⟩

def State.enter (state : State) (id : Nat) (phase : Phase) : State :=
  { state with sessions := Function.update state.sessions id { state.sessions id with phase } }

def State.leave (state : State) (id : Nat) : State :=
  { state.enter id .idle with holder := if state.holder = some id then none else state.holder }

def State.become (state : State) (limits : Limits) : State :=
  { state with
    limits
    sessions := fun id => { state.sessions id with moments := limits :: (state.sessions id).moments } }

def State.note (state : State) (request : LimitsRequest) (result : Option LimitsResult) : State :=
  { state with records := (request.idempotencyKey.map (·, result)).toList ++ state.records }

def State.recorded (state : State) (request : LimitsRequest) : Option (Option LimitsResult) :=
  request.idempotencyKey.bind fun key => state.records.lookup key

/-- How `docker update` ends.  One that fails may have taken effect. -/
inductive Exit where
  | success
  | failure (took : Bool)

inductive Event where
  | start (id : Nat) (request : LimitsRequest)
  | inspect (id : Nat)
  | preflight (id : Nat)
  | update (id : Nat) (exit : Exit)
  /-- the request ends in any other error -/
  | fail (id : Nat)

/-- A successful answer, with the limits just before the update. -/
structure Response where
  request : LimitsRequest
  result : LimitsResult
  before : Limits
  moments : List Limits

def step (ctx : Context) (state : State) : Event → State × Option Response
  | .start id request =>
    match (state.sessions id).phase, checkLimitBounds ctx request with
    | .idle, .ok () =>
      ({ state with
          sessions := Function.update state.sessions id ⟨.started request, [state.limits]⟩ }, none)
    | _, _ => (state, none)
  | .inspect id =>
    match (state.sessions id).phase with
    | .started request => (state.enter id (.inspected request state.limits), none)
    | _ => (state, none)
  | .preflight id =>
    match (state.sessions id).phase, state.holder with
    | .inspected request resolved, none =>
      match state.recorded request with
      | some outcome =>
        (state.leave id, outcome.map fun result =>
          ⟨request, result, state.limits, (state.sessions id).moments⟩)
      | none =>
        ({ (state.enter id (.admitted request resolved)).note request none with holder := some id },
          none)
    | _, _ => (state, none)
  | .update id exit =>
    match (state.sessions id).phase with
    | .admitted request resolved =>
      match planLimits ctx request resolved, exit with
      | .error _, _ => (state.leave id, none)
      | .ok (flags, result), .success =>
        let after := state.limits.update flags
        (((state.become after).leave id).note request (some result),
          some ⟨request, result, state.limits, after :: (state.sessions id).moments⟩)
      | .ok (flags, _), .failure took =>
        ((if took then state.become (state.limits.update flags) else state).leave id, none)
    | _ => (state, none)
  | .fail id => (state.leave id, none)

def run (ctx : Context) (limits : Limits) (events : List Event) : State :=
  events.foldl (fun state event => (step ctx state event).1) (State.initial limits)

/-! ## What an answer says -/

structure Response.Holds (response : Response) : Prop where
  had : ∃ moment ∈ response.moments, moment.nanoCpus = response.result.cpus.nanos ∧
    moment.memoryBytes = response.result.memoryBytes
  /-- zero was asked for a limit that was set -/
  raised : response.result.raisedToHostMax = true ↔
    response.request.cpus.mantissa = 0 ∧ response.before.nanoCpus ≠ 0 ∨
      response.request.memoryBytes = 0 ∧ response.before.memoryBytes ≠ 0

def Reported (ctx : Context) (state : State) (event : Event) : Prop :=
  ∀ response ∈ (step ctx state event).2, response.Holds

/-- What is asked for is no zero to `docker update`; a limit to be cleared is set or not
as it was when the request looked, and the host's maximum is no zero. -/
structure Settled (asked value seen current maximum : Nat) : Prop where
  printed : asked ≠ 0 → value ≠ 0
  unchanged : asked = 0 → (seen = 0 ↔ current = 0)
  sized : asked = 0 → current ≠ 0 → maximum ≠ 0

/-- No key is used again, and nothing the plan rests on changes before the update. -/
def Undisturbed (ctx : Context) (state : State) : Event → Prop
  | .preflight id => ∀ request resolved, (state.sessions id).phase = .inspected request resolved →
    state.recorded request = none
  | .update id _ => ∀ request resolved, (state.sessions id).phase = .admitted request resolved →
    Settled request.cpus.mantissa request.cpus.nanos resolved.nanoCpus state.limits.nanoCpus
        ctx.hostCores ∧
      Settled request.memoryBytes request.memoryBytes resolved.memoryBytes state.limits.memoryBytes
        (ctx.hostMemoryBytes.getD 0)
  | _ => True

theorem written_of_ne_zero {value : Nat} (filled : value ≠ 0) (current : Nat) :
    written (some value) current = value := by
  obtain ⟨value, rfl⟩ := Nat.exists_eq_succ_of_ne_zero filled
  rfl

theorem planLimit_written {α : Type} {asked seen current : Nat} {value maximum zero : α}
    {size : α → Nat} (none : size zero = 0)
    (settled : Settled asked (size value) seen current (size maximum)) :
    let plan := planLimit asked seen value maximum zero
    written (plan.1.map size) current = size plan.2.1 ∧
      (plan.2.2 = true ↔ asked = 0 ∧ current ≠ 0) := by
  unfold planLimit
  by_cases cleared : asked = 0
  · by_cases unset : current = 0
    · simp [cleared, (settled.unchanged cleared).mpr unset, unset, written, none]
    · have set : 0 < seen :=
        Nat.pos_of_ne_zero fun absent => unset ((settled.unchanged cleared).mp absent)
      simp [cleared, set, unset, written_of_ne_zero (settled.sized cleared unset)]
  · simp [Nat.pos_of_ne_zero cleared, cleared, written_of_ne_zero (settled.printed cleared)]

theorem Cpus.nanos_cores (cores : Nat) : Cpus.nanos ⟨cores, 0⟩ = 1000000000 * cores := by
  simp [Cpus.nanos, Cpus.micros, Nat.mod_one]
  omega

/-- An answer is right in every state that any interleaving reaches. -/
theorem limits_reported (ctx : Context) (limits : Limits) (events : List Event) (event : Event)
    (undisturbed : Undisturbed ctx (run ctx limits events) event) :
    Reported ctx (run ctx limits events) event := by
  generalize run ctx limits events = state at undisturbed
  intro response answered
  cases event with
  | fail id => contradiction
  | start id request | inspect id =>
    simp only [step] at answered
    split at answered <;> contradiction
  | preflight id =>
    simp only [step] at answered
    split at answered
    · rename_i request resolved phase _
      rw [undisturbed request resolved phase] at answered
      contradiction
    · contradiction
  | update id exit =>
  simp only [step] at answered
  split at answered
  · rename_i request resolved phase
    obtain ⟨cpus, memory⟩ := undisturbed request resolved phase
    have cores : ctx.hostCores ≠ 0 → Cpus.nanos ⟨ctx.hostCores, 0⟩ ≠ 0 := by
      rw [Cpus.nanos_cores]
      omega
    have cpu := planLimit_written (show Cpus.nanos ⟨0, 0⟩ = 0 from rfl)
      ⟨cpus.printed, cpus.unchanged, fun cleared set => cores (cpus.sized cleared set)⟩
    have ram := @planLimit_written Nat _ _ _ _ _ 0 (fun bytes => bytes) rfl memory
    split at answered
    · contradiction
    · rename_i flags result planned
      dsimp only [planLimits] at planned
      split at planned
      · contradiction
      cases planned
      cases answered
      refine ⟨⟨_, List.mem_cons_self, cpu.1, ?_⟩, ?_⟩
      · simpa [Limits.update] using ram.1
      · rw [← cpu.2, ← ram.2, Bool.or_eq_true]
    · contradiction
  · contradiction

def roomy : Context := ⟨4, some (2 ^ 33)⟩

def twoCpus : LimitsRequest := ⟨⟨2, 0⟩, 0, none, none, .inl rfl, nofun⟩

def someMemory : LimitsRequest := ⟨⟨0, 0⟩, minMemoryBytes, none, none, .inr (Nat.le_refl _), nofun⟩

/-- The other request sets the memory limit before this one looks. -/
def earlyMemory : List Event :=
  [.start 0 twoCpus, .start 1 someMemory, .inspect 1, .preflight 1, .update 1 .success, .inspect 0,
    .preflight 0]

theorem limits_reported_beside :
    Reported roomy (run roomy ⟨0, 0⟩ earlyMemory) (.update 0 .success) := by
  apply limits_reported
  intro request resolved phase
  cases phase
  exact ⟨⟨by decide, by decide, by decide⟩, by decide, by decide, by decide⟩

/-- The other request sets the memory limit after this one has looked. -/
def lateMemory : List Event :=
  [.start 0 twoCpus, .inspect 0, .start 1 someMemory, .inspect 1, .preflight 1, .update 1 .success,
    .preflight 0]

theorem memory_limit_untold :
    ¬ Reported roomy (run roomy ⟨0, 0⟩ lateMemory) (.update 0 .success) := by
  intro reported
  have had := (reported _ rfl).had
  revert had
  decide

end OpsEngine.Docker
