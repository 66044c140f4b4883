import Mathlib.Algebra.GroupWithZero.Nat
import OpsEngine.Data.Lines
import OpsEngine.Data.Search

namespace OpsEngine.MariaSlowLog

open Text

/-! # Clearing the slow query log

`db.clearMariaSlowLog` switches the log off, empties its file and switches it on again if
it was on.  Every command runs under the request's cancellation token, the one that
switches the log on again too.
-/

/-- `emptied` has, for each time the log file was emptied, whether the log was on. -/
structure Server where
  enabled : Bool
  logFile : Text
  size : Nat
  emptied : List Bool

/-- How a command ends, with whether it took effect where that is open.  A child that is
lost cannot be waited for; one that is rejected exits with an error or runs out of time. -/
inductive Fate where
  | unstarted
  | lost (effect : Bool)
  | rejected (effect : Bool)
  | cancelled (effect : Bool)
  | succeeded (utf8 : Bool)

def Fate.acts : Fate → Bool
  | .unstarted => false
  | .lost effect | .rejected effect | .cancelled effect => effect
  | .succeeded _ => true

inductive Error where
  | run
  | rejected
  | invalidStatus
  | invalidLogPath
  | cancelled
  | postCommit

def runFixed : Fate → Except Error Unit
  | .unstarted | .lost _ => .error .run
  | .rejected _ | .cancelled _ => .error .rejected
  | .succeeded _ => .ok ()

def runMariadb (fate : Fate) : Except Error Unit :=
  match fate with
  | .succeeded false => .error .invalidStatus
  | _ => runFixed fate

def parseStatus (value : Text) : Except Error (Bool × Text) :=
  match splitOnce? ['\t'] (trim value) with
  | none => .error .invalidStatus
  | some (enabled, path) =>
    let checked := fun enabled : Bool =>
      if path.isEmpty || decide (4096 < (path.map Char.utf8Size).sum) || path.head? ≠ some '/' ||
          path.any (fun c => c.toNat == 0 || c == '\n' || c == '\r') then .error .invalidLogPath
      else .ok (enabled, path)
    if enabled = "0".toList ∨ enabled = "OFF".toList then checked false
    else if enabled = "1".toList ∨ enabled = "ON".toList then checked true
    else .error .invalidStatus

def Server.switch (server : Server) (fate : Fate) (on : Bool) : Server :=
  if fate.acts then { server with enabled := on } else server

/-- `truncate -s 0` of a path; the size is that of the log file. -/
def Server.truncate (server : Server) (fate : Fate) (path : Text) : Server :=
  if fate.acts ∧ path = server.logFile then
    { server with size := 0, emptied := server.enabled :: server.emptied }
  else server

/-- What happens to an admitted request: whether it is cancelled before its first command,
how each command ends and whether the end is recorded. -/
structure Weather where
  cancelled : Bool
  status : Fate
  off : Fate
  truncate : Fate
  on : Fate
  saved : Bool

/-- `execute` from the command that switches the log off. -/
def clear (weather : Weather) (enabled : Bool) (path : Text) (server : Server) :
    Except Error Bool × Server :=
  let off := server.switch weather.off false
  match runMariadb weather.off with
  | .error error => (.error error, off)
  | .ok _ =>
    let emptied := off.truncate weather.truncate path
    let restored := if enabled then emptied.switch weather.on true else emptied
    match runFixed weather.truncate with
    | .error error => (.error error, restored)
    | .ok _ =>
      match if enabled then runMariadb weather.on else .ok () with
      | .error error => (.error error, restored)
      | .ok _ => (if weather.saved then .ok enabled else .error .postCommit, restored)

section Runs

-- what the client prints for a flag and the path of the log file
variable (prints : Bool → Text → Text)

/-- The answer tells whether the log was on. -/
def execute (weather : Weather) (server : Server) : Except Error Bool × Server :=
  if weather.cancelled then (.error .cancelled, server)
  else match runMariadb weather.status with
  | .error error => (.error error, server)
  | .ok _ =>
    match parseStatus (prints server.enabled server.logFile) with
    | .error error => (.error error, server)
    | .ok (enabled, path) => clear weather enabled path server

/-- Where the printed status is accepted, its flag is the server's. -/
def Truthful : Prop :=
  ∀ enabled logFile flag path, parseStatus (prints enabled logFile) = .ok (flag, path) →
    flag = enabled

/-- The log is as it was, and a success has emptied its file while the log was off. -/
def Cleared (server : Server) (answer : Except Error Bool × Server) : Prop :=
  answer.2.enabled = server.enabled ∧
    ∀ enabled, answer.1 = .ok enabled → answer.2.emptied = false :: server.emptied

/-- A command that is started and not cancelled takes effect. -/
def Fate.Compensates (fate : Fate) : Prop := fate ≠ .lost false ∧ fate ≠ .rejected false

/-- The status query works and prints something that is accepted. -/
def Weather.reads (weather : Weather) (server : Server) : Bool :=
  !weather.cancelled && (runMariadb weather.status).isOk &&
    (parseStatus (prints server.enabled server.logFile)).isOk

/-- Every command after the status query works, and the end is recorded. -/
def Weather.works (weather : Weather) (enabled : Bool) : Bool :=
  (runMariadb weather.off).isOk && (runFixed weather.truncate).isOk &&
    (!enabled || (runMariadb weather.on).isOk) && weather.saved

/-- Where the log is on, the command that switches it off does not take effect when it
fails; when it works, the one that switches the log on again is started and not cancelled
before it took effect.  Where everything works, the path that was read is that of the log. -/
structure Weather.Fair (weather : Weather) (server : Server) : Prop where
  restores : server.enabled = true → weather.reads prints server = true →
    if (runMariadb weather.off).isOk then weather.on ≠ .unstarted ∧ weather.on ≠ .cancelled false
    else weather.off.acts = false
  named : weather.reads prints server = true → weather.works server.enabled = true →
    parseStatus (prints server.enabled server.logFile) = .ok (server.enabled, server.logFile)

end Runs

theorem runMariadb_ok {fate : Fate} (worked : runMariadb fate = .ok ()) :
    fate = .succeeded true := by
  match fate with
  | .succeeded true => rfl

theorem runFixed_ok {fate : Fate} (worked : runFixed fate = .ok ()) : fate.acts = true := by
  match fate with
  | .succeeded _ => rfl

variable {prints : Bool → Text → Text} {weather : Weather} {server : Server} {path : Text}

theorem execute_cases (prints : Bool → Text → Text) (weather : Weather) (server : Server) :
    weather.reads prints server = false ∧
        (∃ error, execute prints weather server = (.error error, server)) ∨
      weather.reads prints server = true ∧ ∃ enabled path,
        parseStatus (prints server.enabled server.logFile) = .ok (enabled, path) ∧
        execute prints weather server = clear weather enabled path server := by
  unfold Weather.reads execute
  cases weather.cancelled with
  | true => exact .inl ⟨rfl, _, rfl⟩
  | false =>
  cases runMariadb weather.status with
  | error error => exact .inl ⟨rfl, _, rfl⟩
  | ok _ =>
  cases parsed : parseStatus (prints server.enabled server.logFile) with
  | error error => exact .inl ⟨rfl, _, rfl⟩
  | ok read => exact .inr ⟨rfl, read.1, read.2, rfl, rfl⟩

@[simp] theorem Server.switch_enabled (fate : Fate) (on : Bool) :
    (server.switch fate on).enabled = if fate.acts then on else server.enabled := by
  unfold switch
  split <;> rfl

@[simp] theorem Server.switch_emptied (fate : Fate) (on : Bool) :
    (server.switch fate on).emptied = server.emptied := by
  unfold switch
  split <;> rfl

@[simp] theorem Server.switch_logFile (fate : Fate) (on : Bool) :
    (server.switch fate on).logFile = server.logFile := by
  unfold switch
  split <;> rfl

@[simp] theorem Server.truncate_enabled (fate : Fate) :
    (server.truncate fate path).enabled = server.enabled := by
  unfold truncate
  split <;> rfl

/-- The server after a successful OFF command. -/
def Weather.left (weather : Weather) (enabled : Bool) (path : Text) (server : Server) : Server :=
  let emptied := (server.switch weather.off false).truncate weather.truncate path
  if enabled then emptied.switch weather.on true else emptied

theorem clear_worked {enabled : Bool} (worked : runMariadb weather.off = .ok ()) :
    (clear weather enabled path server).2 = weather.left enabled path server ∧
      ((∃ answer, (clear weather enabled path server).1 = .ok answer) ↔
        weather.works enabled = true) := by
  simp only [clear, worked, Weather.left, Weather.works]
  cases runFixed weather.truncate with
  | error error => simp [Except.isOk, Except.toBool]
  | ok _ =>
    cases enabled <;> cases runMariadb weather.on <;> cases weather.saved <;>
      simp [Except.isOk, Except.toBool]

section Left

variable {enabled : Bool} (worked : runMariadb weather.off = .ok ())
include worked

theorem switched_off : (server.switch weather.off false).enabled = false := by
  rw [runMariadb_ok worked]
  rfl

/-- Once the log is off, only the last command decides what it is in the end. -/
theorem left_enabled : (weather.left enabled path server).enabled = (enabled && weather.on.acts) := by
  have off := @switched_off weather server worked
  cases enabled with
  | false => simp only [Weather.left, Bool.false_eq_true, if_false, Server.truncate_enabled, off,
      Bool.false_and]
  | true =>
    rw [Weather.left, if_pos rfl, Server.switch_enabled, Server.truncate_enabled, off]
    cases weather.on.acts <;> rfl

theorem left_emptied : (weather.left enabled path server).emptied =
    if weather.truncate.acts ∧ path = server.logFile then false :: server.emptied
    else server.emptied := by
  have off := @switched_off weather server worked
  have emptied : ((server.switch weather.off false).truncate weather.truncate path).emptied =
      if weather.truncate.acts ∧ path = server.logFile then false :: server.emptied
      else server.emptied := by
    simp only [Server.truncate, Server.switch_logFile]
    split <;> simp only [off, Server.switch_emptied]
  cases enabled with
  | false => exact emptied
  | true => exact (Server.switch_emptied _ _).trans emptied

end Left

theorem slow_log_cleared_iff (prints : Bool → Text → Text) (truthful : Truthful prints)
    (weather : Weather) (server : Server) (compensates : weather.on.Compensates) :
    Cleared server (execute prints weather server) ↔ weather.Fair prints server := by
  rcases execute_cases prints weather server with
    ⟨unread, error, same⟩ | ⟨reads, flag, path, parsed, same⟩
  · refine ⟨fun _ => ⟨?_, ?_⟩, fun _ => by simp [same, Cleared]⟩ <;> simp [unread]
  obtain rfl := truthful _ _ _ _ parsed
  have acts : weather.on.acts = true ↔ weather.on ≠ .unstarted ∧ weather.on ≠ .cancelled false := by
    obtain ⟨lost, rejected⟩ := compensates
    cases fate : weather.on <;> simp_all [Fate.acts]
  cases ran : runMariadb weather.off with
  | error error =>
    have fails : weather.works server.enabled = false := by
      simp [Weather.works, ran, Except.isOk, Except.toBool]
    have answer : execute prints weather server = (.error error, server.switch weather.off false) := by
      rw [same, clear, ran]
    constructor
    · rintro ⟨flag, _⟩
      rw [answer] at flag
      refine ⟨fun on _ => ?_, by simp [fails]⟩
      simpa [ran, Except.isOk, Except.toBool, on] using flag
    · intro fair
      rw [answer]
      refine ⟨?_, nofun⟩
      cases on : server.enabled with
      | false => simp [on]
      | true => simpa [ran, Except.isOk, Except.toBool, on] using fair.restores on reads
  | ok _ =>
    obtain ⟨left, succeeds⟩ := @clear_worked weather server path server.enabled ran
    have flags : (execute prints weather server).2.enabled = server.enabled ↔
        (server.enabled = true → weather.on.acts = true) := by
      rw [same, left, left_enabled ran]
      cases server.enabled <;> simp
    have empties : (∀ answer, (execute prints weather server).1 = .ok answer →
          (execute prints weather server).2.emptied = false :: server.emptied) ↔
        (weather.works server.enabled = true → path = server.logFile) := by
      rw [same, left, left_emptied ran, ← exists_imp, succeeds]
      refine forall_congr' fun works => ?_
      have acts : weather.truncate.acts = true := by
        simp only [Weather.works, Bool.and_eq_true] at works
        cases emptied : runFixed weather.truncate with
        | error error => simp [emptied, Except.isOk, Except.toBool] at works
        | ok _ => exact runFixed_ok emptied
      by_cases there : path = server.logFile <;> simp [acts, there]
    rw [Cleared, flags, empties]
    constructor
    · refine fun cleared => ⟨fun on _ => ?_, fun _ works => by rw [parsed, cleared.2 works]⟩
      simpa [ran, Except.isOk, Except.toBool] using acts.mp (cleared.1 on)
    · refine fun fair => ⟨fun on => acts.mpr ?_, fun works => ?_⟩
      · simpa [ran, Except.isOk, Except.toBool] using fair.restores on reads
      · have named := fair.named reads works
        rw [parsed] at named
        simpa using named

def slowServer : Server := ⟨true, "/slow.log".toList, 5, []⟩

/-- A client that prints the flag and the path as they are. -/
def plainly (enabled : Bool) (logFile : Text) : Text :=
  (if enabled then '1' else '0') :: '\t' :: (logFile ++ ['\n'])

theorem truthful_plainly : Truthful plainly := by
  intro enabled logFile flag path parsed
  have shorter : trim (plainly enabled logFile) <+: plainly enabled logFile := by
    have start : trimStart (plainly enabled logFile) = plainly enabled logFile := by
      cases enabled <;> simp [plainly, trimStart, isWhitespace]
    rw [trim, start]
    exact List.rdropWhile_prefix _ _
  unfold parseStatus at parsed
  generalize trim (plainly enabled logFile) = value at parsed shorter
  -- The text before the first tab is the flag.
  cases enabled <;> simp only [plainly] at shorter <;>
    rcases value with _ | ⟨flag, _ | ⟨tab, rest⟩⟩ <;>
    simp_all [splitOnce?, List.isPrefixOf, List.cons_prefix_cons]
  all_goals
    split at parsed
    · contradiction
    · simp_all

/-- Every command works but `truncate`, which is cancelled as the one after it is. -/
def cancelledMidway (effect : Bool) : Weather where
  cancelled := false
  status := .succeeded true
  off := .succeeded true
  truncate := .cancelled false
  on := .cancelled effect
  saved := true

theorem switched_on_again :
    Truthful plainly ∧ (cancelledMidway true).on.Compensates ∧
      Cleared slowServer (execute plainly (cancelledMidway true) slowServer) := by
  have compensates : (cancelledMidway true).on.Compensates := ⟨nofun, nofun⟩
  exact ⟨truthful_plainly, compensates, (slow_log_cleared_iff _ truthful_plainly _ _ compensates).mpr
    ⟨fun _ _ => ⟨nofun, nofun⟩, nofun⟩⟩

theorem left_switched_off :
    Truthful plainly ∧ (cancelledMidway false).on.Compensates ∧
      ¬ Cleared slowServer (execute plainly (cancelledMidway false) slowServer) := by
  refine ⟨truthful_plainly, ⟨nofun, nofun⟩, fun cleared => ?_⟩
  have same := cleared.1
  revert same
  decide

theorem execute_emptied (prints : Bool → Text → Text) (weather : Weather) (server : Server) :
    (execute prints weather server).2.emptied.count true = server.emptied.count true := by
  rcases execute_cases prints weather server with ⟨-, error, same⟩ | ⟨-, flag, path, -, same⟩ <;>
    rw [same]
  cases worked : runMariadb weather.off with
  | error error => simp [clear, worked]
  | ok _ =>
    rw [(clear_worked worked).1, left_emptied worked]
    split <;> simp

/-- Whatever fails and whatever the client prints, the file is emptied only while the log
is off. -/
theorem never_emptied_while_on (prints : Bool → Text → Text) (weathers : List Weather)
    (server : Server) :
    (weathers.foldl (fun server weather => (execute prints weather server).2) server).emptied.count
        true = server.emptied.count true := by
  induction weathers generalizing server with
  | nil => rfl
  | cons weather rest ih => exact (ih _).trans (execute_emptied prints weather server)

end OpsEngine.MariaSlowLog
