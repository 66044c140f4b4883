import OpsEngine.Data.Records
import OpsEngine.Effect.History
import OpsEngine.Files.Frame
import OpsEngine.Files.Steps

namespace OpsEngine

open Effect Files

/-! # The host the engine runs on

The directories, file names and file contents the engine works with, the
questions it puts to the world outside its disk, and programs over them.
-/

/-- One preflight scope and one site's content root, with the directories below
them. -/
inductive Dir where
  | scope
  | content
  | transactions
  | idempotency
  | locks
  | audit
  | deploymentRecovery
  | plans
  | pending
  | resourceLocks
  | site
  | releases
deriving DecidableEq

/-- The file names the engine builds.  `foreign` is any name of another shape. -/
inductive Name where
  | json (id : RequestId)
  | index (hash : UInt64)
  | resourceLock (hash : String)
  | mutationLock
  | events
  | current
  | currentTmp (release : ReleaseId)
  | release (release : ReleaseId)
  | tmp (name : Name)
  | foreign (text : Text)
deriving DecidableEq

namespace Name

/-- `name.ends_with(".json")`. -/
def endsWithJson : Name → Bool
  | json _ | index _ => true
  | foreign text => ".json".toList.isSuffixOf text
  | _ => false

/-- `name.strip_suffix(".json")`, parsed as a request id.  The index names are
sixteen hex digits, which is no UUID. -/
def requestId? : Name → Option RequestId
  | json id => some id
  | _ => none

/-- `ReleaseId::parse(name)`. -/
def releaseId? : Name → Option ReleaseId
  | release id => some id
  | _ => none

end Name

/-- A complete file content, as what it parses to. -/
inductive Content where
  | claim (record : IndexRecord)
  | record (state : TransactionState)
  | lock (record : LockRecord)
  | audit (record : AuditRecord)
  | checkpoint (checkpoint : Checkpoint)

abbrev FilePath := Pathname Dir Name

structure SiteIdentity where
  uid : Nat
  gid : Nat
deriving DecidableEq

/-- One argument of a subprocess.  Paths below a managed root and the
`core.sshCommand` setting for a credential stay what they were built from. -/
inductive Argument where
  | text (text : Text)
  | path (path : FilePath)
  | sshCommand (credentialId : SiteId)
deriving DecidableEq

structure ProcessRequest where
  program : String
  args : List Argument
  runAs : Option SiteIdentity
deriving DecidableEq

inductive ProcessTermination where
  | exited (success : Bool)
  | timedOut
  | cancelled
deriving DecidableEq

structure ProcessOutput where
  termination : ProcessTermination
  stdout : Text

inductive ProcessRunError where
  | spawn
  | supervision
deriving DecidableEq

/-- `process::spawn_error_code`: a missing executable is a dependency problem,
every other runner failure is internal. -/
def spawnErrorCode : ProcessRunError → ErrorCode
  | .spawn => .dependencyUnavailable
  | .supervision => .internal

/-- What the engine asks outside its disk: the clock, its cancellation token, a
directory's modification time and owner, a subprocess. -/
inductive Query where
  | now
  | cancelled
  | modified (path : FilePath)
  | chown (path : FilePath) (identity : SiteIdentity)
  | process (request : ProcessRequest)

def Answer : Query → Type
  | .now => Nat
  | .cancelled => Bool
  | .modified _ => Nat
  | .chown _ _ => Except IoError Unit
  | .process _ => Except ProcessRunError ProcessOutput

abbrev SysOp := Op Dir Name Content Query

abbrev Action (α : Type) := Program SysOp (Op.Result Answer) α

abbrev System (Actor : Type) := Disk Dir Name Content Actor

abbrev SysChoice := Choice Name Query Answer

abbrev host {Actor : Type} [DecidableEq Actor] :
    Machine SysOp (Op.Result Answer) (System Actor) Actor SysChoice :=
  Files.machine

abbrev SysEntry := Sigma (Op.Result Answer : SysOp → Type)

abbrev SysJournal := Journal SysOp (Op.Result Answer)

abbrev RecordedSystem (Actor : Type) := Recorded SysOp (Op.Result Answer) (System Actor) Actor

/-- The clock at `now`, nothing cancelled, no process to be started. -/
def answerAt (now : Nat) : (query : Query) → Answer query
  | .now => now
  | .cancelled => false
  | .modified _ => (0 : Nat)
  | .chown _ _ => .ok ()
  | .process _ => .error .spawn

def healthyChoice (now : Nat) : SysChoice := { fault := false, order := [], answer := answerAt now }

def faultyChoice : SysChoice := { fault := true, order := [], answer := answerAt 0 }

/-! The system calls, as one-operation programs. -/

abbrev createDirAll (dir : Dir) : Action (Except IoError Unit) :=
  Program.call (Op.createDirAll dir)

abbrev openDir (dir : Dir) : Action (Except IoError Unit) :=
  Program.call (Op.openDir dir)

abbrev openNew (path : FilePath) : Action (Except IoError Nat) :=
  Program.call (Op.openNew path)

abbrev openTruncate (path : FilePath) : Action (Except IoError Nat) :=
  Program.call (Op.openTruncate path)

abbrev openOrCreate (path : FilePath) : Action (Except IoError Nat) :=
  Program.call (Op.openOrCreate path)

abbrev write (inode : Nat) (path : FilePath) (content : Content) : Action (Except IoError Unit) :=
  Program.call (Op.write inode path content)

abbrev truncate (inode : Nat) (path : FilePath) : Action (Except IoError Unit) :=
  Program.call (Op.truncate inode path)

abbrev sync (path : FilePath) : Action (Except IoError Unit) :=
  Program.call (Op.sync path)

abbrev read (path : FilePath) : Action (Except IoError (Option Content)) :=
  Program.call (Op.read path)

abbrev present (path : FilePath) : Action Bool :=
  Program.call (Op.present path)

abbrev removeFile (path : FilePath) : Action (Except IoError Unit) :=
  Program.call (Op.remove path)

abbrev rename (source target : FilePath) : Action (Except IoError Unit) :=
  Program.call (Op.rename source target)

abbrev appendFile (path : FilePath) (content : Content) : Action (Except IoError Unit) :=
  Program.call (Op.append path content)

abbrev listDir (dir : Dir) : Action (Except IoError (List (Name × Bool))) :=
  Program.call (Op.list dir)

abbrev symlink (link target : FilePath) : Action (Except IoError Unit) :=
  Program.call (Op.symlink link target)

abbrev readLink (path : FilePath) : Action (Except IoError FilePath) :=
  Program.call (Op.readLink path)

abbrev createDir (path : FilePath) : Action (Except IoError Unit) :=
  Program.call (Op.createDir path)

abbrev removeDirAll (path : FilePath) : Action (Except IoError Unit) :=
  Program.call (Op.removeDirAll path)

abbrev flock (path : FilePath) : Action (Except IoError Unit) :=
  Program.call (Op.lock path)

abbrev unlock (path : FilePath) : Action Unit :=
  Program.call (Op.unlock path)

abbrev unixNowSecs : Action Nat :=
  Program.call (Op.ask Query.now)

abbrev isCancelled : Action Bool :=
  Program.call (Op.ask Query.cancelled)

abbrev modified (path : FilePath) : Action Nat :=
  Program.call (Op.ask (Query.modified path))

abbrev chown (path : FilePath) (identity : SiteIdentity) : Action (Except IoError Unit) :=
  Program.call (Op.ask (Query.chown path identity))

abbrev runProcess (request : ProcessRequest) : Action (Except ProcessRunError ProcessOutput) :=
  Program.call (Op.ask (Query.process request))

/-! `ManagedRoot`: the few operations that are more than one system call. -/

/-- `ManagedRoot::create_new`: the exclusive creation is one step, writing the
content another. -/
def createNew (path : FilePath) (content : Content) : Action (Except IoError Unit) := do
  match ← openNew path with
  | .error error => return .error error
  | .ok inode => write inode path content

def tempSiblingPath (path : FilePath) : FilePath := { path with name := .tmp path.name }

/-- `ManagedRoot::write_atomic`: temp file, content, sync, rename. -/
def writeAtomic (path : FilePath) (content : Content) : Action (Except IoError Unit) := do
  match ← openTruncate (tempSiblingPath path) with
  | .error error => return .error error
  | .ok inode =>
    match ← write inode (tempSiblingPath path) content with
    | .error error => return .error error
    | .ok () =>
      match ← sync (tempSiblingPath path) with
      | .error error => return .error error
      | .ok () => rename (tempSiblingPath path) path

/-! The operations each of them is made of. -/

inductive Creating (path : FilePath) (content : Content) : SysOp → Prop where
  | openNew : Creating path content (.openNew path)
  | write (inode : Nat) : Creating path content (.write inode path content)

theorem createNew_every {path : FilePath} {content : Content} :
    (createNew path content).Every (Creating path content) := by
  refine Program.every_call_bind .openNew fun answer => ?_
  cases answer with
  | error error => trivial
  | ok inode => exact Program.every_call.mpr (.write inode)

/-- The operations on the temp file of a replacement. -/
inductive Preparing (path : FilePath) (content : Content) : SysOp → Prop where
  | openTruncate : Preparing path content (.openTruncate (tempSiblingPath path))
  | write (inode : Nat) : Preparing path content (.write inode (tempSiblingPath path) content)
  | sync : Preparing path content (.sync (tempSiblingPath path))

inductive Replacing (path : FilePath) (content : Content) : SysOp → Prop where
  | prepare {operation : SysOp} (preparing : Preparing path content operation) :
      Replacing path content operation
  | rename : Replacing path content (.rename (tempSiblingPath path) path)

theorem writeAtomic_every {path : FilePath} {content : Content} :
    (writeAtomic path content).Every (Replacing path content) := by
  refine Program.every_call_bind (.prepare .openTruncate) fun answer => ?_
  cases answer with
  | error error => trivial
  | ok inode =>
  refine Program.every_call_bind (.prepare (.write inode)) fun answer => ?_
  cases answer with
  | error error => trivial
  | ok _ =>
    refine Program.every_call_bind (.prepare .sync) fun answer => ?_
    cases answer with
    | error error => trivial
    | ok _ => exact Program.every_call.mpr .rename

variable {operation : SysOp} {content : Content} {path : FilePath}

theorem Creating.within
    (creating : Creating path content operation) : operation.Within (· = path) := by
  cases creating <;> exact ⟨fun _ => id, fun _ => id⟩

theorem Preparing.within (preparing : Preparing path content operation) :
    operation.Within (· = tempSiblingPath path) := by
  cases preparing with
  | openTruncate | write => exact ⟨fun _ => id, fun _ => id⟩
  | sync => exact within_sync

theorem Replacing.within (replacing : Replacing path content operation) :
    operation.Within fun other => other = tempSiblingPath path ∨ other = path := by
  cases replacing with
  | prepare preparing => exact preparing.within.mono fun _ => .inl
  | rename => exact ⟨fun _ => id, fun _ => id⟩

theorem Preparing.regular {Actor : Type} [DecidableEq Actor] {actor : Actor} {choice : SysChoice}
    {state : System Actor} (preparing : Preparing path content operation)
    (regular : state.Regular (tempSiblingPath path)) :
    (host.exec actor choice operation state).2.Regular (tempSiblingPath path) := by
  cases preparing with
  | openTruncate =>
    exact machine_openTruncate regular (fun _ => Disk.Regular.put rfl) (Disk.Regular.createFile state _)
  | write inode =>
    exact machine_write regular (regular.fill inode _)
  | sync => exact machine_sync regular regular

/-- Nothing outside makes a system call fail. -/
abbrev Healthy (choice : SysChoice) : Prop := choice.fault = false

abbrev uninterrupted {Actor : Type} : Discipline SysOp (System Actor) Actor SysChoice :=
  .alone Healthy fun _ _ => True

theorem tempSiblingPath_ne (path : FilePath) : path ≠ tempSiblingPath path := by
  intro same
  have names := congrArg Pathname.name same
  have size := congrArg sizeOf names
  simp [tempSiblingPath] at size

section Replace

variable {Actor : Type} [DecidableEq Actor] {actor : Actor} {path : FilePath} {content : Content}
  {discipline : Discipline SysOp (System Actor) Actor SysChoice}
  {before after : System Actor → Prop}

/-- What a caller of `write_atomic` owes: the temp file is its own, `before`
survives the calls on it, and the rename turns `before` into `after`. -/
structure ReplaceContract (discipline : Discipline SysOp (System Actor) Actor SysChoice)
    (actor : Actor) (path : FilePath) (content : Content) (before after : System Actor → Prop) :
    Prop where
  stable : Stable (discipline.rely actor) before
  stableTemp : ∀ node, Stable (discipline.rely actor) fun state =>
    state.node (tempSiblingPath path) = node
  quiet : ∀ operation choice state, Preparing path content operation → before state →
    discipline.admits actor choice operation state →
    discipline.keeps actor choice operation state ∧
      before (host.exec actor choice operation state).2
  refused : ∀ choice state error, before state →
    discipline.admits actor choice (.rename (tempSiblingPath path) path) state →
    host.exec actor choice (.rename (tempSiblingPath path) path) state = (.error error, state) →
    discipline.keeps actor choice (.rename (tempSiblingPath path) path) state
  replaced : ∀ choice state inode, before state →
    discipline.admits actor choice (.rename (tempSiblingPath path) path) state →
    host.exec actor choice (.rename (tempSiblingPath path) path) state =
      (.ok (), (state.drop (tempSiblingPath path)).put path (.file inode (some content))) →
    discipline.keeps actor choice (.rename (tempSiblingPath path) path) state ∧
      after ((state.drop (tempSiblingPath path)).put path (.file inode (some content)))

variable {state : System Actor}

/-- A caller that keeps its contract has replaced the file when `write_atomic`
succeeded, and nothing but its temp file otherwise. -/
theorem safe_writeAtomic (contract : ReplaceContract discipline actor path content before after)
    (holds : before state) :
    Safe host discipline actor (Outcomes (fun _ => after) fun _ => before)
      (writeAtomic path content) state := by
  have stable := fun node => contract.stable.and (contract.stableTemp node)
  refine safe_call_bind before contract.stable holds fun now choice asserted admitted => ?_
  obtain ⟨kept, still⟩ :=
    contract.quiet _ choice now .openTruncate asserted admitted
  refine ⟨kept, ?_⟩
  have opened : ∀ inode, (host.exec actor choice (.openTruncate (tempSiblingPath path)) now).1 =
      .ok inode → (host.exec actor choice (.openTruncate (tempSiblingPath path)) now).2.node
        (tempSiblingPath path) = some (.file inode none) := by
    intro inode
    refine machine_openTruncate nofun (fun found answered => ?_)
      fun answered => ?_
    · cases answered
      simp
    · cases answered
      simp
  split
  · exact still
  rename_i inode answered
  refine safe_call_bind _ (stable _) ⟨still, opened inode answered⟩
    fun now choice asserted admitted => ?_
  obtain ⟨kept, still⟩ := contract.quiet _ choice now (.write inode) asserted.1 admitted
  refine ⟨kept, ?_⟩
  revert still
  refine machine_write id fun still => ?_
  refine safe_call_bind _ (stable _) ⟨still, Disk.node_fill_opened asserted.2 _⟩
    fun now choice asserted admitted => ?_
  obtain ⟨kept, still⟩ := contract.quiet _ choice now .sync asserted.1 admitted
  refine ⟨kept, ?_⟩
  revert still
  refine machine_sync id fun still => ?_
  refine safe_call _ (stable _) ⟨still, asserted.2⟩ fun now choice asserted admitted => ?_
  rcases machine_rename actor choice now (tempSiblingPath path) path with
    ⟨error, failed⟩ | ⟨node, found, _, renamed⟩
  · refine ⟨contract.refused choice now error asserted.1 admitted failed, ?_⟩
    rw [failed]
    exact asserted.1
  · rw [asserted.2] at found
    cases found
    obtain ⟨kept, holds⟩ := contract.replaced choice now inode asserted.1 admitted renamed
    refine ⟨kept, ?_⟩
    rw [renamed]
    exact holds

theorem healthy_writeAtomic (regular : state.Regular (tempSiblingPath path))
    (free : state.node path ≠ some .directory) :
    Safe host uninterrupted actor (fun result _ => result = .ok ()) (writeAtomic path content)
      state := by
  apply alone_call_bind trivial
  intro choice healthy
  obtain ⟨inode, after, opened, node⟩ := healthy_openTruncate actor healthy regular
  have target : after.node path = state.node path := by
    have framed : (host.exec actor choice (.openTruncate (tempSiblingPath path)) state).2.node path =
        state.node path := Disk.exec_node (tempSiblingPath_ne path)
    rwa [opened] at framed
  rw [opened]
  refine alone_exec_bind trivial healthy_write ?_
  refine alone_exec_bind trivial healthy_sync ?_
  apply alone_call trivial
  intro choice healthy
  rw [healthy_rename healthy (Disk.node_fill_opened node _)
    (by rw [Disk.node_fill_of_ne (tempSiblingPath_ne path), target]; exact free)]

end Replace

def fileNames (dir : Dir) : Action (Except IoError (List Name)) := do
  match ← listDir dir with
  | .error error => return .error error
  | .ok entries => return .ok ((entries.filter fun entry => entry.2).map fun entry => entry.1)

end OpsEngine
