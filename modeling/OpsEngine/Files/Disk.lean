import Mathlib.Data.List.AList
import Mathlib.Data.List.Dedup
import OpsEngine.Effect.Machine

namespace OpsEngine.Files

open Effect

/-! # A disk with system calls as atomic steps

Each operation is one system call: creating a file and writing its content are
two, so a process can end between them.  A file that was never completely written
holds `none`.  Writes go to the inode the caller opened.  A second attempt on a
held advisory lock fails at once, also for the holder itself, as `flock` on a new
descriptor does.
-/

/-- The error kinds callers tell apart. -/
inductive IoError where
  | notFound
  | alreadyExists
  | wouldBlock
  | other
deriving DecidableEq, Repr

structure Pathname (Dir Name : Type) where
  dir : Dir
  name : Name
deriving DecidableEq, Repr

inductive Node (Dir Name Content : Type) where
  | file (inode : Nat) (content : Option Content)
  | link (target : Pathname Dir Name)
  | directory

def Node.isFile {Dir Name Content : Type} : Node Dir Name Content → Bool
  | .file _ _ => true
  | _ => false

inductive Op (Dir Name Content Query : Type) where
  | createDirAll (dir : Dir)
  | openDir (dir : Dir)
  | openNew (path : Pathname Dir Name)
  | openTruncate (path : Pathname Dir Name)
  | openOrCreate (path : Pathname Dir Name)
  | write (inode : Nat) (path : Pathname Dir Name) (content : Content)
  | truncate (inode : Nat) (path : Pathname Dir Name)
  | sync (path : Pathname Dir Name)
  | read (path : Pathname Dir Name)
  | present (path : Pathname Dir Name)
  | remove (path : Pathname Dir Name)
  | rename (source target : Pathname Dir Name)
  | append (path : Pathname Dir Name) (content : Content)
  | list (dir : Dir)
  | symlink (link target : Pathname Dir Name)
  | readLink (path : Pathname Dir Name)
  | createDir (path : Pathname Dir Name)
  | removeDirAll (path : Pathname Dir Name)
  | lock (path : Pathname Dir Name)
  | unlock (path : Pathname Dir Name)
  | ask (query : Query)

def Op.Result {Dir Name Content Query : Type} (Answer : Query → Type) :
    Op Dir Name Content Query → Type
  | createDirAll _ | openDir _ | write _ _ _ | truncate _ _ | sync _ | remove _ | rename _ _
  | append _ _ | symlink _ _ | createDir _ | removeDirAll _ | lock _ => Except IoError Unit
  | openNew _ | openTruncate _ | openOrCreate _ => Except IoError Nat
  | read _ => Except IoError (Option Content)
  | present _ => Bool
  | list _ => Except IoError (List (Name × Bool))
  | readLink _ => Except IoError (Pathname Dir Name)
  | unlock _ => Unit
  | ask query => Answer query

/-- What a failing operation answers.  Releasing a lock and asking the outside
world have no failure of their own. -/
def Op.failed {Dir Name Content Query : Type} {Answer : Query → Type} :
    (operation : Op Dir Name Content Query) → Option (operation.Result Answer)
  | createDirAll _ | openDir _ | write _ _ _ | truncate _ _ | sync _ | remove _ | rename _ _
  | append _ _ | symlink _ _ | createDir _ | removeDirAll _ | lock _
  | openNew _ | openTruncate _ | openOrCreate _ | read _ | list _ | readLink _ =>
    some (.error .other)
  | present _ => some false
  | unlock _ | ask _ => none

/-- What the environment decides about one operation: whether the system call
fails, in which order a directory lists its entries, and what the world outside
the disk answers. -/
structure Choice (Name Query : Type) (Answer : Query → Type) where
  fault : Bool
  order : List Name
  answer : (query : Query) → Answer query

structure Disk (Dir Name Content Actor : Type) where
  nodes : AList fun _ : Pathname Dir Name => Node Dir Name Content
  nextInode : Nat
  locks : Pathname Dir Name → Option Actor
  appended : List (Pathname Dir Name × Content)

variable {Dir Name Content Query Actor : Type} {Answer : Query → Type}
  [DecidableEq Dir] [DecidableEq Name]

namespace Disk

def empty : Disk Dir Name Content Actor :=
  { nodes := ∅, nextInode := 0, locks := fun _ => none, appended := [] }

def node (disk : Disk Dir Name Content Actor) (path : Pathname Dir Name) :
    Option (Node Dir Name Content) :=
  disk.nodes.lookup path

def put (disk : Disk Dir Name Content Actor) (path : Pathname Dir Name)
    (node : Node Dir Name Content) : Disk Dir Name Content Actor :=
  { disk with nodes := disk.nodes.insert path node }

def drop (disk : Disk Dir Name Content Actor) (path : Pathname Dir Name) :
    Disk Dir Name Content Actor :=
  { disk with nodes := disk.nodes.erase path }

@[simp] theorem node_put (disk : Disk Dir Name Content Actor) (path other : Pathname Dir Name)
    (node : Node Dir Name Content) :
    (disk.put path node).node other = if other = path then some node else disk.node other := by
  by_cases same : other = path
  · subst other
    simp [put, Disk.node, AList.lookup_insert]
  · simp [put, Disk.node, same, AList.lookup_insert_ne same]

@[simp] theorem node_drop (disk : Disk Dir Name Content Actor) (path other : Pathname Dir Name) :
    (disk.drop path).node other = if other = path then none else disk.node other := by
  by_cases same : other = path
  · subst other
    simp [drop, Disk.node, AList.lookup_erase]
  · simp [drop, Disk.node, same, AList.lookup_erase_ne same]

@[simp] theorem node_empty (path : Pathname Dir Name) :
    (empty : Disk Dir Name Content Actor).node path = none :=
  AList.lookup_empty path

/-- Create a file under a fresh inode, with nothing written to it yet. -/
def createFile (disk : Disk Dir Name Content Actor) (path : Pathname Dir Name) :
    Except IoError Nat × Disk Dir Name Content Actor :=
  (.ok disk.nextInode,
    { disk.put path (.file disk.nextInode none) with nextInode := disk.nextInode + 1 })

@[simp] theorem node_createFile (disk : Disk Dir Name Content Actor) (path other : Pathname Dir Name) :
    (disk.createFile path).2.node other =
      if other = path then some (.file disk.nextInode none) else disk.node other :=
  disk.node_put path other _

/-- Replace the content of the file at `path` if it still is the opened inode. -/
def fill (disk : Disk Dir Name Content Actor) (inode : Nat) (path : Pathname Dir Name)
    (content : Option Content) : Disk Dir Name Content Actor :=
  match disk.node path with
  | some (.file found _) => if found = inode then disk.put path (.file inode content) else disk
  | _ => disk

@[simp] theorem locks_fill {disk : Disk Dir Name Content Actor} {inode : Nat}
    {path : Pathname Dir Name} {content : Option Content} :
    (disk.fill inode path content).locks = disk.locks := by
  unfold fill
  split
  · split <;> rfl
  · rfl

theorem node_fill_of_ne {disk : Disk Dir Name Content Actor} {inode : Nat}
    {path other : Pathname Dir Name} {content : Option Content} (distinct : other ≠ path) :
    (disk.fill inode path content).node other = disk.node other := by
  unfold fill
  split
  · split
    · simp [distinct]
    · rfl
  · rfl

variable {disk : Disk Dir Name Content Actor} {path : Pathname Dir Name}

theorem node_fill_opened {inode : Nat} {old : Option Content}
    (opened : disk.node path = some (.file inode old)) (content : Option Content) :
    (disk.fill inode path content).node path = some (.file inode content) := by
  simp [fill, opened]

def entries (disk : Disk Dir Name Content Actor) (dir : Dir) : List (Name × Bool) :=
  disk.nodes.entries.filterMap fun entry =>
    if entry.1.dir = dir then some (entry.1.name, entry.2.isFile) else none

/-- The entries in the order the environment lists them: those it names first,
then the rest. -/
def listing (disk : Disk Dir Name Content Actor) (order : List Name) (dir : Dir) :
    List (Name × Bool) :=
  (order.dedup.flatMap fun name => (disk.entries dir).filter fun entry => entry.1 = name) ++
    (disk.entries dir).filter fun entry => entry.1 ∉ order

/-- Whether some node of the disk satisfies `holds`. -/
def anyNode (disk : Disk Dir Name Content Actor)
    (holds : Pathname Dir Name → Node Dir Name Content → Bool) : Bool :=
  disk.nodes.entries.any fun entry => holds entry.1 entry.2

theorem anyNode_eq_true {holds : Pathname Dir Name → Node Dir Name Content → Bool} :
    disk.anyNode holds = true ↔ ∃ path node, disk.node path = some node ∧ holds path node = true := by
  simp only [anyNode, List.any_eq_true, Disk.node]
  constructor
  · rintro ⟨entry, member, holds⟩
    exact ⟨entry.1, entry.2, AList.mem_lookup_iff.mpr member, holds⟩
  · rintro ⟨path, node, found, holds⟩
    exact ⟨⟨path, node⟩, AList.mem_lookup_iff.mp found, holds⟩

/-! Each system call on a disk, as it goes when nothing outside makes it fail. -/

def openNew (disk : Disk Dir Name Content Actor) (path : Pathname Dir Name) :
    Except IoError Nat × Disk Dir Name Content Actor :=
  match disk.node path with
  | some _ => (.error .alreadyExists, disk)
  | none => disk.createFile path

def openTruncate (disk : Disk Dir Name Content Actor) (path : Pathname Dir Name) :
    Except IoError Nat × Disk Dir Name Content Actor :=
  match disk.node path with
  | some (.file inode _) => (.ok inode, disk.put path (.file inode none))
  | some _ => (.error .other, disk)
  | none => disk.createFile path

def openOrCreate (disk : Disk Dir Name Content Actor) (path : Pathname Dir Name) :
    Except IoError Nat × Disk Dir Name Content Actor :=
  match disk.node path with
  | some (.file inode _) => (.ok inode, disk)
  | some _ => (.error .other, disk)
  | none => disk.createFile path

def read (disk : Disk Dir Name Content Actor) (path : Pathname Dir Name) :
    Except IoError (Option Content) :=
  match disk.node path with
  | some (.file _ content) => .ok content
  | some _ => .error .other
  | none => .error .notFound

def remove (disk : Disk Dir Name Content Actor) (path : Pathname Dir Name) :
    Except IoError Unit × Disk Dir Name Content Actor :=
  match disk.node path with
  | some .directory => (.error .other, disk)
  | some _ => (.ok (), disk.drop path)
  | none => (.error .notFound, disk)

def rename (disk : Disk Dir Name Content Actor) (source target : Pathname Dir Name) :
    Except IoError Unit × Disk Dir Name Content Actor :=
  match disk.node source, disk.node target with
  | none, _ => (.error .notFound, disk)
  | some _, some .directory => (.error .other, disk)
  | some moved, _ => (.ok (), (disk.drop source).put target moved)

def symlink (disk : Disk Dir Name Content Actor) (link target : Pathname Dir Name) :
    Except IoError Unit × Disk Dir Name Content Actor :=
  match disk.node link with
  | some _ => (.error .alreadyExists, disk)
  | none => (.ok (), disk.put link (.link target))

def readLink (disk : Disk Dir Name Content Actor) (path : Pathname Dir Name) :
    Except IoError (Pathname Dir Name) :=
  match disk.node path with
  | some (.link target) => .ok target
  | some _ => .error .other
  | none => .error .notFound

def createDir (disk : Disk Dir Name Content Actor) (path : Pathname Dir Name) :
    Except IoError Unit × Disk Dir Name Content Actor :=
  match disk.node path with
  | some _ => (.error .alreadyExists, disk)
  | none => (.ok (), disk.put path .directory)

def removeDirAll (disk : Disk Dir Name Content Actor) (path : Pathname Dir Name) :
    Except IoError Unit × Disk Dir Name Content Actor :=
  match disk.node path with
  | some .directory => (.ok (), disk.drop path)
  | some _ => (.error .other, disk)
  | none => (.error .notFound, disk)

def grant (actor : Actor) (disk : Disk Dir Name Content Actor) (path : Pathname Dir Name) :
    Disk Dir Name Content Actor :=
  { disk with locks := Function.update disk.locks path (some actor) }

@[simp] theorem locks_grant_self {actor : Actor} {disk : Disk Dir Name Content Actor}
    {path : Pathname Dir Name} : (disk.grant actor path).locks path = some actor :=
  Function.update_self _ _ _

theorem locks_grant_of_ne (actor : Actor) (disk : Disk Dir Name Content Actor)
    {path other : Pathname Dir Name} (distinct : other ≠ path) :
    (disk.grant actor path).locks other = disk.locks other :=
  Function.update_of_ne distinct _ _

def lock (actor : Actor) (disk : Disk Dir Name Content Actor) (path : Pathname Dir Name) :
    Except IoError Unit × Disk Dir Name Content Actor :=
  match disk.locks path with
  | some _ => (.error .wouldBlock, disk)
  | none => (.ok (), disk.grant actor path)

variable [DecidableEq Actor]

def unlock (actor : Actor) (disk : Disk Dir Name Content Actor) (path : Pathname Dir Name) :
    Disk Dir Name Content Actor :=
  if disk.locks path = some actor
  then { disk with locks := Function.update disk.locks path none } else disk

def perform (actor : Actor) (choice : Choice Name Query Answer)
    (disk : Disk Dir Name Content Actor) :
    (operation : Op Dir Name Content Query) →
      operation.Result Answer × Disk Dir Name Content Actor
  | .createDirAll _ => (.ok (), disk)
  | .openDir _ => (.ok (), disk)
  | .openNew path => disk.openNew path
  | .openTruncate path => disk.openTruncate path
  | .openOrCreate path => disk.openOrCreate path
  | .write inode path content => (.ok (), disk.fill inode path (some content))
  | .truncate inode path => (.ok (), disk.fill inode path none)
  | .sync _ => (.ok (), disk)
  | .read path => (disk.read path, disk)
  | .present path => ((disk.node path).isSome, disk)
  | .remove path => disk.remove path
  | .rename source target => disk.rename source target
  | .append path content =>
    (.ok (), { disk with appended := disk.appended ++ [(path, content)] })
  | .list dir => (.ok (disk.listing choice.order dir), disk)
  | .symlink link target => disk.symlink link target
  | .readLink path => (disk.readLink path, disk)
  | .createDir path => disk.createDir path
  | .removeDirAll path => disk.removeDirAll path
  | .lock path => disk.lock actor path
  | .unlock path => ((), disk.unlock actor path)
  | .ask query => (choice.answer query, disk)

/-- A failing system call changes nothing. -/
def exec (actor : Actor) (choice : Choice Name Query Answer)
    (operation : Op Dir Name Content Query) (disk : Disk Dir Name Content Actor) :
    operation.Result Answer × Disk Dir Name Content Actor :=
  match choice.fault, operation.failed with
  | true, some answer => (answer, disk)
  | _, _ => disk.perform actor choice operation

/-- The kernel closes the descriptors of a dead process, and with them its
locks. -/
def exit (actor : Actor) (disk : Disk Dir Name Content Actor) : Disk Dir Name Content Actor :=
  { disk with locks := fun path => if disk.locks path = some actor then none else disk.locks path }

end Disk

def machine [DecidableEq Actor] :
    Machine (Op Dir Name Content Query) (Op.Result Answer) (Disk Dir Name Content Actor) Actor
      (Choice Name Query Answer) where
  exec := Disk.exec
  exit := Disk.exit

end OpsEngine.Files
