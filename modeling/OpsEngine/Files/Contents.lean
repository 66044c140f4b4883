import OpsEngine.Files.Frame
import OpsEngine.Files.Steps

namespace OpsEngine.Files

open Effect

/-! # What the files of a disk may contain

`Fits` says that every completely written file holds a content allowed at its
path.  It is an invariant of every operation that only stores such contents.
-/

variable {Dir Name Content Query Actor : Type} {Answer : Query → Type}
  {fits : Pathname Dir Name → Content → Prop}

/-- What the operation stores is allowed where it stores it. -/
def Op.Stores (fits : Pathname Dir Name → Content → Prop) : Op Dir Name Content Query → Prop
  | .write _ path content => fits path content
  | .rename source target => ∀ content, fits source content → fits target content
  | _ => True

variable [DecidableEq Dir] [DecidableEq Name]

def Disk.Fits (fits : Pathname Dir Name → Content → Prop) (disk : Disk Dir Name Content Actor) :
    Prop :=
  ∀ path inode content, disk.node path = some (.file inode (some content)) → fits path content

namespace Disk.Fits

variable {disk : Disk Dir Name Content Actor}

theorem empty : (Disk.empty : Disk Dir Name Content Actor).Fits fits := by
  intro path inode content found
  simp at found

variable {path : Pathname Dir Name}

section

variable (holds : disk.Fits fits)
include holds

theorem put {node : Node Dir Name Content}
    (allowed : ∀ inode content, node = .file inode (some content) → fits path content) :
    (disk.put path node).Fits fits := by
  intro other inode content found
  rw [Disk.node_put] at found
  split at found
  · rename_i same
    rw [same]
    exact allowed inode content (Option.some.inj found)
  · exact holds other inode content found

theorem drop (path : Pathname Dir Name) : (disk.drop path).Fits fits := by
  intro other inode content found
  rw [Disk.node_drop] at found
  split at found
  · contradiction
  · exact holds other inode content found

theorem createFile (path : Pathname Dir Name) :
    (disk.createFile path).2.Fits fits := by
  have emptied : (disk.put path (.file disk.nextInode none)).Fits fits :=
    holds.put fun inode content impossible => by cases impossible
  exact emptied

theorem fill {inode : Nat}
    {content : Option Content} (allowed : ∀ written, content = some written → fits path written) :
    (disk.fill inode path content).Fits fits := by
  unfold Disk.fill
  split
  · split
    · exact holds.put fun _ written same => allowed written (by cases same; rfl)
    · exact holds
  · exact holds

theorem of_nodes {after : Disk Dir Name Content Actor}
    (same : ∀ path, after.node path = disk.node path) : after.Fits fits := by
  intro path inode content found
  exact holds path inode content ((same path).symm.trans found)

end

variable [DecidableEq Actor] {actor : Actor} {choice : Choice Name Query Answer}
  {operation : Op Dir Name Content Query}

theorem exec (stores : operation.Stores fits) (holds : disk.Fits fits) :
    (machine.exec actor choice operation disk).2.Fits fits := by
  cases operation with
  | openNew path =>
    exact machine_openNew (fun _ => holds) (holds.createFile path)
  | openTruncate path =>
    exact machine_openTruncate holds (fun _ => holds.put nofun) (holds.createFile path)
  | openOrCreate path =>
    exact machine_openOrCreate holds (fun _ => holds) (holds.createFile path)
  | write inode path content =>
    exact machine_write holds (holds.fill fun _ same => Option.some.inj same ▸ stores)
  | truncate inode path =>
    exact machine_truncate holds (holds.fill nofun)
  | remove path =>
    exact machine_remove (fun _ => holds) fun _ _ _ => holds.drop path
  | rename source target =>
    rcases machine_rename actor choice disk source target with ⟨_, failed⟩ | ⟨node, found, _, renamed⟩
    · rw [failed]
      exact holds
    · rw [renamed]
      refine (holds.drop source).put fun inode content same => ?_
      exact stores content (holds source inode content (same ▸ found))
  | symlink path target =>
    rcases machine_symlink actor choice disk path target with ⟨_, failed⟩ | ⟨_, linked⟩
    · rw [failed]
      exact holds
    · rw [linked]
      exact holds.put nofun
  | createDir path =>
    exact machine_createDir (fun _ => holds) (holds.put nofun)
  | removeDirAll path =>
    exact machine_removeDirAll (fun _ => holds) (holds.drop path)
  | createDirAll | openDir | sync | read | present | append | list | readLink | lock | unlock
  | ask =>
    exact holds.of_nodes fun path => Disk.exec_node id

end Disk.Fits

end OpsEngine.Files
