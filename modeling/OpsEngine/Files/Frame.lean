import OpsEngine.Effect.RelyGuarantee
import OpsEngine.Files.Disk

namespace OpsEngine.Files

open Effect

/-! # What an operation leaves alone

An operation changes at most the nodes at the paths it names for writing, and
at most the one lock it names.
-/

variable {Dir Name Content Query Actor : Type} {Answer : Query → Type}

/-- The paths whose node an operation may change. -/
def Op.Touches : Op Dir Name Content Query → Pathname Dir Name → Prop
  | .openNew path, other | .openTruncate path, other | .openOrCreate path, other
  | .write _ path _, other | .truncate _ path, other | .remove path, other
  | .symlink path _, other | .createDir path, other | .removeDirAll path, other => other = path
  | .rename source target, other => other = source ∨ other = target
  | _, _ => False

/-- The paths whose lock an operation may change. -/
def Op.Locks : Op Dir Name Content Query → Pathname Dir Name → Prop
  | .lock path, other | .unlock path, other => other = path
  | _, _ => False

/-- The operation only touches nodes of the region, and no locks. -/
structure Op.Within (region : Pathname Dir Name → Prop) (operation : Op Dir Name Content Query) :
    Prop where
  nodes : ∀ path, operation.Touches path → region path
  locks : ∀ path, ¬ operation.Locks path

theorem Op.Within.mono {small large : Pathname Dir Name → Prop}
    (implies : ∀ path, small path → large path) {operation : Op Dir Name Content Query}
    (within : operation.Within small) : operation.Within large :=
  ⟨fun path touched => implies path (within.nodes path touched), within.locks⟩

section Within

variable {path : Pathname Dir Name} {inode : Nat} {content : Content} {query : Query}
  {region : Pathname Dir Name → Prop}

theorem within_ask :
    (Op.ask query : Op Dir Name Content Query).Within region :=
  ⟨fun _ => False.elim, fun _ => id⟩

theorem within_read :
    (Op.read path : Op Dir Name Content Query).Within region :=
  ⟨fun _ => False.elim, fun _ => id⟩

theorem within_sync :
    (Op.sync path : Op Dir Name Content Query).Within region :=
  ⟨fun _ => False.elim, fun _ => id⟩

theorem within_openOrCreate :
    (Op.openOrCreate path : Op Dir Name Content Query).Within (· = path) :=
  ⟨fun _ => id, fun _ => id⟩

theorem within_truncate :
    (Op.truncate inode path : Op Dir Name Content Query).Within (· = path) :=
  ⟨fun _ => id, fun _ => id⟩

theorem within_write :
    (Op.write inode path content : Op Dir Name Content Query).Within (· = path) :=
  ⟨fun _ => id, fun _ => id⟩

end Within

variable [DecidableEq Dir] [DecidableEq Name] {target : Pathname Dir Name}

namespace Disk

variable {disk : Disk Dir Name Content Actor} {actor : Actor} {path other : Pathname Dir Name}

section

variable (distinct : path ≠ other)
include distinct

theorem openNew_node :
    (disk.openNew other).2.node path = disk.node path := by
  unfold openNew
  split
  · rfl
  · simp [distinct]

theorem openTruncate_node :
    (disk.openTruncate other).2.node path = disk.node path := by
  unfold openTruncate
  split
  · simp [distinct]
  · rfl
  · simp [distinct]

theorem openOrCreate_node :
    (disk.openOrCreate other).2.node path = disk.node path := by
  unfold openOrCreate
  split
  · rfl
  · rfl
  · simp [distinct]

theorem remove_node :
    (disk.remove other).2.node path = disk.node path := by
  unfold remove
  split
  · rfl
  · simp [distinct]
  · rfl

end

theorem rename_node {source : Pathname Dir Name} (first : path ≠ source)
    (second : path ≠ target) : (disk.rename source target).2.node path = disk.node path := by
  unfold rename
  split
  · rfl
  · rfl
  · simp [first, second]

theorem symlink_node (distinct : path ≠ other) :
    (disk.symlink other target).2.node path = disk.node path := by
  unfold symlink
  split
  · rfl
  · simp [distinct]

theorem createDir_node (distinct : path ≠ other) :
    (disk.createDir other).2.node path = disk.node path := by
  unfold createDir
  split
  · rfl
  · simp [distinct]

theorem removeDirAll_node (distinct : path ≠ other) :
    (disk.removeDirAll other).2.node path = disk.node path := by
  unfold removeDirAll
  split
  · simp [distinct]
  · rfl
  · rfl

@[simp] theorem lock_node : (disk.lock actor other).2.node path = disk.node path := by
  unfold lock
  split <;> rfl

@[simp] theorem openNew_locks : (disk.openNew other).2.locks = disk.locks := by
  unfold openNew
  split <;> rfl

@[simp] theorem openTruncate_locks : (disk.openTruncate other).2.locks = disk.locks := by
  unfold openTruncate
  split <;> rfl

@[simp] theorem openOrCreate_locks : (disk.openOrCreate other).2.locks = disk.locks := by
  unfold openOrCreate
  split <;> rfl

@[simp] theorem remove_locks : (disk.remove other).2.locks = disk.locks := by
  unfold remove
  split <;> rfl

@[simp] theorem rename_locks {source target : Pathname Dir Name} :
    (disk.rename source target).2.locks = disk.locks := by
  unfold rename
  split <;> rfl

@[simp] theorem symlink_locks {target : Pathname Dir Name} :
    (disk.symlink other target).2.locks = disk.locks := by
  unfold symlink
  split <;> rfl

@[simp] theorem createDir_locks : (disk.createDir other).2.locks = disk.locks := by
  unfold createDir
  split <;> rfl

@[simp] theorem removeDirAll_locks : (disk.removeDirAll other).2.locks = disk.locks := by
  unfold removeDirAll
  split <;> rfl

theorem lock_locks_of_ne (distinct : path ≠ other) :
    (disk.lock actor other).2.locks path = disk.locks path := by
  unfold lock
  split
  · rfl
  · exact locks_grant_of_ne actor disk distinct

variable [DecidableEq Actor] {choice : Choice Name Query Answer}
  {operation : Op Dir Name Content Query}

@[simp] theorem unlock_node : (disk.unlock actor other).node path = disk.node path := by
  unfold unlock
  split <;> rfl

theorem unlock_locks_of_ne (distinct : path ≠ other) :
    (disk.unlock actor other).locks path = disk.locks path := by
  unfold unlock
  split
  · simp [distinct]
  · rfl

theorem perform_node (untouched : ¬ operation.Touches path) :
    (disk.perform actor choice operation).2.node path = disk.node path := by
  cases operation with
  | createDirAll | openDir | sync | read | present | append | list | readLink | ask => rfl
  | openNew other => exact openNew_node untouched
  | openTruncate other => exact openTruncate_node untouched
  | openOrCreate other => exact openOrCreate_node untouched
  | write inode other content => exact node_fill_of_ne untouched
  | truncate inode other => exact node_fill_of_ne untouched
  | remove other => exact remove_node untouched
  | rename source target =>
    exact rename_node (fun same => untouched (.inl same)) (fun same => untouched (.inr same))
  | symlink other target => exact symlink_node untouched
  | createDir other => exact createDir_node untouched
  | removeDirAll other => exact removeDirAll_node untouched
  | lock other => exact lock_node
  | unlock other => exact unlock_node

theorem perform_locks (untouched : ¬ operation.Locks path) :
    (disk.perform actor choice operation).2.locks path = disk.locks path := by
  cases operation with
  | createDirAll | openDir | sync | read | present | append | list | readLink | ask => rfl
  | openNew other => exact congrFun openNew_locks path
  | openTruncate other => exact congrFun openTruncate_locks path
  | openOrCreate other => exact congrFun openOrCreate_locks path
  | write inode other content => exact congrFun locks_fill path
  | truncate inode other => exact congrFun locks_fill path
  | remove other => exact congrFun remove_locks path
  | rename source target => exact congrFun rename_locks path
  | symlink other target => exact congrFun symlink_locks path
  | createDir other => exact congrFun createDir_locks path
  | removeDirAll other => exact congrFun removeDirAll_locks path
  | lock other => exact lock_locks_of_ne untouched
  | unlock other => exact unlock_locks_of_ne untouched

theorem exec_node (untouched : ¬ operation.Touches path) :
    (Disk.exec actor choice operation disk).2.node path = disk.node path := by
  unfold exec
  split
  · rfl
  · exact perform_node untouched

theorem exec_locks (untouched : ¬ operation.Locks path) :
    (Disk.exec actor choice operation disk).2.locks path = disk.locks path := by
  unfold exec
  split
  · rfl
  · exact perform_locks untouched

end Disk

end OpsEngine.Files
