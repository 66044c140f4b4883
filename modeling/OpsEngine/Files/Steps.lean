import OpsEngine.Files.Frame

namespace OpsEngine.Files

open Effect

/-! # What each system call can do

One inversion lemma for each operation: every answer it can give, with the disk
it leaves and what the disk held when it gave that answer.  Proofs about
programs cite these and never unfold the machine.
-/

variable {Dir Name Content Query Actor : Type} {Answer : Query → Type}
  [DecidableEq Dir] [DecidableEq Name] [DecidableEq Actor]
  {actor : Actor} {choice : Choice Name Query Answer} {disk : Disk Dir Name Content Actor}
  {path : Pathname Dir Name}

theorem machine_healthy {operation : Op Dir Name Content Query} (healthy : choice.fault = false) :
    machine.exec actor choice operation disk = disk.perform actor choice operation := by
  show Disk.exec actor choice operation disk = _
  simp only [Disk.exec, healthy]

variable (actor choice disk) in
/-- Either the environment makes the call fail, or it goes as on a healthy
disk. -/
theorem machine_cases (operation : Op Dir Name Content Query) :
    (choice.fault = true ∧ ∃ answer, operation.failed = some answer ∧
      machine.exec actor choice operation disk = (answer, disk)) ∨
    machine.exec actor choice operation disk = disk.perform actor choice operation := by
  show (_ ∧ ∃ _, _ ∧ Disk.exec actor choice operation disk = _) ∨ Disk.exec actor choice operation disk = _
  unfold Disk.exec
  split
  · rename_i answer faulty failed
    exact .inl ⟨faulty, answer, failed, rfl⟩
  · exact .inr rfl

variable (actor choice disk) in
theorem machine_fallible (operation : Op Dir Name Content Query) {answer : operation.Result Answer}
    (failure : operation.failed = some answer) :
    machine.exec actor choice operation disk = (answer, disk) ∨
      machine.exec actor choice operation disk = disk.perform actor choice operation := by
  rcases machine_cases actor choice disk operation with ⟨_, _, failed, same⟩ | same
  · cases failure.symm.trans failed
    exact .inl same
  · exact .inr same

/-- Proof by cases on whether a call that can fail does. -/
@[elab_as_elim]
theorem machine_either {operation : Op Dir Name Content Query} {answer : operation.Result Answer}
    {motive : operation.Result Answer × Disk Dir Name Content Actor → Prop}
    (failure : operation.failed = some answer) (failed : motive (answer, disk))
    (performed : motive (disk.perform actor choice operation)) :
    motive (machine.exec actor choice operation disk) := by
  rcases machine_fallible actor choice disk operation failure with same | same
  · exact same ▸ failed
  · exact same ▸ performed

variable (actor choice disk) in
theorem machine_ask (query : Query) :
    machine.exec actor choice (Op.ask query) disk = (choice.answer query, disk) := by
  show Disk.exec actor choice (Op.ask query) disk = _
  unfold Disk.exec
  cases choice.fault <;> rfl

theorem machine_unlock :
    machine.exec actor choice (Op.unlock path) disk = ((), disk.unlock actor path) := by
  show Disk.exec actor choice (Op.unlock path) disk = _
  unfold Disk.exec
  cases choice.fault <;> rfl

/-! Proof by cases on what a call does. -/

section Cases

variable {motive : Except IoError Unit × Disk Dir Name Content Actor → Prop}

@[elab_as_elim]
theorem machine_sync (failed : motive (.error .other, disk)) (synced : motive (.ok (), disk)) :
    motive (machine.exec actor choice (Op.sync path) disk) :=
  machine_either rfl failed synced

@[elab_as_elim]
theorem machine_write {inode : Nat} {content : Content} (failed : motive (.error .other, disk))
    (written : motive (.ok (), disk.fill inode path (some content))) :
    motive (machine.exec actor choice (Op.write inode path content) disk) :=
  machine_either rfl failed written

@[elab_as_elim]
theorem machine_truncate {inode : Nat} (failed : motive (.error .other, disk))
    (truncated : motive (.ok (), disk.fill inode path none)) :
    motive (machine.exec actor choice (Op.truncate inode path) disk) :=
  machine_either rfl failed truncated

@[elab_as_elim]
theorem machine_remove (failed : ∀ error, motive (.error error, disk))
    (removed : ∀ node, disk.node path = some node → choice.fault = false →
      motive (.ok (), disk.drop path)) :
    motive (machine.exec actor choice (Op.remove path) disk) := by
  cases faulty : choice.fault with
  | true =>
    have failing : machine.exec actor choice (Op.remove path) disk = (.error .other, disk) := by
      show Disk.exec actor choice _ disk = _
      simp [Disk.exec, faulty, Op.failed]
    exact failing ▸ failed .other
  | false =>
  rw [machine_healthy faulty]
  dsimp only [Disk.perform, Disk.remove]
  split
  · exact failed _
  · exact removed _ ‹_› faulty
  · exact failed _

@[elab_as_elim]
theorem machine_createDir (failed : ∀ error, motive (.error error, disk))
    (created : motive (.ok (), disk.put path .directory)) :
    motive (machine.exec actor choice (Op.createDir path) disk) := by
  refine machine_either rfl (failed _) ?_
  dsimp only [Disk.perform, Disk.createDir]
  split
  · exact failed _
  · exact created

@[elab_as_elim]
theorem machine_removeDirAll (failed : ∀ error, motive (.error error, disk))
    (removed : motive (.ok (), disk.drop path)) :
    motive (machine.exec actor choice (Op.removeDirAll path) disk) := by
  refine machine_either rfl (failed _) ?_
  dsimp only [Disk.perform, Disk.removeDirAll]
  split
  · exact removed
  · exact failed _
  · exact failed _

variable {motive : Except IoError Nat × Disk Dir Name Content Actor → Prop}

@[elab_as_elim]
theorem machine_openNew (failed : ∀ error, motive (.error error, disk))
    (created : motive (.ok disk.nextInode, (disk.createFile path).2)) :
    motive (machine.exec actor choice (Op.openNew path) disk) := by
  refine machine_either rfl (failed _) ?_
  dsimp only [Disk.perform, Disk.openNew]
  split
  · exact failed _
  · exact created

@[elab_as_elim]
theorem machine_openTruncate (failed : motive (.error .other, disk))
    (truncated : ∀ inode, motive (.ok inode, disk.put path (.file inode none)))
    (created : motive (.ok disk.nextInode, (disk.createFile path).2)) :
    motive (machine.exec actor choice (Op.openTruncate path) disk) := by
  refine machine_either rfl failed ?_
  dsimp only [Disk.perform, Disk.openTruncate]
  split
  · exact truncated _
  · exact failed
  · exact created

@[elab_as_elim]
theorem machine_openOrCreate (failed : motive (.error .other, disk))
    (opened : ∀ inode, motive (.ok inode, disk))
    (created : motive (.ok disk.nextInode, (disk.createFile path).2)) :
    motive (machine.exec actor choice (Op.openOrCreate path) disk) := by
  refine machine_either rfl failed ?_
  dsimp only [Disk.perform, Disk.openOrCreate]
  split
  · exact opened _
  · exact failed
  · exact created

@[elab_as_elim]
theorem machine_read {motive : Except IoError (Option Content) × Disk Dir Name Content Actor → Prop}
    (failed : motive (.error .other, disk))
    (absent : disk.node path = none → motive (.error .notFound, disk))
    (read : ∀ inode content, disk.node path = some (.file inode content) →
      motive (.ok content, disk)) :
    motive (machine.exec actor choice (Op.read path) disk) := by
  refine machine_either rfl failed ?_
  dsimp only [Disk.perform, Disk.read]
  split
  · exact read _ _ ‹_›
  · exact failed
  · exact absent ‹_›

end Cases

variable (actor choice disk path) in
theorem machine_present :
    ∃ answer, machine.exec actor choice (Op.present path) disk =
        (answer, disk) ∧ (answer = true → (disk.node path).isSome = true) := by
  rcases machine_fallible actor choice disk (Op.present path) rfl with same | same
  · exact ⟨false, same, by simp⟩
  · exact ⟨_, same, id⟩

variable (actor choice disk) in
theorem machine_rename (source target : Pathname Dir Name) :
    (∃ error, machine.exec actor choice (Op.rename source target) disk = (.error error, disk)) ∨
    (∃ node, disk.node source = some node ∧ disk.node target ≠ some .directory ∧
      machine.exec actor choice (Op.rename source target) disk =
        (.ok (), (disk.drop source).put target node)) := by
  refine machine_either rfl (.inl ⟨_, rfl⟩) ?_
  dsimp only [Disk.perform, Disk.rename]
  split
  · exact .inl ⟨_, rfl⟩
  · exact .inl ⟨_, rfl⟩
  · rename_i node found free
    exact .inr ⟨node, found, free, rfl⟩

variable (actor choice disk path) in
theorem machine_symlink (target : Pathname Dir Name) :
    (∃ error, machine.exec actor choice (Op.symlink path target) disk = (.error error, disk)) ∨
    (disk.node path = none ∧ machine.exec actor choice (Op.symlink path target) disk =
        (.ok (), disk.put path (.link target))) := by
  refine machine_either rfl (.inl ⟨_, rfl⟩) ?_
  dsimp only [Disk.perform, Disk.symlink]
  split
  · exact .inl ⟨_, rfl⟩
  · rename_i absent
    exact .inr ⟨absent, rfl⟩

variable (actor choice disk path) in
theorem machine_readLink :
    machine.exec actor choice (Op.readLink path) disk = (.error .other, disk) ∨
    (disk.node path = none ∧ machine.exec actor choice (Op.readLink path) disk =
        (.error .notFound, disk)) ∨ (∃ target, disk.node path = some (.link target) ∧
      machine.exec actor choice (Op.readLink path) disk = (.ok target, disk)) := by
  refine machine_either rfl (.inl rfl) ?_
  dsimp only [Disk.perform, Disk.readLink]
  split
  · rename_i target found
    exact .inr (.inr ⟨target, found, rfl⟩)
  · exact .inl rfl
  · rename_i absent
    exact .inr (.inl ⟨absent, rfl⟩)

variable (actor choice disk path) in
theorem machine_lock :
    (∃ error, machine.exec actor choice (Op.lock path) disk = (.error error, disk)) ∨
    (disk.locks path = none ∧ choice.fault = false ∧ machine.exec actor choice (Op.lock path) disk =
        (.ok (), disk.grant actor path)) := by
  cases faulty : choice.fault with
  | true =>
    exact .inl ⟨.other, by show Disk.exec actor choice _ disk = _; simp [Disk.exec, faulty, Op.failed]⟩
  | false =>
  rw [machine_healthy faulty]
  change (∃ _, disk.lock actor path = _) ∨ _ ∧ _ ∧ disk.lock actor path = _
  unfold Disk.lock
  split
  · exact .inl ⟨_, rfl⟩
  · rename_i free
    exact .inr ⟨free, rfl, rfl⟩

variable {holder : Actor} {operation : Op Dir Name Content Query}

section

variable (held : (machine.exec actor choice operation disk).2.locks path = some holder)
include held

/-- A lock is held as before, or was just granted to the actor that asked for
it. -/
theorem machine_granted :
    holder = actor ∧ operation = .lock path ∨ disk.locks path = some holder := by
  by_cases locks : operation.Locks path
  · cases operation with
    | lock other =>
      have same : path = other := locks
      subst same
      rcases machine_lock actor choice disk path with ⟨_, failed⟩ | ⟨_, _, granted⟩
      · rw [failed] at held
        exact .inr held
      · rw [granted, Disk.locks_grant_self] at held
        exact .inl ⟨(Option.some.inj held).symm, rfl⟩
    | unlock other =>
      have same : path = other := locks
      subst same
      rw [machine_unlock] at held
      simp only [Disk.unlock] at held
      split at held
      · simp at held
      · exact .inr held
    | _ => exact locks.elim
  · exact .inr ((Disk.exec_locks locks).symm.trans held)

/-- A lock changes hands only to the actor that takes the step. -/
theorem machine_holder :
    holder = actor ∨ disk.locks path = some holder :=
  (machine_granted held).imp_left And.left

end

/-- What an actor holds, the others cannot take away. -/
theorem machine_still_held (held : disk.locks path = some holder) (distinct : holder ≠ actor) :
    (machine.exec actor choice operation disk).2.locks path = some holder := by
  by_cases locks : operation.Locks path
  · cases operation with
    | lock other =>
      have same : path = other := locks
      subst same
      rcases machine_lock actor choice disk path with ⟨_, failed⟩ | ⟨free, _, _⟩
      · rw [failed]
        exact held
      · rw [free] at held
        contradiction
    | unlock other =>
      have same : path = other := locks
      subst same
      rw [machine_unlock]
      have others : disk.locks path ≠ some actor := by
        rw [held]
        exact fun same => distinct (Option.some.inj same)
      simp only [Disk.unlock, if_neg others]
      exact held
    | _ => exact locks.elim
  · exact (Disk.exec_locks locks).trans held

/-! On a healthy disk a call fails only for what the disk holds. -/

def Disk.Regular (disk : Disk Dir Name Content Actor) (path : Pathname Dir Name) : Prop :=
  ∀ node, disk.node path = some node → node.isFile = true

omit [DecidableEq Actor] in
theorem Disk.Regular.cases {disk : Disk Dir Name Content Actor} {path : Pathname Dir Name}
    (regular : disk.Regular path) :
    disk.node path = none ∨ ∃ inode content, disk.node path = some (.file inode content) := by
  cases found : disk.node path with
  | none => exact .inl rfl
  | some node =>
  have isFile := regular node found
  cases node with
  | file inode content => exact .inr ⟨inode, content, rfl⟩
  | link target => simp [Node.isFile] at isFile
  | directory => simp [Node.isFile] at isFile

omit [DecidableEq Actor] in
theorem Disk.Regular.not_directory {disk : Disk Dir Name Content Actor}
    {path : Pathname Dir Name} (regular : disk.Regular path) :
    disk.node path ≠ some .directory := by
  intro found
  have isFile := regular _ found
  simp [Node.isFile] at isFile

omit [DecidableEq Actor] in
theorem Disk.Regular.put {disk : Disk Dir Name Content Actor} {path : Pathname Dir Name}
    {node : Node Dir Name Content} (isFile : node.isFile = true) :
    (disk.put path node).Regular path := by
  intro found stored
  rw [Disk.node_put, if_pos rfl] at stored
  rw [← Option.some.inj stored]
  exact isFile

omit [DecidableEq Actor] in
theorem Disk.Regular.createFile (disk : Disk Dir Name Content Actor) (path : Pathname Dir Name) :
    (disk.createFile path).2.Regular path :=
  Disk.Regular.put rfl

omit [DecidableEq Actor] in
theorem Disk.Regular.fill {disk : Disk Dir Name Content Actor} {path : Pathname Dir Name}
    (regular : disk.Regular path) (inode : Nat) (content : Option Content) :
    (disk.fill inode path content).Regular path := by
  unfold Disk.fill
  split
  · split
    · exact Disk.Regular.put rfl
    · exact regular
  · exact regular

section Healthy

variable {dir : Dir} {inode : Nat} {content : Content}
  {target : Pathname Dir Name} {node : Node Dir Name Content} (healthy : choice.fault = false)
include healthy

theorem healthy_createDirAll :
    machine.exec actor choice (Op.createDirAll dir) disk = (.ok (), disk) :=
  machine_healthy healthy

theorem healthy_openDir :
    machine.exec actor choice (Op.openDir dir) disk = (.ok (), disk) :=
  machine_healthy healthy

theorem healthy_sync :
    machine.exec actor choice (Op.sync path) disk = (.ok (), disk) :=
  machine_healthy healthy

theorem healthy_write :
    machine.exec actor choice (Op.write inode path content) disk =
      (.ok (), disk.fill inode path (some content)) :=
  machine_healthy healthy

theorem healthy_truncate :
    machine.exec actor choice (Op.truncate inode path) disk = (.ok (), disk.fill inode path none) :=
  machine_healthy healthy

theorem healthy_append :
    machine.exec actor choice (Op.append path content) disk =
      (.ok (), { disk with appended := disk.appended ++ [(path, content)] }) :=
  machine_healthy healthy

theorem healthy_present :
    machine.exec actor choice (Op.present path) disk = ((disk.node path).isSome, disk) :=
  machine_healthy healthy

theorem healthy_readLink :
    machine.exec actor choice (Op.readLink path) disk = (disk.readLink path, disk) :=
  machine_healthy healthy

theorem healthy_openNew (absent : disk.node path = none) :
    machine.exec actor choice (Op.openNew path) disk =
      (.ok disk.nextInode, (disk.createFile path).2) := by
  rw [machine_healthy healthy]
  simp only [Disk.perform, Disk.openNew, absent]
  rfl

theorem healthy_openNew_exists (found : disk.node path = some node) :
    machine.exec actor choice (Op.openNew path) disk = (.error .alreadyExists, disk) := by
  rw [machine_healthy healthy]
  simp only [Disk.perform, Disk.openNew, found]
  rfl

theorem healthy_read {content : Option Content}
    (found : disk.node path = some (.file inode content)) :
    machine.exec actor choice (Op.read path) disk = (.ok content, disk) := by
  rw [machine_healthy healthy]
  simp only [Disk.perform, Disk.read, found]

theorem healthy_read_absent (absent : disk.node path = none) :
    machine.exec actor choice (Op.read path) disk = (.error .notFound, disk) := by
  rw [machine_healthy healthy]
  simp only [Disk.perform, Disk.read, absent]

variable (actor) in
theorem healthy_openTruncate (regular : disk.Regular path) :
    ∃ inode after, machine.exec actor choice (Op.openTruncate path) disk =
        (.ok inode, after) ∧ after.node path = some (.file inode none) := by
  rw [machine_healthy healthy]
  simp only [Disk.perform, Disk.openTruncate]
  rcases regular.cases with absent | ⟨inode, content, found⟩
  · rw [absent]
    exact ⟨disk.nextInode, (disk.createFile path).2, rfl, by simp⟩
  · rw [found]
    exact ⟨_, _, rfl, by simp⟩

variable (actor) in
theorem healthy_openOrCreate (regular : disk.Regular path) :
    ∃ inode after, machine.exec actor choice (Op.openOrCreate path) disk =
        (.ok inode, after) ∧ after.locks = disk.locks := by
  rw [machine_healthy healthy]
  simp only [Disk.perform, Disk.openOrCreate]
  rcases regular.cases with absent | ⟨inode, content, found⟩
  · rw [absent]
    exact ⟨_, _, rfl, rfl⟩
  · rw [found]
    exact ⟨_, _, rfl, rfl⟩

theorem healthy_rename {source : Pathname Dir Name} (found : disk.node source = some node)
    (free : disk.node target ≠ some .directory) :
    machine.exec actor choice (Op.rename source target) disk =
      (.ok (), (disk.drop source).put target node) := by
  rw [machine_healthy healthy]
  simp only [Disk.perform, Disk.rename, found]
  rfl

theorem healthy_lock (free : disk.locks path = none) :
    machine.exec actor choice (Op.lock path) disk = (.ok (), disk.grant actor path) := by
  rw [machine_healthy healthy]
  simp only [Disk.perform, Disk.lock, free]
  rfl

end Healthy

end OpsEngine.Files
