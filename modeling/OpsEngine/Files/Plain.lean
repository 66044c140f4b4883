import OpsEngine.Effect.Turns
import OpsEngine.Files.Steps

namespace OpsEngine.Files

open Effect Function

/-! # Disks that hold nothing but files

What each path of such a disk holds is a function, and every system call is an
update of it.  The rules below follow a program that has the disk to itself.
-/

variable {Dir Name Content Query Actor : Type} {Answer : Query → Type}
  [DecidableEq Dir] [DecidableEq Name]

/-- What the file at `path` holds: `some none` where it was never completely
written. -/
def Disk.look (disk : Disk Dir Name Content Actor) (path : Pathname Dir Name) :
    Option (Option Content) :=
  match disk.node path with
  | some (.file _ content) => some content
  | _ => none

/-- Every path is free or names a regular file. -/
def Disk.Plain (disk : Disk Dir Name Content Actor) : Prop := ∀ path, disk.Regular path

section Look

variable {disk : Disk Dir Name Content Actor} {path : Pathname Dir Name}

theorem Disk.look_file {inode : Nat} {content : Option Content}
    (found : disk.node path = some (.file inode content)) : disk.look path = some content := by
  rw [Disk.look, found]

theorem Disk.look_absent (absent : disk.node path = none) : disk.look path = none := by
  rw [Disk.look, absent]

theorem Disk.Plain.node_of_look (plain : disk.Plain) (absent : disk.look path = none) :
    disk.node path = none := by
  rcases (plain path).cases with free | ⟨inode, content, found⟩
  · exact free
  · rw [Disk.look_file found] at absent
    contradiction

theorem Disk.Plain.file_of_look (plain : disk.Plain) {content : Option Content}
    (held : disk.look path = some content) : ∃ inode, disk.node path = some (.file inode content) := by
  rcases (plain path).cases with free | ⟨inode, stored, found⟩
  · rw [Disk.look_absent free] at held
    contradiction
  · rw [Disk.look_file found] at held
    cases held
    exact ⟨inode, found⟩

theorem Disk.Plain.isSome_node (plain : disk.Plain) (path : Pathname Dir Name) :
    (disk.node path).isSome = (disk.look path).isSome := by
  rcases (plain path).cases with free | ⟨inode, content, found⟩
  · rw [Disk.look_absent free, free]
    rfl
  · rw [Disk.look_file found, found]
    rfl

theorem Disk.look_put_file (disk : Disk Dir Name Content Actor) (path : Pathname Dir Name)
    (inode : Nat) (content : Option Content) :
    (disk.put path (.file inode content)).look = update disk.look path (some content) :=
  eq_update_iff.mpr ⟨by simp [Disk.look], fun other apart => by simp [Disk.look, apart]⟩

theorem Disk.look_drop (disk : Disk Dir Name Content Actor) (path : Pathname Dir Name) :
    (disk.drop path).look = update disk.look path none :=
  eq_update_iff.mpr ⟨by simp [Disk.look], fun other apart => by simp [Disk.look, apart]⟩

theorem Disk.Plain.put (plain : disk.Plain) (path : Pathname Dir Name) (inode : Nat)
    (content : Option Content) : (disk.put path (.file inode content)).Plain := by
  intro other node found
  by_cases same : other = path
  · simp only [Disk.node_put, same, if_true, Option.some.injEq] at found
    subst found
    rfl
  · simp only [Disk.node_put, same, if_false] at found
    exact plain other node found

theorem Disk.Plain.drop (plain : disk.Plain) (path : Pathname Dir Name) : (disk.drop path).Plain := by
  intro other node found
  by_cases same : other = path
  · simp [same] at found
  · simp only [Disk.node_drop, same, if_false] at found
    exact plain other node found

end Look

variable [DecidableEq Actor] {actor : Actor} {disk : Disk Dir Name Content Actor}
  {path : Pathname Dir Name}

/-! ## The calls on a plain disk -/

def Disk.moved (disk : Disk Dir Name Content Actor) (source target : Pathname Dir Name) :
    Pathname Dir Name → Option (Option Content) :=
  Function.update (Function.update disk.look source none) target (disk.look source)

omit [DecidableEq Actor] in
theorem Disk.Plain.openTruncate (plain : disk.Plain) (path : Pathname Dir Name) :
    ∃ inode after, disk.openTruncate path = (.ok inode, after) ∧ after.Plain ∧
      after.node path = some (.file inode none) ∧
      after.look = update disk.look path (some none) := by
  rcases (plain path).cases with absent | ⟨inode, content, found⟩
  · refine ⟨disk.nextInode, (disk.createFile path).2, ?_, ?_, by simp, ?_⟩
    · simp only [Disk.openTruncate, absent]
      rfl
    · exact plain.put path disk.nextInode none
    · exact disk.look_put_file path disk.nextInode none
  · refine ⟨inode, disk.put path (.file inode none), ?_, plain.put path inode none, by simp,
      disk.look_put_file _ _ _⟩
    simp only [Disk.openTruncate, found]

omit [DecidableEq Actor] in
theorem plain_fill (plain : disk.Plain) {inode : Nat} {old : Option Content}
    (opened : disk.node path = some (.file inode old)) (content : Content) :
    (disk.fill inode path (some content)).Plain ∧ (disk.fill inode path (some content)).look =
        update disk.look path (some (some content)) := by
  have filled : disk.fill inode path (some content) = disk.put path (.file inode (some content)) := by
    simp [Disk.fill, opened]
  rw [filled]
  exact ⟨plain.put path inode _, disk.look_put_file path inode _⟩

/-! ## Rules for a program that has a plain disk to itself

Beside the disk there is whatever the answers to questions leave in the world
outside; a call on the disk does not reach it.
-/

structure Hosted (Dir Name Content Actor World : Type) where
  disk : Disk Dir Name Content Actor
  world : World

/-- What an operation does outside the disk. -/
def Op.stir {World : Type}
    (watch : (query : Query) → Answer query → Disk Dir Name Content Actor → World → World) :
    (operation : Op Dir Name Content Query) → operation.Result Answer →
      Disk Dir Name Content Actor → World → World
  | .ask query, answer, disk, world => watch query answer disk world
  | _, _, _, world => world

def hosted {World : Type}
    (watch : (query : Query) → Answer query → Disk Dir Name Content Actor → World → World) :
    Machine (Op Dir Name Content Query) (Op.Result Answer) (Hosted Dir Name Content Actor World) Actor
      (Choice Name Query Answer) where
  exec actor choice operation state :=
    ((machine.exec actor choice operation state.disk).1,
      ⟨(machine.exec actor choice operation state.disk).2,
        operation.stir watch (machine.exec actor choice operation state.disk).1 state.disk
          state.world⟩)
  exit actor state := { state with disk := Disk.exit actor state.disk }

theorem hosted_exec {World : Type} {world : World}
    {watch : (query : Query) → Answer query → Disk Dir Name Content Actor → World → World}
    (choice : Choice Name Query Answer) (operation : Op Dir Name Content Query) :
    (hosted watch).exec actor choice operation ⟨disk, world⟩ =
      ((machine.exec actor choice operation disk).1,
        ⟨(machine.exec actor choice operation disk).2,
          operation.stir watch (machine.exec actor choice operation disk).1 disk world⟩) := rfl

/-- Safe on its own, with `invariant` wherever it can be stopped. -/
abbrev SafeOn {World β : Type}
    (watch : (query : Query) → Answer query → Disk Dir Name Content Actor → World → World)
    (admits : Choice Name Query Answer → Op Dir Name Content Query →
      Hosted Dir Name Content Actor World → Prop)
    (invariant : Hosted Dir Name Content Actor World → Prop) (actor : Actor)
    (post : β → Hosted Dir Name Content Actor World → Prop)
    (program : Program (Op Dir Name Content Query) (Op.Result Answer) β)
    (state : Hosted Dir Name Content Actor World) : Prop :=
  Safe (hosted watch) (.holding (hosted watch) admits invariant) actor post program state

variable {World β : Type} {world : World}
  {watch : (query : Query) → Answer query → Disk Dir Name Content Actor → World → World}
  {admits : Choice Name Query Answer → Op Dir Name Content Query →
    Hosted Dir Name Content Actor World → Prop} {invariant : Hosted Dir Name Content Actor World → Prop}

def Reliable (admits : Choice Name Query Answer → Op Dir Name Content Query →
    Hosted Dir Name Content Actor World → Prop) (operation : Op Dir Name Content Query) : Prop :=
  ∀ choice state, admits choice operation state → choice.fault = false

def Calm (admits : Choice Name Query Answer → Op Dir Name Content Query →
    Hosted Dir Name Content Actor World → Prop) : Prop :=
  ∀ operation, Reliable admits operation

omit [DecidableEq Dir] [DecidableEq Name] [DecidableEq Actor] in
theorem Reliable.healthy {operation : Op Dir Name Content Query}
    {state : Hosted Dir Name Content Actor World} (reliable : Reliable admits operation)
    {choice : Choice Name Query Answer} (admitted : admits choice operation state) :
    ¬ choice.fault = true := by
  rw [reliable choice state admitted]
  simp

/-- A call fails and leaves the disk, or goes as on a healthy one. -/
theorem holding_op {operation : Op Dir Name Content Query} {answer : operation.Result Answer}
    {post : operation.Result Answer → Hosted Dir Name Content Actor World → Prop}
    (failure : operation.failed = some answer) (holds : invariant ⟨disk, world⟩)
    (failed : ¬ Reliable admits operation → post answer ⟨disk, world⟩)
    (performed : ∀ choice, invariant ⟨(disk.perform actor choice operation).2, world⟩ ∧
      post (disk.perform actor choice operation).1
        ⟨(disk.perform actor choice operation).2, world⟩) :
    SafeOn watch admits invariant actor post (Program.call operation) ⟨disk, world⟩ := by
  have quiet : ∀ answer, operation.stir watch answer disk world = world := by
    cases operation with
    | ask query => cases failure
    | _ => exact fun _ => rfl
  apply holding_call
  intro choice admitted
  rcases machine_cases actor choice disk operation with ⟨faulty, _, fails, same⟩ | same
  · obtain rfl := Option.some.inj (failure.symm.trans fails)
    rw [hosted_exec, same, quiet]
    exact ⟨holds, failed fun reliable => reliable.healthy admitted faulty⟩
  · rw [hosted_exec, same, quiet]
    exact performed choice

theorem holding_read
    {post : Except IoError (Option Content) → Hosted Dir Name Content Actor World → Prop}
    (plain : disk.Plain) (holds : invariant ⟨disk, world⟩)
    (failed : ¬ Reliable admits (Op.read path) → post (.error .other) ⟨disk, world⟩)
    (absent : disk.look path = none → post (.error .notFound) ⟨disk, world⟩)
    (found : ∀ content, disk.look path = some content → post (.ok content) ⟨disk, world⟩) :
    SafeOn watch admits invariant actor post (Program.call (Op.read path)) ⟨disk, world⟩ := by
  refine holding_op rfl holds failed fun _ => ⟨holds, ?_⟩
  simp only [Disk.perform, Disk.read]
  cases held : disk.look path with
  | none =>
    rw [plain.node_of_look held]
    exact absent held
  | some content =>
    obtain ⟨inode, file⟩ := plain.file_of_look held
    rw [file]
    exact found content held

theorem holding_present {post : Bool → Hosted Dir Name Content Actor World → Prop}
    (plain : disk.Plain) (holds : invariant ⟨disk, world⟩)
    (found : (disk.look path).isSome = true → post true ⟨disk, world⟩)
    (missed : (Reliable admits (Op.present path) → disk.look path = none) →
      post false ⟨disk, world⟩) :
    SafeOn watch admits invariant actor post (Program.call (Op.present path)) ⟨disk, world⟩ := by
  refine holding_op rfl holds (fun unreliable => missed fun reliable => (unreliable reliable).elim)
    fun _ => ⟨holds, ?_⟩
  show post (disk.node path).isSome _
  rw [plain.isSome_node]
  cases held : disk.look path with
  | none => exact missed fun _ => held
  | some content => exact found (by rw [held]; rfl)

variable {post : Except IoError Unit → Hosted Dir Name Content Actor World → Prop}

theorem holding_remove (plain : disk.Plain) (holds : invariant ⟨disk, world⟩)
    (failed : ¬ Reliable admits (Op.remove path) → post (.error .other) ⟨disk, world⟩)
    (absent : disk.look path = none → post (.error .notFound) ⟨disk, world⟩)
    (removed : ∀ after : Disk Dir Name Content Actor, after.Plain →
      after.look = update disk.look path none →
      invariant ⟨after, world⟩ ∧ post (.ok ()) ⟨after, world⟩) :
    SafeOn watch admits invariant actor post (Program.call (Op.remove path)) ⟨disk, world⟩ := by
  refine holding_op rfl holds failed fun _ => ?_
  simp only [Disk.perform, Disk.remove]
  rcases (plain path).cases with free | ⟨inode, content, found⟩
  · rw [free]
    exact ⟨holds, absent (Disk.look_absent free)⟩
  · rw [found]
    exact removed _ (plain.drop path) (disk.look_drop path)

theorem holding_rename {source target : Pathname Dir Name}
    (plain : disk.Plain) (holds : invariant ⟨disk, world⟩)
    (failed : ∀ error, (Reliable admits (Op.rename source target) → disk.look source = none) →
      post (.error error) ⟨disk, world⟩)
    (moved : ∀ after : Disk Dir Name Content Actor, after.Plain →
      (disk.look source).isSome = true → after.look = disk.moved source target →
      invariant ⟨after, world⟩ ∧ post (.ok ()) ⟨after, world⟩) :
    SafeOn watch admits invariant actor post (Program.call (Op.rename source target))
      ⟨disk, world⟩ := by
  refine holding_op rfl holds
    (fun unreliable => failed _ fun reliable => (unreliable reliable).elim) fun _ => ?_
  simp only [Disk.perform, Disk.rename]
  rcases (plain source).cases with absent | ⟨inode, content, found⟩
  · rw [absent]
    exact ⟨holds, failed .notFound fun _ => Disk.look_absent absent⟩
  have free := (plain target).not_directory
  have held := Disk.look_file found
  simp only [found]
  apply moved _ ((plain.drop source).put target inode content) (by rw [held]; rfl)
  rw [Disk.look_put_file, Disk.look_drop, Disk.moved, held]

theorem holding_ask {query : Query}
    {rest : Answer query → Program (Op Dir Name Content Query) (Op.Result Answer) β}
    {post : β → Hosted Dir Name Content Actor World → Prop} (answered : ∀ answer,
      (∃ choice, admits choice (Op.ask query) ⟨disk, world⟩ ∧ choice.answer query = answer) →
      invariant ⟨disk, watch query answer disk world⟩ ∧
        SafeOn watch admits invariant actor post (rest answer)
          ⟨disk, watch query answer disk world⟩) :
    SafeOn watch admits invariant actor post
      (Program.call (Op.ask query) >>= rest) ⟨disk, world⟩ := by
  apply holding_call_bind
  intro choice admitted
  rw [hosted_exec, machine_ask]
  exact answered _ ⟨choice, admitted, rfl⟩

/-! ## Replacing a file through a temporary one -/

/-- Temp file, content, sync, rename. -/
def replace (temp path : Pathname Dir Name) (content : Content) :
    Program (Op Dir Name Content Query) (Op.Result Answer) (Except IoError Unit) := do
  match ← Program.call (Op.openTruncate temp) with
  | .error error => return .error error
  | .ok inode =>
    match ← Program.call (Op.write inode temp content) with
    | .error error => return .error error
    | .ok () =>
      match ← Program.call (Op.sync temp) with
      | .error error => return .error error
      | .ok () =>
        match ← Program.call (Op.rename temp path) with
        | .error error => return .error error
        | .ok () => return .ok ()

/-- At most the temp file differs. -/
structure Unreplaced (temp : Pathname Dir Name) (before after : Disk Dir Name Content Actor) : Prop where
  plain : after.Plain
  elsewhere : ∀ path, path ≠ temp → after.look path = before.look path

structure Replaced (temp path : Pathname Dir Name) (content : Content)
    (before after : Disk Dir Name Content Actor) : Prop where
  plain : after.Plain
  stored : after.look path = some (some content)
  gone : after.look temp = none
  elsewhere : ∀ other, other ≠ temp → other ≠ path → after.look other = before.look other

/-- A replacement that was stopped or failed left at most its temp file; one
that went through replaced the file. -/
theorem safe_replace {temp : Pathname Dir Name} {content : Content} (apart : temp ≠ path)
    (plain : disk.Plain)
    (unreplaced : ∀ after, Unreplaced temp disk after → invariant ⟨after, world⟩)
    (replaced : ∀ after, Replaced temp path content disk after → invariant ⟨after, world⟩) :
    SafeOn watch admits invariant actor
      (Outcomes (fun _ after => after.world = world ∧ Replaced temp path content disk after.disk)
        (fun _ after => after.world = world ∧ Unreplaced temp disk after.disk ∧ ¬ Calm admits))
      (replace temp path content : Program (Op Dir Name Content Query) (Op.Result Answer) _)
    ⟨disk, world⟩ := by
  have here : Unreplaced temp disk disk := ⟨plain, fun _ _ => rfl⟩
  obtain ⟨inode, opened, opens, plainOpened, file, looks⟩ := plain.openTruncate temp
  obtain ⟨plainWritten, written⟩ := plain_fill plainOpened file content
  have torn : Unreplaced temp disk opened :=
    ⟨plainOpened, fun path other => by rw [looks, update_of_ne other]⟩
  have whole : Unreplaced temp disk (opened.fill inode temp (some content)) := by
    refine ⟨plainWritten, fun path other => ?_⟩
    rw [written, update_of_ne other]
    exact torn.elsewhere path other
  apply Safe.bind
  refine holding_op rfl (unreplaced disk here)
    (fun unreliable => ⟨rfl, here, fun calm => unreliable (calm _)⟩) fun _ => ?_
  simp only [Disk.perform, opens]
  refine ⟨unreplaced opened torn, ?_⟩
  apply Safe.bind
  refine holding_op rfl (unreplaced opened torn)
    (fun unreliable => ⟨rfl, torn, fun calm => unreliable (calm _)⟩)
    fun _ => ⟨unreplaced _ whole, ?_⟩
  apply Safe.bind
  refine holding_op rfl (unreplaced _ whole)
    (fun unreliable => ⟨rfl, whole, fun calm => unreliable (calm _)⟩)
    fun _ => ⟨unreplaced _ whole, ?_⟩
  apply Safe.bind
  apply holding_rename plainWritten (unreplaced _ whole)
  · intro error cause
    refine ⟨rfl, whole, fun calm => ?_⟩
    have absent := cause (calm _)
    rw [written, update_self] at absent
    contradiction
  intro after plainAfter _ moved
  have done : Replaced temp path content disk after := by
    refine ⟨plainAfter, ?_, ?_, ?_⟩
    · rw [moved, Disk.moved, update_self, written, update_self]
    · rw [moved, Disk.moved, update_of_ne apart, update_self]
    · intro other notTemp notPath
      rw [moved, Disk.moved, update_of_ne notPath, update_of_ne notTemp]
      exact whole.elsewhere other notTemp
  exact ⟨replaced after done, rfl, done⟩

/-! ## The files of a group

A group of files, by an index: what each of them holds, with every file outside
the group as it was before.
-/

section Groups

variable {Part : Type} [DecidableEq Part] {paths : Part → Pathname Dir Name}
  {before after later : Disk Dir Name Content Actor} {files : Part → Option (Option Content)}

structure FileGroup (paths : Part → Pathname Dir Name) (before after : Disk Dir Name Content Actor)
    (files : Part → Option (Option Content)) : Prop where
  plain : after.Plain
  inside : ∀ part, after.look (paths part) = files part
  elsewhere : ∀ path, (∀ part, path ≠ paths part) → after.look path = before.look path

omit [DecidableEq Actor] [DecidableEq Part] in
theorem FileGroup.start (plain : before.Plain) :
    FileGroup paths before before fun part => before.look (paths part) :=
  ⟨plain, fun _ => rfl, fun _ _ => rfl⟩

variable (group : FileGroup paths before after files)
include group

omit [DecidableEq Actor] [DecidableEq Part] in
theorem FileGroup.agree {others : Part → Option (Option Content)}
    (second : FileGroup paths before later others)
    (same : ∀ part, path = paths part → files part = others part) :
    after.look path = later.look path := by
  by_cases inside : ∃ part, path = paths part
  · obtain ⟨part, rfl⟩ := inside
    rw [group.inside, second.inside, same part rfl]
  · have outside := not_exists.mp inside
    rw [group.elsewhere path outside, second.elsewhere path outside]

variable (injective : Function.Injective paths)
include injective

omit [DecidableEq Actor] in
theorem FileGroup.updated (plain : later.Plain) {part : Part} {content : Option (Option Content)}
    (looks : later.look = update after.look (paths part) content) :
    FileGroup paths before later (update files part content) := by
  refine ⟨plain, fun other => ?_, fun path outside => ?_⟩
  · rw [looks, ← funext group.inside]
    exact congrFun (update_comp_eq_of_injective after.look injective part content) other
  · rw [looks, update_of_ne (outside part)]
    exact group.elsewhere path outside

omit [DecidableEq Actor] in
theorem FileGroup.moved (plain : later.Plain) {source target : Part}
    (looks : later.look = after.moved (paths source) (paths target)) :
    FileGroup paths before later
      (update (update files source none) target (files source)) := by
  have dropped := group.updated injective (group.plain.drop (paths source)) (after.look_drop _)
  rw [← group.inside source]
  refine dropped.updated injective plain ?_
  rw [looks, Disk.look_drop, Disk.moved]

omit [DecidableEq Actor] in
theorem FileGroup.unreplaced {temp : Part} (spilled : Unreplaced (paths temp) after later) :
    ∃ content, FileGroup paths before later (update files temp content) :=
  ⟨later.look (paths temp), group.updated injective spilled.plain
    (eq_update_iff.mpr ⟨rfl, spilled.elsewhere⟩)⟩

omit [DecidableEq Actor] in
theorem FileGroup.replaced {temp part : Part} {content : Content}
    (stored : Replaced (paths temp) (paths part) content after later) :
    FileGroup paths before later
      (update (update files temp none) part (some (some content))) := by
  have dropped := group.updated injective (group.plain.drop (paths temp)) (after.look_drop _)
  refine dropped.updated injective stored.plain
    (eq_update_iff.mpr ⟨stored.stored, fun other apart => ?_⟩)
  rw [Disk.look_drop]
  by_cases same : other = paths temp
  · rw [same, update_self]
    exact stored.gone
  · rw [update_of_ne same]
    exact stored.elsewhere other same apart

theorem FileGroup.holding_remove (part : Part) (holds : invariant ⟨after, world⟩)
    (failed : ¬ Calm admits → post (.error .other) ⟨after, world⟩)
    (absent : files part = none → post (.error .notFound) ⟨after, world⟩)
    (removed : ∀ later, FileGroup paths before later (update files part none) →
      invariant ⟨later, world⟩ ∧ post (.ok ()) ⟨later, world⟩) :
    SafeOn watch admits invariant actor post (Program.call (Op.remove (paths part)))
      ⟨after, world⟩ := by
  apply Files.holding_remove group.plain holds
  · intro unreliable
    exact failed fun calm => unreliable (calm _)
  · intro gone
    rw [group.inside part] at gone
    exact absent gone
  · intro later plain looks
    exact removed later (group.updated injective plain looks)

theorem FileGroup.holding_rename (source target : Part) (holds : invariant ⟨after, world⟩)
    (failed : ∀ error, (Calm admits → files source = none) → post (.error error) ⟨after, world⟩)
    (moved : ∀ later, (files source).isSome = true → FileGroup paths before later
        (update (update files source none) target (files source)) →
      invariant ⟨later, world⟩ ∧ post (.ok ()) ⟨later, world⟩) :
    SafeOn watch admits invariant actor post
      (Program.call (Op.rename (paths source) (paths target))) ⟨after, world⟩ := by
  apply Files.holding_rename group.plain holds
  · intro error cause
    apply failed error
    intro calm
    rw [← group.inside source]
    exact cause (calm _)
  · intro later plain held looks
    rw [group.inside source] at held
    exact moved later held (group.moved injective plain looks)

theorem FileGroup.holding_replace (temp part : Part) {content : Content} (apart : temp ≠ part)
    {post : β → Hosted Dir Name Content Actor World → Prop}
    {rest : Except IoError Unit → Program (Op Dir Name Content Query) (Op.Result Answer) β}
    (unreplaced : ∀ later spill, FileGroup paths before later (update files temp spill) →
      invariant ⟨later, world⟩) (replaced : ∀ later, FileGroup paths before later
      (update (update files temp none) part (some (some content))) → invariant ⟨later, world⟩)
    (failed : ∀ error later spill,
      FileGroup paths before later (update files temp spill) → ¬ Calm admits →
      SafeOn watch admits invariant actor post (rest (.error error)) ⟨later, world⟩)
    (stored : ∀ later, FileGroup paths before later
      (update (update files temp none) part (some (some content))) →
      SafeOn watch admits invariant actor post (rest (.ok ())) ⟨later, world⟩) :
    SafeOn watch admits invariant actor post
      (replace (paths temp) (paths part) content >>= rest) ⟨after, world⟩ := by
  have safe : SafeOn watch admits invariant actor
      (Outcomes
        (fun _ later => later.world = world ∧
          Replaced (paths temp) (paths part) content after later.disk)
        (fun _ later => later.world = world ∧ Unreplaced (paths temp) after later.disk ∧
          ¬ Calm admits))
      (replace (paths temp) (paths part) content) ⟨after, world⟩ := by
    apply safe_replace (fun equal => apart (injective equal)) group.plain
    · intro later spilled
      obtain ⟨spill, spread⟩ := group.unreplaced injective spilled
      exact unreplaced later spill spread
    · intro later stored
      exact replaced later (group.replaced injective stored)
  apply safe.seq
  intro result later outcome
  obtain ⟨later, _⟩ := later
  cases result with
  | error error =>
    obtain ⟨rfl, spilled, rough⟩ := outcome
    obtain ⟨spill, spread⟩ := group.unreplaced injective spilled
    exact failed error later spill spread rough
  | ok _ =>
    obtain ⟨rfl, done⟩ := outcome
    exact stored later (group.replaced injective done)

end Groups

end OpsEngine.Files
