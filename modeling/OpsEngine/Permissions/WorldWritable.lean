import Mathlib.Logic.Function.Basic

namespace OpsEngine.Permissions

/-! # World-writable entries below a content root

`permissions.fixWorldWritable` walks the tree, opens every entry without following a link,
and takes the others-write bit from directories and regular files of the root's filesystem.
A mode belongs to an inode, which can have several names, also names outside the tree.
-/

/-- The bits of a mode that `chmod` sets. -/
abbrev Mode := BitVec 12

namespace Mode

def othersWrite : Mode := 0o002#12

def writable (mode : Mode) : Bool := mode &&& othersWrite != 0

def hardened (mode : Mode) : Mode := if mode.writable then mode &&& ~~~othersWrite else mode

def count (mode : Mode) : Nat := if mode.writable then 1 else 0

end Mode

/-- A device number stands for a filesystem. -/
structure Inode where
  device : Nat
  number : Nat
deriving DecidableEq

abbrev Modes := Inode → Mode

/-- Entries whose mode is left alone. -/
inductive Special where
  | symlink
  | socket
  | fifo
  | device
deriving DecidableEq

/-- What a directory lists, in its order. -/
inductive Entries where
  | none
  | special (kind : Special) (rest : Entries)
  | file (inode : Inode) (rest : Entries)
  | directory (inode : Inode) (children rest : Entries)

inductive Errno where
  | eloop
  | enxio

def openSpecial : Special → Except Errno Unit
  | .symlink => .error .eloop
  | .socket => .error .enxio
  | .fifo | .device => .ok ()

/-- The `chmod` of an inode that had the mode `stat` when it was looked at. -/
def Modes.chmod (modes : Modes) (inode : Inode) (stat : Mode) : Modes :=
  if stat.writable then Function.update modes inode (stat &&& ~~~Mode.othersWrite) else modes

/-- How many entries were hardened, and the modes afterwards.  A directory is looked at
before the walk goes below it and hardened after that. -/
def hardenDirectory (device : Nat) : Entries → Modes → Except Errno Nat × Modes
  | .none, modes => (.ok 0, modes)
  | .special kind rest, modes =>
    match openSpecial kind with
    | .error .enxio => (.error .enxio, modes)
    | .error .eloop | .ok () => hardenDirectory device rest modes
  | .file inode rest, modes =>
    if inode.device = device then
      let after := hardenDirectory device rest (modes.chmod inode (modes inode))
      (after.1.map fun hardened => (modes inode).count + hardened, after.2)
    else hardenDirectory device rest modes
  | .directory inode children rest, modes =>
    if inode.device = device then
      match hardenDirectory device children modes with
      | (.error errno, inside) => (.error errno, inside)
      | (.ok found, inside) =>
        let after := hardenDirectory device rest (inside.chmod inode (modes inode))
        (after.1.map fun hardened => found + (modes inode).count + hardened, after.2)
    else hardenDirectory device rest modes

/-- The content root, and the inodes that have a name outside it. -/
structure Root where
  inode : Inode
  entries : Entries
  outside : List Inode

def hardenTree (root : Root) (modes : Modes) : Except Errno Nat × Modes :=
  match hardenDirectory root.inode.device root.entries modes with
  | (.error errno, inside) => (.error errno, inside)
  | (.ok found, inside) =>
    (.ok (found + (modes root.inode).count), inside.chmod root.inode (modes root.inode))

/-! ## A complete repair -/

namespace Entries

/-- The directories and regular files of the filesystem, one for each name. -/
def links (device : Nat) : Entries → List Inode
  | .none => []
  | .special _ rest => rest.links device
  | .file inode rest => (if inode.device = device then [inode] else []) ++ rest.links device
  | .directory inode children rest =>
    children.links device ++ (if inode.device = device then [inode] else []) ++ rest.links device

end Entries

/-- Every directory and regular file of the root's filesystem, the root included. -/
def Root.links (root : Root) : List Inode := root.entries.links root.inode.device ++ [root.inode]

/-- How many of the names have the bit. -/
def Modes.loose (modes : Modes) (inodes : List Inode) : Nat :=
  inodes.countP fun inode => (modes inode).writable

structure Root.Repaired (root : Root) (modes : Modes) : Prop where
  counted : (hardenTree root modes).1 = .ok (modes.loose root.links)
  closed : ∀ inode ∈ root.links, ((hardenTree root modes).2 inode).writable = false
  otherBits : ∀ inode, (hardenTree root modes).2 inode &&& ~~~Mode.othersWrite =
    modes inode &&& ~~~Mode.othersWrite
  elsewhere : ∀ inode, inode.device ≠ root.inode.device →
    (hardenTree root modes).2 inode = modes inode
  outside : ∀ inode ∈ root.outside, (hardenTree root modes).2 inode = modes inode

/-- None of the first that has the bit is among the others. -/
def Modes.Apart (modes : Modes) (first others : List Inode) : Prop :=
  ∀ inode ∈ first, (modes inode).writable = true → inode ∉ others

/-- The walk meets no socket, nothing with the bit lies below a directory of another
filesystem, and nothing with the bit has another name after its entry. -/
def Entries.Walkable (device : Nat) (modes : Modes) : Entries → Prop
  | .none => True
  | .special kind rest => kind ≠ .socket ∧ rest.Walkable device modes
  | .file inode rest =>
    (inode.device = device → modes.Apart [inode] (rest.links device)) ∧ rest.Walkable device modes
  | .directory inode children rest =>
    (if inode.device = device then children.Walkable device modes ∧
        modes.Apart (children.links device ++ [inode]) (rest.links device)
      else modes.loose (children.links device) = 0) ∧ rest.Walkable device modes

/-- The modes with the bit taken from all of these. -/
def Modes.harden (modes : Modes) (inodes : List Inode) : Modes :=
  fun inode => if inode ∈ inodes then (modes inode).hardened else modes inode

namespace Mode

theorem hardened_of_closed {mode : Mode} (closed : mode.writable = false) : mode.hardened = mode := by
  simp [hardened, closed]

theorem count_of_closed {mode : Mode} (closed : mode.writable = false) : mode.count = 0 := by
  simp [count, closed]

@[simp] theorem writable_hardened (mode : Mode) : mode.hardened.writable = false := by
  cases loose : mode.writable with
  | false => rw [hardened_of_closed loose, loose]
  | true =>
    have cleared : ~~~othersWrite &&& othersWrite = 0 := by decide
    rw [hardened, if_pos loose, writable, BitVec.and_assoc, cleared]
    simp

@[simp] theorem hardened_hardened (mode : Mode) : mode.hardened.hardened = mode.hardened :=
  hardened_of_closed mode.writable_hardened

theorem otherBits_hardened (mode : Mode) :
    mode.hardened &&& ~~~othersWrite = mode &&& ~~~othersWrite := by
  cases loose : mode.writable with
  | false => rw [hardened_of_closed loose]
  | true => simp [hardened, loose, BitVec.and_assoc]

end Mode

section Tables

variable {modes : Modes} {inodes more : List Inode} {inode : Inode}

@[simp] theorem Modes.harden_nil : modes.harden [] = modes := by
  funext inode
  simp [harden]

@[simp] theorem Modes.harden_harden :
    (modes.harden inodes).harden more = modes.harden (inodes ++ more) := by
  funext inode
  by_cases first : inode ∈ inodes <;> by_cases second : inode ∈ more <;>
    simp [harden, first, second]

/-- A mode looked at earlier: the walk in between has changed nothing but the bit. -/
theorem Modes.chmod_harden :
    (modes.harden inodes).chmod inode (modes inode) = modes.harden (inodes ++ [inode]) := by
  funext other
  by_cases same : other = inode
  · subst same
    cases loose : (modes other).writable with
    | false => by_cases listed : other ∈ inodes <;> simp [chmod, harden, loose, listed, Mode.hardened]
    | true => simp [chmod, harden, loose, Mode.hardened]
  · cases loose : (modes inode).writable <;> simp [chmod, harden, loose, same]

theorem Modes.chmod_self : modes.chmod inode (modes inode) = modes.harden [inode] := by
  have first : (modes.harden []).chmod inode (modes inode) = modes.harden ([] ++ [inode]) :=
    chmod_harden
  simpa using first

theorem Modes.chmod_closed {stat : Mode} (closed : stat.writable = false) :
    modes.chmod inode stat = modes := by
  simp [chmod, closed]

theorem Modes.harden_apart (apart : modes.Apart inodes more) (listed : inode ∈ more) :
    modes.harden inodes inode = modes inode := by
  by_cases first : inode ∈ inodes
  · have closed : (modes inode).writable = false := by
      by_contra loose
      exact apart inode first (by simpa using loose) listed
    simp [harden, first, Mode.hardened_of_closed closed]
  · simp [harden, first]

theorem Modes.loose_congr {other : Modes} (same : ∀ inode ∈ inodes, other inode = modes inode) :
    other.loose inodes = modes.loose inodes :=
  List.countP_congr fun inode listed => by rw [same inode listed]

@[simp] theorem Modes.loose_append :
    modes.loose (inodes ++ more) = modes.loose inodes + modes.loose more :=
  List.countP_append ..

@[simp] theorem Modes.loose_nil : modes.loose [] = 0 := rfl

@[simp] theorem Modes.loose_cons :
    modes.loose (inode :: inodes) = (modes inode).count + modes.loose inodes := by
  simp [loose, Mode.count, List.countP_cons, Nat.add_comm]

theorem Modes.loose_eq_zero_iff :
    modes.loose inodes = 0 ↔ ∀ inode ∈ inodes, (modes inode).writable = false := by
  simp [loose, List.countP_eq_zero]

theorem Modes.harden_closed (closed : modes.loose inodes = 0) : modes.harden inodes = modes := by
  funext inode
  by_cases listed : inode ∈ inodes
  · simp [harden, listed, Mode.hardened_of_closed (loose_eq_zero_iff.mp closed inode listed)]
  · simp [harden, listed]

theorem Modes.writable_harden (loose : (modes.harden inodes inode).writable = true) :
    inode ∉ inodes ∧ (modes inode).writable = true := by
  by_cases listed : inode ∈ inodes
  · simp [harden, listed] at loose
  · exact ⟨listed, by simpa [harden, listed] using loose⟩

/-- Hardening takes the bit from names later on exactly where an inode has several. -/
theorem Modes.loose_harden (modes : Modes) (inodes more : List Inode) :
    (modes.harden inodes).loose more ≤ modes.loose more ∧
    ((modes.harden inodes).loose more = modes.loose more → modes.Apart inodes more) := by
  induction more with
  | nil => exact ⟨Nat.le_refl _, fun _ _ _ _ => List.not_mem_nil⟩
  | cons inode more ih =>
    have fewer : (modes.harden inodes inode).count ≤ (modes inode).count := by
      unfold Mode.count
      split
      · rename_i loose
        simp [(writable_harden loose).2]
      · exact Nat.zero_le _
    simp only [loose_cons]
    refine ⟨Nat.add_le_add fewer ih.1, fun equal link first loose member => ?_⟩
    rcases List.mem_cons.mp member with rfl | later
    · have taken : (modes.harden inodes link).writable = false := by simp [harden, first]
      simp only [Mode.count, taken, loose] at equal
      have := ih.1
      simp at equal
      omega
    · exact ih.2 (by omega) link first loose later

end Tables

section Walks

variable {device : Nat} {modes other : Modes} {entries : Entries}

theorem Modes.Apart.congr {first others : List Inode}
    (same : ∀ inode ∈ others, other inode = modes inode) (apart : modes.Apart first others) :
    other.Apart first others := fun inode listed loose later =>
  apart inode listed (same inode later ▸ loose) later

theorem Entries.Walkable.congr (same : ∀ inode ∈ entries.links device, other inode = modes inode)
    (walkable : entries.Walkable device modes) : entries.Walkable device other := by
  induction entries with
  | none => trivial
  | special kind rest ih => exact ⟨walkable.1, ih same walkable.2⟩
  | file inode rest ih =>
    have beside : ∀ link ∈ rest.links device, other link = modes link :=
      fun link listed => same link (List.mem_append_right _ listed)
    exact ⟨fun here => (walkable.1 here).congr beside, ih beside walkable.2⟩
  | directory inode children rest inside ih =>
    have below : ∀ link ∈ children.links device, other link = modes link :=
      fun link listed => same link (List.mem_append_left _ (List.mem_append_left _ listed))
    have beside : ∀ link ∈ rest.links device, other link = modes link :=
      fun link listed => same link (List.mem_append_right _ listed)
    obtain ⟨first, second⟩ := walkable
    refine ⟨?_, ih beside second⟩
    split
    · rename_i here
      rw [if_pos here] at first
      exact ⟨inside below first.1, first.2.congr beside⟩
    · rename_i here
      rw [if_neg here, ← Modes.loose_congr below] at first
      exact first

theorem hardenDirectory_walkable (walkable : entries.Walkable device modes) :
    hardenDirectory device entries modes =
      (.ok (modes.loose (entries.links device)), modes.harden (entries.links device)) := by
  induction entries generalizing modes with
  | none => simp [hardenDirectory, Entries.links]
  | special kind rest ih =>
    cases kind with
    | socket => exact absurd rfl walkable.1
    | symlink | fifo | device => simp [hardenDirectory, openSpecial, ih walkable.2, Entries.links]
  | file inode rest ih =>
    obtain ⟨apart, beside⟩ := walkable
    by_cases here : inode.device = device
    · have same : ∀ link ∈ rest.links device, modes.harden [inode] link = modes link :=
        fun _ listed => Modes.harden_apart (apart here) listed
      simp [hardenDirectory, here, Modes.chmod_self, ih (beside.congr same),
        Modes.loose_congr same, Entries.links, Except.map]
    · simp [hardenDirectory, here, ih beside, Entries.links]
  | directory inode children rest inside ih =>
    obtain ⟨below, beside⟩ := walkable
    by_cases here : inode.device = device
    · rw [if_pos here] at below
      have same : ∀ link ∈ rest.links device,
          modes.harden (children.links device ++ [inode]) link = modes link :=
        fun _ listed => Modes.harden_apart below.2 listed
      simp [hardenDirectory, here, inside below.1, Modes.chmod_harden, ih (beside.congr same),
        Modes.loose_congr same, Entries.links, Except.map, Nat.add_assoc]
    · rw [if_neg here] at below
      have skipped : modes.harden (children.links device ++ rest.links device) =
          modes.harden (rest.links device) := by
        rw [← Modes.harden_harden, Modes.harden_closed below]
      simp [hardenDirectory, here, ih beside, Entries.links, below, skipped]

/-- The walk without the modes: how it ends, and the inodes it is done with by then. -/
def Entries.visit (device : Nat) : Entries → Except Errno Unit × List Inode
  | .none => (.ok (), [])
  | .special kind rest =>
    match openSpecial kind with
    | .error .enxio => (.error .enxio, [])
    | .error .eloop | .ok () => rest.visit device
  | .file inode rest =>
    let after := rest.visit device
    (after.1, (if inode.device = device then [inode] else []) ++ after.2)
  | .directory inode children rest =>
    if inode.device = device then
      match children.visit device with
      | (.error errno, inside) => (.error errno, inside)
      | (.ok (), inside) =>
        let after := rest.visit device
        (after.1, inside ++ inode :: after.2)
    else rest.visit device

theorem map_unit {found : Nat → Nat} (answer : Except Errno Nat) :
    (answer.map found).map (fun _ => ()) = answer.map fun _ => () := by
  cases answer <;> rfl

theorem hardenDirectory_visit (device : Nat) (entries : Entries) (modes : Modes) :
    (hardenDirectory device entries modes).1.map (fun _ => ()) = (entries.visit device).1 ∧
      (hardenDirectory device entries modes).2 = modes.harden (entries.visit device).2 := by
  induction entries generalizing modes with
  | none => simp [hardenDirectory, Entries.visit, Except.map]
  | special kind rest ih =>
    cases kind with
    | socket => simp [hardenDirectory, openSpecial, Entries.visit, Except.map]
    | symlink | fifo | device => exact ih modes
  | file inode rest ih =>
    by_cases here : inode.device = device
    · simp [hardenDirectory, here, Modes.chmod_self, map_unit, ih, Entries.visit]
    · simp [hardenDirectory, here, ih, Entries.visit]
  | directory inode children rest inside ih =>
    by_cases here : inode.device = device
    · obtain ⟨ends, left⟩ := inside modes
      simp only [hardenDirectory, here, if_true, Entries.visit]
      rcases walked : hardenDirectory device children modes with ⟨errno | found, after⟩ <;>
        rw [walked] at ends left
      · have seen : children.visit device = (.error errno, (children.visit device).2) :=
          Prod.ext ends.symm rfl
        rw [seen]
        exact ⟨rfl, left⟩
      · have seen : children.visit device = (.ok (), (children.visit device).2) :=
          Prod.ext ends.symm rfl
        obtain rfl : after = _ := left
        rw [seen]
        simp [Modes.chmod_harden, map_unit, ih]
    · simp [hardenDirectory, here, ih, Entries.visit]

/-- Fewer are counted than have the bit, unless the walk was complete. -/
theorem walkable_of_hardenDirectory {found : Nat}
    (walked : (hardenDirectory device entries modes).1 = .ok found) :
    found ≤ modes.loose (entries.links device) ∧
      (found = modes.loose (entries.links device) → entries.Walkable device modes) := by
  induction entries generalizing modes found with
  | none =>
    simp only [hardenDirectory, Except.ok.injEq] at walked
    simp [Entries.links, Entries.Walkable, ← walked]
  | special kind rest ih =>
    cases kind with
    | socket => simp [hardenDirectory, openSpecial] at walked
    | symlink | fifo | device =>
      have after := ih walked
      exact ⟨after.1, fun all => ⟨nofun, after.2 all⟩⟩
  | file inode rest ih =>
    by_cases here : inode.device = device
    · simp only [hardenDirectory, here, if_true, Modes.chmod_self] at walked
      rcases later : (hardenDirectory device rest (modes.harden [inode])).1 with errno | hardened
      · simp [later, Except.map] at walked
      rw [later] at walked
      obtain rfl := Except.ok.inj walked
      obtain ⟨bound, complete⟩ := ih later
      obtain ⟨fewer, apart⟩ := modes.loose_harden [inode] (rest.links device)
      simp only [Entries.links, here, if_true, List.singleton_append, Modes.loose_cons]
      refine ⟨by omega, fun all => ?_⟩
      have separate := apart (by omega)
      refine ⟨fun _ => separate, (complete (by omega)).congr ?_⟩
      exact fun link listed => (Modes.harden_apart separate listed).symm
    · simp only [hardenDirectory, here, if_false] at walked
      have after := ih walked
      simp only [Entries.links, here, if_false, List.nil_append]
      exact ⟨after.1, fun all => ⟨fun same => absurd same here, after.2 all⟩⟩
  | directory inode children rest inside ih =>
    by_cases here : inode.device = device
    · simp only [hardenDirectory, here, if_true] at walked
      rcases below : hardenDirectory device children modes with ⟨errno | first, after⟩
      · simp [below] at walked
      have left : after = modes.harden (children.visit device).2 := by
        rw [← (hardenDirectory_visit device children modes).2, below]
      simp only [below, left, Modes.chmod_harden] at walked
      rcases later : (hardenDirectory device rest
        (modes.harden ((children.visit device).2 ++ [inode]))).1 with errno | hardened
      · simp [later, Except.map] at walked
      rw [later] at walked
      obtain rfl := Except.ok.inj walked
      obtain ⟨bound, complete⟩ := ih later
      obtain ⟨within, whole⟩ := inside (congrArg Prod.fst below)
      have fewer := (modes.loose_harden ((children.visit device).2 ++ [inode]) (rest.links device)).1
      simp only [Entries.links, here, if_true, List.append_assoc, List.singleton_append,
        Modes.loose_append, Modes.loose_cons]
      refine ⟨by omega, fun all => ?_⟩
      -- a complete walk below hardened every link there
      have walkable := whole (by omega)
      rw [hardenDirectory_walkable walkable] at below
      have same : modes.harden ((children.visit device).2 ++ [inode]) =
          modes.harden (children.links device ++ [inode]) := by
        rw [← Modes.harden_harden, ← left, ← (Prod.mk.inj below).2, Modes.harden_harden]
      have separate := (modes.loose_harden (children.links device ++ [inode]) (rest.links device)).2
        (by rw [← same]; omega)
      refine ⟨?_, (complete (by omega)).congr fun link listed => ?_⟩
      · rw [if_pos here]
        exact ⟨walkable, separate⟩
      · rw [same, Modes.harden_apart separate listed]
    · simp only [hardenDirectory, here, if_false] at walked
      have after := ih walked
      simp only [Entries.links, here, if_false, List.append_nil, Modes.loose_append]
      refine ⟨by omega, fun all => ⟨?_, after.2 (by omega)⟩⟩
      rw [if_neg here]
      omega

end Walks

theorem Entries.device_of_mem_links {device : Nat} {entries : Entries} {inode : Inode}
    (listed : inode ∈ entries.links device) : inode.device = device := by
  induction entries with
  | none => simp [links] at listed
  | special kind rest ih => exact ih listed
  | file first rest ih =>
    rcases List.mem_append.mp listed with here | later
    · split at here <;> simp_all
    · exact ih later
  | directory first children rest inside ih =>
    rcases List.mem_append.mp listed with before | later
    · rcases List.mem_append.mp before with below | here
      · exact inside below
      · split at here <;> simp_all
    · exact ih later

theorem Root.device_of_mem_links (root : Root) {inode : Inode} (listed : inode ∈ root.links) :
    inode.device = root.inode.device := by
  rcases List.mem_append.mp listed with below | here
  · exact Entries.device_of_mem_links below
  · rw [List.mem_singleton.mp here]

/-- The repair is complete just where the walk can be and no inode with the bit has a name
outside the tree. -/
theorem repaired_iff_walkable (root : Root) (modes : Modes) :
    root.Repaired modes ↔ root.entries.Walkable root.inode.device modes ∧
      modes.Apart root.links root.outside := by
  constructor
  · intro repaired
    have counted := repaired.counted
    unfold hardenTree at counted
    split at counted
    · contradiction
    rename_i found inside walked
    simp only [Root.links, Modes.loose_append, Modes.loose_cons, Modes.loose_nil,
      Except.ok.injEq] at counted
    have complete := walkable_of_hardenDirectory (congrArg Prod.fst walked)
    refine ⟨complete.2 (by omega), fun inode listed loose outside => ?_⟩
    have changed := repaired.closed inode listed
    rw [repaired.outside inode outside, loose] at changed
    contradiction
  · rintro ⟨walkable, apart⟩
    have whole : hardenTree root modes = (.ok (modes.loose root.links), modes.harden root.links) := by
      simp [hardenTree, hardenDirectory_walkable walkable, Root.links, Modes.chmod_harden]
    refine ⟨?_, ?_, ?_, ?_, ?_⟩ <;> rw [whole]
    · intro inode listed
      simp [Modes.harden, listed]
    · intro inode
      by_cases listed : inode ∈ root.links <;>
        simp [Modes.harden, listed, Mode.otherBits_hardened]
    · intro inode other
      have unlisted : inode ∉ root.links := fun listed => other (root.device_of_mem_links listed)
      simp [Modes.harden, unlisted]
    · exact fun inode outside => Modes.harden_apart apart outside

/-- A file, a socket and a file, all open to the world. -/
def withSocket : Root :=
  ⟨⟨0, 1⟩, .file ⟨0, 2⟩ (.special .socket (.file ⟨0, 3⟩ .none)), []⟩

def openFiles : Modes := fun inode => if inode = ⟨0, 1⟩ then 0o755#12 else 0o666#12

/-- The second file stays as it is. -/
theorem socket_stops_repair : ¬ withSocket.Repaired openFiles ∧
    (hardenTree withSocket openFiles).2 ⟨0, 2⟩ = 0o664#12 ∧
    (hardenTree withSocket openFiles).2 ⟨0, 3⟩ = 0o666#12 := by
  refine ⟨fun repaired => ?_, rfl, rfl⟩
  have stopped : (hardenTree withSocket openFiles).1 = .error .enxio := rfl
  rw [repaired.counted] at stopped
  contradiction

/-! ## Repairing again -/

theorem hardenDirectory_closed {device : Nat} {entries : Entries} {modes : Modes}
    (closed : ∀ inode ∈ (entries.visit device).2, (modes inode).writable = false) :
    hardenDirectory device entries modes = ((entries.visit device).1.map fun _ => 0, modes) := by
  induction entries with
  | none => rfl
  | special kind rest ih =>
    cases kind with
    | socket => rfl
    | symlink | fifo | device => exact ih closed
  | file inode rest ih =>
    have later := ih fun link listed => closed link (List.mem_append_right _ listed)
    by_cases here : inode.device = device
    · have quiet : (modes inode).writable = false := closed inode (by simp [Entries.visit, here])
      cases ends : (rest.visit device).1 <;>
        simp [hardenDirectory, here, Modes.chmod_closed quiet, Mode.count_of_closed quiet, later,
          Entries.visit, ends, Except.map]
    · simp [hardenDirectory, here, later, Entries.visit]
  | directory inode children rest inside ih =>
    by_cases here : inode.device = device
    · rcases seen : children.visit device with ⟨errno | ⟨⟩, below⟩
      · rw [seen] at inside
        simp only [Entries.visit, here, if_true, seen] at closed
        simp [hardenDirectory, here, inside closed, Entries.visit, seen, Except.map]
      · rw [seen] at inside
        simp only [Entries.visit, here, if_true, seen] at closed
        have quiet : (modes inode).writable = false := closed inode (by simp)
        have before := inside fun link listed => closed link (by simp [listed])
        have later := ih fun link listed => closed link (by simp [listed])
        cases ends : (rest.visit device).1 <;>
          simp [hardenDirectory, here, before, later, Modes.chmod_closed quiet,
            Mode.count_of_closed quiet, Entries.visit, seen, ends, Except.map]
    · simp only [Entries.visit, here, if_false] at closed
      simp [hardenDirectory, here, ih closed, Entries.visit]

/-- A second repair ends as the first did, hardens nothing and leaves every mode as it is. -/
theorem repair_idempotent (root : Root) (modes : Modes) :
    hardenTree root (hardenTree root modes).2 =
      ((hardenTree root modes).1.map fun _ => 0, (hardenTree root modes).2) := by
  obtain ⟨ends, left⟩ := hardenDirectory_visit root.inode.device root.entries modes
  rcases walked : hardenDirectory root.inode.device root.entries modes with ⟨errno | found, inside⟩ <;>
    rw [walked] at ends left <;> obtain rfl : inside = _ := left
  · have again := @hardenDirectory_closed root.inode.device root.entries
      (modes.harden (root.entries.visit root.inode.device).2)
      fun inode listed => by simp [Modes.harden, listed]
    simp [hardenTree, walked, again, ← ends, Except.map]
  · have again := @hardenDirectory_closed root.inode.device root.entries
      (modes.harden ((root.entries.visit root.inode.device).2 ++ [root.inode]))
      fun inode listed => by simp [Modes.harden, listed]
    have quiet : (modes.harden ((root.entries.visit root.inode.device).2 ++ [root.inode])
        root.inode).writable = false := by simp [Modes.harden]
    simp [hardenTree, walked, Modes.chmod_harden, again, ← ends, Except.map,
      Mode.count_of_closed quiet, Modes.chmod_closed quiet]

end OpsEngine.Permissions
