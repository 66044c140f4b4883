import OpsEngine.Swap.Operations

namespace OpsEngine.Swap

open Effect

/-! # All or nothing

A request that succeeds has done what it was asked; one that fails has undone what it
did, or says that it could not.  A write of `/etc/fstab` that fails after its rename is
undone by nobody, and a swap file that is lost in a resize may leave its entry behind.
-/

variable (path : SwapPath) (weather : Weather)

/-- The host is as the action asks, and the lines of others are as they were. -/
def Achieved : Action → Host → Host → Prop
  | .create sizeMb, before, after | .resize sizeMb, before, after =>
    after.slot.length? = some (sizeMb * mib) ∧ after.slot.active = true ∧
      hasEntry path after.fstab = true ∧ otherLines path after.fstab = otherLines path before.fstab
  | .delete, before, after =>
    after.slot = .absent ∧ hasEntry path after.fstab = false ∧
      otherLines path after.fstab = otherLines path before.fstab

/-- The same file, in use or not, and the same `/etc/fstab`. -/
def Unchanged (before after : Host) : Prop :=
  after.slot.length? = before.slot.length? ∧ after.slot.active = before.slot.active ∧
    after.fstab = before.fstab

/-- What a request may return with which host. -/
def Fair (action : Action) (before : Host) : Except Error SwapResult × Host → Prop
  | (.ok _, after) => Achieved path action before after
  | (.error (.rollbackFailed _), after) => after.slot = .absent → hasEntry path after.fstab = false
  | (.error _, after) => Unchanged before after

def AllOrNothing (action : Action) (host : Host) : Prop :=
  Fair path action host ((action.run path).evaluate (perform weather) host)

/-! ## The requests that are neither -/

/-- Every step of the build succeeds. -/
def Weather.Builds (build : Build) (bytes : Nat) (enable : Bool) : Prop :=
  weather.change (.openNew build) = .done ∧
    weather.change (.tool build (.fallocate bytes)) = .done ∧
    weather.change (.tool build .mkswap) = .done ∧
    (enable = true → weather.change (.tool build .swapon) = .done)

/-- No partial file stays behind. -/
def Weather.Clears (build : Build) : Prop :=
  weather.change (.openNew build) ≠ .done ∨ weather.change (.removePartial build) = .done

/-- The request gets to the point where it changes something. -/
def CreateReached (sizeMb : Nat) (host : Host) : Prop :=
  host.slot = .absent ∧ weather.inspects = true ∧ weather.measures = true ∧
    sizeMb * mib ≤ host.available ∧ weather.readsFstab = true ∧ weather.cancelled = false

/-- The entry is written after all although its write fails, and everything else is undone. -/
def CreateSlips (sizeMb : Nat) (host : Host) : Prop :=
  CreateReached weather sizeMb host ∧ weather.Builds .requested (sizeMb * mib) true ∧
    ∃ updated, withEntry path host.fstab = some updated ∧
      weather.change (.writeFstab .persist updated) = .late ∧
      weather.change (.swapoff true) = .done ∧ weather.change (.removeFile true) = .done

/-- There is no file to remove, its removal fails nevertheless, and the entry that was dropped
is back although its write fails. -/
def RemoveSlips (host : Host) : Prop :=
  host.slot = .absent ∧ hasEntry path host.fstab = true ∧
    weather.change (.removeFile false) ≠ .done ∧
    weather.change (.writeFstab .restore host.fstab) = .late

/-- The pruned file is written after all although its write fails, and the swap is back on. -/
def DropSlips (host : Host) : Prop :=
  (∃ pruned, withoutEntry path host.fstab = some pruned ∧
    weather.change (.writeFstab .persist pruned) = .late ∧
    (host.slot.active = true → weather.change .swapon = .done)) ∨
  ((∀ pruned, withoutEntry path host.fstab = some pruned →
    weather.change (.writeFstab .persist pruned) = .done) ∧ RemoveSlips path weather host)

def DeleteReached (host : Host) : Prop :=
  host.slot ≠ .foreign ∧ weather.inspects = true ∧ weather.readsSwaps = true ∧
    weather.readsFstab = true ∧ (host.slot ≠ .absent ∨ hasEntry path host.fstab = true) ∧
    weather.cancelled = false

def DeleteSlips (host : Host) : Prop :=
  DeleteReached path weather host ∧
    (host.slot.active = true → weather.change (.swapoff false) = .done) ∧
    DropSlips path weather host

/-- Neither the new file nor the previous one can be built, both leave nothing behind, and the
entry is not dropped. -/
def ReplaceSlips (sizeMb : Nat) (found : SwapFile) (fstab : Text) : Prop :=
  weather.change (.removeFile false) = .done ∧
    ¬weather.Builds .requested (sizeMb * mib) true ∧ weather.Clears .requested ∧
    ¬weather.Builds .previous found.length found.active ∧ weather.Clears .previous ∧
    ∀ pruned, withoutEntry path fstab = some pruned →
      weather.change (.writeFstab .drop pruned) = .failed

def ResizeReached (sizeMb : Nat) (found : SwapFile) (host : Host) : Prop :=
  host.slot = .file found ∧ weather.inspects = true ∧ weather.readsSwaps = true ∧
    weather.readsFstab = true ∧
    ¬(found.length = sizeMb * mib ∧ found.active = true ∧ hasEntry path host.fstab = true) ∧
    weather.measures = true ∧ sizeMb * mib ≤ host.available + found.allocated ∧
    weather.cancelled = false

/-- The entry is written after all although its write fails; or it is there, the swap is off, and
both builds fail. -/
def ResizeSlips (sizeMb : Nat) (found : SwapFile) (host : Host) : Prop :=
  ResizeReached path weather sizeMb found host ∧
    ((∃ updated, withEntry path host.fstab = some updated ∧
        weather.change (.writeFstab .persist updated) = .late) ∨
      ((∀ updated, withEntry path host.fstab = some updated →
          weather.change (.writeFstab .persist updated) = .done) ∧
        (found.active = true → weather.change (.swapoff false) = .done) ∧
        ReplaceSlips path weather sizeMb found host.fstab))

/-- The patterns of failing steps after which the request is neither done nor undone. -/
def Slips : Action → Host → Prop
  | .create sizeMb, host => CreateSlips path weather sizeMb host
  | .delete, host => DeleteSlips path weather host
  | .resize sizeMb, host =>
    CreateSlips path weather sizeMb host ∨ ∃ found, ResizeSlips path weather sizeMb found host

/-! ## Single steps -/

def Error.isRollback : Error → Bool
  | .rollbackFailed _ => true
  | _ => false

/-- A request that stops at a read, or decides to, leaves the host alone. -/
def Stops (task : Task (Except Error SwapResult)) (host : Host) : Prop :=
  ∃ error, error.isRollback = false ∧ task.evaluate (perform weather) host = (.error error, host)

variable {path weather}

variable {found : SwapFile} {error : Error}

section Steps

variable {host : Host} {α : Type} {step : Change}

theorem evaluate_change {result : Bool} {after : Host} {rest : Bool → Task α}
    (answer : attempt weather step host = (result, after)) :
    (change step >>= rest).evaluate (perform weather) host =
      (rest result).evaluate (perform weather) after := by
  change (rest (attempt weather step host).1).evaluate _ (attempt weather step host).2 = _
  rw [answer]

theorem evaluate_done (done : weather.change step = .done)
    (possible : step.possible host = true) (rest : Bool → Task α) :
    (change step >>= rest).evaluate (perform weather) host =
      (rest true).evaluate (perform weather) (step.effect host) :=
  evaluate_change (by simp [attempt, done, possible])

theorem evaluate_undone (failed : weather.change step ≠ .done)
    (plain : step.writes = false) (rest : Bool → Task α) :
    (change step >>= rest).evaluate (perform weather) host =
      (rest false).evaluate (perform weather) host := by
  apply evaluate_change
  cases outcome : weather.change step with
  | done => contradiction
  | failed => simp [attempt, outcome]
  | late => simp [attempt, outcome, plain]

theorem evaluate_failed (failed : weather.change step = .failed) (rest : Bool → Task α) :
    (change step >>= rest).evaluate (perform weather) host =
      (rest false).evaluate (perform weather) host :=
  evaluate_change (by simp [attempt, failed])

theorem evaluate_late {write : Write} {contents : Text}
    (late : weather.change (.writeFstab write contents) = .late) (rest : Bool → Task α) :
    (change (.writeFstab write contents) >>= rest).evaluate (perform weather) host =
      (rest false).evaluate (perform weather) { host with fstab := contents } :=
  evaluate_change (by simp [attempt, late, Change.writes, Change.effect])

theorem evaluate_inspect :
    inspect.evaluate (perform weather) host = (host.inspected weather, host) := rfl

theorem evaluate_inspect_absent (inspects : weather.inspects = true)
    (absent : host.slot = .absent) :
    inspect.evaluate (perform weather) host = (.ok none, host) := by
  simp [evaluate_inspect, Host.inspected, inspects, absent]

theorem evaluate_inspect_file (inspects : weather.inspects = true)
    (file : host.slot = .file found) :
    inspect.evaluate (perform weather) host = (.ok (some found), host) := by
  simp [evaluate_inspect, Host.inspected, inspects, file]

theorem evaluate_inspect_stops (stops : weather.inspects = false ∨ host.slot = .foreign) :
    ∃ error, error.isRollback = false ∧
      inspect.evaluate (perform weather) host = (.error error, host) := by
  cases inspects : weather.inspects with
  | false => exact ⟨.io, rfl, by simp [evaluate_inspect, Host.inspected, inspects]⟩
  | true =>
    have foreign : host.slot = .foreign := stops.resolve_left (by simp [inspects])
    exact ⟨.unsafeSwapPath, rfl, by simp [evaluate_inspect, Host.inspected, inspects, foreign]⟩

theorem evaluate_isActive : isActive.evaluate (perform weather) host =
    (if weather.readsSwaps then .ok host.slot.active else .error .io, host) := rfl

theorem evaluate_available : available.evaluate (perform weather) host =
    (if weather.measures then .ok host.available else .error .io, host) := rfl

theorem evaluate_readFstab : readFstab.evaluate (perform weather) host =
    (if weather.readsFstab then .ok host.fstab else .error .io, host) := rfl

theorem evaluate_check : check.evaluate (perform weather) host =
    (if weather.cancelled = false then .ok () else .error .cancelled, host) := by
  show (if weather.cancelled then _ else _, host) = _
  cases weather.cancelled <;> rfl

variable {rest : α → Task (Except Error SwapResult)}

theorem Stops.read {read : Task (Except Error α)} (plain : error.isRollback = false)
    (fails : read.evaluate (perform weather) host = (.error error, host)) :
    Stops weather (read.andThen rest) host :=
  ⟨error, plain, Program.evaluate_andThen_error fails⟩

theorem Stops.later {read : Task (Except Error α)}
    {value : α} (reads : read.evaluate (perform weather) host = (.ok value, host))
    (stops : Stops weather (rest value) host) : Stops weather (read.andThen rest) host := by
  obtain ⟨error, plain, same⟩ := stops
  exact ⟨error, plain, (Program.evaluate_andThen_ok reads).trans same⟩

end Steps

/-! ## Building a swap file -/

variable {build : Build} {stage : Stage} {bytes : Nat} {enable : Bool}

theorem evaluate_runTools_fails {tool : Tool}
    (failed : weather.change (.tool build tool) ≠ .done) (others : List (Tool × Stage))
    (host : Host) :
    (runTools build ((tool, stage) :: others)).evaluate (perform weather) host =
      if weather.change (.removePartial build) = .done then
        (.error (.tool stage), { host with slot := .absent })
      else (.error (.rollbackFailed stage), host) := by
  rw [runTools, evaluate_undone failed rfl]
  simp only [Bool.false_eq_true, if_false]
  by_cases cleared : weather.change (.removePartial build) = .done
  · rw [evaluate_done cleared rfl]
    simp [cleared, Change.effect]
  · rw [evaluate_undone cleared rfl]
    simp [cleared]

theorem evaluate_runTools_works {tool : Tool}
    (done : weather.change (.tool build tool) = .done) (others : List (Tool × Stage))
    (host : Host) :
    (runTools build ((tool, stage) :: others)).evaluate (perform weather) host =
      (runTools build others).evaluate (perform weather)
        { host with slot := tool.effect host.slot } := by
  rw [runTools, evaluate_done done rfl]
  rfl

variable {host : Host}

theorem evaluate_buildSwap_works
    (builds : weather.Builds build bytes enable) (absent : host.slot = .absent) :
    (buildSwap build bytes enable).evaluate (perform weather) host =
      (.ok (), { host with slot := .file ⟨bytes, bytes, enable⟩ }) := by
  obtain ⟨opened, allocated, formatted, enabled⟩ := builds
  rw [buildSwap, evaluate_done opened (by simp [Change.possible, absent])]
  simp only [if_true, buildTools, List.cons_append, List.nil_append, Change.effect]
  rw [evaluate_runTools_works allocated, evaluate_runTools_works formatted]
  cases enable with
  | false => rfl
  | true =>
    simp only [if_true]
    rw [evaluate_runTools_works (enabled rfl)]
    rfl

theorem exists_failing_tool (opened : weather.change (.openNew build) = .done)
    (fails : ¬weather.Builds build bytes enable) (host : Host) :
    ∃ tool stage others, weather.change (.tool build tool) ≠ .done ∧
      ∃ file, (runTools build (buildTools bytes enable)).evaluate (perform weather)
          { host with slot := .file ⟨0, 0, false⟩ } =
        (runTools build ((tool, stage) :: others)).evaluate (perform weather)
          { host with slot := .file file } := by
  by_cases allocated : weather.change (.tool build (.fallocate bytes)) = .done
  · by_cases formatted : weather.change (.tool build .mkswap) = .done
    · cases enable with
      | false => exact absurd ⟨opened, allocated, formatted, fun enabled => nomatch enabled⟩ fails
      | true =>
        have off : weather.change (.tool build .swapon) ≠ .done :=
          fun enabled => fails ⟨opened, allocated, formatted, fun _ => enabled⟩
        refine ⟨.swapon, .enable, [], off, ⟨bytes, bytes, false⟩, ?_⟩
        rw [buildTools, List.cons_append, evaluate_runTools_works allocated,
          List.cons_append, evaluate_runTools_works formatted]
        rfl
    · refine ⟨.mkswap, .format, if enable then [(.swapon, .enable)] else [], formatted,
        ⟨bytes, bytes, false⟩, ?_⟩
      rw [buildTools, List.cons_append, evaluate_runTools_works allocated]
      rfl
  · exact ⟨.fallocate bytes, .allocate, _, allocated, ⟨0, 0, false⟩, rfl⟩

theorem evaluate_buildSwap_fails
    (fails : ¬weather.Builds build bytes enable) (absent : host.slot = .absent) :
    (weather.Clears build → ∃ error, error.isRollback = false ∧
      (buildSwap build bytes enable).evaluate (perform weather) host = (.error error, host)) ∧
    (¬weather.Clears build → ∃ stage file,
      (buildSwap build bytes enable).evaluate (perform weather) host =
        (.error (.rollbackFailed stage), { host with slot := .file file })) := by
  have same : ({ host with slot := .absent } : Host) = host := by rw [← absent]
  rw [buildSwap]
  by_cases opened : weather.change (.openNew build) = .done
  · -- the first tool that fails decides what is left
    obtain ⟨tool, stage, others, failed, file, reached⟩ :=
      exists_failing_tool opened fails host
    rw [evaluate_done opened (by simp [Change.possible, absent])]
    simp only [if_true, Change.effect]
    rw [reached, evaluate_runTools_fails failed]
    by_cases cleared : weather.change (.removePartial build) = .done
    · simp only [cleared, if_true, same]
      exact ⟨fun _ => ⟨_, rfl, rfl⟩, fun kept => absurd (.inr cleared) kept⟩
    simp only [cleared, if_false]
    refine ⟨fun clears => ?_, fun _ => ⟨_, _, rfl⟩⟩
    rcases clears with unopened | removed
    · contradiction
    · contradiction
  · rw [evaluate_undone opened rfl]
    exact ⟨fun _ => ⟨.filesystem .allocate, rfl, rfl⟩, fun kept => absurd (.inl opened) kept⟩

/-! ## Creating -/

theorem Fair.stop {action : Action}
    (plain : error.isRollback = false) : Fair path action host (.error error, host) := by
  cases error with
  | rollbackFailed stage => contradiction
  | _ => exact ⟨rfl, rfl, rfl⟩

theorem fair_stops_iff {action : Action} {rest : Option SwapFile → Task (Except Error SwapResult)}
    {slips : Prop} (looks : weather.inspects = false ∨ host.slot = .foreign) (never : ¬slips) :
    Fair path action host ((inspect.andThen rest).evaluate (perform weather) host) ↔ ¬slips := by
  obtain ⟨error, plain, fails⟩ := evaluate_inspect_stops looks
  rw [Program.evaluate_andThen_error fails]
  exact iff_of_true (.stop plain) never

theorem fair_read_iff {α : Type} {read : Task (Except Error α)}
    {rest : α → Task (Except Error SwapResult)} {action : Action} {value : α} {works slips : Prop}
    [Decidable works] (reads : read.evaluate (perform weather) host =
      (if works then .ok value else .error error, host))
    (plain : error.isRollback = false) (needs : slips → works) (later : works →
      (Fair path action host ((rest value).evaluate (perform weather) host) ↔ ¬slips)) :
    Fair path action host ((read.andThen rest).evaluate (perform weather) host) ↔ ¬slips := by
  by_cases read : works
  · rw [Program.evaluate_andThen_ok (reads.trans (by rw [if_pos read]))]
    exact later read
  · rw [Program.evaluate_andThen_error (reads.trans (by rw [if_neg read]))]
    exact iff_of_true (.stop plain) fun slips => read (needs slips)

variable {sizeMb : Nat}

theorem evaluate_create_reached (reached : CreateReached weather sizeMb host) :
    (create path sizeMb).evaluate (perform weather) host =
      ((buildSwap .requested (sizeMb * mib) true).andThen fun _ =>
        persist path sizeMb host.fstab).evaluate (perform weather) host := by
  obtain ⟨absent, inspects, measures, fits, reads, going⟩ := reached
  have space : ¬host.available < sizeMb * mib := by omega
  rw [create, Program.evaluate_andThen_ok (evaluate_inspect_absent inspects absent), if_neg (by simp),
    Program.evaluate_andThen_ok (evaluate_available.trans (by rw [if_pos measures])), if_neg space,
    Program.evaluate_andThen_ok (evaluate_readFstab.trans (by rw [if_pos reads])),
    Program.evaluate_andThen_ok (evaluate_check.trans (by rw [if_pos going]))]

theorem create_stops (stops : ¬CreateReached weather sizeMb host) :
    Stops weather (create path sizeMb) host := by
  by_cases looks : weather.inspects = false ∨ host.slot = .foreign
  · obtain ⟨error, plain, fails⟩ := evaluate_inspect_stops looks
    exact .read plain fails
  have inspects : weather.inspects = true := by simpa using fun h => looks (.inl h)
  cases slot : host.slot with
  | foreign => exact absurd (.inr slot) looks
  | file found =>
    apply Stops.later (evaluate_inspect_file inspects slot)
    exact ⟨.alreadyExists, rfl, rfl⟩
  | absent =>
  apply Stops.later (evaluate_inspect_absent inspects slot)
  by_cases measures : weather.measures = true
  · apply Stops.later (evaluate_available.trans (by rw [if_pos measures]))
    by_cases space : host.available < sizeMb * mib
    · exact ⟨.insufficientSpace, rfl, by rw [if_pos space]; rfl⟩
    rw [if_neg space]
    by_cases reads : weather.readsFstab = true
    · apply Stops.later (evaluate_readFstab.trans (by rw [if_pos reads]))
      have cancelled : weather.cancelled = true := by
        by_contra going
        exact stops ⟨slot, inspects, measures, Nat.le_of_not_lt space, reads, by simpa using going⟩
      exact .read rfl (evaluate_check.trans (by rw [if_neg (by simp [cancelled])]))
    · exact .read rfl (evaluate_readFstab.trans (by rw [if_neg reads]))
  · exact .read rfl (evaluate_available.trans (by rw [if_neg measures]))

theorem hasEntry_of_withEntry {fstab updated : Text}
    (written : withEntry path fstab = some updated) :
    hasEntry path fstab = false := by
  by_contra present
  rw [withEntry_none_iff.mpr (by simpa using present)] at written
  contradiction

theorem fstab_of_withEntry {fstab updated : Text} (written : withEntry path fstab = some updated) :
    updated ≠ fstab := by
  rintro rfl
  have absent := hasEntry_of_withEntry written
  rw [(withEntry_spec written).1] at absent
  contradiction

theorem evaluate_persist (absent : host.slot = .absent) :
    Fair path (.create sizeMb) host
      ((persist path sizeMb host.fstab).evaluate (perform weather)
        { host with slot := .file ⟨sizeMb * mib, sizeMb * mib, true⟩ }) ↔
    ¬∃ updated, withEntry path host.fstab = some updated ∧
      weather.change (.writeFstab .persist updated) = .late ∧
      weather.change (.swapoff true) = .done ∧ weather.change (.removeFile true) = .done := by
  rw [persist]
  cases written : withEntry path host.fstab with
  | none =>
    have present := withEntry_none_iff.mp written
    simp [Fair, Achieved, Slot.length?, Slot.active, present]
  | some updated =>
  have spec := withEntry_spec written
  have other := fstab_of_withEntry written
  simp only [Option.some.injEq, exists_eq_left']
  cases outcome : weather.change (.writeFstab .persist updated) with
  | done =>
    rw [evaluate_done outcome rfl]
    simp [Fair, Achieved, Slot.length?, Slot.active, Change.effect, spec]
  | failed =>
    rw [evaluate_failed outcome]
    by_cases off : weather.change (.swapoff true) = .done
    · by_cases removed : weather.change (.removeFile true) = .done
      · simp [evaluate_done off rfl, evaluate_done removed rfl, Change.effect,
          Fair, Unchanged, absent]
      · simp [evaluate_done off rfl, evaluate_undone removed rfl, Change.effect,
          Fair, Slot.setActive]
    · simp [evaluate_undone off rfl, Fair]
  | late =>
  rw [evaluate_late outcome]
  by_cases off : weather.change (.swapoff true) = .done
  · by_cases removed : weather.change (.removeFile true) = .done
    · simp [evaluate_done off rfl, evaluate_done removed rfl, Change.effect,
        Fair, Unchanged, off, removed, other]
    · simp [evaluate_done off rfl, evaluate_undone removed rfl, Change.effect,
        Fair, Slot.setActive, removed]
  · simp [evaluate_undone off rfl, Fair, off]

theorem create_iff (sizeMb : Nat) (host : Host) :
    AllOrNothing path weather (.create sizeMb) host ↔ ¬CreateSlips path weather sizeMb host := by
  rw [AllOrNothing, Action.run]
  by_cases reached : CreateReached weather sizeMb host
  · have absent := reached.1
    rw [evaluate_create_reached reached]
    by_cases builds : weather.Builds .requested (sizeMb * mib) true
    · rw [Program.evaluate_andThen_ok (evaluate_buildSwap_works builds absent),
        evaluate_persist absent]
      simp [CreateSlips, reached, builds]
    have slips : ¬CreateSlips path weather sizeMb host := fun slips => builds slips.2.1
    simp only [slips, not_false_eq_true, iff_true]
    obtain ⟨clean, dirty⟩ := evaluate_buildSwap_fails builds absent
    by_cases clears : weather.Clears .requested
    · obtain ⟨error, plain, fails⟩ := clean clears
      rw [Program.evaluate_andThen_error fails]
      exact .stop plain
    · obtain ⟨stage, file, fails⟩ := dirty clears
      rw [Program.evaluate_andThen_error fails]
      intro gone
      contradiction
  · have slips : ¬CreateSlips path weather sizeMb host := fun slips => reached slips.1
    simp only [slips, not_false_eq_true, iff_true]
    obtain ⟨error, plain, fails⟩ := create_stops reached
    rw [fails]
    exact .stop plain

/-! ## Deleting -/

theorem Slot.length?_setActive (slot : Slot) (active : Bool) :
    (slot.setActive active).length? = slot.length? := by
  cases slot <;> rfl

theorem Slot.active_setActive_false (slot : Slot) : (slot.setActive false).active = false := by
  cases slot <;> rfl

theorem Slot.setActive_inactive {slot : Slot} (inactive : slot.active = false) :
    slot.setActive false = slot := by
  cases slot with
  | file found =>
    simp only [Slot.active] at inactive
    simp [Slot.setActive, ← inactive]
  | absent => rfl
  | foreign => rfl

theorem Slot.file_of_active {slot : Slot} (active : slot.active = true) :
    ∃ found, slot = .file found := by
  cases slot with
  | file found => exact ⟨found, rfl⟩
  | absent => contradiction
  | foreign => contradiction

variable {before : Host}

theorem evaluate_reenable (off : host.slot = before.slot.setActive false)
    (stage : Stage) (action : Action) :
    Fair path action before ((reenable before.slot.active stage).evaluate (perform weather) host) ↔
      host.fstab = before.fstab ∨ (before.slot.active = true ∧ weather.change .swapon ≠ .done) := by
  rw [reenable]
  cases active : before.slot.active with
  | false =>
    simp [Fair, Unchanged, off, active, Slot.length?_setActive, Slot.active_setActive_false]
  | true =>
  obtain ⟨found, file⟩ := Slot.file_of_active active
  have used : found.active = true := by simpa [file, Slot.active] using active
  simp only [if_true]
  by_cases on : weather.change .swapon = .done
  · rw [evaluate_done on rfl]
    simp [Fair, Unchanged, Change.effect, off, file, Slot.setActive, Slot.length?, Slot.active, on,
      used]
  · rw [evaluate_undone on rfl]
    simp [Fair, off, file, Slot.setActive, on]

theorem hasEntry_of_withoutEntry {fstab pruned : Text}
    (written : withoutEntry path fstab = some pruned) : hasEntry path fstab = true := by
  by_contra absent
  rw [withoutEntry_none_iff.mpr (by simpa using absent)] at written
  contradiction

theorem fstab_of_withoutEntry {fstab pruned : Text}
    (written : withoutEntry path fstab = some pruned) :
    pruned ≠ fstab := by
  rintro rfl
  have present := hasEntry_of_withoutEntry written
  rw [(withoutEntry_spec written).1] at present
  contradiction

theorem evaluate_removeSwap (off : host.slot = before.slot.setActive false)
    {pruned : Option Text} (written : withoutEntry path before.fstab = pruned)
    (current : host.fstab = pruned.getD before.fstab) :
    Fair path .delete before
        ((removeSwap before.slot.active before.fstab pruned).evaluate (perform weather) host) ↔
      ¬RemoveSlips path weather before := by
  unfold removeSwap
  by_cases removed : weather.change (.removeFile false) = .done
  · have spec : hasEntry path host.fstab = false ∧
        otherLines path host.fstab = otherLines path before.fstab := by
      rw [current]
      cases pruned with
      | none => exact ⟨withoutEntry_none_iff.mp written, rfl⟩
      | some text => exact withoutEntry_spec written
    rw [evaluate_done removed rfl]
    exact iff_of_true ⟨rfl, spec⟩ fun slips => slips.2.2.1 removed
  rw [evaluate_undone removed rfl]
  simp only [Bool.false_eq_true, if_false]
  cases pruned with
  | none =>
    have kept : host.fstab = before.fstab := current
    have none : hasEntry path before.fstab = false :=
      withoutEntry_none_iff.mp written
    rw [evaluate_reenable off]
    simp [kept, RemoveSlips, none]
  | some text =>
  have present := hasEntry_of_withoutEntry written
  have gone : host.slot = .absent ↔ before.slot = .absent := by
    rw [off]
    cases before.slot <;> simp [Slot.setActive]
  cases outcome : weather.change (.writeFstab .restore before.fstab) with
  | done =>
    rw [evaluate_done outcome rfl]
    simp only [if_true]
    rw [evaluate_reenable (by exact off)]
    simp [Change.effect, RemoveSlips, outcome]
  | failed =>
    rw [evaluate_failed outcome]
    have pruned : hasEntry path host.fstab = false := by
      rw [current]
      exact (withoutEntry_spec written).1
    simp [Fair, RemoveSlips, outcome, pruned]
  | late =>
    rw [evaluate_late outcome]
    simp [Fair, RemoveSlips, outcome, removed, present, gone]

theorem evaluate_dropSwap (off : host.slot = before.slot.setActive false)
    (kept : host.fstab = before.fstab) :
    Fair path .delete before ((dropSwap before.slot.active before.fstab
        (withoutEntry path before.fstab)).evaluate (perform weather) host) ↔
      ¬DropSlips path weather before := by
  unfold dropSwap
  cases written : withoutEntry path before.fstab with
  | none =>
    rw [evaluate_removeSwap off written kept]
    simp [DropSlips, written]
  | some pruned =>
  have other := fstab_of_withoutEntry written
  cases outcome : weather.change (.writeFstab .persist pruned) with
  | done =>
    rw [evaluate_done outcome rfl]
    simp only [if_true]
    rw [evaluate_removeSwap (by exact off) written rfl]
    simp [DropSlips, written, outcome]
  | failed =>
    rw [evaluate_failed outcome]
    simp only [Bool.false_eq_true, if_false]
    rw [evaluate_reenable off]
    simp [DropSlips, written, outcome, kept]
  | late =>
    rw [evaluate_late outcome]
    simp only [Bool.false_eq_true, if_false]
    rw [evaluate_reenable (by exact off)]
    simp [DropSlips, written, outcome, other]

theorem evaluate_inspect_ok (inspects : weather.inspects = true)
    (own : host.slot ≠ .foreign) : ∃ found, (found.isSome = true ↔ host.slot ≠ .absent) ∧
      inspect.evaluate (perform weather) host = (.ok found, host) := by
  cases slot : host.slot with
  | absent => exact ⟨none, by simp, evaluate_inspect_absent inspects slot⟩
  | foreign => contradiction
  | file found => exact ⟨some found, by simp, evaluate_inspect_file inspects slot⟩

theorem delete_idle (absent : host.slot = .absent)
    (none : hasEntry path host.fstab = false) : Achieved path .delete host host :=
  ⟨absent, none, rfl⟩

theorem delete_reached_iff (reached : DeleteReached path weather host) :
    Fair path .delete host ((disableAndDrop host.slot.active host.fstab
        (withoutEntry path host.fstab)).evaluate (perform weather) host) ↔
      ¬DeleteSlips path weather host := by
  unfold disableAndDrop
  by_cases active : host.slot.active = true
  · rw [if_pos active]
    by_cases off : weather.change (.swapoff false) = .done
    · rw [evaluate_done off rfl]
      simp only [if_true]
      rw [evaluate_dropSwap rfl (by rfl)]
      simp [DeleteSlips, reached, off]
    · rw [evaluate_undone off rfl]
      refine iff_of_true (.stop rfl) fun slips => off (slips.2.1 active)
  · have inactive : host.slot.active = false := by simpa using active
    rw [if_neg active, evaluate_dropSwap (Slot.setActive_inactive inactive).symm rfl]
    simp [DeleteSlips, reached, inactive]

theorem delete_iff (host : Host) :
    AllOrNothing path weather .delete host ↔ ¬DeleteSlips path weather host := by
  rw [AllOrNothing, Action.run, delete]
  by_cases looks : weather.inspects = false ∨ host.slot = .foreign
  · refine fair_stops_iff looks fun slips => ?_
    rcases looks with unread | foreign
    · rw [slips.1.2.1] at unread
      contradiction
    · exact slips.1.1 foreign
  obtain ⟨inspects, own⟩ : weather.inspects = true ∧ host.slot ≠ .foreign := by
    simpa using looks
  obtain ⟨found, present, seen⟩ := evaluate_inspect_ok inspects own
  rw [Program.evaluate_andThen_ok seen]
  refine fair_read_iff evaluate_isActive rfl (fun slips => slips.1.2.2.1) fun readsSwaps => ?_
  refine fair_read_iff evaluate_readFstab rfl (fun slips => slips.1.2.2.2.1) fun reads => ?_
  have idle : (!found.isSome && !host.slot.active && (withoutEntry path host.fstab).isNone) =
      true ↔ host.slot = .absent ∧ hasEntry path host.fstab = false := by
    rw [Bool.and_eq_true, Option.isNone_iff_eq_none, withoutEntry_none_iff]
    cases slot : host.slot <;> simp_all [Slot.active]
  by_cases nothing : host.slot = .absent ∧ hasEntry path host.fstab = false
  · rw [if_pos (idle.mpr nothing)]
    refine iff_of_true (delete_idle nothing.1 nothing.2) fun slips => ?_
    rcases slips.1.2.2.2.2.1 with present | entry
    · exact present nothing.1
    · rw [nothing.2] at entry
      contradiction
  · rw [if_neg (fun quits => nothing (idle.mp quits))]
    have something : host.slot ≠ .absent ∨ hasEntry path host.fstab = true := by
      by_contra neither
      exact nothing (by simpa using neither)
    exact fair_read_iff evaluate_check rfl (fun slips => slips.1.2.2.2.2.2)
      fun going => delete_reached_iff ⟨own, inspects, readsSwaps, reads, something, going⟩

/-! ## Resizing -/

/-- The file and its use are as before: putting `/etc/fstab` back completes the undoing, and the
file stands if it does not. -/
theorem fair_restoreFstab (length : host.slot.length? = before.slot.length?)
    (active : host.slot.active = before.slot.active) (present : host.slot ≠ .absent)
    {entry : Option Text} (current : host.fstab = entry.getD before.fstab)
    (plain : error.isRollback = false) :
    Fair path (.resize sizeMb) before ((restoreFstab before.fstab entry >>= fun restored =>
      pure (orRollbackFailed restored error stage)).evaluate (perform weather) host) := by
  have back : ∀ later : Host, later.slot = host.slot → later.fstab = before.fstab →
      Fair path (.resize sizeMb) before (orRollbackFailed true error stage, later) := by
    intro later slot fstab
    have same : Unchanged before later := ⟨by rw [slot, length], by rw [slot, active], fstab⟩
    cases error with
    | rollbackFailed stage => contradiction
    | _ => exact same
  have lost : ∀ later : Host, later.slot = host.slot →
      Fair path (.resize sizeMb) before (orRollbackFailed false error stage, later) := by
    intro later slot gone
    exact absurd (slot ▸ gone) present
  cases entry with
  | none => exact back host rfl current
  | some updated =>
  simp only [restoreFstab]
  cases outcome : weather.change (.writeFstab .restore before.fstab) with
  | done =>
    rw [evaluate_done outcome rfl]
    exact back _ rfl rfl
  | failed =>
    rw [evaluate_failed outcome]
    exact lost host rfl
  | late =>
    rw [evaluate_late outcome]
    exact lost _ rfl

/-- No file is lost: a failed rollback may say so whatever `/etc/fstab` holds. -/
theorem fair_drop (present : host.slot = .file found) (fstab : Text) (stage : Stage) :
    Fair path (.resize sizeMb) before
      ((dropEntry path fstab stage).evaluate (perform weather) host) := by
  have stands : ∀ later : Host, later.slot = host.slot →
      Fair path (.resize sizeMb) before (.error (.rollbackFailed stage), later) := by
    intro later slot gone
    rw [slot, present] at gone
    contradiction
  unfold dropEntry
  cases withoutEntry path fstab with
  | none => exact stands host rfl
  | some pruned =>
  cases outcome : weather.change (.writeFstab .drop pruned) with
  | done =>
    rw [evaluate_done outcome rfl]
    exact stands _ rfl
  | failed =>
    rw [evaluate_failed outcome]
    exact stands _ rfl
  | late =>
    rw [evaluate_late outcome]
    exact stands _ rfl

theorem evaluate_dropEntry (gone : host.slot = .absent)
    (current : host.fstab = (withEntry path before.fstab).getD before.fstab) (stage : Stage) :
    Fair path (.resize sizeMb) before
        ((dropEntry path before.fstab stage).evaluate (perform weather) host) ↔
      ¬∀ pruned, withoutEntry path before.fstab = some pruned →
        weather.change (.writeFstab .drop pruned) = .failed := by
  unfold dropEntry
  cases written : withoutEntry path before.fstab with
  | none =>
    have absent := withoutEntry_none_iff.mp written
    cases added : withEntry path before.fstab with
    | none =>
      rw [withEntry_none_iff.mp added] at absent
      contradiction
    | some updated =>
      rw [added, Option.getD_some] at current
      simp [Fair, gone, current, (withEntry_spec added).1]
  | some pruned =>
    have entry := hasEntry_of_withoutEntry written
    have kept : host.fstab = before.fstab := by
      rw [current, withEntry_none_iff.mpr entry, Option.getD_none]
    have dropped := (withoutEntry_spec written).1
    cases outcome : weather.change (.writeFstab .drop pruned) with
    | done =>
      rw [evaluate_done outcome rfl]
      simp [Fair, Change.effect, dropped, outcome]
    | failed =>
      rw [evaluate_failed outcome]
      simp [Fair, gone, kept, entry, outcome]
    | late =>
      rw [evaluate_late outcome]
      simp [Fair, dropped, outcome]

theorem rebuild_eq {fstab : Text} {entry : Option Text} (plain : error.isRollback = false) :
    rebuild path found fstab entry error =
      buildSwap .previous found.length found.active >>= fun again =>
        match again with
        | .error _ => dropEntry path fstab (stageOf error)
        | .ok _ => restoreFstab fstab entry >>= fun restored =>
          pure (orRollbackFailed restored error (stageOf error)) := by
  cases error with
  | rollbackFailed stage => contradiction
  | _ => rfl

theorem evaluate_rebuild {before host : Host} {sizeMb : Nat} {found : SwapFile} {error : Error}
    (file : before.slot = .file found) (gone : host.slot = .absent)
    (current : host.fstab = (withEntry path before.fstab).getD before.fstab)
    (plain : error.isRollback = false) :
    Fair path (.resize sizeMb) before ((rebuild path found before.fstab
        (withEntry path before.fstab) error).evaluate (perform weather) host) ↔
      ¬(¬weather.Builds .previous found.length found.active ∧ weather.Clears .previous ∧
        ∀ pruned, withoutEntry path before.fstab = some pruned →
          weather.change (.writeFstab .drop pruned) = .failed) := by
  rw [rebuild_eq plain, Program.evaluate_bind]
  by_cases builds : weather.Builds .previous found.length found.active
  · rw [evaluate_buildSwap_works builds gone]
    refine iff_of_true ?_ fun slips => slips.1 builds
    exact fair_restoreFstab (by simp [file, Slot.length?]) (by simp [file, Slot.active])
      (by simp) current plain
  obtain ⟨clean, dirty⟩ := evaluate_buildSwap_fails builds gone
  by_cases clears : weather.Clears .previous
  · obtain ⟨reason, -, fails⟩ := clean clears
    rw [fails]
    rw [evaluate_dropEntry gone current]
    simp [builds, clears]
  · obtain ⟨stage, partialFile, fails⟩ := dirty clears
    rw [fails]
    refine iff_of_true ?_ fun slips => clears slips.2.1
    exact fair_drop rfl before.fstab (stageOf error)

theorem evaluate_replaceSwap {before host : Host} {sizeMb : Nat} {found : SwapFile}
    (file : before.slot = .file found) (off : host.slot = .file { found with active := false })
    (current : host.fstab = (withEntry path before.fstab).getD before.fstab) :
    Fair path (.resize sizeMb) before ((replaceSwap path sizeMb found before.fstab
        (withEntry path before.fstab)).evaluate (perform weather) host) ↔
      ¬ReplaceSlips path weather sizeMb found before.fstab := by
  have entries : hasEntry path host.fstab = true ∧
      otherLines path host.fstab = otherLines path before.fstab := by
    rw [current]
    cases added : withEntry path before.fstab with
    | none => exact ⟨withEntry_none_iff.mp added, rfl⟩
    | some updated => exact withEntry_spec added
  unfold replaceSwap
  by_cases removed : weather.change (.removeFile false) = .done
  · rw [evaluate_done removed rfl]
    simp only [if_true, Change.effect]
    rw [Program.evaluate_bind]
    by_cases builds : weather.Builds .requested (sizeMb * mib) true
    · rw [evaluate_buildSwap_works builds rfl]
      refine iff_of_true ⟨rfl, rfl, entries⟩ fun slips => slips.2.1 builds
    have gone : ({ host with slot := .absent } : Host).slot = .absent := rfl
    obtain ⟨clean, dirty⟩ := evaluate_buildSwap_fails builds gone
    by_cases clears : weather.Clears .requested
    · obtain ⟨error, plain, fails⟩ := clean clears
      rw [fails]
      dsimp only
      rw [evaluate_rebuild file gone current plain]
      simp [ReplaceSlips, removed, builds, clears]
    · obtain ⟨stage, partialFile, fails⟩ := dirty clears
      rw [fails]
      refine iff_of_true ?_ fun slips => clears slips.2.2.1
      dsimp only
      exact fair_drop rfl before.fstab stage
  · rw [evaluate_undone removed rfl]
    refine iff_of_true ?_ fun slips => removed slips.1
    simp only [Bool.false_eq_true, if_false]
    by_cases active : found.active = true
    · rw [if_pos active]
      by_cases on : weather.change .swapon = .done
      · rw [evaluate_done on rfl]
        exact fair_restoreFstab (by simp [Change.effect, off, file, Slot.setActive, Slot.length?])
          (by simp [Change.effect, off, file, Slot.setActive, Slot.active, active])
          (by simp [Change.effect, off, Slot.setActive]) current rfl
      · rw [evaluate_undone on rfl]
        intro gone
        rw [off] at gone
        contradiction
    · have inactive : found.active = false := by simpa using active
      rw [if_neg active]
      exact fair_restoreFstab (by simp [off, file, Slot.length?])
        (by simp [off, file, Slot.active, inactive]) (by simp [off]) current rfl

theorem evaluate_disableAndReplace {before host : Host} {sizeMb : Nat} {found : SwapFile}
    (file : before.slot = .file found) (same : host.slot = before.slot) {entry : Option Text}
    (added : withEntry path before.fstab = entry) (current : host.fstab = entry.getD before.fstab) :
    Fair path (.resize sizeMb) before ((disableAndReplace path sizeMb found before.fstab
        entry).evaluate (perform weather) host) ↔
      ¬((found.active = true → weather.change (.swapoff false) = .done) ∧
        ReplaceSlips path weather sizeMb found before.fstab) := by
  subst added
  unfold disableAndReplace
  by_cases active : found.active = true
  · rw [if_pos active]
    by_cases off : weather.change (.swapoff false) = .done
    · have disabled : (Change.effect (.swapoff false) host).slot =
          .file { found with active := false } := by
        simp [Change.effect, same, file, Slot.setActive]
      rw [evaluate_done off rfl]
      simp only [if_true]
      rw [evaluate_replaceSwap file disabled current]
      simp [off]
    · rw [evaluate_undone off rfl]
      refine iff_of_true ?_ fun slips => off (slips.1 active)
      exact fair_restoreFstab (by rw [same]) (by rw [same]) (by simp [same, file]) current rfl
  · have inactive : found.active = false := by simpa using active
    rw [if_neg active, evaluate_replaceSwap file (by simp [same, file, ← inactive]) current]
    simp [inactive]

theorem evaluate_persistAndReplace (reached : ResizeReached path weather sizeMb found host) :
    Fair path (.resize sizeMb) host ((persistAndReplace path sizeMb found host.fstab
        (withEntry path host.fstab)).evaluate (perform weather) host) ↔
      ¬ResizeSlips path weather sizeMb found host := by
  have file := reached.1
  unfold persistAndReplace
  cases added : withEntry path host.fstab with
  | none =>
    rw [evaluate_disableAndReplace file rfl added rfl]
    simp [ResizeSlips, reached, added]
  | some updated =>
  have other := fstab_of_withEntry added
  cases outcome : weather.change (.writeFstab .persist updated) with
  | done =>
    have written : ({ host with fstab := updated } : Host).slot = host.slot := rfl
    rw [evaluate_done outcome rfl]
    simp only [if_true, Change.effect]
    rw [evaluate_disableAndReplace file written added rfl]
    simp [ResizeSlips, reached, added, outcome]
  | failed =>
    rw [evaluate_failed outcome]
    refine iff_of_true (.stop rfl) fun slips => ?_
    simp [ResizeSlips, added, outcome] at slips
  | late =>
    rw [evaluate_late outcome]
    simp [Fair, Unchanged, other, ResizeSlips, reached, added, outcome]

theorem resize_needed_iff (file : host.slot = .file found) (inspects : weather.inspects = true)
    (readsSwaps : weather.readsSwaps = true) (reads : weather.readsFstab = true)
    (needed : ¬(found.length = sizeMb * mib ∧ found.active = true ∧
      hasEntry path host.fstab = true)) :
    Fair path (.resize sizeMb) host ((available.andThen fun free =>
        if free + found.allocated < sizeMb * mib then pure (.error .insufficientSpace) else
        check.andThen fun _ => persistAndReplace path sizeMb found host.fstab
          (withEntry path host.fstab)).evaluate (perform weather) host) ↔
      ¬ResizeSlips path weather sizeMb found host := by
  refine fair_read_iff evaluate_available rfl (fun slips => slips.1.2.2.2.2.2.1) fun measures => ?_
  by_cases space : host.available + found.allocated < sizeMb * mib
  · rw [if_pos space]
    refine iff_of_true (.stop rfl) fun slips => ?_
    have fits := slips.1.2.2.2.2.2.2.1
    omega
  · rw [if_neg space]
    refine fair_read_iff evaluate_check rfl (fun slips => slips.1.2.2.2.2.2.2.2) fun going => ?_
    apply evaluate_persistAndReplace
    exact ⟨file, inspects, readsSwaps, reads, needed, measures, Nat.le_of_not_lt space, going⟩

theorem resize_file_iff (file : host.slot = .file found) :
    AllOrNothing path weather (.resize sizeMb) host ↔
      ¬ResizeSlips path weather sizeMb found host := by
  rw [AllOrNothing, Action.run, resize]
  by_cases inspects : weather.inspects = true
  · rw [Program.evaluate_andThen_ok (evaluate_inspect_file inspects file)]
    refine fair_read_iff evaluate_isActive rfl (fun slips => slips.1.2.2.1) fun readsSwaps => ?_
    refine fair_read_iff evaluate_readFstab rfl (fun slips => slips.1.2.2.2.1) fun reads => ?_
    have active : host.slot.active = found.active := by rw [file]; rfl
    have entry : (withEntry path host.fstab).isNone = true ↔ hasEntry path host.fstab = true := by
      rw [Option.isNone_iff_eq_none, withEntry_none_iff]
    simp only [active]
    by_cases idle : found.length = sizeMb * mib ∧ found.active = true ∧
        (withEntry path host.fstab).isNone = true
    · rw [if_pos idle]
      have present := entry.mp idle.2.2
      refine iff_of_true ⟨?_, active.trans idle.2.1, present, rfl⟩
        fun slips => slips.1.2.2.2.2.1 ⟨idle.1, idle.2.1, present⟩
      simp [file, Slot.length?, idle.1]
    · rw [if_neg idle]
      rw [entry] at idle
      exact resize_needed_iff file inspects readsSwaps reads idle
  · exact fair_stops_iff (.inl (by simpa using inspects)) fun slips => inspects slips.1.2.1

theorem resize_absent_iff (absent : host.slot = .absent) :
    AllOrNothing path weather (.resize sizeMb) host ↔ ¬CreateSlips path weather sizeMb host := by
  rw [AllOrNothing, Action.run, resize]
  by_cases inspects : weather.inspects = true
  · rw [Program.evaluate_andThen_ok (evaluate_inspect_absent inspects absent)]
    exact create_iff sizeMb host
  · exact fair_stops_iff (.inl (by simpa using inspects)) fun slips => inspects slips.1.2.1

/-! ## Every request -/

variable (path weather) in
theorem swap_all_or_nothing_iff (action : Action) (host : Host) :
    AllOrNothing path weather action host ↔ ¬Slips path weather action host := by
  cases action with
  | create sizeMb => exact create_iff sizeMb host
  | delete => exact delete_iff host
  | resize sizeMb =>
  cases slot : host.slot with
  | absent =>
    have none : ¬∃ found, ResizeSlips path weather sizeMb found host :=
      fun ⟨_, slips⟩ => nomatch slot.symm.trans slips.1.1
    rw [resize_absent_iff slot, Slips, or_iff_left none]
  | file found =>
    have none : ¬CreateSlips path weather sizeMb host :=
      fun slips => nomatch slot.symm.trans slips.1.1
    have only : (∃ found, ResizeSlips path weather sizeMb found host) ↔
        ResizeSlips path weather sizeMb found host := by
      refine ⟨fun ⟨other, slips⟩ => ?_, fun slips => ⟨found, slips⟩⟩
      cases slot.symm.trans slips.1.1
      exact slips
    rw [resize_file_iff slot, Slips, or_iff_right none, only]
  | foreign =>
    refine fair_stops_iff (.inr slot) ?_
    rintro (slips | ⟨found, slips⟩)
    · exact nomatch slot.symm.trans slips.1.1
    · exact nomatch slot.symm.trans slips.1.1

/-- Every write of `/etc/fstab` fails once it has renamed. -/
def lateWrites : Weather where
  inspects := true
  readsSwaps := true
  measures := true
  readsFstab := true
  cancelled := false
  change step := if step.writes then .late else .done

def noFormat : Weather where
  inspects := true
  readsSwaps := true
  measures := true
  readsFstab := true
  cancelled := false
  change
    | .tool _ .mkswap => .failed
    | _ => .done

/-- A swap file in use that `/etc/fstab` does not know. -/
def unlisted : Host := ⟨.file ⟨256 * mib, 256 * mib, true⟩, [], 1024 * mib⟩

theorem swap_slips :
    ¬AllOrNothing swapPath lateWrites (.create 512) ⟨.absent, [], 1024 * mib⟩ ∧
      ¬AllOrNothing swapPath noFormat (.resize 512) unlisted := by
  constructor
  · rw [create_iff, not_not]
    refine ⟨⟨rfl, rfl, rfl, by decide, rfl, rfl⟩, ⟨rfl, rfl, rfl, fun _ => rfl⟩,
      "/swapfile none swap sw 0 0\n".toList, by decide, rfl, rfl, rfl⟩
  rw [resize_file_iff (show unlisted.slot = _ from rfl), not_not]
  refine ⟨⟨rfl, rfl, rfl, rfl, by decide, rfl, by decide, rfl⟩, .inr ⟨fun _ _ => rfl, fun _ => rfl,
    rfl, ?_, .inr rfl, ?_, .inr rfl, ?_⟩⟩
  · rintro ⟨-, -, formatted, -⟩
    contradiction
  · rintro ⟨-, -, formatted, -⟩
    contradiction
  · intro pruned written
    have none : withoutEntry swapPath unlisted.fstab = none := by decide
    contradiction

end OpsEngine.Swap
