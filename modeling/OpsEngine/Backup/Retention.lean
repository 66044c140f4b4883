import Mathlib.Logic.Function.Basic
import OpsEngine.Cron.Jobs
import OpsEngine.Mutation.Attempt

namespace OpsEngine.Backup

open Cron Files Function

/-! # Database backups and their retention

A dump is published under the name of its database and the second it began.  Retention
knows the dumps of a database by the start of their names.
-/

structure Request where
  target : Target
  retentionDays : Nat
  bounded : retentionDays ≤ 3650
  requestId : RequestId
  idempotencyKey : Option IdempotencyKey

/-- A file of the backup root: when it was written, in nanoseconds, and who published it. -/
structure Dump where
  modified : Nat
  published : Option (Target × RequestId)
deriving DecidableEq

abbrev Root : Type := Text → Option Dump

/-- The backup root, and the transactions of each database name: the two database types
share them. -/
structure Store where
  root : Root
  scopes : DatabaseName → System Unit

structure Weather where
  /-- the system calls of the preflight -/
  admitting : Nat → SysChoice
  /-- in seconds -/
  now : Nat
  /-- the dump is written to its temporary file, and when -/
  dumps : Bool
  writtenAt : Nat
  renames : Bool
  prunedAt : Nat
  fileNames : Option (List Text)
  inspects : Text → Bool
  removes : Text → Bool
  /-- the code and the text of the step that fails -/
  failure : ErrorCode × String
  /-- the system calls that read or save a record -/
  recording : Nat → SysChoice

structure CreateResult where
  filePath : Text
  prunedFiles : Nat
  completedAtUnixSecs : Nat
deriving DecidableEq

def CreateResult.encode (result : CreateResult) : Json :=
  .object [("filePath", .string result.filePath), ("prunedFiles", .number result.prunedFiles),
    ("completedAtUnixSecs", .number result.completedAtUnixSecs)]

def CreateResult.decode (value : Json) : Option CreateResult :=
  match value.field? "filePath", value.field? "prunedFiles", value.field? "completedAtUnixSecs" with
  | some (.string filePath), some (.number pruned), some (.number completed) =>
    some ⟨filePath, pruned, completed⟩
  | _, _, _ => none

def finalName (request : Request) (now : Nat) : Text :=
  request.target.database.text ++ '_' :: Nat.toDigits 10 now ++ ".sql".toList

section Source

variable (weather : Weather) (request : Request)

/-- Retention looks at the age of this file. -/
def candidate (name : Text) : Bool :=
  name != finalName request weather.now &&
    (request.target.database.text ++ ['_']).isPrefixOf name && ".sql".toList.isSuffixOf name

def expired (dump : Dump) : Bool :=
  decide (dump.modified + request.retentionDays * 86400000000000 < weather.prunedAt)

/-- The loop of `execute` over the names listed; no count if a step fails. -/
def prune : List Text → Root → Option Nat × Root
  | [], root => (some 0, root)
  | name :: rest, root =>
    if candidate weather request name then
      match root name with
      | none => (none, root)
      | some dump =>
        if !weather.inspects name then (none, root)
        else if expired weather request dump then
          if weather.removes name then
            let after := prune rest (Function.update root name none)
            (after.1.map (· + 1), after.2)
          else (none, root)
        else prune rest root
    else prune rest root

def execute (root : Root) : Option CreateResult × Root :=
  let final := finalName request weather.now
  if !weather.dumps || !weather.renames then (none, root)
  else
    let published := Function.update root final
      (some ⟨weather.writtenAt, some (request.target, request.requestId)⟩)
    let pruned :=
      if 0 < request.retentionDays then
        match weather.fileNames with
        | none => (none, published)
        | some names => prune weather request names published
      else (some 0, published)
    (pruned.1.map fun count => ⟨"/root/db-backups/".toList ++ final, count, weather.now⟩, pruned.2)

def operation : Operation := .other "backup.createDatabase"

/-- The answer of the first attempt, from its record. -/
def replay (original : RequestId) : Action (Option CreateResult) := do
  match ← TransactionState.load (statePath original) with
  | .error _ => return none
  | .ok loaded =>
    if loaded.operation = operation ∧ loaded.status = .committed then
      return (loaded.outcome.bind (·.result)).bind CreateResult.decode
    else return none

/-- The record of the end is saved under the lock. -/
def finish (transaction : TransactionState) (result : Option CreateResult) :
    Action (Except StateError Unit) := do
  let ending : Except (ErrorCode × String) Json := match result with
    | some result => .ok result.encode
    | none => .error weather.failure
  let finished := Ending.mark ⟨ending, false⟩ transaction (← unixNowSecs)
  let saved ← finished.save (statePath request.requestId)
  unlock Preflight.lockPath
  return saved

variable (store : Store)

def admission : Except Preflight.Error Preflight.Outcome × System Unit :=
  host.solo () weather.admitting
    (Preflight.run request.requestId request.idempotencyKey operation)
    (store.scopes request.target.database)

def Store.enter (root : Root) (scope : System Unit) : Store :=
  ⟨root, Function.update store.scopes request.target.database scope⟩

/-- A result that is not recorded is answered as a failure. -/
def executeTransactional : Option CreateResult × Store :=
  let admitted := admission weather request store
  match admitted.1 with
  | .error _ => (none, store.enter request store.root admitted.2)
  | .ok (.replay original) =>
    let replayed := host.solo () weather.recording (replay original) admitted.2
    (replayed.1, store.enter request store.root replayed.2)
  | .ok (.proceed transaction) =>
    let executed := execute weather request store.root
    let saved := host.solo () weather.recording (finish weather request transaction executed.1)
      admitted.2
    (if saved.1.isOk then executed.1 else none, store.enter request executed.2 saved.2)

/-! ## What a run may do to the backups -/

/-- The first attempt and what it answered, where the run repeats one. -/
def repeated : Option (RequestId × CreateResult) :=
  match admission weather request store with
  | (.ok (.replay original), scope) =>
    (host.solo () weather.recording (replay original) scope).1.map (original, ·)
  | _ => none

/-- The result, where there is one, is recorded. -/
def saves : Bool :=
  match admission weather request store with
  | (.ok (.proceed transaction), scope) =>
    let result := (execute weather request store.root).1
    result.isNone ||
      (host.solo () weather.recording (finish weather request transaction result) scope).1.isOk
  | _ => true

/-- The file that the result names is a dump of the target, published by this request. -/
def Names (root : Root) (result : CreateResult) (publisher : RequestId) : Prop :=
  ∃ name dump, result.filePath = "/root/db-backups/".toList ++ name ∧ root name = some dump ∧
    dump.published = some (request.target, publisher)

/-- A published dump stays as it is or is removed for its own target when it has expired; a
run that succeeds has its file, or that of the attempt it repeats, at the path it names; and
one that fails has published none. -/
structure Kept (answer : Option CreateResult) (after : Root) : Prop where
  stays : ∀ name dump owner, store.root name = some dump → dump.published = some owner →
    after name = some dump ∨ after name = none ∧ owner.1 = request.target ∧
      0 < request.retentionDays ∧ expired weather request dump = true
  reported : ∀ result, answer = some result → ∃ publisher, Names request after result publisher ∧
    (publisher = request.requestId ∨ (publisher, result) ∈ repeated weather request store)
  unpublished : answer = none → ∀ name dump, after name = some dump → store.root name = some dump

/-- The name is free, no expired dump of another target looks like one of this target,
nothing fails once the dump is published, and a run that is answered from an earlier attempt
finds that attempt's dump of the same target. -/
structure Careful : Prop where
  free : store.root (finalName request weather.now) = none
  own : ∀ name dump owner, store.root name = some dump → dump.published = some owner →
    candidate weather request name = true → expired weather request dump = true →
    owner.1 = request.target
  retained : 0 < request.retentionDays → ∃ names, weather.fileNames = some names ∧ names.Nodup ∧
    ∀ name ∈ names, candidate weather request name = true →
      (store.root name).isSome = true ∧ weather.inspects name = true ∧ weather.removes name = true
  saved : saves weather request store = true
  standing : ∀ original result, (original, result) ∈ repeated weather request store →
    Names request store.root result original

end Source

variable {weather : Weather} {request : Request} {store : Store} {root : Root}
  {names : List Text} {name : Text}

/-- Pruning only takes away candidates that have expired. -/
theorem prune_cases (names : List Text) (root : Root) (name : Text) :
    (prune weather request names root).2 name = root name ∨
    (prune weather request names root).2 name = none ∧ candidate weather request name = true ∧
      ∃ dump, root name = some dump ∧ expired weather request dump = true := by
  induction names generalizing root with
  | nil => exact .inl rfl
  | cons first rest ih =>
    unfold prune
    split
    · rename_i matching
      split
      · exact .inl rfl
      rename_i dump found
      split
      · exact .inl rfl
      split
      · rename_i old
        split
        · by_cases same : name = first
          · subst same
            have gone : (prune weather request rest (update root name none)).2 name = none := by
              rcases ih (update root name none) with kept | ⟨removed, -⟩
              · simpa using kept
              · exact removed
            exact .inr ⟨gone, matching, dump, found, old⟩
          · simpa [update_of_ne same] using ih (update root first none)
        · exact .inl rfl
      · exact ih root
    · exact ih root

theorem prune_completes (distinct : names.Nodup)
    (works : ∀ name ∈ names, candidate weather request name = true →
      (root name).isSome = true ∧ weather.inspects name = true ∧ weather.removes name = true) :
    ((prune weather request names root).1).isSome = true := by
  induction names generalizing root with
  | nil => rfl
  | cons first rest ih =>
    obtain ⟨fresh, others⟩ := List.nodup_cons.mp distinct
    have tail := ih others fun name listed => works name (List.mem_cons_of_mem first listed)
    unfold prune
    split
    · rename_i matching
      obtain ⟨present, inspects, removes⟩ := works first List.mem_cons_self matching
      obtain ⟨dump, found⟩ := Option.isSome_iff_exists.mp present
      simp only [found, inspects, removes, Bool.not_true, Bool.false_eq_true, if_false, if_true]
      split
      · rw [Option.isSome_map]
        refine ih others fun name listed matching => ?_
        -- a name listed once is not looked for again
        have other : name ≠ first := fun same => fresh (same ▸ listed)
        rw [update_of_ne other]
        exact works name (List.mem_cons_of_mem first listed) matching
      · exact tail
    · exact tail

theorem ne_finalName (matching : candidate weather request name = true) :
    name ≠ finalName request weather.now := by
  simp only [candidate, Bool.and_eq_true, bne_iff_ne] at matching
  exact matching.1.1

/-- A careful run publishes nothing, or its own dump next to what retention leaves. -/
theorem execute_cases (careful : Careful weather request store) :
    execute weather request store.root = (none, store.root) ∨
    ∃ result after, execute weather request store.root = (some result, after) ∧
      result.filePath = "/root/db-backups/".toList ++ finalName request weather.now ∧
      after (finalName request weather.now) =
        some ⟨weather.writtenAt, some (request.target, request.requestId)⟩ ∧
      ∀ name, name ≠ finalName request weather.now → after name = store.root name ∨
        after name = none ∧ 0 < request.retentionDays ∧ candidate weather request name = true ∧
          ∃ dump, store.root name = some dump ∧ expired weather request dump = true := by
  unfold execute
  dsimp only
  split
  · exact .inl rfl
  right
  by_cases retains : 0 < request.retentionDays
  · obtain ⟨names, listed, distinct, works⟩ := careful.retained retains
    rw [if_pos retains]
    simp only [listed]
    generalize published : update store.root (finalName request weather.now) _ = begun
    have elsewhere : ∀ name, name ≠ finalName request weather.now → begun name = store.root name := by
      rintro name other
      rw [← published, update_of_ne other]
    have completes : ((prune weather request names begun).1).isSome = true := by
      refine prune_completes distinct fun name member matching => ?_
      rw [elsewhere name (ne_finalName matching)]
      exact works name member matching
    obtain ⟨count, counted⟩ := Option.isSome_iff_exists.mp completes
    refine ⟨_, _, by rw [counted]; rfl, rfl, ?_, fun name other => ?_⟩
    · rcases prune_cases names begun (finalName request weather.now) with kept | ⟨-, matching, -⟩
      · rw [kept, ← published, update_self]
      · exact absurd rfl (ne_finalName matching)
    · rcases prune_cases names begun name with kept | ⟨gone, matching, dump, found, old⟩
      · exact .inl (kept.trans (elsewhere name other))
      · exact .inr ⟨gone, retains, matching, dump, elsewhere name other ▸ found, old⟩
  · rw [if_neg retains]
    exact ⟨_, _, rfl, rfl, update_self .., fun name other =>
      .inl (update_of_ne other ..)⟩

def shop : DatabaseName := ⟨"shop".toList, by decide⟩

/-- A run in which nothing fails, begun in this second. -/
def fair (now : Nat) (names : List Text) : Weather :=
  ⟨fun _ => healthyChoice now, now, true, now * 1000000000, true, now * 1000000000, some names,
    fun _ => true, fun _ => true, (.internal, ""), fun _ => healthyChoice now⟩

/-- The run is let in and publishes its dump. -/
def publishes (weather : Weather) (request : Request) (store : Store) : Bool :=
  match (admission weather request store).1 with
  | .ok (.proceed _) => weather.dumps && weather.renames
  | _ => false

/-- The run publishes its dump, under this name or beside an expired candidate of its
retention there. -/
def Touches (store : Store) (name : Text) (run : Weather × Request) : Prop :=
  publishes run.1 run.2 store = true ∧
    (name = finalName run.2 run.1.now ∨
      0 < run.2.retentionDays ∧ candidate run.1 run.2 name = true ∧
        ∃ dump, store.root name = some dump ∧ expired run.1 run.2 dump = true)

theorem execute_stays (other : name ≠ finalName request weather.now)
    (young : ¬(0 < request.retentionDays ∧ candidate weather request name = true ∧
      ∃ dump, root name = some dump ∧ expired weather request dump = true)) :
    (execute weather request root).2 name = root name := by
  have published : ∀ dump, update root (finalName request weather.now) dump name = root name :=
    fun _ => update_of_ne other ..
  dsimp only [execute]
  split
  · rfl
  split
  · rename_i retains
    split
    · exact published _
    · rcases prune_cases _ _ name with kept | ⟨-, matching, dump, found, old⟩
      · exact kept.trans (published _)
      · exact absurd ⟨retains, matching, dump, (published _).symm.trans found, old⟩ young
  · exact published _

theorem run_stays (untouched : ¬Touches store name (weather, request)) :
    (executeTransactional weather request store).2.root name = store.root name := by
  unfold executeTransactional
  dsimp only
  split
  · rfl
  · rfl
  · rename_i transaction admitted
    show (execute weather request store.root).2 name = store.root name
    by_cases unpublished : weather.dumps = true ∧ weather.renames = true
    · have publishing : publishes weather request store = true := by
        simp [publishes, admitted, unpublished]
      obtain ⟨other, young⟩ := not_or.mp fun touched => untouched ⟨publishing, touched⟩
      exact execute_stays other young
    · have idle : (!weather.dumps || !weather.renames) = true := by
        cases dumps : weather.dumps <;> simp_all
      simp [execute, idle]

def runAll (store : Store) (runs : List (Weather × Request)) : Store :=
  runs.foldl (fun store run => (executeTransactional run.1 run.2 store).2) store

/-- Whatever fails in a history of runs, a file changes only where one of them touches it. -/
theorem file_stays_or_touched (store : Store) (runs : List (Weather × Request)) (name : Text) :
    (runAll store runs).root name = store.root name ∨
      ∃ earlier run later, runs = earlier ++ run :: later ∧
        Touches (runAll store earlier) name run := by
  induction runs generalizing store with
  | nil => exact .inl rfl
  | cons run rest ih =>
    by_cases touched : Touches store name run
    · exact .inr ⟨[], run, rest, rfl, touched⟩
    rcases ih (executeTransactional run.1 run.2 store).2 with
      same | ⟨earlier, other, later, rfl, found⟩
    · exact .inl (same.trans (run_stays touched))
    · exact .inr ⟨run :: earlier, other, later, rfl, found⟩

end OpsEngine.Backup
