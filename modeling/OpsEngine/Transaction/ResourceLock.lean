import Mathlib.Data.List.Sort
import Mathlib.Data.String.Basic
import OpsEngine.Transaction.Lock

namespace OpsEngine

open Effect Files

/-! # Resource locks

`transaction::resource_lock`: one kernel lock for each hash of a canonical
root, taken in hash order when a call wants more than one.  A guard is the path
of the lock it holds.
-/

namespace ResourceLock

variable {Root : Type}

def hashPath (hash : String) : FilePath := ⟨.resourceLocks, .resourceLock hash⟩

section Model

-- The digest of a root's path; which function it is does not matter here.
variable (canonicalHash : Root → String)

def acquire (root : Root) (holder : RequestId) : Action (Except LockError FilePath) := do
  match ← createDirAll .resourceLocks with
  | .error _ => return .error .io
  | .ok () =>
    match ← Lock.acquire (hashPath (canonicalHash root)) holder with
    | .error error => return .error error
    | .ok () => return .ok (hashPath (canonicalHash root))

def acquirePair (first second : Root) (holder : RequestId) :
    Action (Except LockError (FilePath × Option FilePath)) :=
  if canonicalHash first = canonicalHash second then do
    match ← acquire canonicalHash first holder with
    | .error error => return .error error
    | .ok guard => return .ok (guard, none)
  else do
    let (lower, higher) :=
      if canonicalHash first < canonicalHash second then (first, second) else (second, first)
    match ← acquire canonicalHash lower holder with
    | .error error => return .error error
    | .ok lowerGuard =>
      match ← acquire canonicalHash higher holder with
      | .error error =>
        unlock lowerGuard
        return .error error
      | .ok higherGuard => return .ok (lowerGuard, some higherGuard)

/-- The roots with their hashes, the first root of each hash only. -/
def hashedRoots (roots : List Root) : List (String × Root) :=
  roots.foldl
    (fun hashed root =>
      if hashed.any fun entry => entry.1 = canonicalHash root then hashed
      else hashed ++ [(canonicalHash root, root)])
    []

def dropGuards : List FilePath → Action Unit
  | [] => return ()
  | guard :: guards => do
    unlock guard
    dropGuards guards

def acquireEach (holder : RequestId) :
    List (String × Root) → List FilePath → Action (Except LockError (List FilePath))
  | [], guards => return .ok guards
  | (_, root) :: rest, guards => do
    match ← acquire canonicalHash root holder with
    | .error error =>
      dropGuards guards
      return .error error
    | .ok guard => acquireEach holder rest (guards ++ [guard])

def acquireMany (roots : List Root) (holder : RequestId) :
    Action (Except LockError (List FilePath)) :=
  acquireEach canonicalHash holder
    ((hashedRoots canonicalHash roots).insertionSort fun first second => first.1 ≤ second.1) []

end Model

inductive Call (Root : Type) where
  | one (root : Root)
  | pair (first second : Root)
  | many (roots : List Root)

def Call.program (canonicalHash : Root → String) (holder : RequestId) :
    Call Root → Action (Except LockError (List FilePath))
  | .one root => do
    match ← acquire canonicalHash root holder with
    | .error error => return .error error
    | .ok guard => return .ok [guard]
  | .pair first second => do
    match ← acquirePair canonicalHash first second holder with
    | .error error => return .error error
    | .ok (guard, other) => return .ok (guard :: other.toList)
  | .many roots => acquireMany canonicalHash roots holder

def Call.roots : Call Root → List Root
  | .one root => [root]
  | .pair first second => [first, second]
  | .many roots => roots

/-! The order in which a call attempts its locks. -/

theorem hashPath_inj {first second : String} : hashPath first = hashPath second ↔ first = second := by
  simp [hashPath]

section Order

variable {canonicalHash : Root → String}

/-- Every entry carries the hash of its root, and no hash comes twice. -/
structure Hashed (canonicalHash : Root → String) (entries : List (String × Root)) : Prop where
  hash : ∀ entry ∈ entries, entry.1 = canonicalHash entry.2
  distinct : (entries.map Prod.fst).Nodup

theorem Hashed.push {entries : List (String × Root)} (hashed : Hashed canonicalHash entries)
    (root : Root) {pushed : List (String × Root)}
    (same : (if entries.any fun entry => entry.1 = canonicalHash root then entries
      else entries ++ [(canonicalHash root, root)]) = pushed) :
    Hashed canonicalHash pushed ∧ ∀ hash,
      hash ∈ pushed.map Prod.fst ↔ hash ∈ entries.map Prod.fst ∨ hash = canonicalHash root := by
  have present : (entries.any fun entry => entry.1 = canonicalHash root) = true ↔
      canonicalHash root ∈ entries.map Prod.fst := by
    simp
  split at same
  · rename_i old
    subst same
    exact ⟨hashed, fun hash => (or_iff_left_of_imp fun same => same ▸ present.mp old).symm⟩
  rename_i new
  subst same
  have absent : canonicalHash root ∉ entries.map Prod.fst := fun old => new (present.mpr old)
  refine ⟨⟨?_, ?_⟩, fun hash => by simp⟩
  · intro entry member
    rcases List.mem_append.mp member with old | last
    · exact hashed.hash entry old
    · rw [List.mem_singleton.mp last]
  · rw [List.map_append, List.map_singleton]
    apply hashed.distinct.append (List.nodup_singleton _)
    simpa using absent

theorem hashedRoots_hashed (roots : List Root) :
    Hashed canonicalHash (hashedRoots canonicalHash roots) ∧ ∀ hash,
      hash ∈ (hashedRoots canonicalHash roots).map Prod.fst ↔
        ∃ root ∈ roots, hash = canonicalHash root := by
  have pushed : ∀ entries, Hashed canonicalHash entries → ∀ all, roots.foldl
        (fun hashed root =>
          if hashed.any fun entry => entry.1 = canonicalHash root then hashed
          else hashed ++ [(canonicalHash root, root)])
        entries = all → Hashed canonicalHash all ∧ ∀ hash, hash ∈ all.map Prod.fst ↔
          hash ∈ entries.map Prod.fst ∨ ∃ root ∈ roots, hash = canonicalHash root := by
    induction roots with
    | nil =>
      rintro entries hashed _ rfl
      exact ⟨hashed, by simp⟩
    | cons root roots ih =>
      intro entries hashed all folded
      obtain ⟨first, added⟩ := hashed.push root rfl
      obtain ⟨rest, found⟩ := ih _ first all folded
      refine ⟨rest, fun hash => ?_⟩
      rw [found, added]
      simp [or_assoc]
  obtain ⟨hashed, found⟩ := pushed [] ⟨by simp, by simp⟩ _ rfl
  exact ⟨hashed, fun hash => (found hash).trans (by simp)⟩

/-- Hashes strictly ascend along the list. -/
def Ascending (canonicalHash : Root → String) (entries : List (String × Root)) : Prop :=
  entries.Pairwise fun first second => canonicalHash first.2 < canonicalHash second.2

/-- Whatever the roots are and however often they repeat, `acquire_many` goes
through strictly ascending hashes. -/
theorem acquireMany_ascending (roots : List Root) :
    Ascending canonicalHash ((hashedRoots canonicalHash roots).insertionSort
      fun first second => first.1 ≤ second.1) := by
  let order : String × Root → String × Root → Prop := fun first second => first.1 ≤ second.1
  have sorted := List.pairwise_insertionSort order (hashedRoots canonicalHash roots)
  have hashed : Hashed canonicalHash (hashedRoots canonicalHash roots) := (hashedRoots_hashed roots).1
  have same := List.perm_insertionSort order (hashedRoots canonicalHash roots)
  have distinct : (((hashedRoots canonicalHash roots).insertionSort order).map Prod.fst).Nodup :=
    (same.map Prod.fst).nodup_iff.mpr hashed.distinct
  have apart := List.pairwise_map.mp distinct
  refine (sorted.and apart).imp_of_mem ?_
  rintro first second firstMember secondMember ⟨below, different⟩
  rw [← hashed.hash first (same.mem_iff.mp firstMember),
    ← hashed.hash second (same.mem_iff.mp secondMember)]
  exact lt_of_le_of_ne below different

theorem acquireMany_covers (roots : List Root) (path : FilePath) :
    (∃ entry ∈ (hashedRoots canonicalHash roots).insertionSort fun first second => first.1 ≤ second.1,
      path = hashPath (canonicalHash entry.2)) ↔
        ∃ root ∈ roots, path = hashPath (canonicalHash root) := by
  obtain ⟨hashed, found⟩ := @hashedRoots_hashed _ canonicalHash roots
  constructor
  · rintro ⟨entry, member, rfl⟩
    have listed := (List.perm_insertionSort _ _).mem_iff.mp member
    obtain ⟨root, asked, same⟩ := (found entry.1).mp (List.mem_map_of_mem listed)
    exact ⟨root, asked, by rw [← hashed.hash entry listed, same]⟩
  · rintro ⟨root, asked, rfl⟩
    obtain ⟨entry, listed, same⟩ := List.mem_map.mp ((found _).mpr ⟨root, asked, rfl⟩)
    exact ⟨entry, (List.perm_insertionSort _ _).mem_iff.mpr listed,
      by rw [← hashed.hash entry listed, same]⟩

end Order

end ResourceLock

end OpsEngine
