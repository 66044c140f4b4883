import Mathlib.Algebra.GroupWithZero.Nat
import OpsEngine.Data.Error
import OpsEngine.Data.Identifiers

namespace OpsEngine.ChangeLog

/-! # The change journal

When an operation has answered, the engine appends an entry for it.  An append that
finds the request's id or its idempotency key among the recent entries writes nothing,
whatever site or operation those entries are about.
-/

inductive Action where
  | siteDeploy
  | siteRollback
  | siteRenameManifest
  | siteUnenroll
  | engineInstall
  | engineRollback
deriving DecidableEq

structure Plan where
  action : Action
  site : Option SiteId
  requestId : RequestId
  idempotencyKey : Option IdempotencyKey

structure Response where
  ok : Bool
  error : Option ErrorCode

inductive JournalResult where
  | ok
  | failed
deriving DecidableEq

structure NewEntry where
  action : Action
  result : JournalResult
  site : Option SiteId
  errorCode : Option ErrorCode
deriving DecidableEq

structure Entry extends NewEntry where
  id : RequestId
  idempotencyKey : Option IdempotencyKey
deriving DecidableEq

/-- Latest first.  What retention removes stays in `rotated`. -/
structure Segments where
  active : List Entry
  rotated : List Entry

def maxSegmentBytes : Nat := 2 * 1024 * 1024

def tailBytes : Nat := 256 * 1024

def entry (plan : Plan) (response : Response) : Option NewEntry :=
  if response.ok then
    some { action := plan.action, result := .ok, site := plan.site, errorCode := none }
  else if response.error = some .invalidInput then none
  else
    some { action := plan.action, result := .failed, site := plan.site, errorCode := response.error }

section Append

-- how long the line of an entry is
variable (size : Entry → Nat)

/-- The first line of a tail that is not the whole segment is dropped, also where it is
a whole one. -/
def readTail : Nat → List Entry → List Entry
  | _, [] => []
  | bytes, entry :: older =>
    if size entry < bytes ∨ size entry ≤ bytes ∧ older = [] then
      entry :: readTail (bytes - size entry) older
    else []

/-- A recent entry has the request's id or its key. -/
def repeats (log : Segments) (id : RequestId) (key : Option IdempotencyKey) : Bool :=
  (readTail size tailBytes log.active).any fun entry =>
    entry.id = id || key.isSome && entry.idempotencyKey = key

def append (log : Segments) (entry : NewEntry) (id : RequestId) (key : Option IdempotencyKey) :
    Segments :=
  let length := (log.active.map size).sum
  let stored : Entry := { entry with id, idempotencyKey := key }
  if repeats size log id key then log
  else if 0 < length ∧ maxSegmentBytes < length + size stored then
    ⟨[stored], log.active ++ log.rotated⟩
  else ⟨stored :: log.active, log.rotated⟩

def write (log : Segments) (plan : Plan) (response : Response) : Segments :=
  match entry plan response with
  | none => log
  | some entry => append size log entry plan.requestId plan.idempotencyKey

end Append

/-! ## What the journal tells -/

variable {size : Entry → Nat} {log : Segments} {plan : Plan} {response : Response}
  {committed : Bool}

/-- The entry tells the outcome of the request. -/
def Tells (plan : Plan) (committed : Bool) (entry : Entry) : Prop :=
  entry.id = plan.requestId ∧ entry.action = plan.action ∧ entry.site = plan.site ∧
    (entry.result = .ok ↔ committed = true)

def Told (log : Segments) (plan : Plan) (committed : Bool) : Prop :=
  ∃ entry ∈ log.active ++ log.rotated, Tells plan committed entry

/-- A journal after a write holds what it held and, where no recent entry stands in the
way, the entry of the request. -/
theorem mem_write {other : Entry} :
    other ∈ (write size log plan response).active ++ (write size log plan response).rotated ↔
      other ∈ log.active ++ log.rotated ∨
        repeats size log plan.requestId plan.idempotencyKey = false ∧
          ∃ made, entry plan response = some made ∧ other =
            { made with id := plan.requestId, idempotencyKey := plan.idempotencyKey } := by
  unfold write
  cases entry plan response with
  | none => simp
  | some made =>
  dsimp only [append]
  cases repeats size log plan.requestId plan.idempotencyKey with
  | true => simp
  | false =>
    simp only [Bool.false_eq_true, if_false]
    split <;> simp [or_comm]

theorem Told.write (told : Told log plan committed) (other : Plan) (answer : Response) :
    Told (write size log other answer) plan committed := by
  obtain ⟨found, before, tells⟩ := told
  exact ⟨found, mem_write.mpr (.inl before), tells⟩

end OpsEngine.ChangeLog
