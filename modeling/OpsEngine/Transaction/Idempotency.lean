import OpsEngine.Transaction.State

namespace OpsEngine

open Effect Files

/-! # The idempotency index

`transaction::idempotency`: one lookup file for each hash of a key.
-/

inductive IndexError where
  | io
  | hashCollision
deriving DecidableEq

inductive Resolution where
  | claimed
  | alreadyClaimed (requestId : RequestId)
deriving DecidableEq

structure ClaimEntry where
  path : FilePath
  requestId : RequestId
  claimedAtUnixSecs : Nat

namespace Idempotency

def fnv1a (bytes : List UInt8) : UInt64 :=
  bytes.foldl (fun hash byte => (hash ^^^ byte.toUInt64) * 0x100000001b3) 0xcbf29ce484222325

def indexPath (key : IdempotencyKey) : FilePath := ⟨.idempotency, .index (fnv1a key.bytes)⟩

def indexRecord (key : IdempotencyKey) (requestId : RequestId) (now : Nat) : IndexRecord :=
  { schemaVersion := indexSchemaVersion, idempotencyKey := key, requestId
    claimedAtUnixSecs := now }

/-- What an index file's content says about `key`. -/
def resolution (key : IdempotencyKey) : Option Content → Except IndexError Resolution
  | some (.claim existing) =>
    if existing.schemaVersion ≠ indexSchemaVersion then .error .io
    else if existing.idempotencyKey = key then .ok (.alreadyClaimed existing.requestId)
    else .error .hashCollision
  | _ => .error .io

def resolveExisting (path : FilePath) (key : IdempotencyKey) :
    Action (Except IndexError Resolution) := do
  match ← read path with
  | .error _ => return .error .io
  | .ok content => return resolution key content

def claim (key : IdempotencyKey) (requestId : RequestId) :
    Action (Except IndexError Resolution) := do
  match ← createDirAll .idempotency with
  | .error _ => return .error .io
  | .ok () =>
    let record := indexRecord key requestId (← unixNowSecs)
    match ← createNew (indexPath key) (.claim record) with
    | .ok () => return .ok .claimed
    | .error .alreadyExists => resolveExisting (indexPath key) key
    | .error _ => return .error .io

/-- Removes whatever claim is filed under `key`; an absent one is fine. -/
def remove (key : IdempotencyKey) : Action (Except IndexError Unit) := do
  match ← removeFile (indexPath key) with
  | .ok () => return .ok ()
  | .error .notFound => return .ok ()
  | .error _ => return .error .io

/-- Overwrites the claim for `key` whatever was recorded there before. -/
def reclaim (key : IdempotencyKey) (requestId : RequestId) : Action (Except IndexError Unit) := do
  let record := indexRecord key requestId (← unixNowSecs)
  match ← writeAtomic (indexPath key) (.claim record) with
  | .ok () => return .ok ()
  | .error _ => return .error .io

/-- The claim an index file's content parses to. -/
def claimEntry (path : FilePath) : Option Content → Option ClaimEntry
  | some (.claim record) => some ⟨path, record.requestId, record.claimedAtUnixSecs⟩
  | _ => none

/-- An entry that cannot be read or parsed is left out. -/
def readEntry (name : Name) : Action (Option ClaimEntry) :=
  if name.endsWithJson then do
    match ← read ⟨.idempotency, name⟩ with
    | .error _ => return none
    | .ok content => return claimEntry ⟨.idempotency, name⟩ content
  else return none

def listEntries : List Name → Action (List ClaimEntry)
  | [] => return []
  | name :: names => do
    let entry ← readEntry name
    let entries ← listEntries names
    return entry.toList ++ entries

def list : Action (List ClaimEntry) := do
  match ← fileNames .idempotency with
  | .error _ => return []
  | .ok names => listEntries names

inductive Claiming (key : IdempotencyKey) (requestId : RequestId) : SysOp → Prop where
  | createDirAll : Claiming key requestId (.createDirAll .idempotency)
  | now : Claiming key requestId (.ask .now)
  | openNew : Claiming key requestId (.openNew (indexPath key))
  | write (inode now : Nat) : Claiming key requestId
      (.write inode (indexPath key) (.claim (indexRecord key requestId now)))
  | read : Claiming key requestId (.read (indexPath key))

theorem claim_every {key : IdempotencyKey} {requestId : RequestId} :
    (claim key requestId).Every (Claiming key requestId) := by
  refine Program.every_call_bind .createDirAll fun made => ?_
  cases made with
  | error error => trivial
  | ok _ =>
  refine Program.every_call_bind .now fun now => ?_
  refine (createNew_every.mono ?_).bind fun created => ?_
  · rintro _ (_ | inode)
    · exact .openNew
    · exact .write inode now
  split
  · trivial
  · refine Program.every_call_bind .read fun found => ?_
    split <;> trivial
  · trivial

variable {key : IdempotencyKey} {requestId : RequestId}

theorem Claiming.within {operation : SysOp} (claiming : Claiming key requestId operation) :
    operation.Within fun path => path.dir = .idempotency := by
  cases claiming with
  | createDirAll | now | read => exact ⟨fun _ => False.elim, fun _ => id⟩
  | openNew | write => exact ⟨fun path same => by rw [show path = indexPath key from same]; rfl, fun _ => id⟩

inductive Reclaiming (key : IdempotencyKey) (requestId : RequestId) : SysOp → Prop where
  | now : Reclaiming key requestId (.ask .now)
  | replace (now : Nat) (operation : SysOp)
      (replacing : Replacing (indexPath key) (.claim (indexRecord key requestId now)) operation) :
      Reclaiming key requestId operation

theorem reclaim_every {key : IdempotencyKey} {requestId : RequestId} :
    (reclaim key requestId).Every (Reclaiming key requestId) := by
  refine Program.every_call_bind .now fun now => ?_
  refine (writeAtomic_every.mono (Reclaiming.replace now)).bind fun written => ?_
  split <;> trivial

theorem Reclaiming.within {operation : SysOp} (reclaiming : Reclaiming key requestId operation) :
    operation.Within fun path => path.dir = .idempotency := by
  cases reclaiming with
  | now => exact ⟨fun _ => False.elim, fun _ => id⟩
  | replace now operation replacing =>
    exact replacing.within.mono fun path same => by rcases same with rfl | rfl <;> rfl

variable {content : Option Content}

theorem claimEntry_some {path : FilePath} {entry : ClaimEntry}
    (parsed : claimEntry path content = some entry) :
    entry.path = path ∧ ∃ record, content = some (.claim record) ∧
      entry.requestId = record.requestId ∧ entry.claimedAtUnixSecs = record.claimedAtUnixSecs := by
  unfold claimEntry at parsed
  split at parsed
  · rename_i record
    cases parsed
    exact ⟨rfl, record, rfl, rfl, rfl⟩
  · contradiction

/-- A lookup answers with a request only from a claim of that very key. -/
theorem resolution_alreadyClaimed
    (resolved : resolution key content = .ok (.alreadyClaimed requestId)) :
    ∃ record, content = some (.claim record) ∧ record.schemaVersion = indexSchemaVersion ∧
      record.idempotencyKey = key ∧ record.requestId = requestId := by
  unfold resolution at resolved
  split at resolved
  · rename_i existing
    split at resolved
    · contradiction
    rename_i current
    split at resolved
    · rename_i same
      cases resolved
      exact ⟨existing, rfl, not_not.mp current, same, rfl⟩
    · contradiction
  · contradiction

end Idempotency

end OpsEngine
