import OpsEngine.Transaction.Idempotency

namespace OpsEngine

open Effect Files

/-! # Retention

`transaction::prune`.  Both sweeps list, load and remove without any lock, and
skip whatever they cannot list, load or remove.
-/

namespace Prune

def defaultCompletedRetention : Nat := 7 * 24 * 60 * 60

def orphanClaimGrace : Nat := 60

/-- The transaction is finished and `retainFor` has passed since. -/
def expired (transaction : TransactionState) (retainFor now : Nat) : Bool :=
  transaction.status ≠ .inProgress &&
    match transaction.finishedAtUnixSecs with
    | none => false
    | some finishedAt => retainFor ≤ now - finishedAt

def removeAuxiliary (path : FilePath) : Action Unit := do
  match ← present path with
  | false => return ()
  | true =>
    let _ ← removeFile path
    return ()

def removeClaim : Option IdempotencyKey → Action Unit
  | none => return ()
  | some key => do
    let _ ← Idempotency.remove key
    return ()

/-- Whether the recovery checkpoint is out of the way. -/
def removeCheckpoint (path : FilePath) : Action Bool := do
  match ← present path with
  | false => return true
  | true =>
    match ← removeFile path with
    | .ok () => return true
    | .error _ => return false

/-- The files of one expired transaction.  A checkpoint that stays keeps the
record. -/
def clearTransaction (name : Name) : Action Unit := do
  match ← removeCheckpoint ⟨.deploymentRecovery, name⟩ with
  | false => return ()
  | true =>
    removeAuxiliary ⟨.plans, name⟩
    removeAuxiliary ⟨.pending, name⟩
    let _ ← removeFile ⟨.transactions, name⟩
    return ()

/-- The claim goes first, whatever becomes of the record. -/
def forgetTransaction (name : Name) (transaction : TransactionState) : Action Unit := do
  removeClaim transaction.idempotencyKey
  clearTransaction name

def pruneTransaction (retainFor now : Nat) (name : Name) : Action Unit :=
  if name.endsWithJson then do
    match ← TransactionState.load ⟨.transactions, name⟩ with
    | .error _ => return ()
    | .ok transaction =>
      if expired transaction retainFor now then forgetTransaction name transaction
      else return ()
  else return ()

def pruneFinished (retainFor now : Nat) : List Name → Action Unit
  | [] => return ()
  | name :: names => do
    pruneTransaction retainFor now name
    pruneFinished retainFor now names

def pruneFinishedTransactions (retainFor : Nat) : Action Unit := do
  match ← fileNames .transactions with
  | .error _ => return ()
  | .ok names =>
    let now ← unixNowSecs
    pruneFinished retainFor now names

def pruneClaim (grace now : Nat) (entry : ClaimEntry) : Action Unit :=
  if grace ≤ now - entry.claimedAtUnixSecs then do
    match ← TransactionState.load (statePath entry.requestId) with
    | .error .notFound =>
      let _ ← removeFile entry.path
      return ()
    | _ => return ()
  else return ()

def pruneOrphans (grace now : Nat) : List ClaimEntry → Action Unit
  | [] => return ()
  | entry :: entries => do
    pruneClaim grace now entry
    pruneOrphans grace now entries

def pruneOrphanedClaims (grace : Nat) : Action Unit := do
  let now ← unixNowSecs
  let entries ← Idempotency.list
  pruneOrphans grace now entries

def pruneCompleted (retainFor : Nat) : Action Unit := do
  pruneFinishedTransactions retainFor
  pruneOrphanedClaims (if retainFor = 0 then 0 else orphanClaimGrace)

/-- The operations that only look. -/
inductive Looking : SysOp → Prop where
  | list (dir : Dir) : Looking (.list dir)
  | now : Looking (.ask .now)
  | read (path : FilePath) : Looking (.read path)
  | present (path : FilePath) : Looking (.present path)

inductive Clearing : SysOp → Prop where
  | look {operation : SysOp} (looking : Looking operation) : Clearing operation
  | remove (path : FilePath) (cleared : path.dir = .transactions ∨ path.dir = .deploymentRecovery ∨
      path.dir = .plans ∨ path.dir = .pending) :
      Clearing (.remove path)

inductive Forgetting : SysOp → Prop where
  | look {operation : SysOp} (looking : Looking operation) : Forgetting operation
  | remove (path : FilePath) (claimed : path.dir = .idempotency) : Forgetting (.remove path)

inductive Sweeping : SysOp → Prop where
  | look {operation : SysOp} (looking : Looking operation) : Sweeping operation
  | remove (path : FilePath) (swept : path.dir = .transactions ∨ path.dir = .idempotency ∨
      path.dir = .deploymentRecovery ∨ path.dir = .plans ∨ path.dir = .pending) :
      Sweeping (.remove path)

variable {operation : SysOp}

theorem Clearing.sweeping (clearing : Clearing operation) :
    Sweeping operation := by
  cases clearing with
  | look looking => exact .look looking
  | remove path cleared =>
    apply Sweeping.remove
    rcases cleared with transactions | others
    · exact .inl transactions
    · exact .inr (.inr others)

theorem Forgetting.sweeping (forgetting : Forgetting operation) :
    Sweeping operation := by
  cases forgetting with
  | look looking => exact .look looking
  | remove path claimed => exact .remove path (.inr (.inl claimed))

theorem Looking.within {region : FilePath → Prop} (looking : Looking operation) :
    operation.Within region := by
  cases looking <;> exact ⟨fun _ => False.elim, fun _ => id⟩

theorem load_looking {path : FilePath} : (TransactionState.load path).Every Looking :=
  TransactionState.load_every.mono fun _ same => same ▸ .read path

theorem load_sweeping (path : FilePath) : (TransactionState.load path).Every Sweeping :=
  load_looking.mono fun _ => Sweeping.look

theorem removeAuxiliary_every {path : FilePath} (swept : path.dir = .plans ∨ path.dir = .pending) :
    (removeAuxiliary path).Every Clearing := by
  refine Program.every_call_bind (.look (.present path)) fun found => ?_
  cases found with
  | false => trivial
  | true =>
    refine Program.every_call_bind (.remove path ?_) fun _ => trivial
    exact .inr (.inr swept)

theorem removeCheckpoint_every {path : FilePath} (swept : path.dir = .deploymentRecovery) :
    (removeCheckpoint path).Every Clearing := by
  refine Program.every_call_bind (.look (.present path)) fun found => ?_
  cases found with
  | false => trivial
  | true =>
    refine Program.every_call_bind (.remove path (.inr (.inl swept))) fun removed => ?_
    split <;> trivial

theorem clearTransaction_every {name : Name} : (clearTransaction name).Every Clearing := by
  refine (removeCheckpoint_every rfl).bind fun gone => ?_
  cases gone with
  | false => trivial
  | true =>
    refine (removeAuxiliary_every (.inl rfl)).bind fun _ => ?_
    refine (removeAuxiliary_every (.inr rfl)).bind fun _ => ?_
    exact Program.every_call_bind (.remove _ (.inl rfl)) fun _ => trivial

theorem removeClaim_every {key : Option IdempotencyKey} : (removeClaim key).Every Forgetting := by
  cases key with
  | none => trivial
  | some key =>
    refine Program.Every.bind (Program.every_call_bind (.remove _ rfl) fun removed => ?_)
      fun _ => trivial
    split <;> trivial

theorem forgetTransaction_every {name : Name} {transaction : TransactionState} :
    (forgetTransaction name transaction).Every Sweeping :=
  (removeClaim_every.mono fun _ => Forgetting.sweeping).bind fun _ =>
    clearTransaction_every.mono fun _ => Clearing.sweeping

theorem pruneTransaction_every {retainFor now : Nat} {name : Name} :
    (pruneTransaction retainFor now name).Every Sweeping := by
  unfold pruneTransaction
  split
  · refine (load_sweeping _).bind fun loaded => ?_
    split
    · trivial
    · split
      · exact forgetTransaction_every
      · trivial
  · trivial

theorem pruneFinished_every {retainFor now : Nat} {names : List Name} :
    (pruneFinished retainFor now names).Every Sweeping := by
  induction names with
  | nil => trivial
  | cons name names ih => exact pruneTransaction_every.bind fun _ => ih

theorem fileNames_every {dir : Dir} : (fileNames dir).Every Looking := by
  refine Program.every_call_bind (.list dir) fun entries => ?_
  split <;> trivial

theorem readEntry_every {name : Name} : (Idempotency.readEntry name).Every Looking := by
  unfold Idempotency.readEntry
  split
  · refine Program.every_call_bind (.read _) fun content => ?_
    split <;> trivial
  · trivial

theorem listEntries_every {names : List Name} : (Idempotency.listEntries names).Every Looking := by
  induction names with
  | nil => trivial
  | cons name names ih => exact readEntry_every.bind fun _ => ih.bind fun _ => trivial

def Indexed (entries : List ClaimEntry) : Prop :=
  ∀ entry ∈ entries, entry.path.dir = .idempotency

theorem readEntry_returns (name : Name) :
    (Idempotency.readEntry name).Returns fun entry => Indexed entry.toList := by
  unfold Idempotency.readEntry
  split
  · refine Program.returns_call_bind fun content => ?_
    split
    · exact fun entry member => absurd member List.not_mem_nil
    · intro entry member
      obtain ⟨samePath, _⟩ := Idempotency.claimEntry_some (Option.mem_toList.mp member)
      rw [samePath]
  · exact fun entry member => absurd member List.not_mem_nil

theorem listEntries_returns (names : List Name) :
    (Idempotency.listEntries names).Returns Indexed := by
  induction names with
  | nil => exact fun entry member => absurd member List.not_mem_nil
  | cons name names ih =>
    refine (readEntry_returns name).bind fun first firstIndexed => ?_
    refine ih.bind fun rest restIndexed => ?_
    intro entry member
    exact (List.mem_append.mp member).elim (firstIndexed entry) (restIndexed entry)

theorem list_every : Idempotency.list.Every Looking := by
  refine fileNames_every.bind fun names => ?_
  split
  · trivial
  · exact listEntries_every

theorem list_returns : Idempotency.list.Returns Indexed := by
  refine Program.returns_trivial.bind fun names _ => ?_
  split
  · exact fun entry member => absurd member List.not_mem_nil
  · exact listEntries_returns _

theorem pruneOrphans_every {grace now : Nat} {entries : List ClaimEntry}
    (indexed : Indexed entries) :
    (pruneOrphans grace now entries).Every Forgetting := by
  induction entries with
  | nil => trivial
  | cons entry entries ih =>
    refine Program.Every.bind ?_ fun _ => ih fun other member => indexed other (by simp [member])
    unfold pruneClaim
    split
    · refine (load_looking.mono fun _ => Forgetting.look).bind fun loaded => ?_
      split
      · refine Program.every_call_bind (.remove _ ?_) fun _ => trivial
        exact indexed entry (by simp)
      · trivial
    · trivial

theorem pruneOrphanedClaims_every {grace : Nat} :
    (pruneOrphanedClaims grace).Every Forgetting := by
  refine Program.every_call_bind (.look .now) fun now => ?_
  exact (list_every.mono fun _ => Forgetting.look).bind_returns list_returns
    fun entries indexed => pruneOrphans_every indexed

theorem pruneCompleted_every {retainFor : Nat} : (pruneCompleted retainFor).Every Sweeping := by
  refine Program.Every.bind ?_ fun _ =>
    pruneOrphanedClaims_every.mono fun _ => Forgetting.sweeping
  refine (fileNames_every.mono fun _ => Sweeping.look).bind fun names => ?_
  split
  · trivial
  · exact Program.every_call_bind (.look .now) fun now => pruneFinished_every

/-! At time zero nothing is old enough for either sweep. -/

theorem expired_zero (transaction : TransactionState) {retainFor : Nat} (positive : 0 < retainFor) :
    expired transaction retainFor 0 = false := by
  unfold expired
  cases transaction.finishedAtUnixSecs with
  | none => simp
  | some finishedAt =>
    have proper : retainFor ≠ 0 := by omega
    simp [proper]

theorem pruneFinished_zero {retainFor : Nat} (positive : 0 < retainFor) (names : List Name) :
    (pruneFinished retainFor 0 names).Every Looking := by
  induction names with
  | nil => trivial
  | cons name names ih =>
    refine Program.Every.bind ?_ fun _ => ih
    unfold pruneTransaction
    split
    · refine load_looking.bind fun loaded => ?_
      split
      · trivial
      · rw [expired_zero _ positive]
        trivial
    · trivial

theorem pruneOrphans_zero {grace : Nat} (positive : 0 < grace) (entries : List ClaimEntry) :
    (pruneOrphans grace 0 entries).Every Looking := by
  induction entries with
  | nil => trivial
  | cons entry entries ih =>
    refine Program.Every.bind ?_ fun _ => ih
    have young : ¬ grace ≤ 0 - entry.claimedAtUnixSecs := by omega
    rw [pruneClaim, if_neg young]
    trivial

end Prune

end OpsEngine
