import Mathlib.Logic.Function.Basic
import OpsEngine.Transaction.Prune

namespace OpsEngine.Ledger

/-! # The records of one scope

`transactions/<id>.json` of a scope, with the outcome as the operation's own
result and not as JSON.  Used where an operation holds the lock of its scope from
its preflight to its end, so that nobody else touches the records meanwhile.
-/

variable {ε ρ : Type}

structure Record (ε ρ : Type) where
  status : TransactionStatus
  finishedAt : Option Nat
  outcome : Option (Except ε ρ)

/-- `TransactionState::start`. -/
def Record.begun : Record ε ρ := ⟨.inProgress, none, none⟩

/-- `mark_committed`. -/
def Record.committed (result : ρ) (now : Nat) : Record ε ρ :=
  ⟨.committed, some now, some (.ok result)⟩

/-- `mark_failed`. -/
def Record.failed (error : ε) (now : Nat) : Record ε ρ := ⟨.failed, some now, some (.error error)⟩

/-- Finished, and its retention is over. -/
def Record.expired (record : Record ε ρ) (now : Nat) : Bool :=
  record.status ≠ .inProgress &&
    match record.finishedAt with
    | none => false
    | some finishedAt => Prune.defaultCompletedRetention ≤ now - finishedAt

/-- A record file.  `state::create` leaves it `torn` between its exclusive
creation and its content; `state::save` replaces it as a whole. -/
inductive File (ε ρ : Type) where
  | torn
  | whole (record : Record ε ρ)

abbrev Records (ε ρ : Type) := RequestId → Option (File ε ρ)

namespace Records

def load (records : Records ε ρ) (id : RequestId) : Option (Record ε ρ) :=
  match records id with
  | some (.whole record) => some record
  | _ => none

def status? (records : Records ε ρ) (id : RequestId) : Option TransactionStatus :=
  (records.load id).map (·.status)

def set (records : Records ε ρ) (id : RequestId) (file : File ε ρ) : Records ε ρ :=
  Function.update records id (some file)

/-- The record is one that `prune_finished_transactions` goes for at `now`. -/
def expired (records : Records ε ρ) (now : Nat) (id : RequestId) : Bool :=
  (records.load id).any (·.expired now)

/-- `prune_finished_transactions`.  It skips what it cannot remove: `taken` is
what it can. -/
def sweep (records : Records ε ρ) (now : Nat) (taken : RequestId → Bool) : Records ε ρ :=
  fun id => if records.expired now id && taken id then none else records id

variable {records : Records ε ρ} {id other : RequestId}

@[simp] theorem load_set_self (file : File ε ρ) :
    (records.set id file).load id = match file with | .torn => none | .whole record => some record := by
  cases file <;> simp [load, set]

theorem load_set_of_ne (apart : other ≠ id) (file : File ε ρ) :
    (records.set id file).load other = records.load other := by
  simp [load, set, Function.update_of_ne apart]

theorem status?_set_of_ne (apart : other ≠ id) (file : File ε ρ) :
    (records.set id file).status? other = records.status? other := by
  simp [status?, load_set_of_ne apart]

@[simp] theorem status?_set_whole (record : Record ε ρ) :
    (records.set id (.whole record)).status? id = some record.status := by
  simp [status?]

@[simp] theorem status?_set_torn : (records.set id .torn).status? id = none := by
  simp [status?]

theorem status?_of_load {record : Record ε ρ} (found : records.load id = some record) :
    records.status? id = some record.status := by
  simp [status?, found]

theorem status?_of_absent (absent : records id = none) : records.status? id = none := by
  simp [status?, load, absent]

variable {now : Nat}

theorem finished_of_expired (expired : records.expired now id = true) :
    ∃ record, records.load id = some record ∧ record.status ≠ .inProgress := by
  unfold Records.expired at expired
  cases found : records.load id with
  | none => simp [found] at expired
  | some record =>
    simp only [found, Option.any_some, Record.expired, ne_eq, Bool.and_eq_true,
      decide_eq_true_eq] at expired
    exact ⟨record, rfl, expired.1⟩

variable {taken : RequestId → Bool}

theorem sweep_none (unused : records id = none) :
    records.sweep now taken id = none := by
  unfold sweep
  split
  · rfl
  · exact unused

theorem status?_sweep {status : TransactionStatus}
    (found : (records.sweep now taken).status? id = some status) :
    records.status? id = some status := by
  unfold status? load sweep at found
  unfold status? load
  by_cases gone : (records.expired now id && taken id) = true
  · simp [gone] at found
  · simpa [gone] using found

theorem not_expired_of_inProgress (running : records.status? id = some .inProgress) :
    records.expired now id = false := by
  by_contra gone
  obtain ⟨record, found, finished⟩ := finished_of_expired (Bool.not_eq_false _ ▸ gone)
  rw [status?_of_load found] at running
  exact finished (Option.some.inj running)

end Records

end OpsEngine.Ledger
