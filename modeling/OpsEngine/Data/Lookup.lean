import Mathlib.Data.List.Basic

namespace OpsEngine

/-! # Association lists -/

variable {α β : Type} [DecidableEq α]

theorem lookup_filter (keep : α → Bool) (entries : List (α × β)) (key : α) :
    (entries.filter fun entry => keep entry.1).lookup key =
      if keep key then entries.lookup key else none := by
  induction entries with
  | nil => simp
  | cons entry rest ih =>
    obtain ⟨found, value⟩ := entry
    by_cases same : key = found
    · subst same
      by_cases kept : keep key = true
      · simp [kept]
      · simp only [List.filter_cons, kept, Bool.false_eq_true, if_false, ih]
    · have apart : (key == found) = false := beq_false_of_ne same
      by_cases kept : keep found = true
      · simp only [List.filter_cons, kept, if_true, List.lookup_cons, apart, ih]
      · simp only [List.filter_cons, kept, Bool.false_eq_true, if_false, List.lookup_cons, apart, ih]

end OpsEngine
