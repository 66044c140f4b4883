import Mathlib.Order.Interval.Finset.Nat
import OpsEngine.Cron.Schedule

namespace OpsEngine.Cron

open Text

/-! # When a schedule and its timer fire

The two languages are given their own meaning here: a crontab line as
`crontab(5)` reads it, a calendar expression as `systemd.time(7)` does.  The
translation keeps the minutes at which the job runs.
-/

/-- A minute of the calendar; the weekday counts from Sunday. -/
structure Moment where
  year : Nat
  month : Nat
  day : Nat
  weekday : Nat
  hour : Nat
  minute : Nat
  months : 1 ≤ month ∧ month ≤ 12
  days : 1 ≤ day ∧ day ≤ 31
  weekdays : weekday ≤ 6
  hours : hour ≤ 23
  minutes : minute ≤ 59

/-! ## Crontab lines -/

/-- One member of the list in a field. -/
inductive CronPart where
  | every (step : Nat)
  | range (low high step : Nat)
  | only (value : Nat)
deriving DecidableEq

def cronRange (text : Text) (step : Nat) : Option CronPart := do
  let (low, high) ← splitOnce? ['-'] text
  let low ← decimal? low
  let high ← decimal? high
  some (.range low high step)

def cronPart (text : Text) : Option CronPart :=
  match splitOnce? ['/'] text with
  | some (range, step) => do
    let step ← decimal? step
    if range = ['*'] then some (.every step) else cronRange range step
  | none =>
    if text = ['*'] then some (.every 1)
    else if Text.contains ['-'] text then cronRange text 1
    else (decimal? text).map .only

def CronPart.holds (min max : Nat) (part : CronPart) (value : Nat) : Bool :=
  match part with
  | .every step => decide (min ≤ value ∧ value ≤ max ∧ (value - min) % step = 0)
  | .range low high step => decide (low ≤ value ∧ value ≤ high ∧ (value - low) % step = 0)
  | .only single => decide (value = single)

def cronField (field : Text) : Option (List CronPart) := (field.splitOn ',').mapM cronPart

def fieldHolds (min max : Nat) (field : Text) (value : Nat) : Bool :=
  match cronField field with
  | some parts => parts.any fun part => part.holds min max value
  | none => false

/-- Both 0 and 7 are Sunday. -/
def weekdayHolds (field : Text) (weekday : Nat) : Bool :=
  fieldHolds 0 7 field weekday || (weekday == 0 && fieldHolds 0 7 field 7)

/-- Where neither the day of the month nor the weekday starts with a star, either
of them is enough. -/
def ruleHolds (minute hour day month weekday : Text) (moment : Moment) : Bool :=
  let onDay := fieldHolds 1 31 day moment.day
  let onWeekday := weekdayHolds weekday moment.weekday
  fieldHolds 0 59 minute moment.minute && fieldHolds 0 23 hour moment.hour &&
    fieldHolds 1 12 month moment.month &&
    if day.head? ≠ some '*' ∧ weekday.head? ≠ some '*' then onDay || onWeekday
    else onDay && onWeekday

def cronHolds (schedule : Schedule) (moment : Moment) : Bool :=
  let text := schedule.text
  let midnight := moment.hour == 0 && moment.minute == 0
  if text = "@hourly".toList then moment.minute == 0
  else if text = "@daily".toList ∨ text = "@midnight".toList then midnight
  else if text = "@weekly".toList then midnight && moment.weekday == 0
  else if text = "@monthly".toList then midnight && moment.day == 1
  else if text = "@yearly".toList ∨ text = "@annually".toList then
    midnight && moment.day == 1 && moment.month == 1
  else
    match splitWhitespace text with
    | [minute, hour, day, month, weekday] => ruleHolds minute hour day month weekday moment
    | _ => false

/-! ## Calendar expressions -/

/-- One component of a date or a time. -/
def componentHolds (text : Text) (value : Nat) : Bool :=
  decide (text = ['*']) || (text.splitOn ',').any fun number => decide (decimal? number = some value)

def dateHolds (date : Text) (moment : Moment) : Bool :=
  match date.splitOn '-' with
  | [year, month, day] =>
    componentHolds year moment.year && componentHolds month moment.month &&
      componentHolds day moment.day
  | _ => false

/-- The expression is looked at on the full minute. -/
def timeHolds (time : Text) (moment : Moment) : Bool :=
  match time.splitOn ':' with
  | [hour, minute, second] =>
    componentHolds hour moment.hour && componentHolds minute moment.minute &&
      componentHolds second 0
  | _ => false

def weekdaysHold (text : Text) (moment : Moment) : Bool :=
  (text.splitOn ',').any fun name => decide (names.idxOf? name = some moment.weekday)

def calendarHolds (calendar : Text) (moment : Moment) : Bool :=
  match calendar.splitOn ' ' with
  | [date, time] => dateHolds date moment && timeHolds time moment
  | [weekdays, date, time] =>
    weekdaysHold weekdays moment && dateHolds date moment && timeHolds time moment
  | _ => false

/-! ## Fields of numbers -/

/-- A member whose numbers lie in the field's range, with a step the engine can read. -/
def CronPart.InRange (min max : Nat) : CronPart → Prop
  | .every step => 0 < step ∧ step < 2 ^ 32
  | .range low high step => (min ≤ low ∧ low ≤ high ∧ high ≤ max) ∧ 0 < step ∧ step < 2 ^ 32
  | .only value => min ≤ value ∧ value ≤ max

instance (min max : Nat) : DecidablePred (CronPart.InRange min max) := fun part =>
  match part with
  | .every _ => inferInstanceAs (Decidable (_ ∧ _))
  | .range .. => inferInstanceAs (Decidable (_ ∧ _))
  | .only _ => inferInstanceAs (Decidable (_ ∧ _))

def CronPart.values (min max : Nat) : CronPart → List Nat
  | .every step => stepBy min max step
  | .range low high step => stepBy low high step
  | .only value => [value]

variable {value : Nat} {step : Nat}

theorem mem_stepBy {low high : Nat} (ordered : low ≤ high) (positive : 0 < step) :
    value ∈ stepBy low high step ↔ low ≤ value ∧ value ≤ high ∧ (value - low) % step = 0 := by
  rw [stepBy, List.mem_range']
  constructor
  · rintro ⟨index, bound, rfl⟩
    have inside : step * index ≤ high - low := by
      calc step * index ≤ step * ((high - low) / step) := Nat.mul_le_mul_left _ (by omega)
        _ ≤ high - low := Nat.mul_div_le _ _
    refine ⟨by omega, by omega, ?_⟩
    rw [Nat.add_sub_cancel_left, Nat.mul_mod_right]
  · rintro ⟨above, below, divides⟩
    obtain ⟨index, multiple⟩ := Nat.dvd_of_mod_eq_zero divides
    refine ⟨index, ?_, by omega⟩
    have fits : index ≤ (high - low) / step := by
      rw [Nat.le_div_iff_mul_le positive, Nat.mul_comm]
      omega
    omega

variable {min : Nat} {max : Nat}

theorem CronPart.mem_values (ordered : min ≤ max) {part : CronPart}
    (inRange : part.InRange min max) (value : Nat) :
    value ∈ part.values min max ↔ part.holds min max value = true := by
  cases part with
  | every step => simp [values, holds, mem_stepBy ordered inRange.1]
  | range low high step => simp [values, holds, mem_stepBy inRange.1.2.1 inRange.2.1]
  | only single => simp [values, holds]

variable {value : Nat} {c : Char}

theorem CronPart.bounds_of_holds {part : CronPart}
    (inRange : part.InRange min max) (holds : part.holds min max value = true) :
    min ≤ value ∧ value ≤ max := by
  cases part with
  | every step =>
    simp only [CronPart.holds, decide_eq_true_eq] at holds
    exact ⟨holds.1, holds.2.1⟩
  | range low high step =>
    simp only [CronPart.holds, decide_eq_true_eq] at holds
    have bounds := inRange.1
    omega
  | only single =>
    simp only [CronPart.holds, decide_eq_true_eq] at holds
    exact holds ▸ inRange

theorem CronPart.values_ne_nil (min max : Nat) (part : CronPart) : part.values min max ≠ [] := by
  cases part <;> simp [values, stepBy]

section Expand

variable {min max : Nat}

/-- What the engine makes of a member it could read. -/
def CronPart.expanded (min max : Nat) (part : CronPart) : Option (List Nat) :=
  if part.InRange min max then some (part.values min max) else none

theorem filter_bind_eq {α β : Type} {test : α → Bool} {left right : α → Option β}
    (found : Option α) (same : ∀ value, test value = true → left value = right value)
    (other : ∀ value, test value = false → right value = none) :
    (found.filter test).bind left = found.bind right := by
  cases found with
  | none => rfl
  | some value => cases tested : test value <;> simp [Option.filter, tested, same, other]

/-- A step that is read: positive, and it fits. -/
def readable (step : Nat) : Prop := 0 < step ∧ step < 2 ^ 32

theorem range_expanded (min max low high : Nat) (ok : readable step) :
    (if low < min ∨ high > max ∨ low > high then none else some (stepBy low high step)) =
      (CronPart.range low high step).expanded min max := by
  have bounds : (low < min ∨ high > max ∨ low > high) ↔
      ¬ (CronPart.range low high step).InRange min max := by
    simp only [CronPart.InRange, and_iff_left (show 0 < step ∧ step < 2 ^ 32 from ok)]
    omega
  simp only [CronPart.expanded, bounds, CronPart.values, ite_not]

theorem CronPart.expanded_of_not {part : CronPart} (outside : ¬ part.InRange min max) :
    part.expanded min max = none := if_neg outside

theorem expanded_range (min : Nat) (small : max < 2 ^ 32) {low high : Text}
    (lowUnsigned : '+' ∉ low) (highUnsigned : '+' ∉ high) (ok : readable step) :
    ((parseU32 low).bind fun low => (parseU32 high).bind fun high =>
        if low < min ∨ high > max ∨ low > high then none else some (stepBy low high step)) =
      ((decimal? low).bind fun low => (decimal? high).bind fun high =>
        some (CronPart.range low high step)).bind (CronPart.expanded min max) := by
  simp only [range_expanded min max _ _ ok, parseU32_unsigned lowUnsigned,
    parseU32_unsigned highUnsigned, Option.bind_assoc, Option.bind_some]
  apply filter_bind_eq
  · intro first _
    apply filter_bind_eq _ (fun _ _ => rfl)
    intro last large
    have outside : ¬ last < 2 ^ 32 := of_decide_eq_false large
    refine CronPart.expanded_of_not fun inRange => ?_
    have bounds := inRange.1
    omega
  · intro first large
    have outside : ¬ first < 2 ^ 32 := of_decide_eq_false large
    rw [Option.bind_eq_none_iff]
    refine fun last _ => CronPart.expanded_of_not fun inRange => ?_
    have bounds := inRange.1
    omega

theorem expanded_only (min : Nat) (small : max < 2 ^ 32) {part : Text} (unsigned : '+' ∉ part) :
    ((parseU32 part).bind fun value =>
        if value < min ∨ max < value then none else some (stepBy value value 1)) =
      (decimal? part).bind fun value => (CronPart.only value).expanded min max := by
  rw [parseU32_unsigned unsigned]
  apply filter_bind_eq
  · intro value _
    have alone : stepBy value value 1 = [value] := by simp [stepBy]
    have bounds : (value < min ∨ max < value) ↔ ¬ (CronPart.only value).InRange min max := by
      simp only [CronPart.InRange]
      omega
    simp only [CronPart.expanded, bounds, CronPart.values, ite_not, alone]
  · intro value large
    have outside : ¬ value < 2 ^ 32 := of_decide_eq_false large
    refine CronPart.expanded_of_not fun inRange => ?_
    have bounds : value ≤ max := inRange.2
    omega

theorem cronRange_expanded_unreadable {range : Text} {count : Nat} (bad : ¬ readable count) :
    (cronRange range count).bind (CronPart.expanded min max) = none := by
  rw [Option.bind_eq_none_iff]
  intro part found
  obtain ⟨bounds, -, found⟩ := Option.bind_eq_some_iff.mp found
  obtain ⟨low, -, found⟩ := Option.bind_eq_some_iff.mp found
  obtain ⟨high, -, found⟩ := Option.bind_eq_some_iff.mp found
  obtain rfl := Option.some.inj found
  exact CronPart.expanded_of_not fun inRange => bad inRange.2

theorem cronRange_expanded (min : Nat) (small : max < 2 ^ 32) {range : Text}
    (unsigned : '+' ∉ range) (ok : readable step) :
    ((splitOnce? ['-'] range).bind fun bounds =>
      (parseU32 bounds.1).bind fun low => (parseU32 bounds.2).bind fun high =>
        if low < min ∨ high > max ∨ low > high then none else some (stepBy low high step)) =
      (cronRange range step).bind (CronPart.expanded min max) := by
  cases dash : splitOnce? ['-'] range with
  | none => simp [cronRange, dash]
  | some bounds =>
  obtain ⟨low, high⟩ := bounds
  have both := splitOnce?_some dash
  have lowUnsigned : '+' ∉ low := fun member => unsigned (by simp [both, member])
  have highUnsigned : '+' ∉ high := fun member => unsigned (by simp [both, member])
  have expanded := expanded_range min small lowUnsigned highUnsigned ok
  simpa [cronRange, dash] using expanded

theorem expandPart_eq (ordered : min ≤ max) (small : max < 2 ^ 32) {part : Text}
    (unsigned : '+' ∉ part) :
    expandPart min max part = (cronPart part).bind (CronPart.expanded min max) := by
  have one : readable 1 := ⟨by decide, by decide⟩
  unfold expandPart cronPart
  cases slash : splitOnce? ['/'] part with
  | some parts =>
    obtain ⟨range, step⟩ := parts
    have whole := splitOnce?_some slash
    have rangeUnsigned : '+' ∉ range := fun member => unsigned (by simp [whole, member])
    have stepUnsigned : '+' ∉ step := fun member => unsigned (by simp [whole, member])
    have slashed := contains_of_splitOnce? slash
    simp only [parseU32_unsigned stepUnsigned, Option.filter_filter, Option.bind_eq_bind,
      Option.bind_assoc, Option.bind_some]
    apply filter_bind_eq
    · intro count read
      have ok : readable count := by simpa [readable, and_comm] using read
      by_cases star : range = ['*']
      · have inRange : (CronPart.every count).InRange min max := ok
        simp [star, ordered, CronPart.expanded, inRange, CronPart.values]
      have expanded := cronRange_expanded min small rangeUnsigned ok
      cases dash : splitOnce? ['-'] range with
      | none =>
        simp [star, dash, slashed, ← expanded]
      | some bounds =>
        simp [star, dash, ← expanded]
    · intro count unread
      have bad : ¬ readable count := by
        rintro ⟨positive, fits⟩
        rw [decide_eq_true positive, decide_eq_true fits] at unread
        contradiction
      by_cases star : range = ['*']
      · have outOfRange : ¬ (CronPart.every count).InRange min max := bad
        simp [star, CronPart.expanded, outOfRange]
      · simp [star, cronRange_expanded_unreadable bad]
  | none =>
    have plain : Text.contains ['/'] part = false := splitOnce?_none.mp slash
    by_cases star : part = ['*']
    · have inRange : (CronPart.every 1).InRange min max := one
      simp [star, ordered, CronPart.expanded, inRange, CronPart.values]
    have expanded := cronRange_expanded min small unsigned one
    cases dash : splitOnce? ['-'] part with
    | some bounds =>
      simp [star, dash, contains_of_splitOnce? dash, ← expanded]
    | none =>
      have single := expanded_only min small unsigned
      simpa [star, dash, plain, splitOnce?_none.mp dash, Option.bind_map,
        Function.comp_def] using single

theorem mapM_expandPart (ordered : min ≤ max) (small : max < 2 ^ 32) {texts : List Text}
    (unsigned : ∀ text ∈ texts, '+' ∉ text) {found : List (List Nat)} :
    texts.mapM (expandPart min max) = some found ↔
      ∃ parts, texts.mapM cronPart = some parts ∧ (∀ part ∈ parts, part.InRange min max) ∧
        found = parts.map (CronPart.values min max) := by
  induction texts generalizing found with
  | nil =>
    simp only [List.mapM_nil, Option.pure_def, Option.some.injEq]
    constructor
    · rintro rfl
      exact ⟨[], rfl, by simp, rfl⟩
    · rintro ⟨parts, rfl, -, rfl⟩
      rfl
  | cons text texts ih =>
    have later := @ih fun other member => unsigned other (List.mem_cons_of_mem _ member)
    simp only [List.mapM_cons, expandPart_eq ordered small (unsigned text (by simp)),
      Option.bind_eq_bind, Option.bind_eq_some_iff, Option.pure_def, Option.some.injEq,
      CronPart.expanded, Option.ite_none_right_eq_some]
    constructor
    · rintro ⟨first, ⟨part, read, inRange, rfl⟩, others, expanded, rfl⟩
      obtain ⟨parts, all, inside, rfl⟩ := later.mp expanded
      exact ⟨part :: parts, ⟨part, read, parts, all, rfl⟩, by simpa using ⟨inRange, inside⟩, rfl⟩
    · rintro ⟨parts, ⟨part, read, rest, all, rfl⟩, inRange, rfl⟩
      simp only [List.mem_cons, forall_eq_or_imp] at inRange
      exact ⟨_, ⟨part, read, inRange.1, rfl⟩, _, later.mpr ⟨rest, all, inRange.2, rfl⟩, rfl⟩

variable {field : Text} {values : List Nat}

theorem expand_eq_some (ordered : min ≤ max) (small : max < 2 ^ 32) (unsigned : '+' ∉ field) :
    expand field min max = some values ↔
      ∃ parts, cronField field = some parts ∧ (∀ part ∈ parts, part.InRange min max) ∧
        values = sortDedup (parts.map (CronPart.values min max)).flatten := by
  have pieces : ∀ text ∈ field.splitOn ',', '+' ∉ text := fun text member plus =>
    unsigned (unbroken_of_mem_splitOnP member '+' plus).1
  simp only [expand, Option.bind_eq_bind, Option.bind_eq_some_iff,
    mapM_expandPart ordered small pieces, Option.some.injEq, cronField]
  constructor
  · rintro ⟨_, ⟨parts, read, inRange, rfl⟩, rfl⟩
    exact ⟨parts, read, inRange, rfl⟩
  · rintro ⟨parts, read, inRange, rfl⟩
    exact ⟨_, ⟨parts, read, inRange, rfl⟩, rfl⟩

theorem cronField_ne_nil {parts : List CronPart} (read : cronField field = some parts) :
    parts ≠ [] := by
  obtain ⟨first, others, split⟩ := List.exists_cons_of_ne_nil (List.splitOn_ne_nil ',' field)
  rw [cronField, split, List.mapM_cons] at read
  obtain ⟨part, -, read⟩ := Option.bind_eq_some_iff.mp read
  obtain ⟨rest, -, read⟩ := Option.bind_eq_some_iff.mp read
  obtain rfl := Option.some.inj read
  simp

/-- A field whose list has only members in range. -/
def FieldInRange (min max : Nat) (field : Text) : Prop :=
  ∃ parts, cronField field = some parts ∧ ∀ part ∈ parts, part.InRange min max

theorem expand_of_inRange (ordered : min ≤ max) (small : max < 2 ^ 32)
    (unsigned : '+' ∉ field) (inRange : FieldInRange min max field) :
    ∃ values, expand field min max = some values := by
  obtain ⟨parts, read, inside⟩ := inRange
  exact ⟨_, (expand_eq_some ordered small unsigned).mpr ⟨parts, read, inside, rfl⟩⟩

/-- What an expanded field is: the values the field holds for, each of them once. -/
structure Expanded (min max : Nat) (field : Text) (values : List Nat) : Prop where
  mem_iff : ∀ value, value ∈ values ↔ fieldHolds min max field value = true
  bounds : ∀ value ∈ values, min ≤ value ∧ value ≤ max
  nodup : values.Nodup
  filled : values ≠ []

theorem mem_sortDedup :
    value ∈ sortDedup values ↔ value ∈ values := by
  rw [sortDedup, List.mem_dedup, List.mem_insertionSort]

theorem nodup_sortDedup (values : List Nat) : (sortDedup values).Nodup := List.nodup_dedup _

theorem expanded_of_expand (ordered : min ≤ max) (small : max < 2 ^ 32)
    (unsigned : '+' ∉ field) (expands : expand field min max = some values) :
    Expanded min max field values := by
  obtain ⟨parts, read, inRange, rfl⟩ := (expand_eq_some ordered small unsigned).mp expands
  have mem_iff : ∀ value, value ∈ sortDedup (parts.map (CronPart.values min max)).flatten ↔
      ∃ part ∈ parts, part.holds min max value = true := by
    intro value
    rw [mem_sortDedup]
    simp only [List.mem_flatten, List.mem_map, exists_exists_and_eq_and]
    exact exists_congr fun part => and_congr_right fun member =>
      CronPart.mem_values ordered (inRange part member) value
  refine ⟨fun value => ?_, fun value member => ?_, nodup_sortDedup _, ?_⟩
  · rw [mem_iff, fieldHolds, read]
    simp
  · obtain ⟨part, inside, holds⟩ := (mem_iff value).mp member
    exact CronPart.bounds_of_holds (inRange part inside) holds
  obtain ⟨part, member⟩ := List.exists_mem_of_ne_nil parts (cronField_ne_nil read)
  obtain ⟨value, inside⟩ := List.exists_mem_of_ne_nil _ (part.values_ne_nil min max)
  have held : value ∈ sortDedup (parts.map (CronPart.values min max)).flatten :=
    (mem_iff value).mpr ⟨part, member,
      (CronPart.mem_values ordered (inRange part member) value).mp inside⟩
  exact List.ne_nil_of_mem held

end Expand

/-! ## Components of the expression -/

variable {values : List Nat} {field : Text} {minute hour day month weekday : Text}

theorem mem_of_full (nodup : values.Nodup) (bounds : ∀ value ∈ values, min ≤ value ∧ value ≤ max)
    (full : values.length = max - min + 1) (inside : min ≤ value ∧ value ≤ max) :
    value ∈ values := by
  have subset : values.toFinset ⊆ Finset.Icc min max := by
    intro element member
    rw [Finset.mem_Icc]
    exact bounds element (List.mem_toFinset.mp member)
  have card : (Finset.Icc min max).card ≤ values.toFinset.card := by
    rw [Nat.card_Icc, List.toFinset_card_of_nodup nodup]
    omega
  have same := Finset.eq_of_subset_of_card_le subset card
  rw [← List.mem_toFinset, same, Finset.mem_Icc]
  exact inside

theorem not_mem_twoDigits (small : value < 60) (other : c.isDigit = false) :
    c ∉ twoDigits value := by
  intro member
  have digit := twoDigits_digits small c member
  simp [other] at digit

theorem componentHolds_list (expanded : Expanded min max field values) (small : max < 60)
    (inside : min ≤ value ∧ value ≤ max) :
    componentHolds (list values min max) value = fieldHolds min max field value := by
  have below : ∀ value ∈ values, value < 60 := fun value member => by
    have bound := expanded.bounds value member
    omega
  rw [Bool.eq_iff_iff, ← expanded.mem_iff]
  unfold list
  split
  · rename_i full
    simp [componentHolds, mem_of_full expanded.nodup expanded.bounds full inside]
  have filled : values.map twoDigits ≠ [] := by simp [expanded.filled]
  have single : ∀ number ∈ values.map twoDigits, ',' ∉ number := by
    intro number member
    obtain ⟨digits, held, rfl⟩ := List.mem_map.mp member
    exact not_mem_twoDigits (below digits held) (by decide)
  have split := List.splitOn_intercalate ',' single filled
  have starless : [','].intercalate (values.map twoDigits) ≠ ['*'] := by
    intro star
    rw [star] at split
    have alone : ['*'] ∈ values.map twoDigits := by
      rw [← split]
      decide
    obtain ⟨digits, held, same⟩ := List.mem_map.mp alone
    exact not_mem_twoDigits (below digits held) (c := '*') (by decide) (by simp [same])
  simp only [componentHolds, starless, decide_false, Bool.false_or, split, List.any_map,
    List.any_eq_true, Function.comp_apply, decide_eq_true_eq]
  constructor
  · rintro ⟨digits, held, read⟩
    rw [decimal?_twoDigits (below digits held), Option.some.injEq] at read
    exact read ▸ held
  · intro held
    exact ⟨value, held, decimal?_twoDigits (below value held)⟩

variable {month : Text} {day : Text}

theorem dateHolds_intercalate (monthPlain : '-' ∉ month) (dayPlain : '-' ∉ day)
    (moment : Moment) : dateHolds (['-'].intercalate [['*'], month, day]) moment =
      (componentHolds month moment.month && componentHolds day moment.day) := by
  have single : ∀ part ∈ [['*'], month, day], '-' ∉ part := by
    simp [monthPlain, dayPlain]
  rw [dateHolds, List.splitOn_intercalate '-' single (by simp)]
  simp [componentHolds]

variable {minute : Text} {hour : Text}

theorem timeHolds_intercalate (hourPlain : ':' ∉ hour)
    (minutePlain : ':' ∉ minute) (moment : Moment) :
    timeHolds ([':'].intercalate [hour, minute, "00".toList]) moment =
      (componentHolds hour moment.hour && componentHolds minute moment.minute) := by
  have single : ∀ part ∈ [hour, minute, "00".toList], ':' ∉ part := by
    simp [hourPlain, minutePlain]
  have second : componentHolds "00".toList 0 = true := by decide
  rw [timeHolds, List.splitOn_intercalate ':' single (by simp)]
  simp only [second, Bool.and_true]

/-! ## Weekdays -/

theorem idxOf?_names {day : Nat} (small : day ≤ 6) : names.idxOf? (names.getD day []) = some day := by
  have all : ∀ day ≤ 6, names.idxOf? (names.getD day []) = some day := by decide
  exact all day small

theorem names_chars {day : Nat} (small : day ≤ 6) : ∀ c ∈ names.getD day [], c.isAlpha = true := by
  have all : ∀ day ≤ 6, (names.getD day []).all (fun c => c.isAlpha) = true := by decide
  exact List.all_eq_true.mp (all day small)

theorem weekdaysHold_names {week : List Nat} (small : ∀ day ∈ week, day ≤ 6) (filled : week ≠ [])
    (moment : Moment) :
    weekdaysHold ([','].intercalate (week.map fun day => names.getD day [])) moment =
      decide (moment.weekday ∈ week) := by
  have single : ∀ name ∈ week.map (fun day => names.getD day []), ',' ∉ name := by
    intro name member comma
    obtain ⟨day, listed, rfl⟩ := List.mem_map.mp member
    have alpha := names_chars (small day listed) ',' comma
    exact absurd alpha (by decide)
  rw [weekdaysHold, List.splitOn_intercalate ',' single (by simp [filled]), Bool.eq_iff_iff]
  simp only [List.any_map, List.any_eq_true, Function.comp_apply, decide_eq_true_eq]
  constructor
  · rintro ⟨day, listed, named⟩
    rw [idxOf?_names (small day listed), Option.some.injEq] at named
    exact named ▸ listed
  · intro listed
    exact ⟨_, listed, idxOf?_names (small _ listed)⟩

theorem mem_week {weekdays : List Nat} (expanded : Expanded 0 7 field weekdays)
    {weekday : Nat} (small : weekday ≤ 6) :
    weekday ∈ sortDedup (weekdays.map (· % 7)) ↔ weekdayHolds field weekday = true := by
  rw [mem_sortDedup, List.mem_map, weekdayHolds]
  simp only [Bool.or_eq_true, Bool.and_eq_true, beq_iff_eq, ← expanded.mem_iff]
  constructor
  · rintro ⟨day, listed, rfl⟩
    have bound := expanded.bounds day listed
    by_cases sunday : day = 7
    · subst sunday
      exact .inr ⟨rfl, listed⟩
    · have same : day % 7 = day := Nat.mod_eq_of_lt (by omega)
      rw [same]
      exact .inl listed
  · rintro (listed | ⟨rfl, listed⟩)
    · exact ⟨weekday, listed, Nat.mod_eq_of_lt (by omega)⟩
    · exact ⟨7, listed, rfl⟩

/-! ## The whole expression -/

theorem Expanded.not_mem_list (expanded : Expanded min max field values) (small : max < 60)
    (other : c ≠ '*' ∧ c ≠ ',' ∧ c.isDigit = false) : c ∉ list values min max := by
  intro member
  unfold list at member
  split at member
  · exact other.1 (List.mem_singleton.mp member)
  · rcases mem_or_mem_of_mem_intercalate member with comma | ⟨number, inside, held⟩
    · exact other.2.1 (List.mem_singleton.mp comma)
    · obtain ⟨value, listed, rfl⟩ := List.mem_map.mp inside
      have bound := expanded.bounds value listed
      exact not_mem_twoDigits (by omega) other.2.2 held

theorem calendarText_eq (week months days hours minutes : List Nat) :
    calendarText week months days hours minutes = [' '].intercalate
      ((if week.length = 7 then [] else [[','].intercalate (week.map fun day => names.getD day [])]) ++
        [['-'].intercalate [['*'], list months 1 12, list days 1 31],
          [':'].intercalate [list hours 0 23, list minutes 0 59, "00".toList]]) := by
  unfold calendarText
  split <;> simp [List.intercalate_cons_cons]

theorem calendarHolds_calendarText {week months days hours minutes : List Nat}
    (onMinute : Expanded 0 59 minute minutes)
    (onHour : Expanded 0 23 hour hours) (onDay : Expanded 1 31 day days)
    (onMonth : Expanded 1 12 month months) (small : ∀ day ∈ week, day ≤ 6) (nodup : week.Nodup)
    (filled : week ≠ []) (moment : Moment) :
    calendarHolds (calendarText week months days hours minutes) moment =
      (decide (moment.weekday ∈ week) && (fieldHolds 1 12 month moment.month &&
        fieldHolds 1 31 day moment.day) && (fieldHolds 0 23 hour moment.hour &&
          fieldHolds 0 59 minute moment.minute)) := by
  have dash : '-' ≠ '*' ∧ '-' ≠ ',' ∧ '-'.isDigit = false := by decide
  have colon : ':' ≠ '*' ∧ ':' ≠ ',' ∧ ':'.isDigit = false := by decide
  have space : ' ' ≠ '*' ∧ ' ' ≠ ',' ∧ ' '.isDigit = false := by decide
  have date := dateHolds_intercalate (onMonth.not_mem_list (by decide) dash)
    (onDay.not_mem_list (by decide) dash) moment
  have time := timeHolds_intercalate (onHour.not_mem_list (by decide) colon)
    (onMinute.not_mem_list (by decide) colon) moment
  rw [componentHolds_list onMonth (by decide) moment.months,
    componentHolds_list onDay (by decide) moment.days] at date
  rw [componentHolds_list onHour (by decide) ⟨Nat.zero_le _, moment.hours⟩,
    componentHolds_list onMinute (by decide) ⟨Nat.zero_le _, moment.minutes⟩] at time
  have dateSolid : ' ' ∉ ['-'].intercalate [['*'], list months 1 12, list days 1 31] := by
    have month := onMonth.not_mem_list (by decide) space
    have day := onDay.not_mem_list (by decide) space
    simp [List.intercalate_cons_cons, month, day]
  have timeSolid : ' ' ∉ [':'].intercalate [list hours 0 23, list minutes 0 59, "00".toList] := by
    have hour := onHour.not_mem_list (by decide) space
    have minute := onMinute.not_mem_list (by decide) space
    simp [List.intercalate_cons_cons, hour, minute]
  have solid : ∀ piece ∈ [['-'].intercalate [['*'], list months 1 12, list days 1 31],
      [':'].intercalate [list hours 0 23, list minutes 0 59, "00".toList]], ' ' ∉ piece :=
    List.forall_mem_cons.mpr ⟨dateSolid, List.forall_mem_singleton.mpr timeSolid⟩
  rw [calendarText_eq, calendarHolds]
  by_cases full : week.length = 7
  · have every : moment.weekday ∈ week := mem_of_full nodup
      (fun day member => ⟨Nat.zero_le _, small day member⟩) full ⟨Nat.zero_le _, moment.weekdays⟩
    rw [if_pos full, List.nil_append, List.splitOn_intercalate ' ' solid (by simp)]
    simp only [date, time, every, decide_true, Bool.true_and]
  have weekSolid : ' ' ∉ [','].intercalate (week.map fun day => names.getD day []) := by
    intro member
    rcases mem_or_mem_of_mem_intercalate member with comma | ⟨name, inside, held⟩
    · exact absurd (List.mem_singleton.mp comma) (by decide)
    · obtain ⟨day, listed, rfl⟩ := List.mem_map.mp inside
      exact absurd (names_chars (small day listed) ' ' held) (by decide)
  have whole := (List.forall_mem_cons (p := fun piece : Text => ' ' ∉ piece)).mpr
    ⟨weekSolid, solid⟩
  rw [if_neg full, List.cons_append, List.nil_append,
    List.splitOn_intercalate ' ' whole (by simp)]
  simp only [date, time, weekdaysHold_names small filled]

theorem fieldHolds_star (inside : min ≤ value ∧ value ≤ max) :
    fieldHolds min max ['*'] value = true := by
  have read : cronField ['*'] = some [.every 1] := by decide
  simp [fieldHolds, read, CronPart.holds, inside, Nat.mod_one]

theorem weekdayHolds_star {weekday : Nat} (small : weekday ≤ 6) :
    weekdayHolds ['*'] weekday = true := by
  have every : fieldHolds 0 7 ['*'] weekday = true :=
    fieldHolds_star ⟨Nat.zero_le _, by omega⟩
  simp [weekdayHolds, every]

/-- Where one of the two is a star, a line runs on the days both allow. -/
theorem ruleHolds_eq (star : day = ['*'] ∨ weekday = ['*']) (moment : Moment) :
    ruleHolds minute hour day month weekday moment =
      (fieldHolds 0 59 minute moment.minute && fieldHolds 0 23 hour moment.hour &&
        fieldHolds 1 12 month moment.month &&
          (fieldHolds 1 31 day moment.day && weekdayHolds weekday moment.weekday)) := by
  have both : ¬ (day.head? ≠ some '*' ∧ weekday.head? ≠ some '*') := by
    rcases star with rfl | rfl <;> simp
  rw [ruleHolds, if_neg both]

variable {calendar : Text} {weekday : Text}

theorem fieldsCalendar_holds (unsigned : ∀ field ∈ [minute, hour, day, month, weekday], '+' ∉ field)
    (translated : fieldsCalendar minute hour day month weekday = some calendar) (moment : Moment) :
    ruleHolds minute hour day month weekday moment = calendarHolds calendar moment := by
  simp only [List.forall_mem_cons] at unsigned
  obtain ⟨plainMinute, plainHour, plainDay, plainMonth, plainWeekday, -⟩ := unsigned
  unfold fieldsCalendar at translated
  split at translated
  · contradiction
  rename_i star
  obtain ⟨minutes, minuteExpands, translated⟩ := Option.bind_eq_some_iff.mp translated
  obtain ⟨hours, hourExpands, translated⟩ := Option.bind_eq_some_iff.mp translated
  obtain ⟨days, dayExpands, translated⟩ := Option.bind_eq_some_iff.mp translated
  obtain ⟨months, monthExpands, translated⟩ := Option.bind_eq_some_iff.mp translated
  obtain ⟨weekdays, weekdayExpands, translated⟩ := Option.bind_eq_some_iff.mp translated
  obtain rfl := Option.some.inj translated
  have onMinute := expanded_of_expand (by decide) (by decide) plainMinute minuteExpands
  have onHour := expanded_of_expand (by decide) (by decide) plainHour hourExpands
  have onDay := expanded_of_expand (by decide) (by decide) plainDay dayExpands
  have onMonth := expanded_of_expand (by decide) (by decide) plainMonth monthExpands
  have onWeekday := expanded_of_expand (by decide) (by decide) plainWeekday weekdayExpands
  have small : ∀ day ∈ sortDedup (weekdays.map (· % 7)), day ≤ 6 := by
    intro day member
    obtain ⟨original, -, rfl⟩ := List.mem_map.mp (mem_sortDedup.mp member)
    omega
  have filled : sortDedup (weekdays.map (· % 7)) ≠ [] := by
    obtain ⟨day, member⟩ := List.exists_mem_of_ne_nil _ onWeekday.filled
    exact List.ne_nil_of_mem (mem_sortDedup.mpr (List.mem_map_of_mem member))
  have week : decide (moment.weekday ∈ sortDedup (weekdays.map (· % 7))) =
      weekdayHolds weekday moment.weekday := by
    rw [Bool.eq_iff_iff, decide_eq_true_eq, mem_week onWeekday moment.weekdays]
  have one : day = ['*'] ∨ weekday = ['*'] := by
    by_contra neither
    exact star (not_or.mp neither)
  rw [ruleHolds_eq one, calendarHolds_calendarText onMinute onHour onDay onMonth small
    (nodup_sortDedup _) filled, week]
  grind

theorem fieldsCalendar_isSome
    (unsigned : ∀ field ∈ [minute, hour, day, month, weekday], '+' ∉ field)
    (star : day = ['*'] ∨ weekday = ['*'])
    (inRange : FieldInRange 0 59 minute ∧ FieldInRange 0 23 hour ∧ FieldInRange 1 31 day ∧
      FieldInRange 1 12 month ∧ FieldInRange 0 7 weekday) :
    (fieldsCalendar minute hour day month weekday).isSome = true := by
  simp only [List.forall_mem_cons] at unsigned
  obtain ⟨plainMinute, plainHour, plainDay, plainMonth, plainWeekday, -⟩ := unsigned
  obtain ⟨onMinute, onHour, onDay, onMonth, onWeekday⟩ := inRange
  obtain ⟨minutes, minuteExpands⟩ := expand_of_inRange (by decide) (by decide) plainMinute onMinute
  obtain ⟨hours, hourExpands⟩ := expand_of_inRange (by decide) (by decide) plainHour onHour
  obtain ⟨days, dayExpands⟩ := expand_of_inRange (by decide) (by decide) plainDay onDay
  obtain ⟨months, monthExpands⟩ := expand_of_inRange (by decide) (by decide) plainMonth onMonth
  obtain ⟨weekdays, weekdayExpands⟩ :=
    expand_of_inRange (by decide) (by decide) plainWeekday onWeekday
  have one : ¬ (day ≠ ['*'] ∧ weekday ≠ ['*']) := fun neither => by
    rcases star with rfl | rfl
    · exact neither.1 rfl
    · exact neither.2 rfl
  simp [fieldsCalendar, one, minuteExpands, hourExpands, dayExpands, monthExpands, weekdayExpands]

/-! ## Schedules -/

theorem not_mem_of_fieldIsValid (valid : fieldIsValid field = true) : '+' ∉ field := by
  intro plus
  simp only [fieldIsValid, Bool.and_eq_true] at valid
  have allowed := List.all_eq_true.mp valid.2 '+' plus
  exact absurd allowed (by decide)

theorem Schedule.fields_unsigned (schedule : Schedule)
    (fields : splitWhitespace schedule.text = [minute, hour, day, month, weekday]) :
    ∀ field ∈ [minute, hour, day, month, weekday], '+' ∉ field := by
  have valid := schedule.valid
  rw [fields] at valid
  intro field member
  exact not_mem_of_fieldIsValid (List.all_eq_true.mp valid field member)

theorem fieldHolds_number {number : Nat}
    (read : cronField field = some [.only number]) (value : Nat) :
    fieldHolds min max field value = (value == number) := by
  rw [fieldHolds, read]
  simp [CronPart.holds, Bool.beq_eq_decide_eq]

theorem ruleHolds_keyword (moment : Moment) :
    ruleHolds ['0'] ['*'] ['*'] ['*'] ['*'] moment = (moment.minute == 0) ∧
    ruleHolds ['0'] ['0'] ['*'] ['*'] ['*'] moment = (moment.hour == 0 && moment.minute == 0) ∧
    ruleHolds ['0'] ['0'] ['*'] ['*'] ['0'] moment =
      (moment.hour == 0 && moment.minute == 0 && moment.weekday == 0) ∧
    ruleHolds ['0'] ['0'] ['1'] ['*'] ['*'] moment =
      (moment.hour == 0 && moment.minute == 0 && moment.day == 1) ∧
    ruleHolds ['0'] ['0'] ['1'] ['1'] ['*'] moment =
      (moment.hour == 0 && moment.minute == 0 && moment.day == 1 && moment.month == 1) := by
  have zero : cronField ['0'] = some [.only 0] := by decide
  have one : cronField ['1'] = some [.only 1] := by decide
  have hour := fieldHolds_star (⟨Nat.zero_le _, moment.hours⟩ : 0 ≤ moment.hour ∧ moment.hour ≤ 23)
  have day := fieldHolds_star moment.days
  have month := fieldHolds_star moment.months
  have weekday := weekdayHolds_star moment.weekdays
  have sunday : weekdayHolds ['0'] moment.weekday = (moment.weekday == 0) := by
    simp [weekdayHolds, fieldHolds_number zero]
  refine ⟨?_, ?_, ?_, ?_, ?_⟩ <;> rw [ruleHolds_eq (by decide)] <;>
    simp only [fieldHolds_number zero, fieldHolds_number one, hour, day, month, weekday, sunday,
      Bool.and_true, Bool.true_and] <;> grind

variable {text : Text}

/-- The five fields of a text have a calendar that holds as said. -/
def Fires (moment : Moment) (text : Text) (holds : Bool) : Prop :=
  ∀ calendar, textCalendar text = some calendar → holds = calendarHolds calendar moment

theorem fires_rule (fields : splitWhitespace text = [minute, hour, day, month, weekday])
    (unsigned : ∀ field ∈ [minute, hour, day, month, weekday], '+' ∉ field) (moment : Moment) :
    Fires moment text (ruleHolds minute hour day month weekday moment) := by
  intro calendar translated
  rw [textCalendar, fields] at translated
  exact fieldsCalendar_holds unsigned translated moment

theorem Fires.ite {condition : Prop} [Decidable condition] {moment : Moment} {other : Text}
    {holds later : Bool} (here : Fires moment text holds) (there : Fires moment other later) :
    Fires moment (if condition then text else other) (if condition then holds else later) := by
  split
  · exact here
  · exact there

theorem textCalendar_fields (translated : textCalendar text = some calendar) :
    ∃ minute hour day month weekday, splitWhitespace text = [minute, hour, day, month, weekday] ∧
      fieldsCalendar minute hour day month weekday = some calendar := by
  unfold textCalendar at translated
  split at translated
  · rename_i fields
    exact ⟨_, _, _, _, _, fields, translated⟩
  · contradiction

theorem onCalendar_holds (schedule : Schedule)
    (translated : onCalendar schedule = some calendar) (moment : Moment) :
    cronHolds schedule moment = calendarHolds calendar moment := by
  obtain ⟨hourly, daily, weekly, monthly, yearly⟩ := ruleHolds_keyword moment
  have fires : Fires moment (keywordFields schedule.text) (cronHolds schedule moment) := by
    unfold keywordFields cronHolds
    refine Fires.ite (hourly ▸ fires_rule (by decide) (by decide) moment) ?_
    refine Fires.ite (daily ▸ fires_rule (by decide) (by decide) moment) ?_
    refine Fires.ite (weekly ▸ fires_rule (by decide) (by decide) moment) ?_
    refine Fires.ite (monthly ▸ fires_rule (by decide) (by decide) moment) ?_
    refine Fires.ite (yearly ▸ fires_rule (by decide) (by decide) moment) ?_
    intro calendar translated
    obtain ⟨minute, hour, day, month, weekday, fields, translated⟩ := textCalendar_fields translated
    rw [fields]
    exact fieldsCalendar_holds (schedule.fields_unsigned fields) translated moment
  exact fires calendar translated

theorem keywordFields_of_five
    (fields : splitWhitespace text = [minute, hour, day, month, weekday]) :
    keywordFields text = text := by
  have other : ∀ keyword : Text, (splitWhitespace keyword).length = 1 → text ≠ keyword := by
    rintro keyword single rfl
    simp [fields] at single
  rw [keywordFields, if_neg (other _ (by decide)),
    if_neg (not_or.mpr ⟨other _ (by decide), other _ (by decide)⟩), if_neg (other _ (by decide)),
    if_neg (other _ (by decide)), if_neg (not_or.mpr ⟨other _ (by decide), other _ (by decide)⟩)]

theorem onCalendar_isSome (schedule : Schedule)
    (fields : splitWhitespace schedule.text = [minute, hour, day, month, weekday])
    (star : day = ['*'] ∨ weekday = ['*'])
    (inRange : FieldInRange 0 59 minute ∧ FieldInRange 0 23 hour ∧ FieldInRange 1 31 day ∧
      FieldInRange 1 12 month ∧ FieldInRange 0 7 weekday) :
    (onCalendar schedule).isSome = true := by
  rw [onCalendar, keywordFields_of_five fields, textCalendar, fields]
  exact fieldsCalendar_isSome (schedule.fields_unsigned fields) star inRange

/-! ## Reading a schedule back -/

theorem Schedule.parse_text (schedule : Schedule) : Schedule.parse schedule.text = some schedule := by
  simp [Schedule.parse, schedule.valid, schedule.normal]

theorem Schedule.not_mem_text (schedule : Schedule) (blank : isWhitespace c = true)
    (other : c ≠ ' ') : c ∉ schedule.text := by
  intro member
  rw [← schedule.normal] at member
  rcases mem_or_mem_of_mem_intercalate member with space | ⟨word, inside, held⟩
  · exact other (List.mem_singleton.mp space)
  · have solid := (solid_of_mem_splitWhitespace inside).2 c held
    simp [blank] at solid

theorem scheduleFromTimer_timerUnit (agent : Text) (schedule : Schedule) (calendar : Text) :
    scheduleFromTimer (timerUnit agent schedule calendar) = some schedule := by
  have feedless : '\n' ∉ scheduleComment ++ schedule.text := by
    rw [List.mem_append, not_or]
    exact ⟨by decide, schedule.not_mem_text (by decide) (by decide)⟩
  have plain : chomp (scheduleComment ++ schedule.text) = scheduleComment ++ schedule.text := by
    apply chomp_of_not_mem
    rw [List.mem_append, not_or]
    exact ⟨by decide, schedule.not_mem_text (by decide) (by decide)⟩
  have header : chomp managedHeader = managedHeader ∧ '\n' ∉ managedHeader ∧
      stripStart? scheduleComment managedHeader = none := by decide
  obtain ⟨rest, shape⟩ : ∃ rest, timerUnit agent schedule calendar =
      managedHeader ++ '\n' :: ((scheduleComment ++ schedule.text) ++ '\n' :: rest) := by
    refine ⟨"[Unit]\nDescription=WCP agent ".toList ++ agent ++
      " schedule\n\n[Timer]\nOnCalendar=".toList ++ calendar ++
      "\nAccuracySec=1s\nPersistent=false\nUnit=".toList ++ serviceName agent ++
      "\n\n[Install]\nWantedBy=timers.target\n".toList, ?_⟩
    have unit : "\n[Unit]\nDescription=WCP agent ".toList =
        '\n' :: "[Unit]\nDescription=WCP agent ".toList := by decide
    rw [timerUnit, unit]
    simp only [List.append_assoc, List.cons_append, List.nil_append]
  have comment : stripStart? scheduleComment (scheduleComment ++ schedule.text) =
      some schedule.text := by
    simp [stripStart?]
  rw [scheduleFromTimer, shape, lines_line header.2.1, lines_line feedless, header.1, plain,
    List.findSome?_cons, header.2.2, List.findSome?_cons, comment, Option.bind_some,
    schedule.parse_text]

/-- The timer of a schedule fires when the crontab line would, every schedule of
numbers that restricts at most one of the two days has one, and the schedule can
be read back from it. -/
theorem timer_agrees_with_cron (schedule : Schedule) :
    (∀ calendar, onCalendar schedule = some calendar →
      ∀ moment, cronHolds schedule moment = calendarHolds calendar moment) ∧
    (∀ minute hour day month weekday,
      splitWhitespace schedule.text = [minute, hour, day, month, weekday] →
      day = ['*'] ∨ weekday = ['*'] →
      FieldInRange 0 59 minute ∧ FieldInRange 0 23 hour ∧ FieldInRange 1 31 day ∧
        FieldInRange 1 12 month ∧ FieldInRange 0 7 weekday → (onCalendar schedule).isSome = true) ∧
    ∀ agent calendar, scheduleFromTimer (timerUnit agent schedule calendar) = some schedule := by
  refine ⟨?_, ?_, ?_⟩
  · intro calendar translated moment
    exact onCalendar_holds schedule translated moment
  · intro minute hour day month weekday fields star inRange
    exact onCalendar_isSome schedule fields star inRange
  · intro agent calendar
    exact scheduleFromTimer_timerUnit agent schedule calendar

/-- Every twenty minutes of some working hours, Sunday as 7. -/
def sampleSchedule : Schedule := ⟨"*/20 9-17/4 * * 1,7".toList, by decide, by decide⟩

def sampleCalendar : Text := "Sun,Mon *-*-* 09,13,17:00,20,40:00".toList

def sampleMoment : Moment :=
  ⟨2026, 11, 15, 0, 13, 20, by decide, by decide, by decide, by decide, by decide⟩

theorem timer_agrees_with_cron_sample :
    onCalendar sampleSchedule = some sampleCalendar ∧
      cronHolds sampleSchedule sampleMoment = calendarHolds sampleCalendar sampleMoment ∧
      cronHolds sampleSchedule sampleMoment = true ∧
      scheduleFromTimer (timerUnit "disk-report".toList sampleSchedule sampleCalendar) =
        some sampleSchedule := by
  have translated : onCalendar sampleSchedule = some sampleCalendar := by decide +kernel
  have agrees := timer_agrees_with_cron sampleSchedule
  exact ⟨translated, agrees.1 sampleCalendar translated sampleMoment, by decide +kernel,
    agrees.2.2 "disk-report".toList sampleCalendar⟩

end OpsEngine.Cron
