import Mathlib.Data.List.Sort
import Mathlib.Data.List.Dedup
import OpsEngine.Data.Search
import OpsEngine.Data.Words

namespace OpsEngine.Cron

open Text

/-! # Cron schedules and calendar expressions

For an agent that runs under systemd, a schedule is turned into the `OnCalendar=`
expression of a timer, and kept in a comment of it so that it can be read back.
-/

def keywords : List Text :=
  ["@hourly".toList, "@daily".toList, "@midnight".toList, "@weekly".toList, "@monthly".toList,
    "@yearly".toList, "@annually".toList]

def fieldIsValid (field : Text) : Bool :=
  !field.isEmpty && decide (field.length ≤ 64) &&
    field.all fun c => c.isAlphanum || c == '*' || c == '/' || c == ',' || c == '-'

def fieldsAreValid (fields : List Text) : Bool :=
  match fields with
  | [keyword] => keywords.contains keyword
  | [_, _, _, _, _] => fields.all fieldIsValid
  | _ => false

/-- A schedule that is safe to place in the first fields of a line, its white
space normalized. -/
structure Schedule where
  text : Text
  valid : fieldsAreValid (splitWhitespace text) = true
  normal : joinWords (splitWhitespace text) = text

theorem splitWhitespace_normalized (value : Text) :
    splitWhitespace (joinWords (splitWhitespace value)) = splitWhitespace value :=
  splitWhitespace_joinWords fun _ member => solid_of_mem_splitWhitespace member

def Schedule.parse (value : Text) : Option Schedule :=
  if valid : fieldsAreValid (splitWhitespace value) = true then
    some ⟨joinWords (splitWhitespace value), by rw [splitWhitespace_normalized, valid],
      by rw [splitWhitespace_normalized]⟩
  else none

/-- The values a step runs through: `(low..=high).step_by(step)`. -/
def stepBy (low high step : Nat) : List Nat := List.range' low ((high - low) / step + 1) step

def expandPart (min max : Nat) (part : Text) : Option (List Nat) := do
  let (range, step) ← match splitOnce? ['/'] part with
    | some (range, step) => do
      let step ← (parseU32 step).filter fun step => decide (0 < step)
      some (range, step)
    | none => some (part, 1)
  let (low, high) ←
    if range = ['*'] then some (min, max)
    else match splitOnce? ['-'] range with
      | some (low, high) => do
        let low ← parseU32 low
        let high ← parseU32 high
        some (low, high)
      | none =>
        if Text.contains ['/'] part then none
        else (parseU32 range).map fun value => (value, value)
  if low < min ∨ high > max ∨ low > high then none else some (stepBy low high step)

/-- `sort_unstable` and `dedup`. -/
def sortDedup (values : List Nat) : List Nat := (values.insertionSort (· ≤ ·)).dedup

def expand (field : Text) (min max : Nat) : Option (List Nat) := do
  let parts ← (field.splitOn ',').mapM (expandPart min max)
  some (sortDedup parts.flatten)

/-- The values of one component, `*` where there are all of them. -/
def list (values : List Nat) (min max : Nat) : Text :=
  if values.length = max - min + 1 then ['*']
  else [','].intercalate (values.map twoDigits)

def names : List Text :=
  ["Sun".toList, "Mon".toList, "Tue".toList, "Wed".toList, "Thu".toList, "Fri".toList,
    "Sat".toList]

def keywordFields (text : Text) : Text :=
  if text = "@hourly".toList then "0 * * * *".toList
  else if text = "@daily".toList ∨ text = "@midnight".toList then "0 0 * * *".toList
  else if text = "@weekly".toList then "0 0 * * 0".toList
  else if text = "@monthly".toList then "0 0 1 * *".toList
  else if text = "@yearly".toList ∨ text = "@annually".toList then "0 0 1 1 *".toList
  else text

def calendarText (week months days hours minutes : List Nat) : Text :=
  let weekday :=
    if week.length = 7 then []
    else [','].intercalate (week.map fun day => names.getD day []) ++ [' ']
  weekday ++ "*-".toList ++ list months 1 12 ++ ['-'] ++ list days 1 31 ++ [' '] ++
    list hours 0 23 ++ [':'] ++ list minutes 0 59 ++ ":00".toList

def fieldsCalendar (minute hour day month weekday : Text) : Option Text :=
  if day ≠ ['*'] ∧ weekday ≠ ['*'] then none
  else do
    let minutes ← expand minute 0 59
    let hours ← expand hour 0 23
    let days ← expand day 1 31
    let months ← expand month 1 12
    let weekdays ← expand weekday 0 7
    some (calendarText (sortDedup (weekdays.map (· % 7))) months days hours minutes)

def textCalendar (text : Text) : Option Text :=
  match splitWhitespace text with
  | [minute, hour, day, month, weekday] => fieldsCalendar minute hour day month weekday
  | _ => none

def onCalendar (schedule : Schedule) : Option Text := textCalendar (keywordFields schedule.text)

/-! ## The timer -/

def managedHeader : Text :=
  "# Managed by the operations engine ([wcp-agent]). Do not edit.".toList

def scheduleComment : Text := "# wcp-agent-schedule: ".toList

def serviceName (agent : Text) : Text := "wcp-agent-".toList ++ agent ++ ".service".toList

def timerUnit (agent : Text) (schedule : Schedule) (calendar : Text) : Text :=
  managedHeader ++ ['\n'] ++ scheduleComment ++ schedule.text ++
    "\n[Unit]\nDescription=WCP agent ".toList ++ agent ++
    " schedule\n\n[Timer]\nOnCalendar=".toList ++ calendar ++
    "\nAccuracySec=1s\nPersistent=false\nUnit=".toList ++ serviceName agent ++
    "\n\n[Install]\nWantedBy=timers.target\n".toList

/-- The schedule recorded in a timer. -/
def scheduleFromTimer (text : Text) : Option Schedule :=
  ((lines text).findSome? (stripStart? scheduleComment)).bind Schedule.parse

end OpsEngine.Cron
