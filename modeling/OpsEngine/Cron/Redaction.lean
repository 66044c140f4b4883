import Mathlib.Data.Set.Insert
import OpsEngine.Cron.Jobs

namespace OpsEngine.Cron

open Text

/-! # What a listing tells about a password

A legacy line passes the password of the database between shell quotes.  Whether
the line holds a password is decided on its words, one space between two of them;
the password is taken out of the line as it stands in the crontab.
-/

/-! ## Shell strings -/

/-- How the panel wrote a password between quotes. -/
def shellQuote (password : Text) : Text :=
  password.flatMap fun c => if c = '\'' then ['\'', '\\', '\'', '\''] else [c]

variable {c : Char}

theorem closing_other (other : c ≠ '\'') (rest : Text) :
    closing (c :: rest) = closing rest := by
  rw [closing.eq_def]
  split <;> simp_all

theorem closing_escape (rest : Text) :
    closing ('\'' :: '\\' :: '\'' :: '\'' :: rest) = closing rest := by
  rw [closing]

theorem closing_end {after : Text} (ends : after.head? ≠ some '\\') :
    closing ('\'' :: after) = some ('\'' :: after) := by
  rw [closing.eq_def]
  split
  · contradiction
  · rename_i rest same
    obtain rfl := (List.cons.inj same).2
    simp at ends
  · rename_i same
    obtain ⟨rfl, rfl⟩ := List.cons.inj same
    rfl

theorem closing_shellQuote (password rest : Text) :
    closing (shellQuote password ++ rest) = closing rest := by
  induction password with
  | nil => rfl
  | cons c password ih =>
    by_cases quote : c = '\''
    · subst quote
      have split : shellQuote ('\'' :: password) ++ rest =
          '\'' :: '\\' :: '\'' :: '\'' :: (shellQuote password ++ rest) := by
        simp [shellQuote]
      rw [split, closing_escape, ih]
    · have split : shellQuote (c :: password) ++ rest = c :: (shellQuote password ++ rest) := by
        simp [shellQuote, quote]
      rw [split, closing_other quote, ih]

theorem closing_length {text rest : Text} (closes : closing text = some rest) :
    rest.length ≤ text.length := by
  fun_induction closing text with
  | case1 => contradiction
  | case2 tail ih =>
    have shorter := ih closes
    simp only [List.length_cons]
    omega
  | case3 tail _ =>
    obtain rfl := Option.some.inj closes
    simp
  | case4 c tail _ other ih =>
    have shorter := ih closes
    simp only [List.length_cons]
    omega

/-! ## The loop -/

variable {before : Text}

section Redact

variable {marker : Text}

theorem redactRounds_nil (filled : marker ≠ []) (rounds : Nat) :
    redactRounds marker rounds [] = [] := by
  cases rounds with
  | zero => rfl
  | succ rounds => simp [redactRounds, splitOnce?, filled]

theorem closing_shorter (filled : marker ≠ []) {text tail rest : Text}
    (split : splitOnce? marker text = some (before, tail)) (closes : closing tail = some rest) :
    rest.length < text.length := by
  have whole := congrArg List.length (splitOnce?_some split)
  have shorter := closing_length closes
  have positive := List.length_pos_of_ne_nil filled
  simp only [List.length_append] at whole
  omega

theorem redactRounds_stable (filled : marker ≠ []) {rounds more : Nat} {text : Text}
    (enough : text.length ≤ rounds) (also : text.length ≤ more) :
    redactRounds marker rounds text = redactRounds marker more text := by
  induction rounds generalizing more text with
  | zero =>
    obtain rfl : text = [] := List.length_eq_zero_iff.mp (by omega)
    rw [redactRounds_nil filled, redactRounds_nil filled]
  | succ rounds ih =>
    cases more with
    | zero =>
      obtain rfl : text = [] := List.length_eq_zero_iff.mp (by omega)
      rw [redactRounds_nil filled, redactRounds_nil filled]
    | succ more =>
    simp only [redactRounds]
    cases split : splitOnce? marker text with
    | none => rfl
    | some parts =>
    cases closes : closing parts.2 with
    | none => simp only [closes]
    | some rest =>
    have shorter := closing_shorter filled split closes
    simp only [closes, ih (show rest.length ≤ rounds by omega)
      (show rest.length ≤ more by omega)]

theorem redactQuotedAfter_eq (filled : marker ≠ []) (text : Text) :
    redactQuotedAfter text marker = match splitOnce? marker text with
      | none => text
      | some (before, tail) =>
        before ++ marker ++ redacted ++ match closing tail with
          | some rest => redactQuotedAfter rest marker
          | none => [] := by
  have next : redactQuotedAfter text marker = redactRounds marker (text.length + 1) text :=
    redactRounds_stable filled (Nat.le_refl _) (Nat.le_succ _)
  rw [next, redactRounds]
  cases split : splitOnce? marker text with
  | none => rfl
  | some parts =>
  cases closes : closing parts.2 with
  | none => simp only [closes]
  | some rest =>
  have shorter := closing_shorter filled split closes
  simp only [closes, redactQuotedAfter, redactRounds_stable filled shorter.le (Nat.le_refl _)]

theorem head?_redactQuotedAfter (filled : marker ≠ []) (text : Text) :
    (redactQuotedAfter text marker).head? = text.head? := by
  rw [redactQuotedAfter_eq filled]
  cases split : splitOnce? marker text with
  | none => rfl
  | some parts =>
  obtain ⟨before, tail⟩ := parts
  have whole := splitOnce?_some split
  obtain ⟨c, rest, same⟩ := List.exists_cons_of_ne_nil (show before ++ marker ≠ [] by simp [filled])
  rw [whole]
  simp only [same, List.cons_append, List.head?_cons]

/-- A character no marker starts with stays, and nothing else depends on it. -/
theorem redactQuotedAfter_cons (filled : marker ≠ []) (other : marker.head? ≠ some c)
    (rest : Text) : redactQuotedAfter (c :: rest) marker = c :: redactQuotedAfter rest marker := by
  have starts : marker.isPrefixOf (c :: rest) = false := by
    obtain ⟨first, tail, rfl⟩ := List.exists_cons_of_ne_nil filled
    have differs : first ≠ c := fun same => other (by simp [same])
    rw [List.isPrefixOf, beq_eq_false_iff_ne.mpr differs]
    rfl
  rw [redactQuotedAfter_eq filled, redactQuotedAfter_eq filled, splitOnce?, starts]
  cases splitOnce? marker rest with
  | none => rfl
  | some parts => simp

variable {word : Text}

theorem redactQuotedAfter_across (plain : '\'' ∉ word)
    (absent : Text.contains (word ++ ['\'']) (before ++ ['\'']) = false) (after : Text) :
    redactQuotedAfter (before ++ '\'' :: after) (word ++ ['\'']) =
      before ++ '\'' :: redactQuotedAfter after (word ++ ['\'']) := by
  rw [redactQuotedAfter_eq (by simp), redactQuotedAfter_eq (by simp),
    splitOnce?_across_mark plain absent]
  cases splitOnce? (word ++ ['\'']) after with
  | none => rfl
  | some parts => simp

theorem redactQuotedAfter_string (plain : '\'' ∉ word) {tail rest : Text}
    (absent : Text.contains (word ++ ['\'']) before = false) (closes : closing tail = some rest) :
    redactQuotedAfter (before ++ (word ++ '\'' :: tail)) (word ++ ['\'']) =
      before ++ (word ++ '\'' :: (redacted ++ redactQuotedAfter rest (word ++ ['\'']))) := by
  rw [redactQuotedAfter_eq (by simp), splitOnce?_marked plain absent]
  simp [closes]

theorem redactQuotedAfter_marked (plain : '\'' ∉ word)
    (absent : Text.contains (word ++ ['\'']) before = false) (tail : Text) :
    ∃ rest, redactQuotedAfter (before ++ (word ++ '\'' :: tail)) (word ++ ['\'']) =
      before ++ (word ++ '\'' :: (redacted ++ rest)) := by
  rw [redactQuotedAfter_eq (by simp), splitOnce?_marked plain absent]
  simp only [List.append_assoc, List.singleton_append]
  exact ⟨_, rfl⟩

end Redact

/-! ## Legacy lines -/

/-- White space between two words of a line. -/
structure Spaces where
  text : Text
  filled : text ≠ []
  blank : Blank text
  single : '\n' ∉ text

/-- How a command is given the password. -/
inductive Passing where
  | mariadb (first second : Spaces)
  | postgres

def Passing.text : Passing → Text
  | .mariadb first second =>
    "mariadb-dump".toList ++ first.text ++ "-uroot".toList ++ second.text ++ "-p".toList
  | .postgres => "PGPASSWORD=".toList

theorem Passing.text_mariadb (first second : Spaces) : (Passing.mariadb first second).text =
    "mariadb-dump".toList ++ first.text ++ "-uroot".toList ++ second.text ++ "-p".toList := rfl

def Target.text (target : Target) : Text := target.dbType.text ++ ':' :: target.database.text

/-- One keyword or five fields. -/
def isScheduleWords (words : List Text) : Bool :=
  match words with
  | [] => false
  | first :: others =>
    if first.head? = some '@' then others.isEmpty else decide (others.length = 4)

/-- A job line from before the engine, with a place for the password. -/
structure LegacyLine where
  /-- blanks, and the hashes of a disabled line -/
  indent : Text
  schedule : Text
  gap : Spaces
  /-- the command up to the option that takes the password -/
  command : Text
  passing : Passing
  /-- the command behind the password -/
  tail : Text
  target : Target
  indented : Blank ((trimStart indent).dropWhile fun c => c == '#')
  starts : ∃ c rest, schedule = c :: rest ∧ isWhitespace c = false ∧ c ≠ '#'
  scheduled : isScheduleWords (splitWhitespace schedule) = true
  single : '\n' ∉ indent ++ schedule ++ command ++ tail
  /-- the password is passed at the first marker of the line -/
  unmarked : containsSecret (indent ++ schedule ++ gap.text ++ command) = false
  /-- the quoted string ends the word -/
  ended : ∀ c ∈ tail.head?, isWhitespace c = true
  /-- the line does not run the engine -/
  legacy : enginePrefix.isPrefixOf (squeezeFrom .start (command ++ (passing.text ++ ['\'']))) = false

namespace LegacyLine

variable (line : LegacyLine)

def front : Text := line.indent ++ line.schedule ++ line.gap.text ++ line.command

def after : Text := line.tail ++ (commentMarker ++ line.target.text)

def commandText (password : Text) : Text :=
  line.command ++ (line.passing.text ++ '\'' :: (shellQuote password ++ '\'' :: line.tail))

def withPassword (password : Text) : Text :=
  line.front ++ (line.passing.text ++ '\'' :: (shellQuote password ++ '\'' :: line.after))

/-- The squeezed command up to the password, the password, and what follows. -/
def squeezedFront : Text := squeezeFrom .start (line.command ++ (line.passing.text ++ ['\'']))

def squeezedTail : Text := squeezeFrom .word line.tail

end LegacyLine

def squeezedPassword (password : Text) : Text := squeezeFrom .word (shellQuote password ++ ['\''])

/-! ## Reading a legacy line -/

theorem isWhitespace_quote : isWhitespace '\'' = false := by decide

theorem LegacyLine.squeezed (line : LegacyLine) (password : Text) :
    squeezeFrom .start (line.commandText password) =
      line.squeezedFront ++ (squeezedPassword password ++ line.squeezedTail) := by
  have whole : line.commandText password = (line.command ++ line.passing.text) ++
      '\'' :: (shellQuote password ++ '\'' :: line.tail) := by
    simp [LegacyLine.commandText]
  rw [whole, squeezeFrom_append isWhitespace_quote,
    squeezeFrom_append isWhitespace_quote .word (shellQuote password), LegacyLine.squeezedFront,
    squeezedPassword, LegacyLine.squeezedTail, List.append_assoc]

theorem DatabaseName.solid (database : DatabaseName) : Solid database.text := by
  have valid := database.valid
  simp only [databaseNameIsValid, Bool.and_eq_true, Bool.not_eq_true', List.isEmpty_eq_false_iff,
    List.all_eq_true, Bool.or_eq_true, beq_iff_eq] at valid
  exact ⟨valid.1.1, fun c member => isWhitespace_of_alphanum (valid.2 c member)⟩

theorem DbType.solid (dbType : DbType) : Solid dbType.text := by
  cases dbType
  · exact solid_of_all (by decide) (by decide)
  · exact solid_of_all (by decide) (by decide)

theorem Target.solid (target : Target) : Solid target.text := by
  refine ⟨by simp [Target.text], fun c member => ?_⟩
  rw [Target.text, List.mem_append, List.mem_cons] at member
  rcases member with inside | rfl | inside
  · exact target.dbType.solid.2 c inside
  · decide
  · exact target.database.solid.2 c inside

theorem Target.parse_text (target : Target) :
    Target.parse target.dbType.text target.database.text = some target := by
  obtain ⟨dbType, database⟩ := target
  have parsed : DatabaseName.parse database.text = some database := by
    simp [DatabaseName.parse, database.valid]
  have named : DbType.parse dbType.text = some dbType := by
    cases dbType
    · decide
    · decide
  simp [Target.parse, named, parsed]

theorem Target.split_text (target : Target) :
    splitOnce? [':'] target.text = some (target.dbType.text, target.database.text) := by
  apply splitOnce?_char
  cases target.dbType
  · decide
  · decide

theorem Target.not_mem_text (target : Target) : '#' ∉ target.text := by
  rw [Target.text, List.mem_append, List.mem_cons, not_or, not_or]
  refine ⟨?_, by decide, ?_⟩
  · cases target.dbType
    · decide
    · decide
  · intro member
    have valid := target.database.valid
    simp only [databaseNameIsValid, Bool.and_eq_true] at valid
    exact absurd (List.all_eq_true.mp valid.2 '#' member) (by decide)

theorem rsplitOnce?_comment (target : Target) (text : Text) :
    rsplitOnce? commentMarker (text ++ (commentMarker ++ target.text)) =
      some (text, target.text) := by
  apply rsplitOnce?_last (by decide)
  rw [Bool.eq_false_iff, ne_eq, contains_iff]
  rintro ⟨front, back, whole⟩
  have hash : '#' ∉ "[db-backup] ".toList ++ target.text := by
    rw [List.mem_append, not_or]
    exact ⟨by decide, target.not_mem_text⟩
  have tail : (commentMarker ++ target.text).tail =
      '#' :: ' ' :: ("[db-backup] ".toList ++ target.text) := rfl
  have marker : commentMarker = ' ' :: '#' :: ' ' :: "[db-backup] ".toList := rfl
  rw [tail, marker] at whole
  cases front with
  | nil => simp at whole
  | cons c front =>
  rw [List.cons_append, List.cons_append, List.cons.injEq] at whole
  have member : '#' ∈ ' ' :: ("[db-backup] ".toList ++ target.text) := by
    rw [← whole.2]
    simp
  rcases List.mem_cons.mp member with space | inside
  · exact absurd space (by decide)
  · exact hash inside

namespace LegacyLine

variable (line : LegacyLine) (password : Text)

def body : Text :=
  line.schedule ++ (line.gap.text ++ (line.commandText password ++
    (commentMarker ++ line.target.text)))

theorem withPassword_eq : line.withPassword password = line.indent ++ line.body password := by
  simp [withPassword, body, front, after, commandText]

theorem body_ends : ∃ rest last, line.body password = rest ++ [last] ∧
    isWhitespace last = false := by
  obtain ⟨text, last, same, solid⟩ := solid_ends line.target.solid
  exact ⟨line.schedule ++ (line.gap.text ++ (line.commandText password ++
    (commentMarker ++ text))), last, by simp [body, same], solid⟩

theorem trim_append_body (front : Text) :
    trim (front ++ line.body password) = trimStart front ++ line.body password := by
  obtain ⟨c, rest, schedule, solid, -⟩ := line.starts
  obtain ⟨before, last, ends, trailing⟩ := line.body_ends password
  have start : trimStart (front ++ line.body password) = trimStart front ++ line.body password := by
    rw [body, schedule, List.cons_append, trimStart, dropWhile_append_cons solid, trimStart]
  rw [trim, start, ends, ← List.append_assoc, trimEnd_solid trailing]

theorem trim_withPassword :
    trim (line.withPassword password) = trimStart line.indent ++ line.body password := by
  rw [withPassword_eq, trim_append_body]

theorem lineContent_withPassword : lineContent (line.withPassword password) = line.body password := by
  obtain ⟨c, rest, schedule, -, unhashed⟩ := line.starts
  have kept : (fun c : Char => c == '#') c = false := by simpa using unhashed
  have dropped : (trimStart line.indent ++ line.body password).dropWhile (fun c => c == '#') =
      (trimStart line.indent).dropWhile (fun c => c == '#') ++ line.body password := by
    rw [body, schedule, List.cons_append]
    exact @dropWhile_append_cons Char (fun c => c == '#') c kept _ _
  rw [lineContent, trim_withPassword, dropped, trim_append_body, trimStart,
    List.dropWhile_eq_nil_iff.mpr line.indented, List.nil_append]

theorem splitFields_withPassword :
    splitFields (splitWhitespace (trim (line.schedule ++ (line.gap.text ++
      line.commandText password)))) =
      some (splitWhitespace line.schedule, splitWhitespace (line.commandText password)) := by
  obtain ⟨c, gap, filled⟩ := List.exists_cons_of_ne_nil line.gap.filled
  have blank := line.gap.blank
  rw [filled] at blank
  have rest : Blank gap := fun d member => blank d (List.mem_cons_of_mem _ member)
  have words : splitWhitespace (line.schedule ++ c :: (gap ++ line.commandText password)) =
      splitWhitespace line.schedule ++ splitWhitespace (gap ++ line.commandText password) :=
    splitWhitespace_append (blank c (by simp)) _
  rw [splitWhitespace_blank_append rest] at words
  rw [splitWhitespace_trim, filled, List.cons_append, words]
  have scheduled := line.scheduled
  cases fields : splitWhitespace line.schedule with
  | nil => simp [fields, isScheduleWords] at scheduled
  | cons first others =>
  rw [fields] at scheduled
  simp only [isScheduleWords] at scheduled
  rw [List.cons_append, splitFields]
  split at scheduled
  · rename_i keyword
    rw [if_pos keyword, List.isEmpty_iff.mp scheduled]
    rfl
  rename_i plain
  have length : others.length = 4 := by simpa using scheduled
  have enough : ¬ (others ++ splitWhitespace (line.commandText password)).length < 4 := by
    simp [length]
  rw [if_neg plain, if_neg enough, List.take_left' length, List.drop_left' length]

def enabled : Bool := decide ((trimStart line.indent ++ line.schedule).head? ≠ some '#')

theorem enabled_eq :
    decide ((trim (line.withPassword password)).head? ≠ some '#') = line.enabled := by
  obtain ⟨c, rest, schedule, -, -⟩ := line.starts
  rw [trim_withPassword, enabled, body, schedule]
  cases trimStart line.indent <;> simp

theorem commandText_ne_nil : splitWhitespace (line.commandText password) ≠ [] := by
  intro nothing
  have squeezed := joinWords_splitWhitespace (line.commandText password)
  have whole : line.commandText password = (line.command ++ line.passing.text) ++
      '\'' :: (shellQuote password ++ '\'' :: line.tail) := by
    simp [commandText]
  obtain ⟨front, ends⟩ := squeezeFrom_concat isWhitespace_quote .start
    (line.command ++ line.passing.text)
  rw [nothing, whole, squeezeFrom_append isWhitespace_quote, ends] at squeezed
  simp [joinWords, List.intercalate] at squeezed

theorem parseLine_withPassword : parseLine (line.withPassword password) =
    some (finish (line.withPassword password) line.enabled
      (joinWords (splitWhitespace line.schedule))
      (line.squeezedFront ++ (squeezedPassword password ++ line.squeezedTail)) line.target) := by
  have content : lineContent (line.withPassword password) =
      (line.schedule ++ (line.gap.text ++ line.commandText password)) ++
        (commentMarker ++ line.target.text) := by
    rw [lineContent_withPassword, body]
    simp
  have filled : (splitWhitespace (line.commandText password)).isEmpty = false := by
    simpa using line.commandText_ne_nil password
  rw [← line.squeezed password, ← joinWords_splitWhitespace]
  simp only [parseLine, content, rsplitOnce?_comment, trim_solid line.target.solid,
    Target.split_text, trim_solid line.target.dbType.solid, trim_solid line.target.database.solid,
    Target.parse_text, splitFields_withPassword, filled, Option.bind_eq_bind, Option.bind_some,
    Bool.false_eq_true, if_false, ne_eq]
  rw [← line.enabled_eq password]

/-! ## The job that is listed -/

theorem squeezedFront_concat : ∃ front, line.squeezedFront = front ++ ['\''] := by
  have ends := squeezeFrom_concat isWhitespace_quote .start (line.command ++ line.passing.text)
  rwa [List.append_assoc] at ends

theorem isPrefixOf_squeezed (rest : Text) :
    enginePrefix.isPrefixOf (line.squeezedFront ++ rest) = false := by
  obtain ⟨front, ends⟩ := line.squeezedFront_concat
  have legacy := line.legacy
  rw [← squeezedFront, Bool.eq_false_iff, ne_eq, List.isPrefixOf_iff_prefix, ends] at legacy
  rw [Bool.eq_false_iff, ne_eq, List.isPrefixOf_iff_prefix, ends]
  intro starts
  have whole : enginePrefix <+: front ++ '\'' :: rest := by simpa using starts
  have inside := prefix_of_not_mem (by decide) whole
  exact legacy (inside.trans (List.prefix_append front _))

theorem squeezed_suffix (solid : isWhitespace c = false) (front rest : Text) :
    c :: squeezeFrom .word rest <:+ squeezeFrom .start (front ++ c :: rest) := by
  obtain ⟨before, ends⟩ := squeezeFrom_concat solid .start front
  rw [squeezeFrom_append solid, ends, List.append_assoc, List.singleton_append]
  exact List.suffix_append before _

theorem squeezedFront_marker :
    mariadbMarker <:+ line.squeezedFront ∨ postgresMarker <:+ line.squeezedFront := by
  rw [squeezedFront]
  cases line.passing with
  | mariadb first second =>
    left
    have dump : "mariadb-dump".toList = 'm' :: "ariadb-dump".toList := by decide
    have user : "-uroot".toList = '-' :: "uroot".toList := by decide
    have option : "-p".toList ++ ['\''] = '-' :: "p'".toList := by decide
    have dumps : Solid "ariadb-dump".toList := solid_of_all (by decide) (by decide)
    have roots : Solid "uroot".toList := solid_of_all (by decide) (by decide)
    have marker : mariadbMarker = 'm' :: ("ariadb-dump".toList ++ ' ' :: '-' ::
        ("uroot".toList ++ ' ' :: '-' :: squeezeFrom .word "p'".toList)) := by decide
    have squeezed := squeezed_suffix (show isWhitespace 'm' = false by decide) line.command
      ("ariadb-dump".toList ++ (first.text ++ '-' ::
        ("uroot".toList ++ (second.text ++ '-' :: "p'".toList))))
    rw [squeezeFrom_word dumps.2, squeezeFrom_spaces first.blank first.filled (by decide),
      squeezeFrom_word roots.2, squeezeFrom_spaces second.blank second.filled (by decide),
      ← marker] at squeezed
    simpa only [Passing.text_mariadb, List.append_assoc, option, dump, user, List.cons_append]
      using squeezed
  | postgres =>
    right
    have name : Passing.postgres.text ++ ['\''] = 'P' :: "GPASSWORD='".toList := by decide
    have marker : postgresMarker = 'P' :: squeezeFrom .word "GPASSWORD='".toList := by decide
    rw [name, marker]
    exact squeezed_suffix (by decide) line.command _

theorem containsSecret_squeezed (rest : Text) :
    containsSecret (line.squeezedFront ++ rest) = true := by
  rw [containsSecret, Bool.or_eq_true, contains_iff, contains_iff]
  rcases line.squeezedFront_marker with ends | ends
  · exact .inl (ends.isInfix.trans (List.prefix_append _ _).isInfix)
  · exact .inr (ends.isInfix.trans (List.prefix_append _ _).isInfix)

def job : ScheduledJob where
  line := redactLegacy (line.withPassword password)
  schedule := joinWords (splitWhitespace line.schedule)
  dbType := line.target.dbType.text
  database := line.target.database.text
  retentionDays := numberAfter
    (line.squeezedFront ++ (squeezedPassword password ++ line.squeezedTail))
    (retentionMarker .legacy)
  enabled := line.enabled
  format := .legacy
  secretInCrontab := true

theorem parseLine_job :
    parseLine (line.withPassword password) = some ⟨line.job password, line.target⟩ := by
  rw [parseLine_withPassword, finish]
  simp only [isPrefixOf_squeezed, containsSecret_squeezed, Bool.false_eq_true, if_false,
    decide_true, Bool.and_self, if_true]
  rfl

end LegacyLine

/-! ## Retention -/

/-- The number is read on the side of a quote the marker is first found on. -/
theorem numberAfter_across {marker : Text} (plain : '\'' ∉ marker) (filled : marker ≠ [])
    (after : Text) : numberAfter (before ++ '\'' :: after) marker =
      if Text.contains marker before then numberAfter before marker
      else numberAfter after marker := by
  by_cases found : Text.contains marker before = true
  · rw [if_pos found]
    cases split : splitOnce? marker before with
    | none =>
      rw [splitOnce?_none, found] at split
      contradiction
    | some parts =>
    obtain ⟨front, back⟩ := parts
    have digits : (back ++ '\'' :: after).takeWhile (fun c => c.isDigit) =
        back.takeWhile fun c => c.isDigit := by
      rw [List.takeWhile_append]
      split
      · rename_i whole
        have all := (List.takeWhile_prefix fun c : Char => c.isDigit).eq_of_length whole
        simpa using all.symm
      · rfl
    simp only [numberAfter, splitOnce?_append split _ filled, split, digits]
  · have none : Text.contains marker before = false := by simpa using found
    rw [if_neg found, numberAfter, splitOnce?_behind plain none]
    unfold numberAfter
    cases splitOnce? marker after <;> rfl

theorem numberAfter_string {marker : Text} (plain : '\'' ∉ marker) (filled : marker ≠ [])
    (inner tail : Text) : numberAfter (before ++ ['\''] ++ (inner ++ ['\''] ++ tail)) marker =
      if Text.contains marker before then numberAfter before marker
      else if Text.contains marker inner then numberAfter inner marker
      else numberAfter tail marker := by
  rw [← numberAfter_across plain filled tail, ← numberAfter_across plain filled]
  simp

theorem contains_across {marker : Text} (plain : '\'' ∉ marker) (filled : marker ≠ []) :
    Text.contains marker (before ++ ['\'']) = Text.contains marker before := by
  rw [Bool.eq_iff_iff, contains_iff, contains_iff, List.infix_concat_iff, List.suffix_concat_iff]
  refine or_iff_right ?_
  rintro (nothing | ⟨inner, rfl, -⟩)
  · exact filled nothing
  · exact plain (by simp)

/-- The listed retention does not tell about the password: it is read before it,
it is not read in it, or it is the same number. -/
def RetentionHidden (line : LegacyLine) (password : Text) : Prop :=
  Text.contains (retentionMarker .legacy) line.squeezedFront = true ∨
    Text.contains (retentionMarker .legacy) (squeezedPassword password) = false ∨
    numberAfter (squeezedPassword password) (retentionMarker .legacy) =
      numberAfter line.squeezedTail (retentionMarker .legacy)

theorem retentionDays_eq_iff (line : LegacyLine) (password : Text) :
    (line.job password).retentionDays = (line.job []).retentionDays ↔
      RetentionHidden line password := by
  have plain : '\'' ∉ retentionMarker .legacy := by decide
  have filled : retentionMarker .legacy ≠ [] := by decide
  obtain ⟨front, ends⟩ := line.squeezedFront_concat
  obtain ⟨secret, closes⟩ := squeezeFrom_concat isWhitespace_quote .word (shellQuote password)
  have nothing : squeezedPassword [] = [] ++ ['\''] := by decide
  have empty : Text.contains (retentionMarker .legacy) [] = false := by decide
  have inside : numberAfter (secret ++ ['\'']) (retentionMarker .legacy) =
      if Text.contains (retentionMarker .legacy) secret then
        numberAfter secret (retentionMarker .legacy)
      else numberAfter [] (retentionMarker .legacy) := numberAfter_across plain filled []
  unfold RetentionHidden
  simp only [LegacyLine.job, ends, nothing]
  rw [squeezedPassword, closes, numberAfter_string plain filled, numberAfter_string plain filled,
    contains_across plain filled, contains_across plain filled, empty, inside]
  by_cases before : Text.contains (retentionMarker .legacy) front = true
  · simp [before]
  · by_cases within : Text.contains (retentionMarker .legacy) secret = true
    · simp [before, within]
    · simp [before, within]

/-! ## The line -/

def mariadbWord : Text := "mariadb-dump -uroot -p".toList

def postgresWord : Text := "PGPASSWORD=".toList

theorem mariadbMarker_eq : mariadbMarker = mariadbWord ++ ['\''] := by decide

theorem Passing.text_postgresWord : Passing.postgres.text = postgresWord := rfl

theorem postgresMarker_eq : postgresMarker = postgresWord ++ ['\''] := by decide

theorem mariadbWord_plain : '\'' ∉ mariadbWord := by decide

theorem postgresWord_plain : '\'' ∉ postgresWord := by decide

variable {word : Text}

/-- Quoting hides no marker and makes none: a marker has its only quote at its end. -/
theorem contains_shellQuote (plain : '\'' ∉ word) (filled : word ≠ [])
    (ends : word.getLast? ≠ some '\\') (password rest before : Text) (unquoted : '\'' ∉ before) :
    Text.contains (word ++ ['\'']) (before ++ (shellQuote password ++ rest)) =
      Text.contains (word ++ ['\'']) (before ++ (password ++ rest)) := by
  induction password generalizing before with
  | nil => rfl
  | cons c password ih =>
    by_cases quote : c = '\''
    · subst quote
      have left : before ++ (shellQuote ('\'' :: password) ++ rest) =
          before ++ '\'' :: (['\\'] ++ '\'' :: ([] ++ '\'' :: (shellQuote password ++ rest))) := by
        simp [shellQuote]
      have none : Text.contains (word ++ ['\'']) ([] ++ ['\'']) = false := by
        rw [Bool.eq_false_iff, ne_eq, contains_marked]
        simp [Text.contains, filled]
      have slash : Text.contains (word ++ ['\'']) (['\\'] ++ ['\'']) = false := by
        rw [Bool.eq_false_iff, ne_eq, contains_marked]
        rintro (inside | suffix)
        · have free := @contains_unmarked word '\'' [] ['\\'] (by decide)
          rw [List.nil_append, inside] at free
          simp [Text.contains] at free
        obtain ⟨body, last, same⟩ := (List.eq_nil_or_concat word).resolve_left filled
        obtain ⟨front, whole⟩ := suffix
        have equal := congrArg List.getLast? whole
        simp only [same, List.concat_eq_append, ← List.append_assoc, List.getLast?_concat,
          List.getLast?_singleton, Option.some.injEq] at equal
        exact ends (by simp [same, equal])
      have later := ih [] (by simp)
      simp only [List.nil_append] at later
      rw [left, contains_across_mark plain before, contains_across_mark plain ['\\'],
        contains_across_mark plain [], none, slash, later, List.cons_append,
        contains_across_mark plain before (password ++ rest)]
      rfl
    · have longer := ih (before ++ [c]) (by simp [unquoted, Ne.symm quote])
      have left : before ++ (shellQuote (c :: password) ++ rest) =
          (before ++ [c]) ++ (shellQuote password ++ rest) := by
        simp [shellQuote, quote]
      rw [left, longer]
      simp

theorem shellQuote_append (first second : Text) :
    shellQuote (first ++ second) = shellQuote first ++ shellQuote second := by
  simp [shellQuote]

theorem shellQuote_plain {text : Text} (plain : '\'' ∉ text) : shellQuote text = text := by
  induction text with
  | nil => rfl
  | cons c text ih =>
    have other : c ≠ '\'' := fun same => plain (by simp [same])
    have later : '\'' ∉ text := fun member => plain (by simp [member])
    have split : shellQuote (c :: text) = c :: shellQuote text := by simp [shellQuote, other]
    rw [split, ih later]

namespace LegacyLine

variable (line : LegacyLine)

theorem front_mariadb : Text.contains (mariadbWord ++ ['\'']) line.front = false := by
  have unmarked := line.unmarked
  rw [containsSecret, Bool.or_eq_false_iff, mariadbMarker_eq] at unmarked
  exact unmarked.1

theorem front_postgres : Text.contains (postgresWord ++ ['\'']) line.front = false := by
  have unmarked := line.unmarked
  rw [containsSecret, Bool.or_eq_false_iff, postgresMarker_eq] at unmarked
  exact unmarked.2

theorem after_starts : ∃ c rest, line.after = c :: rest ∧ isWhitespace c = true := by
  have ended := line.ended
  cases tail : line.tail with
  | nil =>
    exact ⟨' ', "# [db-backup] ".toList ++ line.target.text, by rw [after, tail]; rfl, by decide⟩
  | cons c rest =>
    rw [tail] at ended
    exact ⟨c, rest ++ (commentMarker ++ line.target.text), by rw [after, tail]; rfl,
      ended c rfl⟩

theorem closing_password {after : Text} (ends : after.head? ≠ some '\\') (password : Text) :
    closing (shellQuote password ++ '\'' :: after) = some ('\'' :: after) := by
  rw [closing_shellQuote, closing_end ends]

theorem after_head (solid : isWhitespace c = false) : line.after.head? ≠ some c := by
  obtain ⟨blank, rest, same, white⟩ := line.after_starts
  rw [same]
  intro equal
  obtain rfl : blank = c := by simpa using equal
  rw [solid] at white
  contradiction

end LegacyLine

/-- The listed line does not show the password. -/
def LineHidden (line : LegacyLine) (password : Text) : Prop :=
  match line.passing with
  | .mariadb first second => (first.text = [' '] ∧ second.text = [' ']) ∨ password = []
  | .postgres => Text.contains mariadbMarker (password ++ ['\'']) = false

theorem redactLegacy_eq (text : Text) : redactLegacy text =
    redactQuotedAfter (redactQuotedAfter text (mariadbWord ++ ['\'']))
      (postgresWord ++ ['\'']) := by
  rw [redactLegacy, mariadbMarker_eq, postgresMarker_eq]

theorem suffix_getLast? {ending text : Text} (filled : ending ≠ []) (suffix : ending <:+ text) :
    text.getLast? = ending.getLast? := by
  obtain ⟨front, rfl⟩ := suffix
  exact List.getLast?_append_of_ne_nil _ filled

theorem Spaces.unquoted (spaces : Spaces) : '\'' ∉ spaces.text := by
  intro member
  have blank := spaces.blank '\'' member
  revert blank
  decide

theorem suffix_spaces {text : Text} (last : Char) (ends : word.getLast? = some last)
    (solid : isWhitespace last = false) (spaces : Spaces)
    (suffix : word ++ [' '] <:+ text ++ spaces.text) : spaces.text = [' '] ∧ word <:+ text := by
  obtain ⟨front, whole⟩ := suffix
  obtain ⟨inner, c, same⟩ := (List.eq_nil_or_concat spaces.text).resolve_left spaces.filled
  rw [List.concat_eq_append] at same
  rw [same, ← List.append_assoc, ← List.append_assoc] at whole
  obtain ⟨fronts, single⟩ := List.append_inj' whole rfl
  obtain rfl : ' ' = c := by simpa using single
  have empty : inner = [] := by
    by_contra filled
    have lasts := congrArg List.getLast? fronts
    have long : word ≠ [] := by
      intro nothing
      simp [nothing] at ends
    rw [List.getLast?_append_of_ne_nil _ long, List.getLast?_append_of_ne_nil _ filled, ends]
      at lasts
    have member : last ∈ spaces.text := by
      rw [same]
      exact List.mem_append_left _ (List.mem_of_getLast? lasts.symm)
    have blank := spaces.blank last member
    rw [solid] at blank
    contradiction
  subst empty
  exact ⟨same, front, by simpa using fronts⟩

variable {password : Text}

theorem shellQuote_marked {tail : Text} (plain : '\'' ∉ word)
    (whole : password ++ ['\''] = before ++ (word ++ ['\'']) ++ tail) (after : Text) :
    ∃ later, shellQuote password ++ '\'' :: after =
      shellQuote before ++ (word ++ '\'' :: later) := by
  rcases List.eq_nil_or_concat tail with rfl | ⟨inner, c, rfl⟩
  · have sides : password ++ ['\''] = (before ++ word) ++ ['\''] := by simpa using whole
    obtain rfl := List.append_cancel_right sides
    exact ⟨after, by rw [shellQuote_append, shellQuote_plain plain, List.append_assoc]⟩
  have sides : password ++ ['\''] = (before ++ (word ++ '\'' :: inner)) ++ [c] := by
    simpa using whole
  obtain ⟨rfl, -⟩ := List.append_inj' sides rfl
  have string : shellQuote ('\'' :: inner) = '\'' :: "\\''".toList ++ shellQuote inner := by
    simp [shellQuote]
  exact ⟨"\\''".toList ++ shellQuote inner ++ '\'' :: after, by
    rw [shellQuote_append, shellQuote_append, shellQuote_plain plain, string]; simp⟩

theorem redactLegacy_cons (mariadb : c ≠ 'm') (postgres : c ≠ 'P') (rest : Text) :
    redactLegacy (c :: rest) = c :: redactLegacy rest := by
  have first : (mariadbWord ++ ['\'']).head? = some 'm' := by decide
  have second : (postgresWord ++ ['\'']).head? = some 'P' := by decide
  rw [redactLegacy_eq, redactQuotedAfter_cons (by simp) (by simpa [first] using Ne.symm mariadb),
    redactQuotedAfter_cons (by simp) (by simpa [second] using Ne.symm postgres), redactLegacy_eq]

theorem head?_redactLegacy (text : Text) : (redactLegacy text).head? = text.head? := by
  rw [redactLegacy_eq, head?_redactQuotedAfter (by simp), head?_redactQuotedAfter (by simp)]

theorem redactLegacy_across
    (mariadb : Text.contains (mariadbWord ++ ['\'']) (before ++ ['\'']) = false)
    (postgres : Text.contains (postgresWord ++ ['\'']) (before ++ ['\'']) = false) (after : Text) :
    redactLegacy (before ++ '\'' :: after) = before ++ '\'' :: redactLegacy after := by
  rw [redactLegacy_eq, redactQuotedAfter_across mariadbWord_plain mariadb,
    redactQuotedAfter_across postgresWord_plain postgres, redactLegacy_eq]

/-- A password that stays in the line shows: its first character stands where the closing
quote of the empty password does, or escapes a quote there. -/
theorem redactLegacy_shows {after : Text} (filled : password ≠ [])
    (ends : after.head? ≠ some '\\') :
    redactLegacy (shellQuote password ++ '\'' :: after) ≠ redactLegacy ('\'' :: after) := by
  obtain ⟨c, rest, rfl⟩ := List.exists_cons_of_ne_nil filled
  intro same
  by_cases quote : c = '\''
  · subst quote
    have escaped : shellQuote ('\'' :: rest) ++ '\'' :: after =
        '\'' :: '\\' :: ('\'' :: '\'' :: (shellQuote rest ++ '\'' :: after)) := by
      simp [shellQuote]
    rw [escaped, redactLegacy_cons (by decide) (by decide),
      redactLegacy_cons (by decide) (by decide) after] at same
    have next := congrArg List.head? (List.cons.inj same).2
    rw [head?_redactLegacy, head?_redactLegacy] at next
    exact ends next.symm
  · have heads := congrArg List.head? same
    rw [head?_redactLegacy, head?_redactLegacy] at heads
    have first : (shellQuote (c :: rest) ++ '\'' :: after).head? = some c := by
      simp [shellQuote, quote]
    rw [first] at heads
    exact quote (by simpa using heads)

namespace LegacyLine

variable (line : LegacyLine)

theorem job_line (password : Text) : (line.job password).line = redactLegacy
    (line.front ++ (line.passing.text ++ '\'' :: (shellQuote password ++ '\'' :: line.after))) :=
  rfl

theorem line_mariadb (spelled : line.passing.text = mariadbWord) (password : Text) :
    (line.job password).line = (line.job []).line := by
  have written : ∀ secret : Text, (line.job secret).line = redactQuotedAfter
      (line.front ++ (mariadbWord ++ '\'' :: (redacted ++
        redactQuotedAfter ('\'' :: line.after) (mariadbWord ++ ['\'']))))
      (postgresWord ++ ['\'']) := by
    intro secret
    rw [job_line, spelled, redactLegacy_eq, redactQuotedAfter_string mariadbWord_plain
      line.front_mariadb (closing_password (line.after_head (by decide)) secret)]
  rw [written, written]

theorem line_unmarked
    (mariadb : Text.contains (mariadbWord ++ ['\'']) (line.front ++ line.passing.text ++ ['\'']) =
      false) (postgres : Text.contains (postgresWord ++ ['\''])
      (line.front ++ line.passing.text ++ ['\'']) = false) {password : Text} (filled : password ≠
    []) :
    (line.job password).line ≠ (line.job []).line := by
  have written : ∀ secret : Text, (line.job secret).line = line.front ++ line.passing.text ++
      '\'' :: redactLegacy (shellQuote secret ++ '\'' :: line.after) := by
    intro secret
    rw [job_line, ← List.append_assoc, redactLegacy_across mariadb postgres]
  rw [written, written]
  intro same
  have later := (List.cons.inj (List.append_cancel_left same)).2
  exact redactLegacy_shows filled (line.after_head (by decide)) later

theorem mariadb_unmarked {first second : Spaces} (passing : line.passing = .mariadb first second)
    (other : ¬(first.text = [' '] ∧ second.text = [' '])) :
    Text.contains (mariadbWord ++ ['\'']) (line.front ++ line.passing.text ++ ['\'']) = false ∧
      Text.contains (postgresWord ++ ['\'']) (line.front ++ line.passing.text ++ ['\'']) = false := by
  have text : line.passing.text = _ := (congrArg Passing.text passing).trans
    (Passing.text_mariadb first second)
  have plain : '\'' ∉ line.passing.text := by
    rw [text]
    simp only [List.mem_append, not_or]
    exact ⟨⟨⟨⟨by decide, first.unquoted⟩, by decide⟩, second.unquoted⟩, by decide⟩
  constructor
  · rw [Bool.eq_false_iff, ne_eq, contains_marked]
    rintro (inside | suffix)
    · rw [contains_unmarked _ plain, line.front_mariadb] at inside
      contradiction
    have spelled : mariadbWord = "mariadb-dump".toList ++ [' '] ++ "-uroot".toList ++ [' '] ++
        "-p".toList := by decide
    have written : line.front ++ line.passing.text = line.front ++ "mariadb-dump".toList ++
        first.text ++ "-uroot".toList ++ second.text ++ "-p".toList := by
      simp only [text, List.append_assoc]
    rw [spelled, written] at suffix
    have outer := suffix_spaces 't' (by decide) (by decide) second (List.suffix_append_self_iff.mp suffix)
    have inner := suffix_spaces 'p' (by decide) (by decide) first (List.suffix_append_self_iff.mp outer.2)
    exact other ⟨inner.1, outer.1⟩
  · rw [Bool.eq_false_iff, ne_eq, contains_marked]
    rintro (inside | suffix)
    · rw [contains_unmarked _ plain, line.front_postgres] at inside
      contradiction
    · have last := suffix_getLast? (by decide) suffix
      rw [text, ← List.append_assoc, List.getLast?_append_of_ne_nil _ (by decide)] at last
      revert last
      decide

theorem postgres_front :
    Text.contains (mariadbWord ++ ['\'']) (line.front ++ postgresWord ++ ['\'']) = false := by
  rw [Bool.eq_false_iff, ne_eq, contains_marked]
  rintro (inside | suffix)
  · rw [contains_unmarked _ postgresWord_plain, line.front_mariadb] at inside
    contradiction
  · have last := suffix_getLast? (by decide) suffix
    rw [List.getLast?_append_of_ne_nil _ (by decide)] at last
    revert last
    decide

theorem line_postgres (spelled : line.passing.text = postgresWord)
    (absent : Text.contains (mariadbWord ++ ['\'']) (password ++ ['\'']) = false) :
    (line.job password).line = line.front ++ (postgresWord ++ '\'' :: (redacted ++
      redactLegacy ('\'' :: line.after))) := by
  have quoted := contains_shellQuote mariadbWord_plain (by decide) (by decide) password ['\''] []
    (by simp)
  rw [List.nil_append, List.nil_append, absent] at quoted
  have kept : (redactQuotedAfter line.after (mariadbWord ++ ['\''])).head? ≠ some '\\' := by
    rw [head?_redactQuotedAfter (by simp)]
    exact line.after_head (by decide)
  have head : (mariadbWord ++ ['\'']).head? ≠ some '\'' := by decide
  rw [job_line, spelled, redactLegacy_eq, ← List.append_assoc,
    redactQuotedAfter_across mariadbWord_plain line.postgres_front,
    redactQuotedAfter_across mariadbWord_plain quoted, List.append_assoc,
    redactQuotedAfter_string postgresWord_plain line.front_postgres (closing_password kept password),
    redactLegacy_eq, redactQuotedAfter_cons (by simp) head]

/-- A password of `pg_dump` with that marker is cut at it, and what follows the cut shows. -/
theorem line_postgres_cut (spelled : line.passing.text = postgresWord)
    (found : Text.contains (mariadbWord ++ ['\'']) (password ++ ['\'']) = true) :
    ∃ rest, (line.job password).line = line.front ++ (postgresWord ++ '\'' :: (redacted ++
      '\'' :: redactQuotedAfter (redacted ++ rest) (postgresWord ++ ['\'']))) := by
  cases split : splitOnce? (mariadbWord ++ ['\'']) (password ++ ['\'']) with
  | none =>
    rw [splitOnce?_none, found] at split
    contradiction
  | some parts =>
  obtain ⟨before, tail⟩ := parts
  have absent := contains_before_splitOnce? (by simp) split
  obtain ⟨later, quoted⟩ := shellQuote_marked mariadbWord_plain (splitOnce?_some split) line.after
  have inner := contains_shellQuote mariadbWord_plain (by decide) (by decide) before [] []
    (by simp)
  rw [List.append_nil, List.append_nil, List.nil_append, List.nil_append, absent] at inner
  have front : Text.contains (mariadbWord ++ ['\''])
      (line.front ++ postgresWord ++ '\'' :: shellQuote before) = false := by
    rw [contains_across_mark mariadbWord_plain, line.postgres_front, inner]
    rfl
  obtain ⟨rest, cut⟩ := redactQuotedAfter_marked mariadbWord_plain front later
  have string : shellQuote before ++ (mariadbWord ++ '\'' :: (redacted ++ rest)) =
      shellQuote (before ++ mariadbWord) ++ '\'' :: (redacted ++ rest) := by
    rw [shellQuote_append, shellQuote_plain mariadbWord_plain, List.append_assoc]
  have notice : (redacted ++ rest).head? ≠ some '\\' := by
    have first : redacted = '[' :: "redacted]".toList := by decide
    simp [first]
  have closes := closing_password notice (before ++ mariadbWord)
  have head : (postgresWord ++ ['\'']).head? ≠ some '\'' := by decide
  refine ⟨rest, ?_⟩
  rw [job_line, spelled, redactLegacy_eq, quoted, ← List.append_assoc, ← List.cons_append,
    ← List.append_assoc, cut, List.append_assoc, List.cons_append, List.append_assoc, string,
    redactQuotedAfter_string postgresWord_plain line.front_postgres closes,
    redactQuotedAfter_cons (by simp) head]

theorem line_eq_iff (password : Text) :
    (line.job password).line = (line.job []).line ↔ LineHidden line password := by
  unfold LineHidden
  cases passing : line.passing with
  | mariadb first second =>
    have text : line.passing.text = _ := (congrArg Passing.text passing).trans
      (Passing.text_mariadb first second)
    by_cases spelled : first.text = [' '] ∧ second.text = [' ']
    · have word : line.passing.text = mariadbWord := by
        rw [text, spelled.1, spelled.2]
        decide
      simp [spelled, line.line_mariadb word password]
    · have marks := line.mariadb_unmarked passing spelled
      have shown := @line_unmarked line marks.1 marks.2 password
      by_cases filled : password = []
      · simp [filled]
      · simp [spelled, filled, shown]
  | postgres =>
    have text := (congrArg Passing.text passing).trans Passing.text_postgresWord
    have plain : Text.contains (mariadbWord ++ ['\'']) ([] ++ ['\'']) = false := by decide
    have empty := line.line_postgres text plain
    simp only [mariadbMarker_eq]
    by_cases found : Text.contains (mariadbWord ++ ['\'']) (password ++ ['\'']) = true
    · simp only [found, Bool.true_eq_false, iff_false]
      obtain ⟨rest, cut⟩ := line.line_postgres_cut text found
      rw [cut, empty, redactLegacy_cons (by decide) (by decide)]
      intro same
      have later : redactQuotedAfter (redacted ++ rest) (postgresWord ++ ['\'']) =
          redactLegacy line.after := by simpa using same
      have heads := congrArg List.head? later
      rw [head?_redactQuotedAfter (by simp), head?_redactLegacy] at heads
      have notice : redacted = '[' :: "redacted]".toList := by decide
      exact line.after_head (by decide) heads.symm
    · have absent : Text.contains (mariadbWord ++ ['\'']) (password ++ ['\'']) = false := by
        simpa using found
      exact iff_of_true ((line.line_postgres text absent).trans empty.symm) absent

end LegacyLine

/-! ## The crontab -/

/-- A password a crontab can hold. -/
structure Password where
  text : Text
  single : '\n' ∉ text

def Password.empty : Password := ⟨[], by simp⟩

/-- A line that is the same for every password, or passes it. -/
inductive TabLine where
  | other (text : Text) (single : '\n' ∉ text)
  | job (line : LegacyLine)

def TabLine.withPassword (password : Password) : TabLine → Text
  | .other text _ => text
  | .job line => line.withPassword password.text

/-- A crontab with a place for the password in its legacy lines. -/
structure LegacyTab where
  lines : List TabLine
  last : Option TabLine

def LegacyTab.withPassword (tab : LegacyTab) (password : Password) : Text :=
  unlines (tab.lines.map (TabLine.withPassword password)) ++
    tab.last.elim [] (TabLine.withPassword password)

/-- The listing tells nothing about the password. -/
def LegacyTab.Hidden (tab : LegacyTab) (password : Password) : Prop :=
  ∀ line, TabLine.job line ∈ tab.lines ++ tab.last.toList →
    LineHidden line password.text ∧ RetentionHidden line password.text

def TabLine.listed (password : Password) : TabLine → List ScheduledJob
  | .other text _ => ((parseLine (chomp text)).map fun parsed => parsed.job).toList
  | .job line => [line.job password.text]

/-- What the last line adds, with its carriage return. -/
def TabLine.listedLast (password : Password) : TabLine → List ScheduledJob
  | .other text _ => listJobs text
  | .job line => [line.job password.text]

theorem shellQuote_single (single : '\n' ∉ password) :
    '\n' ∉ shellQuote password := by
  intro member
  rw [shellQuote, List.mem_flatMap] at member
  obtain ⟨c, here, feed⟩ := member
  by_cases quote : c = '\''
  · subst quote
    revert feed
    decide
  · rw [if_neg quote, List.mem_singleton] at feed
    exact single (feed ▸ here)

theorem Passing.single (passing : Passing) : '\n' ∉ passing.text := by
  cases passing with
  | mariadb first second =>
    rw [Passing.text_mariadb]
    simp only [List.mem_append, not_or]
    exact ⟨⟨⟨⟨by decide, first.single⟩, by decide⟩, second.single⟩, by decide⟩
  | postgres =>
    decide

theorem Solid.single (solid : Solid word) : '\n' ∉ word := by
  intro member
  have white := solid.2 '\n' member
  revert white
  decide

theorem LegacyLine.withPassword_single (line : LegacyLine) (password : Password) :
    '\n' ∉ line.withPassword password.text := by
  have parts := line.single
  simp only [List.mem_append, not_or] at parts
  have comment : '\n' ∉ commentMarker := by decide
  have feed : ('\n' : Char) ≠ '\'' := by decide
  simp only [withPassword, front, after, List.mem_append, List.mem_cons, not_or]
  exact ⟨⟨⟨⟨parts.1.1.1, parts.1.1.2⟩, line.gap.single⟩, parts.1.2⟩, line.passing.single, feed,
    shellQuote_single password.single, feed, parts.2, comment, Solid.single line.target.solid⟩

theorem LegacyLine.chomp_withPassword (line : LegacyLine) (password : Text) :
    chomp (line.withPassword password) = line.withPassword password := by
  obtain ⟨rest, last, same, solid⟩ := line.body_ends password
  have other : last ≠ '\r' := by
    intro equal
    subst equal
    revert solid
    decide
  rw [line.withPassword_eq, same, ← List.append_assoc, chomp, List.getLast?_concat]
  simp [other]

theorem TabLine.withPassword_single (line : TabLine) (password : Password) :
    '\n' ∉ line.withPassword password := by
  cases line with
  | other text single => exact single
  | job line => exact line.withPassword_single password

theorem TabLine.listed_eq (line : TabLine) (password : Password) :
    line.listed password =
      ((parseLine (chomp (line.withPassword password))).map fun parsed => parsed.job).toList := by
  cases line with
  | other text single => rfl
  | job line =>
    rw [TabLine.withPassword, line.chomp_withPassword, line.parseLine_job]
    rfl

theorem TabLine.listedLast_eq (line : TabLine) (password : Password) :
    line.listedLast password = listJobs (line.withPassword password) := by
  cases line with
  | other text single => rfl
  | job line =>
  have single := line.withPassword_single password
  have filled : (line.withPassword password.text).isEmpty = false := by
    obtain ⟨rest, last, same, -⟩ := line.body_ends password.text
    simp [line.withPassword_eq, same]
  rw [TabLine.withPassword, listJobs, lines_last single, filled]
  simp [TabLine.listedLast, line.parseLine_job]

theorem LegacyTab.listJobs_withPassword (tab : LegacyTab) (password : Password) :
    listJobs (tab.withPassword password) = tab.lines.flatMap (TabLine.listed password) ++
      tab.last.toList.flatMap (TabLine.listedLast password) := by
  have single : ∀ line ∈ tab.lines.map (TabLine.withPassword password), '\n' ∉ line := by
    intro line member
    obtain ⟨source, -, rfl⟩ := List.mem_map.mp member
    exact source.withPassword_single password
  have front : TabLine.listed password = fun line =>
      ((parseLine (chomp (line.withPassword password))).map fun parsed => parsed.job).toList :=
    funext fun line => line.listed_eq password
  have back : tab.last.toList.flatMap (TabLine.listedLast password) =
      listJobs (tab.last.elim [] (TabLine.withPassword password)) := by
    cases tab.last with
    | none => rfl
    | some line => simp [line.listedLast_eq]
  rw [listJobs, LegacyTab.withPassword, lines_unlines_append single, List.filterMap_append,
    List.map_append, back, listJobs, front, List.map_map, List.filterMap_map, List.map_filterMap,
    List.filterMap_eq_flatMap_toList]
  rfl

theorem flatMap_eq_iff {α β : Type} {first second : α → List β}
    (lengths : ∀ x, (first x).length = (second x).length) (found : List α) :
    found.flatMap first = found.flatMap second ↔ ∀ x ∈ found, first x = second x := by
  induction found with
  | nil => simp
  | cons x others ih =>
    rw [List.flatMap_cons, List.flatMap_cons, List.forall_mem_cons, ← ih]
    constructor
    · intro same
      exact List.append_inj same (lengths x)
    · rintro ⟨here, later⟩
      rw [here, later]

theorem LegacyLine.job_eq_iff (line : LegacyLine) (password : Text) :
    line.job password = line.job [] ↔ LineHidden line password ∧ RetentionHidden line password := by
  rw [← line.line_eq_iff, ← retentionDays_eq_iff]
  constructor
  · intro same
    rw [same]
    exact ⟨rfl, rfl⟩
  · rintro ⟨text, days⟩
    simp only [LegacyLine.job] at text days ⊢
    rw [text, days]

theorem TabLine.length_listed (line : TabLine) (password other : Password) :
    (line.listed password).length = (line.listed other).length := by
  cases line <;> rfl

theorem TabLine.length_listedLast (line : TabLine) (password other : Password) :
    (line.listedLast password).length = (line.listedLast other).length := by
  cases line <;> rfl

theorem TabLine.listed_eq_iff (line : TabLine) (password : Password) :
    line.listed password = line.listed .empty ↔ ∀ found, line = .job found →
        LineHidden found password.text ∧ RetentionHidden found password.text := by
  cases line with
  | other text single => simp [TabLine.listed]
  | job line =>
    simp only [TabLine.listed, List.cons.injEq, and_true, Password.empty, line.job_eq_iff,
      TabLine.job.injEq]
    exact ⟨fun hidden found same => same ▸ hidden, fun hidden => hidden line rfl⟩

theorem TabLine.listedLast_eq_iff (line : TabLine) (password : Password) :
    line.listedLast password = line.listedLast .empty ↔ ∀ found, line = .job found →
        LineHidden found password.text ∧ RetentionHidden found password.text := by
  rw [← line.listed_eq_iff]
  cases line with
  | other text single => simp [TabLine.listed, TabLine.listedLast]
  | job line => rfl

/-- A crontab is listed as with the empty password exactly when the password is hidden. -/
theorem LegacyTab.listJobs_eq_iff (tab : LegacyTab) (password : Password) :
    listJobs (tab.withPassword password) = listJobs (tab.withPassword .empty) ↔
      tab.Hidden password := by
  rw [tab.listJobs_withPassword, tab.listJobs_withPassword]
  have front := flatMap_eq_iff (fun line => TabLine.length_listed line password .empty) tab.lines
  have back := flatMap_eq_iff (fun line => TabLine.length_listedLast line password .empty)
    tab.last.toList
  simp only [TabLine.listed_eq_iff, TabLine.listedLast_eq_iff] at front back
  simp only [LegacyTab.Hidden, List.mem_append]
  constructor
  · intro same
    have lengths : (tab.lines.flatMap (TabLine.listed password)).length =
        (tab.lines.flatMap (TabLine.listed .empty)).length := by
      simp only [List.length_flatMap, fun line => TabLine.length_listed line password .empty]
    obtain ⟨one, two⟩ := List.append_inj same lengths
    rintro line (member | member)
    · exact front.mp one _ member line rfl
    · exact back.mp two _ member line rfl
  · intro hidden
    rw [front.mpr fun line member found same => hidden found (.inl (same ▸ member)),
      back.mpr fun line member found same => hidden found (.inr (same ▸ member))]

/-- Among the empty password and any others, the listing tells no two apart exactly when it
hides each of them. -/
theorem listing_hides_iff (tab : LegacyTab) (passwords : Set Password) :
    (∀ first ∈ insert Password.empty passwords, ∀ second ∈ insert Password.empty passwords,
      listJobs (tab.withPassword first) = listJobs (tab.withPassword second)) ↔
      ∀ password ∈ passwords, tab.Hidden password := by
  constructor
  · intro alike password member
    have same := alike password (Set.mem_insert_of_mem _ member) .empty (Set.mem_insert _ _)
    exact (tab.listJobs_eq_iff password).mp same
  intro hidden
  have known : ∀ password ∈ insert Password.empty passwords,
      listJobs (tab.withPassword password) = listJobs (tab.withPassword .empty) := by
    intro password member
    rcases Set.mem_insert_iff.mp member with rfl | inside
    · rfl
    · exact (tab.listJobs_eq_iff password).mpr (hidden password inside)
  intro first one second two
  exact (known first one).trans (known second two).symm

def oneSpace : Spaces := ⟨[' '], by decide, blank_of_all (by decide), by decide⟩

def twoSpaces : Spaces := ⟨"  ".toList, by decide, blank_of_all (by decide), by decide⟩

def panelLine (passing : Passing) : LegacyLine where
  indent := []
  schedule := "0 2 * * *".toList
  gap := oneSpace
  command := "docker exec db ".toList
  passing := passing
  tail := " wp > /x && find /b -mtime +7 -delete".toList
  target := ⟨.mariadb, ⟨"wp".toList, by decide⟩⟩
  indented := blank_of_all (by decide)
  starts := ⟨'0', " 2 * * *".toList, by decide, by decide, by decide⟩
  scheduled := by decide
  single := by decide
  unmarked := by decide
  ended c member := by
    have head : " wp > /x && find /b -mtime +7 -delete".toList.head? = some ' ' := by decide
    rw [head, Option.mem_some_iff] at member
    rw [← member]
    decide
  legacy := by rfl

def panelTab (passing : Passing) : LegacyTab := ⟨[.job (panelLine passing)], none⟩

example : listJobs ((panelTab (.mariadb oneSpace oneSpace)).withPassword ⟨"it's".toList, by decide⟩) =
    listJobs ((panelTab (.mariadb oneSpace oneSpace)).withPassword .empty) := by
  decide +kernel

theorem listing_reveals :
    listJobs ((panelTab (.mariadb twoSpaces oneSpace)).withPassword ⟨"hunter2".toList, by decide⟩) ≠
        listJobs
    ((panelTab (.mariadb twoSpaces oneSpace)).withPassword ⟨"secret".toList, by decide⟩) ∧
      listJobs ((panelTab (.mariadb oneSpace oneSpace)).withPassword
          ⟨"a -mtime +9 b".toList, by decide⟩) ≠ listJobs
    ((panelTab (.mariadb oneSpace oneSpace)).withPassword ⟨"secret".toList, by decide⟩) ∧
      listJobs ((panelTab .postgres).withPassword
          ⟨"mariadb-dump -uroot -p'hunter2".toList, by decide⟩) ≠
        listJobs ((panelTab .postgres).withPassword ⟨"secret".toList, by decide⟩) := by
  refine ⟨?_, ?_, ?_⟩
  · decide +kernel
  · decide +kernel
  · decide +kernel

end OpsEngine.Cron
