import Mathlib.Data.List.DropRight
import OpsEngine.Data.Identifiers

namespace OpsEngine

/-! # Text, line by line

The functions of `str` the engine edits configuration files with: `lines`,
`trim`, `strip_prefix` and `join`.
-/

namespace Text

/-- `char::is_whitespace`: the Unicode property `White_Space`. -/
def isWhitespace (c : Char) : Bool :=
  let code := c.toNat
  (9 ≤ code && code ≤ 13) || code == 32 || code == 0x85 || code == 0xa0 || code == 0x1680 ||
    (0x2000 ≤ code && code ≤ 0x200a) || code == 0x2028 || code == 0x2029 || code == 0x202f ||
    code == 0x205f || code == 0x3000

def trimStart (text : Text) : Text := text.dropWhile isWhitespace

def trimEnd (text : Text) : Text := text.rdropWhile isWhitespace

def trim (text : Text) : Text := trimEnd (trimStart text)

/-- `strip_prefix`. -/
def stripStart? (start text : Text) : Option Text :=
  if start.isPrefixOf text then some (text.drop start.length) else none

/-- A line without the carriage return before its line feed. -/
def chomp (line : Text) : Text :=
  if line.getLast? = some '\r' then line.dropLast else line

/-- `str::lines` of `line` followed by `text`, where `line` has no line feed. -/
def linesFrom (line : Text) : Text → List Text
  | [] => if line.isEmpty then [] else [line]
  | c :: rest => if c = '\n' then chomp line :: linesFrom [] rest else linesFrom (line ++ [c]) rest

def lines (text : Text) : List Text := linesFrom [] text

def joinLines (lines : List Text) : Text := ['\n'].intercalate lines

/-- Every line with the line feed that ends it. -/
def unlines (found : List Text) : Text := found.flatMap (· ++ ['\n'])

/-- The text with a line feed at its end, unless it is empty or has one. -/
def terminated (text : Text) : Text :=
  if text.isEmpty || text.getLast? = some '\n' then text else text ++ ['\n']

/-- `str::split_inclusive('\n')` of `line` followed by `text`. -/
def inclusiveFrom (line : Text) : Text → List Text
  | [] => if line.isEmpty then [] else [line]
  | c :: rest =>
    if c = '\n' then (line ++ ['\n']) :: inclusiveFrom [] rest else inclusiveFrom (line ++ [c]) rest

def splitInclusive (text : Text) : List Text := inclusiveFrom [] text

section Segments

variable {α : Type} [DecidableEq α]

/-- What lies between the line feeds of `line` followed by `text`, where `line`
has none; nothing follows a line feed at the end. -/
def segmentsFrom (feed : α) (line : List α) : List α → List (List α)
  | [] => if line.isEmpty then [] else [line]
  | c :: rest =>
    if c = feed then line :: segmentsFrom feed [] rest else segmentsFrom feed (line ++ [c]) rest

/-- The lines as they stand in the file, a carriage return at the end included. -/
def segments (feed : α) (text : List α) : List (List α) := segmentsFrom feed [] text

variable {feed : α} {line : List α}

/-- A text is a line without a line feed, or begins with one and its line feed. -/
@[elab_as_elim]
theorem byLines {motive : List α → Prop} (feed : α) (text : List α)
    (last : ∀ line, feed ∉ line → motive line)
    (line : ∀ line rest, feed ∉ line → motive rest → motive (line ++ feed :: rest)) :
    motive text := by
  induction size : text.length using Nat.strong_induction_on generalizing text with
  | _ size ih =>
  by_cases member : feed ∈ text
  · obtain ⟨first, rest, rfl, single⟩ := List.eq_append_cons_of_mem member
    exact line first rest single (ih rest.length (by simp [← size]; omega) rest rfl)
  · exact last text member

theorem segmentsFrom_append {first : List α} (single : feed ∉ first) (line rest : List α) :
    segmentsFrom feed line (first ++ rest) = segmentsFrom feed (line ++ first) rest := by
  induction first generalizing line with
  | nil => simp
  | cons c first ih =>
    simp only [List.mem_cons, not_or] at single
    simp [segmentsFrom, Ne.symm single.1, ih single.2]

theorem segments_line (single : feed ∉ line) (rest : List α) :
    segments feed (line ++ feed :: rest) = line :: segments feed rest := by
  simp [segments, segmentsFrom_append single, segmentsFrom]

theorem segments_last (single : feed ∉ line) :
    segments feed line = if line.isEmpty then [] else [line] := by
  have whole := segmentsFrom_append single [] []
  simpa [segments, segmentsFrom] using whole

theorem segments_flatMap {found : List (List α)} (single : ∀ line ∈ found, feed ∉ line) :
    segments feed (found.flatMap (· ++ [feed])) = found := by
  induction found with
  | nil => rfl
  | cons line others ih =>
    simp only [List.forall_mem_cons] at single
    simp [segments_line single.1, ih single.2]

theorem not_mem_segments (feed : α) (text : List α) :
    ∀ found ∈ segments feed text, feed ∉ found := by
  induction text using byLines feed with
  | last line single =>
    rw [segments_last single]
    split <;> simp [single]
  | line line rest single ih => simpa [segments_line single, single] using ih

end Segments

variable {line text : Text} {found : List Text}

theorem linesFrom_append {first : Text} (single : '\n' ∉ first) (line rest : Text) :
    linesFrom line (first ++ rest) = linesFrom (line ++ first) rest := by
  induction first generalizing line with
  | nil => simp
  | cons c first ih =>
    simp only [List.mem_cons, not_or] at single
    simp [linesFrom, Ne.symm single.1, ih single.2]

theorem lines_line (single : '\n' ∉ line) (rest : Text) :
    lines (line ++ '\n' :: rest) = chomp line :: lines rest := by
  simp [lines, linesFrom_append single, linesFrom]

theorem lines_last (single : '\n' ∉ line) :
    lines line = if line.isEmpty then [] else [line] := by
  have whole := linesFrom_append single [] []
  simpa [lines, linesFrom] using whole

theorem chomp_isPrefix (line : Text) : chomp line <+: line := by
  unfold chomp
  split
  · exact List.dropLast_prefix line
  · exact List.prefix_rfl

theorem chomp_of_not_mem (plain : '\r' ∉ line) : chomp line = line := by
  have last : line.getLast? ≠ some '\r' := fun found => plain (List.mem_of_getLast? found)
  simp [chomp, last]

theorem not_mem_lines (text : Text) : ∀ line ∈ lines text, '\n' ∉ line := by
  induction text using byLines '\n' with
  | last line single =>
    rw [lines_last single]
    split <;> simp [single]
  | line line rest single ih =>
    rw [lines_line single, List.forall_mem_cons]
    exact ⟨fun feed => single ((chomp_isPrefix line).subset feed), ih⟩

/-- `str::lines` and the lines as they stand in the file differ by the carriage
return before a line feed; reading the units of `text` as characters finds the
same line feeds. -/
theorem forall₂_lines {α : Type} [DecidableEq α] {feed : α} {read : α → Char}
    (feeds : ∀ unit, read unit = '\n' ↔ unit = feed) (text : List α) :
    List.Forall₂ (fun found raw => found = raw.map read ∨ found = chomp (raw.map read))
      (lines (text.map read)) (segments feed text) := by
  have alone : ∀ line : List α, feed ∉ line → '\n' ∉ line.map read := by simp [feeds]
  induction text using byLines feed with
  | last line single =>
    rw [lines_last (alone line single), segments_last single]
    cases line <;> simp
  | line line rest single ih =>
    rw [List.map_append, List.map_cons, (feeds feed).mpr rfl, lines_line (alone line single),
      segments_line single]
    exact .cons (.inr rfl) ih

theorem lines_eq_segments (plain : '\r' ∉ text) : lines text = segments '\n' text := by
  induction text using byLines '\n' with
  | last line single => rw [lines_last single, segments_last single]
  | line line rest single ih =>
    simp only [List.mem_append, List.mem_cons, not_or] at plain
    rw [lines_line single, segments_line single, chomp_of_not_mem plain.1, ih plain.2.2]

theorem chomp_of_mem_lines (plain : '\r' ∉ text) : ∀ line ∈ lines text, chomp line = line := by
  induction text using byLines '\n' with
  | last line single =>
    rw [lines_last single]
    split <;> simp [chomp_of_not_mem plain]
  | line line rest single ih =>
    simp only [List.mem_append, List.mem_cons, not_or] at plain
    rw [lines_line single, chomp_of_not_mem plain.1, List.forall_mem_cons]
    exact ⟨chomp_of_not_mem plain.1, ih plain.2.2⟩

/-- A test that a carriage return at the end does not change tells the same of the lines
as they are read and as they stand. -/
theorem any_lines {tests : Text → Bool} (returns : ∀ line, tests (chomp line) = tests line)
    (text : Text) : (lines text).any tests = (segments '\n' text).any tests := by
  induction text using byLines '\n' with
  | last line single => rw [lines_last single, segments_last single]
  | line line rest single ih => simp [lines_line single, segments_line single, returns, ih]

theorem isWhitespace_of_alphanum {c : Char} (alphanum : c.isAlphanum = true ∨ c = '_') :
    isWhitespace c = false := by
  rcases alphanum with alphanum | rfl
  · delta Char.isAlphanum Char.isAlpha Char.isUpper Char.isLower Char.isDigit at alphanum
    simp only [Bool.or_eq_true, Bool.and_eq_true, decide_eq_true_eq, ge_iff_le,
      UInt32.le_iff_toNat_le] at alphanum
    have code : c.toNat = c.val.toNat := rfl
    simp only [isWhitespace, code, Bool.or_eq_false_iff, Bool.and_eq_false_iff,
      decide_eq_false_iff_not, beq_eq_false_iff_ne, ne_eq]
    have upper : 'A'.val.toNat = 65 ∧ 'Z'.val.toNat = 90 := by decide
    have lower : 'a'.val.toNat = 97 ∧ 'z'.val.toNat = 122 := by decide
    have digit : '0'.val.toNat = 48 ∧ '9'.val.toNat = 57 := by decide
    omega
  · decide

/-! ## Lines written one after the other -/

@[simp] theorem unlines_nil : unlines [] = [] := rfl

@[simp] theorem unlines_cons (line : Text) (others : List Text) :
    unlines (line :: others) = line ++ '\n' :: unlines others := by
  simp [unlines]

theorem unlines_append (first second : List Text) :
    unlines (first ++ second) = unlines first ++ unlines second := by
  simp [unlines]

theorem lines_unlines_append (single : ∀ line ∈ found, '\n' ∉ line)
    (rest : Text) : lines (unlines found ++ rest) = found.map chomp ++ lines rest := by
  induction found with
  | nil => rfl
  | cons line others ih =>
    simp only [List.forall_mem_cons] at single
    simp [lines_line single.1, ih single.2]

theorem lines_unlines (single : ∀ line ∈ found, '\n' ∉ line) :
    lines (unlines found) = found.map chomp := by
  simpa [lines, linesFrom] using lines_unlines_append single []

theorem unlines_injective {first second : List Text} (single : ∀ line ∈ first, '\n' ∉ line)
    (alone : ∀ line ∈ second, '\n' ∉ line) (same : unlines first = unlines second) :
    first = second := by
  have split := congrArg (segments '\n') same
  rwa [unlines, unlines, segments_flatMap single, segments_flatMap alone] at split

theorem terminated_unlines (found : List Text) : terminated (unlines found) = unlines found := by
  rcases List.eq_nil_or_concat found with rfl | ⟨front, line, rfl⟩
  · rfl
  · simp [terminated, unlines_append]

theorem terminated_eq_unlines (text : Text) : terminated text = unlines (segments '\n' text) := by
  induction text using byLines '\n' with
  | last line single =>
    have last : line.getLast? ≠ some '\n' := fun found => single (List.mem_of_getLast? found)
    rw [segments_last single]
    cases line <;> simp_all [terminated]
  | line line rest single ih =>
    rw [segments_line single, unlines_cons, ← ih]
    cases rest with
    | nil => simp [terminated]
    | cons c rest =>
      have last : (line ++ '\n' :: c :: rest).getLast? = (c :: rest).getLast? := by
        simp [List.getLast?_append, List.getLast?_cons]
      simp only [terminated, last]
      split <;> simp_all

/-! ## Lines with their line feeds -/

theorem inclusiveFrom_append {first : Text} (single : '\n' ∉ first) (line rest : Text) :
    inclusiveFrom line (first ++ rest) = inclusiveFrom (line ++ first) rest := by
  induction first generalizing line with
  | nil => simp
  | cons c first ih =>
    simp only [List.mem_cons, not_or] at single
    simp [inclusiveFrom, Ne.symm single.1, ih single.2]

theorem inclusive_line (single : '\n' ∉ line) (rest : Text) :
    splitInclusive (line ++ '\n' :: rest) = (line ++ ['\n']) :: splitInclusive rest := by
  simp [splitInclusive, inclusiveFrom_append single, inclusiveFrom]

theorem inclusive_last (single : '\n' ∉ line) :
    splitInclusive line = if line.isEmpty then [] else [line] := by
  have whole := inclusiveFrom_append single [] []
  simpa [splitInclusive, inclusiveFrom] using whole

section Filter

variable {keeps : Text → Bool} (feeds : ∀ line, keeps (line ++ ['\n']) = keeps line)

include feeds in
theorem segments_filter_inclusive (text : Text) :
    segments '\n' ((splitInclusive text).filter keeps).flatten =
      (segments '\n' text).filter keeps := by
  induction text using byLines '\n' with
  | last line single =>
    rw [inclusive_last single, segments_last single]
    cases line with
    | nil => rfl
    | cons c line =>
      cases kept : keeps (c :: line) with
      | true => simp [kept, segments_last single]
      | false => simp [kept, segments, segmentsFrom]
  | line line rest single ih =>
    rw [inclusive_line single, segments_line single, List.filter_cons, List.filter_cons, feeds]
    split
    · rw [List.flatten_cons, List.append_assoc, List.singleton_append, segments_line single, ih]
    · exact ih

include feeds in
theorem length_filter_inclusive (text : Text) :
    ((splitInclusive text).filter keeps).flatten.length ≤ text.length ∧
    (((splitInclusive text).filter keeps).flatten.length = text.length ↔
      (segments '\n' text).all keeps = true) := by
  induction text using byLines '\n' with
  | last line single =>
    rw [inclusive_last single, segments_last single]
    cases line with
    | nil => simp
    | cons c line => cases kept : keeps (c :: line) <;> simp [kept]
  | line line rest single ih =>
    rw [inclusive_line single, segments_line single, List.filter_cons, feeds, List.all_cons]
    cases keeps line with
    | true => simpa using ih
    | false =>
      have shorter := ih.1
      simp only [Bool.false_eq_true, if_false, Bool.false_and, iff_false, List.length_append,
        List.length_cons]
      omega

include feeds in
theorem filter_inclusive_unlines (single : ∀ line ∈ found, '\n' ∉ line) :
    ((splitInclusive (unlines found)).filter keeps).flatten = unlines (found.filter keeps) := by
  induction found with
  | nil => rfl
  | cons line others ih =>
    simp only [List.forall_mem_cons] at single
    rw [unlines_cons, inclusive_line single.1, List.filter_cons, List.filter_cons, feeds]
    cases keeps line <;> simp [ih single.2]

end Filter

/-! ## Text between line feeds -/

theorem unbroken_of_mem_splitOnP {α : Type} {breaks : α → Bool} {text word : List α}
    (member : word ∈ text.splitOnP breaks) : ∀ c ∈ word, c ∈ text ∧ breaks c = false := by
  induction text generalizing word with
  | nil =>
    rw [List.splitOnP_nil, List.mem_singleton] at member
    simp [member]
  | cons head rest ih =>
    have later : ∀ piece ∈ rest.splitOnP breaks, ∀ c ∈ piece,
        c ∈ head :: rest ∧ breaks c = false := fun piece inside c held =>
      ⟨List.mem_cons_of_mem _ (ih inside c held).1, (ih inside c held).2⟩
    rw [List.splitOnP_cons_eq_if_modifyHead] at member
    split at member
    · rcases List.mem_cons.mp member with rfl | inside
      · simp
      · exact later word inside
    rename_i solid
    obtain ⟨first, others, split⟩ := List.exists_cons_of_ne_nil (List.splitOnP_ne_nil breaks rest)
    rw [split, List.modifyHead_cons] at member
    rw [split] at later
    rcases List.mem_cons.mp member with rfl | inside
    · intro c held
      rcases List.mem_cons.mp held with rfl | held
      · exact ⟨List.mem_cons_self, by simpa using solid⟩
      · exact later first List.mem_cons_self c held
    · exact later word (List.mem_cons_of_mem _ inside)

theorem joinLines_concat (front : List Text) (last : Text) :
    joinLines (front ++ [last]) = unlines front ++ last := by
  induction front with
  | nil => simp [joinLines]
  | cons line others ih =>
    rw [unlines_cons, List.append_assoc, List.cons_append, List.cons_append, ← ih]
    cases others <;> simp [joinLines, List.intercalate]

theorem exists_pieces (text : Text) : ∃ front last, text.splitOn '\n' = front ++ [last] ∧
    text = joinLines (front ++ [last]) ∧ ∀ piece ∈ front ++ [last], '\n' ∉ piece := by
  obtain ⟨front, last, pieces⟩ := (List.eq_nil_or_concat (text.splitOn '\n')).resolve_left
    (List.splitOn_ne_nil _ _)
  rw [List.concat_eq_append] at pieces
  refine ⟨front, last, pieces, ?_, ?_⟩
  · rw [← pieces, joinLines, List.intercalate_splitOn]
  · intro piece member feed
    rw [← pieces, List.splitOn] at member
    have unbroken := (unbroken_of_mem_splitOnP member '\n' feed).2
    simp at unbroken

variable {front : List Text} {last : Text} (single : ∀ piece ∈ front ++ [last], '\n' ∉ piece)

include single in
theorem lines_concat : lines (joinLines (front ++ [last])) =
    front.map chomp ++ if last.isEmpty then [] else [last] := by
  rw [joinLines_concat, lines_unlines_append fun line member => single line (by simp [member]),
    lines_last (single last (by simp))]

include single in
/-- Lines that are edited one by one and joined again, with a line feed at the end if there
was one. -/
theorem rejoin_map (edit : Text → Text) :
    joinLines ((lines (joinLines (front ++ [last]))).map edit) ++
        (if (joinLines (front ++ [last])).getLast? = some '\n' then ['\n'] else []) =
      joinLines (front.map (fun piece => edit (chomp piece)) ++
        [if last.isEmpty then [] else edit last]) := by
  rw [lines_concat single, joinLines_concat, joinLines_concat]
  rcases List.eq_nil_or_concat last with rfl | ⟨body, c, rfl⟩
  · rcases List.eq_nil_or_concat front with rfl | ⟨first, line, rfl⟩
    · simp [joinLines]
    · simp [joinLines_concat, unlines_append, Function.comp_def]
  · have other : c ≠ '\n' := fun same => single (body.concat c) (by simp) (by simp [same])
    simp [joinLines_concat, other, Function.comp_def]

/-- A search of the lines that takes no notice of carriage returns finds in the
joined text what it finds in the list. -/
theorem findSome?_lines_join {α : Type} {look : Text → Option α}
    (chomped : ∀ line, look (chomp line) = look line) (blank : look [] = none)
    (single : ∀ line ∈ found, '\n' ∉ line) {ending : Text} (ends : ending = [] ∨ ending = ['\n']) :
    (lines (joinLines found ++ ending)).findSome? look = found.findSome? look := by
  rcases List.eq_nil_or_concat found with rfl | ⟨front, last, rfl⟩
  · rcases ends with rfl | rfl
    · rfl
    · simp [joinLines, lines, linesFrom, chomped, blank]
  rw [List.concat_eq_append] at single ⊢
  rcases ends with rfl | rfl
  · rw [List.append_nil, lines_concat single]
    cases last <;> simp [List.findSome?_append, List.findSome?_map, Function.comp_def, chomped, blank]
  · have whole : joinLines (front ++ [last]) ++ ['\n'] = unlines (front ++ [last]) := by
      simp [joinLines_concat, unlines_append]
    rw [whole, lines_unlines single]
    simp [List.findSome?_map, Function.comp_def, chomped]

theorem forall₂_concat_map {R : Text → Text → Prop} {edit : Text → Text} {next : Text} :
    List.Forall₂ R (front ++ [last]) (front.map edit ++ [next]) ↔
      (∀ piece ∈ front, R piece (edit piece)) ∧ R last next := by
  induction front with
  | nil => simp
  | cons piece others ih => simp [ih, and_assoc]

end Text

end OpsEngine
