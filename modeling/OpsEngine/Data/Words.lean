import Mathlib.Algebra.GroupWithZero.Nat
import OpsEngine.Data.Lines

namespace OpsEngine.Text

/-! # Words and numbers in text

`split_whitespace`, `join(" ")` and the decimal numbers `parse` reads.
-/

def splitWhitespace (text : Text) : List Text :=
  (text.splitOnP isWhitespace).filter fun word => !word.isEmpty

def joinWords (words : List Text) : Text := [' '].intercalate words

/-- A word has characters, and none of them is white space. -/
def Solid (word : Text) : Prop := word ≠ [] ∧ ∀ c ∈ word, isWhitespace c = false

variable {word : Text} {text : Text} {c : Char}

theorem solid_of_all (filled : word.isEmpty = false)
    (plain : word.all (fun c => !isWhitespace c) = true) : Solid word := by
  simp only [List.all_eq_true, Bool.not_eq_true'] at plain
  exact ⟨by simpa using filled, plain⟩

theorem mem_or_mem_of_mem_intercalate {α : Type} {between : List α} {words : List (List α)} {c : α}
    (member : c ∈ between.intercalate words) : c ∈ between ∨ ∃ word ∈ words, c ∈ word := by
  induction words with
  | nil => simp [List.intercalate] at member
  | cons word others ih =>
    cases others with
    | nil =>
      rw [List.intercalate_singleton] at member
      exact .inr ⟨word, by simp, member⟩
    | cons next others =>
    rw [List.intercalate_cons_cons, List.append_assoc, List.mem_append,
      List.mem_append] at member
    rcases member with here | sep | later
    · exact .inr ⟨word, by simp, here⟩
    · exact .inl sep
    · rcases ih later with sep | ⟨other, inside, held⟩
      · exact .inl sep
      · exact .inr ⟨other, List.mem_cons_of_mem _ inside, held⟩

theorem solid_of_mem_splitWhitespace {text word : Text} (member : word ∈ splitWhitespace text) :
    Solid word := by
  obtain ⟨inside, filled⟩ := List.mem_filter.mp member
  exact ⟨by simpa using filled, fun c held => (unbroken_of_mem_splitOnP inside c held).2⟩

theorem splitWhitespace_append {before : Text} {space : Char} (blank : isWhitespace space = true)
    (after : Text) : splitWhitespace (before ++ space :: after) =
      splitWhitespace before ++ splitWhitespace after := by
  rw [splitWhitespace, List.splitOnP_append_cons before after blank, List.filter_append]
  rfl

theorem splitWhitespace_word (solid : Solid word) : splitWhitespace word = [word] := by
  rw [splitWhitespace, List.splitOnP_eq_singleton solid.2]
  simp [solid.1]

theorem splitWhitespace_joinWords {words : List Text} (solid : ∀ word ∈ words, Solid word) :
    splitWhitespace (joinWords words) = words := by
  induction words with
  | nil => rfl
  | cons word others ih =>
    obtain ⟨first, rest⟩ := List.forall_mem_cons.mp solid
    have here := splitWhitespace_word first
    have later := ih rest
    cases others with
    | nil => simpa [joinWords] using here
    | cons next others =>
    have joined : joinWords (word :: next :: others) =
        word ++ ' ' :: joinWords (next :: others) := by
      simp [joinWords, List.intercalate]
    rw [joined, splitWhitespace_append (by decide), here, later]
    rfl

/-! ## Blanks around a text -/

def Blank (text : Text) : Prop := ∀ c ∈ text, isWhitespace c = true

theorem blank_of_all (white : text.all isWhitespace = true) : Blank text :=
  List.all_eq_true.mp white

theorem splitWhitespace_blank (blank : Blank text) : splitWhitespace text = [] := by
  rw [List.eq_nil_iff_forall_not_mem]
  intro word member
  obtain ⟨filled, solid⟩ := solid_of_mem_splitWhitespace member
  obtain ⟨c, inside⟩ := List.exists_mem_of_ne_nil word filled
  have held := (unbroken_of_mem_splitOnP (List.mem_filter.mp member).1 c inside).1
  have here := solid c inside
  simp [blank c held] at here

theorem splitWhitespace_blank_append {blanks : Text} (blank : Blank blanks) (text : Text) :
    splitWhitespace (blanks ++ text) = splitWhitespace text := by
  induction blanks with
  | nil => rfl
  | cons c blanks ih =>
    obtain ⟨here, later⟩ := List.forall_mem_cons.mp blank
    have split : splitWhitespace ([] ++ c :: (blanks ++ text)) =
        splitWhitespace [] ++ splitWhitespace (blanks ++ text) := splitWhitespace_append here _
    have nothing : splitWhitespace [] = [] := rfl
    simpa [nothing, ih later] using split

theorem splitWhitespace_append_blank (text : Text) {blanks : Text} (blank : Blank blanks) :
    splitWhitespace (text ++ blanks) = splitWhitespace text := by
  cases blanks with
  | nil => simp
  | cons c blanks =>
    obtain ⟨here, later⟩ := List.forall_mem_cons.mp blank
    rw [splitWhitespace_append here, splitWhitespace_blank later, List.append_nil]

theorem splitWhitespace_trim (text : Text) : splitWhitespace (trim text) = splitWhitespace text := by
  have ends : splitWhitespace (trimEnd (trimStart text)) = splitWhitespace (trimStart text) := by
    have whole : trimEnd (trimStart text) ++ (trimStart text).rtakeWhile isWhitespace =
        trimStart text := List.rdropWhile_append_rtakeWhile
    have blank : Blank ((trimStart text).rtakeWhile isWhitespace) :=
      fun c member => List.mem_rtakeWhile_imp member
    conv_rhs => rw [← whole, splitWhitespace_append_blank _ blank]
  have starts : splitWhitespace (trimStart text) = splitWhitespace text := by
    have blank : Blank (text.takeWhile isWhitespace) :=
      fun c member => List.mem_takeWhile_imp member
    have whole : text.takeWhile isWhitespace ++ trimStart text = text :=
      List.takeWhile_append_dropWhile
    conv_rhs => rw [← whole, splitWhitespace_blank_append blank]
  rw [trim, ends, starts]

theorem dropWhile_append_cons {α : Type} {drops : α → Bool} {c : α} (stays : drops c = false)
    (before after : List α) :
    (before ++ c :: after).dropWhile drops = before.dropWhile drops ++ c :: after := by
  rw [List.dropWhile_append]
  split
  · rename_i empty
    simp only [List.isEmpty_iff] at empty
    simp [empty, stays]
  · rfl

theorem trimEnd_solid (solid : isWhitespace c = false) :
    trimEnd (text ++ [c]) = text ++ [c] := List.rdropWhile_concat_neg isWhitespace text c (by simp [solid])

theorem solid_ends (solid : Solid text) :
    ∃ body last, text = body ++ [last] ∧ isWhitespace last = false := by
  obtain ⟨body, last, same⟩ := (List.eq_nil_or_concat text).resolve_left solid.1
  rw [List.concat_eq_append] at same
  exact ⟨body, last, same, solid.2 last (by simp [same])⟩

theorem trim_solid (solid : Solid text) : trim text = text := by
  obtain ⟨first, rest, same⟩ := List.exists_cons_of_ne_nil solid.1
  have start : trimStart text = text := by
    rw [same, trimStart, List.dropWhile_cons_of_neg]
    simpa using solid.2 first (by simp [same])
  obtain ⟨body, last, concat, ends⟩ := solid_ends solid
  rw [trim, start, concat, trimEnd_solid ends]

/-! ## Text with its white space squeezed -/

/-- Where a scan of a text stands: before its first word, in a word, or behind one. -/
inductive Standing where
  | start
  | word
  | gap
deriving DecidableEq

/-- The words of the text that is left, one space between two of them. -/
def squeezeFrom : Standing → Text → Text
  | _, [] => []
  | standing, c :: rest =>
    if isWhitespace c then squeezeFrom (if standing = .start then .start else .gap) rest
    else (if standing = .gap then [' '] else []) ++ c :: squeezeFrom .word rest

/-- A character that is no white space ends the influence of what stood before. -/
theorem squeezeFrom_append (solid : isWhitespace c = false) (standing : Standing)
    (before after : Text) : squeezeFrom standing (before ++ c :: after) =
      squeezeFrom standing (before ++ [c]) ++ squeezeFrom .word after := by
  induction before generalizing standing with
  | nil => simp [squeezeFrom, solid]
  | cons d before ih =>
    simp only [List.cons_append, squeezeFrom]
    split
    · exact ih _
    · rw [ih]
      simp

theorem squeezeFrom_concat (solid : isWhitespace c = false) (standing : Standing) (before : Text) :
    ∃ front, squeezeFrom standing (before ++ [c]) = front ++ [c] := by
  induction before generalizing standing with
  | nil => exact ⟨if standing = .gap then [' '] else [], by simp [squeezeFrom, solid]⟩
  | cons d before ih =>
    simp only [List.cons_append, squeezeFrom]
    split
    · exact ih _
    · obtain ⟨front, same⟩ := ih .word
      exact ⟨(if standing = .gap then [' '] else []) ++ d :: front, by simp [same]⟩

theorem squeezeFrom_word (solid : ∀ c ∈ word, isWhitespace c = false) (rest : Text) :
    squeezeFrom .word (word ++ rest) = word ++ squeezeFrom .word rest := by
  induction word with
  | nil => rfl
  | cons c word ih =>
    obtain ⟨here, later⟩ := List.forall_mem_cons.mp solid
    simp [squeezeFrom, here, ih later]

theorem squeezeFrom_spaces {spaces : Text} (blank : Blank spaces) (filled : spaces ≠ [])
    (solid : isWhitespace c = false) (rest : Text) :
    squeezeFrom .word (spaces ++ c :: rest) = ' ' :: c :: squeezeFrom .word rest := by
  have gap : ∀ {blanks : Text}, Blank blanks →
      squeezeFrom .gap (blanks ++ c :: rest) = ' ' :: c :: squeezeFrom .word rest := by
    intro blanks all
    induction blanks with
    | nil => simp [squeezeFrom, solid]
    | cons d blanks ih =>
      obtain ⟨here, later⟩ := List.forall_mem_cons.mp all
      simpa [squeezeFrom, here] using ih later
  obtain ⟨d, others, rfl⟩ := List.exists_cons_of_ne_nil filled
  obtain ⟨here, later⟩ := List.forall_mem_cons.mp blank
  simpa [squeezeFrom, here] using gap later

theorem joinWords_cons (word : Text) (others : List Text) :
    joinWords (word :: others) = word ++ if others = [] then [] else ' ' :: joinWords others := by
  cases others with
  | nil => simp [joinWords]
  | cons next others => simp [joinWords, List.intercalate_cons_cons]

theorem squeezeFrom_eq (text : Text) :
    squeezeFrom .start text = joinWords (splitWhitespace text) ∧ squeezeFrom .gap text =
      (if splitWhitespace text = [] then [] else ' ' :: joinWords (splitWhitespace text)) ∧
    ∀ word others, text.splitOnP isWhitespace = word :: others → squeezeFrom .word text = word ++
        if others.filter (fun word => !word.isEmpty) = [] then []
        else ' ' :: joinWords (others.filter fun word => !word.isEmpty) := by
  induction text with
  | nil =>
    refine ⟨rfl, rfl, fun word others split => ?_⟩
    obtain ⟨rfl, rfl⟩ := List.cons.inj split
    rfl
  | cons c rest ih =>
    obtain ⟨atStart, inGap, inWord⟩ := ih
    have split := List.splitOnP_cons_eq_if_modifyHead (p := isWhitespace) c rest
    by_cases blank : isWhitespace c = true
    · have same : splitWhitespace (c :: rest) = splitWhitespace rest := by
        simp [splitWhitespace, split, blank]
      rw [if_pos blank] at split
      refine ⟨?_, ?_, fun word others pieces => ?_⟩
      · simpa [squeezeFrom, blank, same] using atStart
      · simpa [squeezeFrom, blank, same] using inGap
      · rw [split] at pieces
        obtain ⟨rfl, rfl⟩ := List.cons.inj pieces
        simpa [squeezeFrom, blank, splitWhitespace] using inGap
    · have solid : isWhitespace c = false := by simpa using blank
      obtain ⟨first, tail, pieces⟩ :=
        List.exists_cons_of_ne_nil (List.splitOnP_ne_nil isWhitespace rest)
      rw [if_neg blank, pieces, List.modifyHead_cons] at split
      have words : splitWhitespace (c :: rest) =
          (c :: first) :: tail.filter fun word => !word.isEmpty := by
        simp [splitWhitespace, split]
      have following := inWord first tail pieces
      refine ⟨?_, ?_, fun word others here => ?_⟩
      · simp [squeezeFrom, solid, words, joinWords_cons, following]
      · simp [squeezeFrom, solid, words, joinWords_cons, following]
      · rw [split] at here
        obtain ⟨rfl, rfl⟩ := List.cons.inj here
        simp [squeezeFrom, solid, following]

theorem joinWords_splitWhitespace (text : Text) :
    joinWords (splitWhitespace text) = squeezeFrom .start text := (squeezeFrom_eq text).1.symm

/-! ## Decimal numbers -/

def digitValue (c : Char) : Option Nat :=
  if '0' ≤ c && c ≤ '9' then some (c.toNat - '0'.toNat) else none

/-- The number a digit string spells. -/
def decimal? (text : Text) : Option Nat :=
  if text.isEmpty then none
  else text.foldlM (fun value c => (digitValue c).map fun digit => 10 * value + digit) 0

def parseU32 (text : Text) : Option Nat :=
  let digits := match text with
    | '+' :: rest => rest
    | _ => text
  (decimal? digits).filter fun value => decide (value < 2 ^ 32)

theorem parseU32_unsigned (unsigned : '+' ∉ text) :
    parseU32 text = (decimal? text).filter fun value => decide (value < 2 ^ 32) := by
  unfold parseU32
  split
  · simp at unsigned
  · rfl

/-- `{value:02}`. -/
def twoDigits (value : Nat) : Text := (Nat.toDigits 10 value).leftpad 2 '0'

theorem decimal?_twoDigits {value : Nat} (small : value < 60) :
    decimal? (twoDigits value) = some value := by
  have all : ∀ value < 60, decimal? (twoDigits value) = some value := by decide +kernel
  exact all value small

theorem twoDigits_digits {value : Nat} (small : value < 60) :
    ∀ c ∈ twoDigits value, c.isDigit = true := by
  have all : ∀ value < 60, (twoDigits value).all (fun c => c.isDigit) = true := by decide +kernel
  exact List.all_eq_true.mp (all value small)

end OpsEngine.Text
