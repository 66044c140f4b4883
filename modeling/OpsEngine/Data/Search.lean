import Mathlib.Data.List.Infix
import OpsEngine.Data.Identifiers

namespace OpsEngine

/-! # Searching text

The functions of `str` the engine classifies file names with, and what they
answer about names put together with `.`.
-/

namespace Text

def endsWith (text ending : Text) : Bool := ending.isSuffixOf text

def contains (needle : Text) : Text → Bool
  | [] => needle.isEmpty
  | c :: rest => needle.isPrefixOf (c :: rest) || contains needle rest

/-- `str::split_once`: the text before the first occurrence and the text after it. -/
def splitOnce? (needle : Text) : Text → Option (Text × Text)
  | [] => if needle.isEmpty then some ([], []) else none
  | c :: rest =>
    if needle.isPrefixOf (c :: rest) then some ([], (c :: rest).drop needle.length)
    else (splitOnce? needle rest).map fun parts => (c :: parts.1, parts.2)

/-- `str::strip_suffix`. -/
def stripEnd? (ending text : Text) : Option Text :=
  if ending.isSuffixOf text then some (text.take (text.length - ending.length)) else none

variable {text : Text}

theorem endsWith_iff {ending : Text} : endsWith text ending = true ↔ ending <:+ text :=
  List.isSuffixOf_iff_suffix

variable {needle text : Text}

theorem contains_iff : contains needle text = true ↔ needle <:+: text := by
  induction text with
  | nil => simp [contains]
  | cons c rest ih =>
    simp only [contains, Bool.or_eq_true, List.isPrefixOf_iff_prefix, ih, List.infix_cons_iff]

theorem stripEnd?_append (text ending : Text) : stripEnd? ending (text ++ ending) = some text := by
  have suffix : ending.isSuffixOf (text ++ ending) = true :=
    List.isSuffixOf_iff_suffix.mpr (List.suffix_append text ending)
  simp [stripEnd?, suffix]

variable {needle : Text} {before : Text} {after : Text}

theorem splitOnce?_some
    (split : splitOnce? needle text = some (before, after)) : text = before ++ needle ++ after := by
  induction text generalizing before with
  | nil =>
    simp only [splitOnce?, List.isEmpty_iff, Option.ite_none_right_eq_some, Option.some.injEq,
      Prod.mk.injEq] at split
    obtain ⟨rfl, rfl, rfl⟩ := split
    rfl
  | cons c rest ih =>
    simp only [splitOnce?] at split
    split at split
    · rename_i starts
      obtain ⟨rfl, rfl⟩ := split
      obtain ⟨tail, same⟩ := List.isPrefixOf_iff_prefix.mp starts
      rw [← same]
      simp
    · simp only [Option.map_eq_some_iff, Prod.mk.injEq] at split
      obtain ⟨⟨front, back⟩, found, rfl, rfl⟩ := split
      rw [ih found]
      simp

theorem splitOnce?_none :
    splitOnce? needle text = none ↔ contains needle text = false := by
  induction text with
  | nil => cases needle <;> simp [splitOnce?, contains]
  | cons c rest ih =>
    simp only [splitOnce?, contains]
    split
    · rename_i starts
      simp [starts]
    · rename_i starts
      simp [starts, ih]

/-! ## First and last occurrences -/

/-- `str::rfind`: the text before the last occurrence and the text after it. -/
def rsplitOnce? (needle : Text) : Text → Option (Text × Text)
  | [] => if needle.isEmpty then some ([], []) else none
  | c :: rest =>
    match rsplitOnce? needle rest with
    | some parts => some (c :: parts.1, parts.2)
    | none =>
      if needle.isPrefixOf (c :: rest) then some ([], (c :: rest).drop needle.length) else none

theorem rsplitOnce?_none (absent : contains needle text = false) :
    rsplitOnce? needle text = none := by
  induction text with
  | nil =>
    simp only [contains] at absent
    simp [rsplitOnce?, absent]
  | cons c rest ih =>
    simp only [contains, Bool.or_eq_false_iff] at absent
    simp [rsplitOnce?, ih absent.2, absent.1]

theorem rsplitOnce?_last (filled : needle ≠ [])
    (absent : contains needle (needle ++ after).tail = false) (before : Text) :
    rsplitOnce? needle (before ++ (needle ++ after)) = some (before, after) := by
  induction before with
  | nil =>
    obtain ⟨c, rest, rfl⟩ := List.exists_cons_of_ne_nil filled
    have none := rsplitOnce?_none absent
    simp only [List.cons_append, List.tail_cons] at none
    simp [rsplitOnce?, none]
  | cons c before ih => rw [List.cons_append, rsplitOnce?, ih]

theorem contains_of_splitOnce? {parts : Text × Text} (split : splitOnce? needle text = some parts) :
    contains needle text = true := by
  by_contra absent
  rw [Bool.not_eq_true, ← splitOnce?_none, split] at absent
  contradiction

theorem splitOnce?_skip
    (absent : ∀ tail, tail <:+ before → tail ≠ [] → ¬ needle <+: tail ++ after) :
    splitOnce? needle (before ++ after) =
      (splitOnce? needle after).map fun parts => (before ++ parts.1, parts.2) := by
  induction before with
  | nil => simp
  | cons c before ih =>
    have starts : ¬ needle.isPrefixOf (c :: (before ++ after)) = true := by
      rw [List.isPrefixOf_iff_prefix]
      exact absent (c :: before) (List.suffix_refl _) (by simp)
    rw [List.cons_append, splitOnce?, if_neg starts,
      ih fun tail ends => absent tail (ends.trans (List.suffix_cons c before)), Option.map_map]
    rfl

/-- The pattern behind the text has no occurrence that starts in the text. -/
def First (needle before : Text) : Prop :=
  ∀ tail, tail <:+ before → tail ≠ [] → ¬ needle <+: tail ++ needle

theorem prefix_across_iff {tail : Text} :
    needle <+: tail ++ (needle ++ after) ↔ needle <+: tail ++ needle := by
  have front : tail ++ needle <+: tail ++ (needle ++ after) := ⟨after, by simp⟩
  exact ⟨fun starts => List.prefix_of_prefix_length_le starts front (by simp),
    fun starts => starts.trans front⟩

theorem First.splitOnce? (first : First needle before) (filled : needle ≠ []) (after : Text) :
    splitOnce? needle (before ++ (needle ++ after)) = some (before, after) := by
  rw [splitOnce?_skip fun tail ends long => prefix_across_iff.not.mpr (first tail ends long)]
  obtain ⟨c, rest, rfl⟩ := List.exists_cons_of_ne_nil filled
  simp [Text.splitOnce?]

theorem first_of_splitOnce? (filled : needle ≠ [])
    (split : splitOnce? needle text = some (before, after)) : First needle before := by
  induction text generalizing before with
  | nil => simp [Text.splitOnce?, filled] at split
  | cons c rest ih =>
    have whole := splitOnce?_some split
    simp only [Text.splitOnce?] at split
    split at split
    · obtain ⟨rfl, -⟩ := Prod.mk.inj (Option.some.inj split)
      exact fun tail ends long => absurd (List.suffix_nil.mp ends) long
    rename_i starts
    obtain ⟨⟨front, back⟩, found, same⟩ := Option.map_eq_some_iff.mp split
    obtain ⟨rfl, rfl⟩ := Prod.mk.inj same
    intro tail ends long
    rcases List.suffix_cons_iff.mp ends with rfl | inner
    · rw [List.isPrefixOf_iff_prefix, whole, List.append_assoc] at starts
      exact prefix_across_iff.not.mp starts
    · exact ih found tail inner long

theorem contains_before_splitOnce? (filled : needle ≠ [])
    (split : splitOnce? needle text = some (before, after)) : contains needle before = false := by
  rw [Bool.eq_false_iff, ne_eq, contains_iff]
  rintro ⟨front, back, whole⟩
  refine first_of_splitOnce? filled split (needle ++ back) ⟨front, ?_⟩ (by simp [filled])
    ⟨back ++ needle, by simp⟩
  rw [← whole, List.append_assoc]

theorem splitOnce?_append
    (split : splitOnce? needle text = some (before, after)) (rest : Text) (filled : needle ≠ []) :
    splitOnce? needle (text ++ rest) = some (before, after ++ rest) := by
  rw [splitOnce?_some split, List.append_assoc, List.append_assoc]
  exact (first_of_splitOnce? filled split).splitOnce? filled (after ++ rest)

theorem prefix_of_not_mem {c : Char} (absent : c ∉ needle)
    (starts : needle <+: before ++ c :: after) : needle <+: before := by
  have inside : needle.length ≤ before.length := by
    by_contra longer
    have bound : before.length < needle.length := by omega
    obtain ⟨rest, whole⟩ := starts
    have reached := congrArg (fun text => text[before.length]?) whole
    simp only [List.getElem?_append_left bound, List.getElem?_append_right (Nat.le_refl _),
      Nat.sub_self, List.getElem?_cons_zero] at reached
    exact absent (List.mem_of_getElem? reached)
  exact List.prefix_of_prefix_length_le starts (List.prefix_append before _) inside

theorem splitOnce?_behind {c : Char} (absent : c ∉ needle)
    (none : contains needle before = false) (after : Text) :
    splitOnce? needle (before ++ c :: after) =
      (splitOnce? needle after).map fun parts => (before ++ c :: parts.1, parts.2) := by
  have skipped := @splitOnce?_skip needle (before ++ [c]) after
  simp only [List.append_assoc, List.singleton_append] at skipped
  apply skipped
  intro tail ends long starts
  obtain rfl | ⟨inner, rfl, inside⟩ := List.suffix_concat_iff.mp ends
  · contradiction
  rw [List.append_assoc, List.singleton_append] at starts
  rw [Bool.eq_false_iff, ne_eq, contains_iff] at none
  exact none ((prefix_of_not_mem absent starts).isInfix.trans inside.isInfix)

/-! ## Patterns that end in a mark

The last character of the pattern occurs in it only there, so an occurrence is
settled by the text up to the mark it ends at.
-/

section Marked

variable {word : Text} {mark : Char}

theorem prefix_mark_iff (plain : mark ∉ word) :
    word ++ [mark] <+: before ++ mark :: after ↔ word ++ [mark] <+: before ++ [mark] := by
  have front : before ++ [mark] <+: before ++ mark :: after := ⟨after, by simp⟩
  refine ⟨fun starts => ?_, fun starts => starts.trans front⟩
  have inside := prefix_of_not_mem plain ((List.prefix_append word [mark]).trans starts)
  exact List.prefix_of_prefix_length_le starts front (by simpa using inside.length_le)

theorem contains_across_mark (plain : mark ∉ word) (before after : Text) :
    contains (word ++ [mark]) (before ++ mark :: after) =
      (contains (word ++ [mark]) (before ++ [mark]) || contains (word ++ [mark]) after) := by
  have starts : ∀ before, (word ++ [mark]).isPrefixOf (before ++ mark :: after) =
      (word ++ [mark]).isPrefixOf (before ++ [mark]) := by
    intro before
    rw [Bool.eq_iff_iff, List.isPrefixOf_iff_prefix, List.isPrefixOf_iff_prefix]
    exact prefix_mark_iff plain
  induction before with
  | nil =>
    have here := starts []
    simp only [List.nil_append] at here
    have filled : (word ++ [mark]).isEmpty = false := by simp
    simp [contains, here, filled]
  | cons c before ih =>
    have here := starts (c :: before)
    simp only [List.cons_append] at here
    simp [contains, here, ih, Bool.or_assoc]

theorem contains_marked (before : Text) :
    contains (word ++ [mark]) (before ++ [mark]) = true ↔
      contains (word ++ [mark]) before = true ∨ word <:+ before := by
  rw [contains_iff, contains_iff, List.infix_concat_iff, List.suffix_concat_iff]
  simp [or_comm]

theorem contains_unmarked (before : Text) {after : Text} (plain : mark ∉ after) :
    contains (word ++ [mark]) (before ++ after) = contains (word ++ [mark]) before := by
  induction after using List.reverseRecOn with
  | nil => simp
  | append_singleton after c ih =>
    rw [List.mem_append, not_or, List.mem_singleton] at plain
    rw [← ih plain.1, Bool.eq_iff_iff, contains_iff, contains_iff, ← List.append_assoc,
      List.infix_concat_iff, List.suffix_concat_iff]
    simp [plain.2]

theorem splitOnce?_marked (plain : mark ∉ word)
    (absent : contains (word ++ [mark]) before = false) (after : Text) :
    splitOnce? (word ++ [mark]) (before ++ (word ++ mark :: after)) = some (before, after) := by
  have first : First (word ++ [mark]) before := by
    intro tail ends long starts
    have shorter : word ++ [mark] <+: tail ++ word := by
      apply List.prefix_of_prefix_length_le starts ⟨[mark], by simp⟩
      have positive := List.length_pos_of_ne_nil long
      simp only [List.length_append, List.length_singleton]
      omega
    have inside := contains_iff.mpr shorter.isInfix
    rw [contains_unmarked tail plain, contains_iff] at inside
    rw [Bool.eq_false_iff, ne_eq, contains_iff] at absent
    exact absent (inside.trans ends.isInfix)
  have split := first.splitOnce? (by simp) after
  simpa using split

theorem splitOnce?_char (single : mark ∉ before) (after : Text) :
    splitOnce? [mark] (before ++ mark :: after) = some (before, after) := by
  have first : First [mark] before := by
    rintro (_ | ⟨c, tail⟩) ends long starts
    · contradiction
    · obtain rfl : mark = c := by simpa using starts
      exact single (ends.subset List.mem_cons_self)
  exact first.splitOnce? (by simp) after

theorem splitOnce?_across_mark (plain : mark ∉ word)
    (absent : contains (word ++ [mark]) (before ++ [mark]) = false) (after : Text) :
    splitOnce? (word ++ [mark]) (before ++ mark :: after) = (splitOnce? (word ++ [mark]) after).map
        fun parts => (before ++ mark :: parts.1, parts.2) := by
  have skipped := @splitOnce?_skip (word ++ [mark]) (before ++ [mark]) after
  simp only [List.append_assoc, List.singleton_append] at skipped
  apply skipped
  intro tail ends long starts
  obtain rfl | ⟨inner, rfl, -⟩ := List.suffix_concat_iff.mp ends
  · contradiction
  rw [List.append_assoc, List.singleton_append, prefix_mark_iff plain] at starts
  rw [Bool.eq_false_iff, ne_eq, contains_iff] at absent
  exact absent (starts.isInfix.trans ends.isInfix)

end Marked

end Text

end OpsEngine
