import OpsEngine.Data.Words

namespace OpsEngine.Swap

open Text

/-! # The swap entry of `/etc/fstab`

The engine owns the entries of one path.  Every other line of the file belongs to
someone else.
-/

/-- The path of the swap file: one word, and not the start of a comment. -/
structure SwapPath where
  text : Text
  solid : Solid text
  plain : text.head? ≠ some '#'

def swapPath : SwapPath :=
  ⟨"/swapfile".toList, solid_of_all (by decide) (by decide), by decide⟩

variable (path : SwapPath)

def isSwapEntry (line : Text) : Bool :=
  let trimmed := trimStart line
  if trimmed.head? = some '#' then false
  else
    let fields := splitWhitespace trimmed
    decide (fields[0]? = some path.text ∧ fields[2]? = some "swap".toList)

def entryLine : Text := joinWords [path.text, "none".toList, "swap".toList, "sw".toList,
  "0".toList, "0".toList]

/-- `none` when the entry is already present. -/
def withEntry (fstab : Text) : Option Text :=
  if (lines fstab).any (isSwapEntry path) then none
  else some (terminated fstab ++ (entryLine path ++ ['\n']))

/-- `none` when there is no entry to remove. -/
def withoutEntry (fstab : Text) : Option Text :=
  let kept := ((splitInclusive fstab).filter fun line => !isSwapEntry path line).flatten
  if kept.length ≠ fstab.length then some kept else none

/-! ## What the edits do -/

/-- A boot looks for the swap file. -/
def hasEntry (fstab : Text) : Bool := (segments '\n' fstab).any (isSwapEntry path)

/-- The lines that are not the engine's. -/
def otherLines (fstab : Text) : List Text :=
  (segments '\n' fstab).filter fun line => !isSwapEntry path line

variable {path}

theorem head?_trimStart_blank (line : Text) {space : Char} (blank : isWhitespace space = true) :
    (trimStart (line ++ [space])).head? = (trimStart line).head? := by
  rw [trimStart, List.dropWhile_append]
  split
  · rename_i empty
    have none : line.dropWhile isWhitespace = [] := by simpa using empty
    simp [trimStart, none, blank]
  · rename_i filled
    obtain ⟨c, rest, same⟩ := List.exists_cons_of_ne_nil
      (show line.dropWhile isWhitespace ≠ [] by simpa using filled)
    simp [trimStart, same]

theorem splitWhitespace_trimStart (line : Text) :
    splitWhitespace (trimStart line) = splitWhitespace line := by
  have whole : line.takeWhile isWhitespace ++ trimStart line = line := List.takeWhile_append_dropWhile
  have blank : Blank (line.takeWhile isWhitespace) :=
    fun c member => List.mem_takeWhile_imp member
  conv_rhs => rw [← whole]
  rw [splitWhitespace_blank_append blank]

theorem isSwapEntry_blank (line : Text) {space : Char} (blank : isWhitespace space = true) :
    isSwapEntry path (line ++ [space]) = isSwapEntry path line := by
  have blanks : Blank [space] := by
    intro c member
    rw [List.mem_singleton.mp member, blank]
  rw [isSwapEntry, isSwapEntry, head?_trimStart_blank line blank, splitWhitespace_trimStart,
    splitWhitespace_trimStart, splitWhitespace_append_blank line blanks]

theorem isSwapEntry_feed (line : Text) : isSwapEntry path
    (line ++ ['\n']) = isSwapEntry path line :=
  isSwapEntry_blank line (by decide)

theorem not_isSwapEntry_feed (line : Text) :
    (!isSwapEntry path (line ++ ['\n'])) = !isSwapEntry path line := by
  rw [isSwapEntry_feed]

theorem isSwapEntry_chomp (line : Text) : isSwapEntry path (chomp line) = isSwapEntry path line := by
  rw [chomp]
  split
  · rename_i last
    obtain ⟨body, rfl⟩ : ∃ body, line = body ++ ['\r'] := ⟨_, (List.dropLast_append_getLast? _ last).symm⟩
    rw [List.dropLast_concat, isSwapEntry_blank body (by decide)]
  · rfl

theorem any_entry (fstab : Text) : (lines fstab).any (isSwapEntry path) = hasEntry path fstab :=
  any_lines (isSwapEntry_chomp) fstab

theorem solid_fields : ∀ word ∈ [path.text, "none".toList, "swap".toList, "sw".toList, "0".toList,
    "0".toList], Solid word := by
  simp only [List.forall_mem_cons, List.not_mem_nil, false_imp_iff, implies_true, and_true]
  have zero : Solid "0".toList := solid_of_all (by decide) (by decide)
  exact ⟨path.solid, solid_of_all (by decide) (by decide), solid_of_all (by decide) (by decide),
    solid_of_all (by decide) (by decide), zero, zero⟩

theorem isSwapEntry_entryLine : isSwapEntry path (entryLine path) = true := by
  obtain ⟨c, rest, same⟩ := List.exists_cons_of_ne_nil path.solid.1
  have first : isWhitespace c = false := path.solid.2 c (by simp [same])
  have starts : ∃ later, entryLine path = c :: later := by
    rw [entryLine, joinWords_cons, same]
    exact ⟨_, rfl⟩
  obtain ⟨later, whole⟩ := starts
  have kept : trimStart (entryLine path) = entryLine path := by
    rw [whole, trimStart, List.dropWhile_cons_of_neg (by simp [first])]
  have mark : (entryLine path).head? ≠ some '#' := by
    rw [whole]
    intro found
    exact path.plain (by rw [same]; exact found)
  rw [isSwapEntry, kept, if_neg mark, entryLine, splitWhitespace_joinWords (solid_fields)]
  simp

theorem single_entryLine : '\n' ∉ entryLine path := by
  intro member
  rcases mem_or_mem_of_mem_intercalate member with space | ⟨word, found, inside⟩
  · revert space
    decide
  · have solid := (solid_fields word found).2 '\n' inside
    revert solid
    decide

theorem segments_withEntry {fstab updated : Text} (written : withEntry path fstab = some updated) :
    segments '\n' updated = segments '\n' fstab ++ [entryLine path] := by
  rw [withEntry] at written
  split at written
  · contradiction
  obtain rfl := Option.some.inj written
  have whole : terminated fstab ++ (entryLine path ++ ['\n']) =
      unlines (segments '\n' fstab ++ [entryLine path]) := by
    rw [unlines_append, terminated_eq_unlines]
    simp
  rw [whole, unlines, segments_flatMap]
  intro line member
  rcases List.mem_append.mp member with inside | last
  · exact not_mem_segments '\n' fstab line inside
  · rw [List.mem_singleton.mp last]
    exact single_entryLine

theorem withEntry_none_iff {fstab : Text} :
    withEntry path fstab = none ↔ hasEntry path fstab = true := by
  rw [withEntry, any_entry]
  cases hasEntry path fstab <;> simp

theorem withEntry_spec {fstab updated : Text} (written : withEntry path fstab = some updated) :
    hasEntry path updated = true ∧ otherLines path updated = otherLines path fstab := by
  have whole := segments_withEntry written
  constructor
  · simp [hasEntry, whole, isSwapEntry_entryLine]
  · simp [otherLines, whole, isSwapEntry_entryLine]

theorem withoutEntry_none_iff {fstab : Text} :
    withoutEntry path fstab = none ↔ hasEntry path fstab = false := by
  have lengths :=
    @length_filter_inclusive (fun line => !isSwapEntry path line) (not_isSwapEntry_feed) fstab |>.2
  have every : (segments '\n' fstab).all (fun line => !isSwapEntry path line) = true ↔
      hasEntry path fstab = false := by
    simp [hasEntry]
  rw [← every, ← lengths, withoutEntry]
  simp

theorem withoutEntry_spec {fstab pruned : Text} (written : withoutEntry path fstab = some pruned) :
    hasEntry path pruned = false ∧ otherLines path pruned = otherLines path fstab := by
  simp only [withoutEntry, Option.ite_none_right_eq_some, Option.some.injEq] at written
  obtain ⟨-, rfl⟩ := written
  have kept := @segments_filter_inclusive (fun line => !isSwapEntry path line)
    (not_isSwapEntry_feed) fstab
  constructor
  · simp [hasEntry, kept]
  · simp [otherLines, kept]

theorem withoutEntry_appended {fstab : Text} (absent : hasEntry path fstab = false) :
    withoutEntry path (terminated fstab ++ (entryLine path ++ ['\n'])) = some (terminated fstab) := by
  have single : ∀ line ∈ segments '\n' fstab ++ [entryLine path], '\n' ∉ line := by
    simpa [or_imp, forall_and, single_entryLine] using not_mem_segments '\n' fstab
  have others : (segments '\n' fstab).filter (fun line => !isSwapEntry path line) =
      segments '\n' fstab := by
    simpa [hasEntry] using absent
  have kept := @filter_inclusive_unlines _ (!isSwapEntry path ·) not_isSwapEntry_feed single
  rw [List.filter_append, others, unlines_append, unlines_append, ← terminated_eq_unlines] at kept
  simp only [isSwapEntry_entryLine, List.filter_cons, List.filter_nil, unlines_cons, unlines_nil,
    Bool.not_true, Bool.false_eq_true, if_false, List.append_nil] at kept
  simp [withoutEntry, kept, -List.length_flatten]

/-- An entry is added exactly where a boot finds none, and taking it out again leaves the
file as it was, with its last line ended. -/
theorem withoutEntry_withEntry (path : SwapPath) (fstab : Text) :
    (withEntry path fstab = none ↔ hasEntry path fstab = true) ∧
      ∀ written, withEntry path fstab = some written →
        withoutEntry path written = some (terminated fstab) := by
  refine ⟨withEntry_none_iff, fun written added => ?_⟩
  have absent : hasEntry path fstab = false := by
    by_contra present
    rw [withEntry_none_iff.mpr (by simpa using present)] at added
    contradiction
  rw [withEntry, any_entry, absent] at added
  obtain rfl := Option.some.inj added
  exact withoutEntry_appended absent

end OpsEngine.Swap
