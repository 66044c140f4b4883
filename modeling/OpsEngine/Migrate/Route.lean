import OpsEngine.Data.Domain
import OpsEngine.Data.Words

namespace OpsEngine

/-! # Routes and the pools they name

`runtime_of_route` and `retarget_route` of `site_migrate_runtime`, and that the
second makes the first answer the new pool.
-/

namespace Migrate

open Text

/-- The pool one line of a route names, if it is a `reverse_proxy` line that
names one. -/
def runtimeOfLine (line : Text) : Option RuntimeId := do
  let rest ← stripStart? "reverse_proxy ".toList (trim line)
  let container := rest.takeWhile (· ≠ ':')
  let runtime ← stripStart? "runtime-".toList container
  (RuntimeId.parse runtime).toOption

def runtimeOfRoute (route : Text) : Option RuntimeId := (lines route).findSome? runtimeOfLine

def isProxyLine (line : Text) : Bool := "reverse_proxy ".toList.isPrefixOf (trimStart line)

/-- One line of `retarget_route`. -/
def retargetLine (target : RuntimeId) (line : Text) : Text :=
  let trimmed := trimStart line
  let indent := line.take (line.length - trimmed.length)
  if "reverse_proxy ".toList.isPrefixOf trimmed then
    let block := if (trimEnd line).getLast? = some '{' then " \x7b".toList else []
    indent ++ "reverse_proxy runtime-".toList ++ target.text ++ ":80".toList ++ block
  else if "header_up X-WCP-Runtime-ID ".toList.isPrefixOf trimmed then
    indent ++ "header_up X-WCP-Runtime-ID ".toList ++ target.text
  else if "log_append runtime_id ".toList.isPrefixOf trimmed then
    indent ++ "log_append runtime_id ".toList ++ target.text
  else line

def retargetRoute (route : Text) (target : RuntimeId) : Option Text :=
  if (lines route).any isProxyLine then
    some (joinLines ((lines route).map (retargetLine target)) ++
      if route.getLast? = some '\n' then ['\n'] else [])
  else none

theorem trim_chomp (line : Text) : trim (chomp line) = trim line := by
  unfold chomp
  split
  · rename_i ends
    obtain ⟨front, rfl⟩ := List.getLast?_eq_some_iff.mp ends
    have space : isWhitespace '\r' = true := by decide
    simp only [List.dropLast_concat, trim, trimStart, trimEnd]
    rw [List.dropWhile_append]
    split
    · rename_i blank
      simp [List.isEmpty_iff.mp blank, space]
    · simp [space]
  · rfl

theorem runtimeOfLine_chomp (line : Text) : runtimeOfLine (chomp line) = runtimeOfLine line := by
  simp only [runtimeOfLine, trim_chomp]

theorem runtimeOfLine_nil : runtimeOfLine [] = none := by decide

theorem indent_eq (line : Text) :
    line.take (line.length - (trimStart line).length) = line.takeWhile isWhitespace := by
  have split := List.takeWhile_append_dropWhile (p := isWhitespace) (l := line)
  have size := congrArg List.length split
  rw [List.length_append] at size
  have shorter : line.length - (trimStart line).length = (line.takeWhile isWhitespace).length := by
    unfold trimStart
    omega
  have taken : (line.takeWhile isWhitespace ++ line.dropWhile isWhitespace).take
      (line.takeWhile isWhitespace).length = line.takeWhile isWhitespace := List.take_left
  rw [shorter]
  rwa [split] at taken

def indent (line : Text) : Text := line.takeWhile isWhitespace

/-- How a line starts that `retarget_route` writes anew, and what then stands before the
runtime. -/
def keywords : List (Text × Text) :=
  [("reverse_proxy ".toList, "reverse_proxy runtime-".toList),
    ("header_up X-WCP-Runtime-ID ".toList, "header_up X-WCP-Runtime-ID ".toList),
    ("log_append runtime_id ".toList, "log_append runtime_id ".toList)]

def keyword? (trimmed : Text) : Option Text :=
  (keywords.find? (·.1.isPrefixOf trimmed)).map (·.2)

/-- What stands behind it. -/
def ending (line : Text) : Text :=
  if isProxyLine line then
    ":80".toList ++ if (trimEnd line).getLast? = some '{' then " \x7b".toList else []
  else []

theorem retargetLine_eq (target : RuntimeId) (line : Text) : retargetLine target line =
    match keyword? (trimStart line) with
    | some keyword => indent line ++ (keyword ++ (target.text ++ ending line))
    | none => line := by
  unfold retargetLine keyword? keywords ending isProxyLine
  dsimp only [List.find?]
  rw [indent_eq]
  cases "reverse_proxy ".toList.isPrefixOf (trimStart line) with
  | true => simp [indent]
  | false =>
  cases "header_up X-WCP-Runtime-ID ".toList.isPrefixOf (trimStart line) with
  | true => simp [indent]
  | false => cases "log_append runtime_id ".toList.isPrefixOf (trimStart line) <;> simp [indent]

theorem stripStart?_append (start rest : Text) : stripStart? start (start ++ rest) = some rest := by
  simp [stripStart?]

variable {line keyword : Text}

theorem runtimeOfLine_of_not (other : isProxyLine line = false) :
    runtimeOfLine line = none := by
  have shorter : trim line <+: trimStart line := List.rdropWhile_prefix _ _
  have missing : stripStart? "reverse_proxy ".toList (trim line) = none := by
    unfold stripStart?
    rw [if_neg]
    intro starts
    have longer := (List.isPrefixOf_iff_prefix.mp starts).trans shorter
    have found : isProxyLine line = true := List.isPrefixOf_iff_prefix.mpr longer
    rw [other] at found
    contradiction
  unfold runtimeOfLine
  rw [missing]
  rfl

theorem keyword?_append {trimmed : Text} (found : keyword? trimmed = some keyword) (rest : Text) :
    keyword? (keyword ++ rest) = some keyword ∧
      "reverse_proxy ".toList.isPrefixOf (keyword ++ rest) =
        "reverse_proxy ".toList.isPrefixOf trimmed ∧
      '\n' ∉ keyword ∧ ∃ first others, keyword = first :: others ∧ isWhitespace first = false := by
  unfold keyword? keywords at found
  dsimp only [List.find?] at found
  cases proxy : "reverse_proxy ".toList.isPrefixOf trimmed with
  | true =>
    rw [proxy] at found
    cases found
    exact ⟨rfl, rfl, by decide, _, _, rfl, by decide⟩
  | false =>
  cases header : "header_up X-WCP-Runtime-ID ".toList.isPrefixOf trimmed with
  | true =>
    rw [proxy, header] at found
    cases found
    exact ⟨rfl, rfl, by decide, _, _, rfl, by decide⟩
  | false =>
  cases log : "log_append runtime_id ".toList.isPrefixOf trimmed with
  | true =>
    rw [proxy, header, log] at found
    cases found
    exact ⟨rfl, rfl, by decide, _, _, rfl, by decide⟩
  | false =>
    rw [proxy, header, log] at found
    contradiction

theorem indent_keyword? (found : keyword? (trimStart line) = some keyword) (rest : Text) :
    trimStart (indent line ++ (keyword ++ rest)) = keyword ++ rest ∧
      indent (indent line ++ (keyword ++ rest)) = indent line := by
  obtain ⟨-, -, -, first, others, rfl, visible⟩ := keyword?_append found rest
  have blank : ∀ c ∈ indent line, isWhitespace c = true := fun c => List.mem_takeWhile_imp
  constructor
  · rw [trimStart, List.dropWhile_append_of_pos blank]
    simp [visible]
  · rw [indent, List.takeWhile_append_of_pos blank]
    simp [visible]

theorem isProxyLine_retargetLine (target : RuntimeId) (line : Text) :
    isProxyLine (retargetLine target line) = isProxyLine line := by
  rw [retargetLine_eq]
  cases found : keyword? (trimStart line) with
  | none => rfl
  | some keyword =>
    dsimp only
    rw [isProxyLine, (indent_keyword? found _).1, (keyword?_append found _).2.1, isProxyLine]

theorem isWhitespace_of_label {c : Char} (label : isLabelChar c = true) :
    isWhitespace c = false := by
  simp only [isLabelChar, Bool.or_eq_true, Bool.and_eq_true, decide_eq_true_eq, beq_iff_eq] at label
  rcases label with alphanum | rfl
  · apply isWhitespace_of_alphanum
    delta Char.isAlphanum Char.isAlpha Char.isLower Char.isDigit
    simp only [Bool.or_eq_true, Bool.and_eq_true, decide_eq_true_eq]
    exact .inl (alphanum.imp (fun lower => .inr lower) id)
  · decide

theorem retargeted_ends (target : RuntimeId) (line : Text) : ∃ body last,
    target.text ++ ending line = body ++ [last] ∧ isWhitespace last = false ∧
      (isProxyLine line = true → (last = '{' ↔ (trimEnd line).getLast? = some '{')) := by
  unfold ending
  split
  · split
    · exact ⟨target.text ++ ":80 ".toList, '{', by simp, by decide, by simp_all⟩
    · exact ⟨target.text ++ ":8".toList, '0', by simp, by decide, by simp_all⟩
  · rename_i other
    have filled : target.text ≠ [] := by
      have valid := target.valid
      intro empty
      simp [RuntimeId.acceptable, empty] at valid
    refine ⟨target.text.dropLast, target.text.getLast filled, ?_, ?_, fun proxy => absurd proxy other⟩
    · rw [List.append_nil, List.dropLast_append_getLast]
    · exact isWhitespace_of_label (target.label_of_mem (List.getLast_mem filled))

theorem trimEnd_retargeted (target : RuntimeId) (line before : Text) :
    trimEnd (before ++ (target.text ++ ending line)) = before ++ (target.text ++ ending line) := by
  obtain ⟨body, last, whole, visible, -⟩ := retargeted_ends target line
  rw [whole, ← List.append_assoc, trimEnd_solid visible]

theorem runtimeOfLine_retarget (proxy : isProxyLine line = true)
    (target : RuntimeId) : runtimeOfLine (retargetLine target line) = some target := by
  have found : keyword? (trimStart line) = some "reverse_proxy runtime-".toList := by
    rw [isProxyLine] at proxy
    rw [keyword?, keywords, List.find?, proxy]
    rfl
  obtain ⟨block, behind⟩ : ∃ block, ending line = ':' :: block := by
    rw [ending, if_pos proxy]
    exact ⟨_, rfl⟩
  have started : trim (retargetLine target line) =
      "reverse_proxy ".toList ++ ("runtime-".toList ++ target.text ++ ':' :: block) := by
    rw [retargetLine_eq, found]
    dsimp only
    rw [trim, (indent_keyword? found _).1, trimEnd_retargeted, behind, List.append_assoc]
    rfl
  have noColon : ∀ c ∈ "runtime-".toList ++ target.text, (decide (c ≠ ':')) = true := by
    intro c member
    rcases List.mem_append.mp member with literal | inside
    · have plain : ∀ c ∈ "runtime-".toList, decide (c ≠ ':') = true := by simp
      exact plain c literal
    have label := target.label_of_mem inside
    simp only [decide_eq_true_eq]
    intro same
    subst same
    revert label
    decide
  have container : ("runtime-".toList ++ target.text ++ ':' :: block).takeWhile
      (fun c => decide (c ≠ ':')) = "runtime-".toList ++ target.text := by
    rw [List.takeWhile_append_of_pos noColon]
    simp
  unfold runtimeOfLine
  rw [started, stripStart?_append]
  simp only [Option.bind_eq_bind, Option.bind_some]
  rw [container, stripStart?_append]
  simp [RuntimeId.parse_text, Except.toOption]

theorem retargetLine_single (single : '\n' ∉ line) (target : RuntimeId) :
    '\n' ∉ retargetLine target line := by
  have pool : '\n' ∉ target.text := by
    intro member
    have label := target.label_of_mem member
    revert label
    decide
  have front : '\n' ∉ indent line := fun member => single ((List.takeWhile_sublist _).subset member)
  have behind : '\n' ∉ ending line := by
    unfold ending
    split
    · split <;> decide
    · simp
  rw [retargetLine_eq]
  cases found : keyword? (trimStart line) with
  | none => exact single
  | some keyword =>
    have inside := (keyword?_append found []).2.2.1
    simp [pool, front, behind, inside]

/-- A retargeted route names the pool it was retargeted to. -/
theorem runtimeOfRoute_retarget {route updated : Text} {target : RuntimeId}
    (retargeted : retargetRoute route target = some updated) :
    runtimeOfRoute updated = some target := by
  unfold retargetRoute at retargeted
  split at retargeted
  · rename_i proxied
    cases retargeted
    have single : ∀ line ∈ (lines route).map (retargetLine target), '\n' ∉ line := by
      intro line member
      obtain ⟨old, inside, rfl⟩ := List.mem_map.mp member
      exact retargetLine_single (not_mem_lines route old inside) target
    have ends : (if route.getLast? = some '\n' then ['\n'] else []) = ([] : Text) ∨
        (if route.getLast? = some '\n' then ['\n'] else []) = ['\n'] := by
      split
      · exact .inr rfl
      · exact .inl rfl
    unfold runtimeOfRoute
    rw [findSome?_lines_join runtimeOfLine_chomp runtimeOfLine_nil single ends]
    -- The first `reverse_proxy` line is the first line that names a pool.
    generalize lines route = found at proxied
    induction found with
    | nil => simp at proxied
    | cons line others ih =>
      simp only [List.map_cons, List.findSome?_cons]
      cases proxy : isProxyLine line with
      | true => rw [runtimeOfLine_retarget proxy]
      | false =>
        rw [runtimeOfLine_of_not ((isProxyLine_retargetLine target line).trans proxy)]
        simp only [List.any_cons, proxy, Bool.false_or] at proxied
        exact ih proxied
  · contradiction

end Migrate

end OpsEngine
