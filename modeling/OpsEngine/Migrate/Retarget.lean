import OpsEngine.Migrate.Route

namespace OpsEngine

/-! # What retargeting a route leaves alone

`retarget_route` goes by how a line starts: it writes every `reverse_proxy` line anew, also
one with another upstream, and reads and joins lines without their carriage returns.
-/

theorem Domain.label_of_mem (domain : Domain) {c : Char} (member : c ∈ domain.text) :
    c = '.' ∨ isLabelChar c = true := by
  have valid := domain.valid
  simp only [Domain.acceptable, Bool.and_eq_true, List.all_eq_true] at valid
  have whole : ['.'].intercalate (domain.text.splitOn '.') = domain.text :=
    List.intercalate_splitOn '.'
  rw [← whole] at member
  rcases Text.mem_or_mem_of_mem_intercalate member with dot | ⟨label, inside, found⟩
  · exact .inl (List.mem_singleton.mp dot)
  · have fits := valid.2 label inside
    simp only [isLabel, Bool.and_eq_true, List.all_eq_true] at fits
    exact .inr (fits.2 c found)

namespace Migrate

open Text

/-- The line names the runtime in one of the ways a route does. -/
def namesRuntime (runtime : RuntimeId) (line : Text) : Bool :=
  runtimeOfLine line = some runtime ||
    trim line = "header_up X-WCP-Runtime-ID ".toList ++ runtime.text ||
    trim line = "log_append runtime_id ".toList ++ runtime.text

/-- `ingress_config`: the route of a created site. -/
def ingressConfig (domain : Domain) (runtime : RuntimeId) : Text :=
  unlines [domain.text ++ " \x7b".toList,
    "    import /etc/wcp/ingress.d/bans/*.caddy".toList,
    "    reverse_proxy runtime-".toList ++ runtime.text ++ ":80 \x7b".toList,
    "        header_up X-Request-ID \x7bhttp.request.uuid\x7d".toList,
    "        header_up X-WCP-Runtime-ID ".toList ++ runtime.text,
    "        header_down X-Request-ID \x7bhttp.request.uuid\x7d".toList,
    "    \x7d".toList,
    "    log_append request_id \x7bhttp.request.uuid\x7d".toList,
    "    log_append domain ".toList ++ domain.text,
    "    log_append runtime_id ".toList ++ runtime.text,
    "\x7d".toList]

/-- Retargeting the route changes only its runtime. -/
structure Retargets (route : Text) (runtime : RuntimeId) : Prop where
  named : ∀ target, ∃ updated, retargetRoute route target = some updated ∧
    runtimeOfRoute updated = some target
  framed : ∀ target updated, retargetRoute route target = some updated →
    List.Forall₂ (fun old new => namesRuntime runtime old = true ∨ new = old)
      (route.splitOn '\n') (updated.splitOn '\n')
  again : ∀ target later updated, retargetRoute route target = some updated →
    retargetRoute updated later = retargetRoute route later
  back : ∀ domain target updated, route = ingressConfig domain runtime →
    retargetRoute route target = some updated → retargetRoute updated runtime = some route

/-- Every line that is written anew, or ends in a carriage return before its line feed, names
the runtime. -/
def OnlyNames (route : Text) (runtime : RuntimeId) : Prop :=
  (∀ piece ∈ route.splitOn '\n',
    namesRuntime runtime piece = true ∨ keyword? (trimStart piece) = none) ∧
  ∀ piece ∈ (route.splitOn '\n').dropLast,
    namesRuntime runtime piece = true ∨ piece.getLast? ≠ some '\r'

/-! ## One line -/

variable {line keyword : Text} {runtime : RuntimeId}

theorem retargetLine_of_none (none : keyword? (trimStart line) = none) (target : RuntimeId) :
    retargetLine target line = line := by
  rw [retargetLine_eq, none]

theorem retargetLine_again (target later : RuntimeId) (line : Text) :
    retargetLine later (retargetLine target line) = retargetLine later line := by
  have kind := isProxyLine_retargetLine target line
  rw [retargetLine_eq target line] at kind ⊢
  cases found : keyword? (trimStart line) with
  | none => rfl
  | some keyword =>
  simp only [found] at kind ⊢
  have behind : ending (indent line ++ (keyword ++ (target.text ++ ending line))) =
      ending line := by
    obtain ⟨body, last, whole, visible, brace⟩ := retargeted_ends target line
    have ended : trimEnd (indent line ++ (keyword ++ (target.text ++ ending line))) =
        indent line ++ keyword ++ body ++ [last] := by
      rw [whole, ← List.append_assoc, ← List.append_assoc, trimEnd_solid visible]
    generalize indent line ++ (keyword ++ (target.text ++ ending line)) = written at kind ended ⊢
    unfold ending
    rw [kind, ended, List.getLast?_concat]
    split
    · rename_i proxied
      simp only [Option.some.injEq, brace proxied]
    · rfl
  obtain ⟨start, front⟩ := indent_keyword? found (target.text ++ ending line)
  rw [retargetLine_eq, retargetLine_eq, start, front, behind, (keyword?_append found _).1, found]

theorem chomp_retargetLine (found : keyword? (trimStart line) = some keyword)
    (target : RuntimeId) : chomp (retargetLine target line) = retargetLine target line := by
  obtain ⟨body, last, whole, visible, -⟩ := retargeted_ends target line
  have other : last ≠ '\r' := by
    rintro rfl
    exact absurd visible (by decide)
  rw [retargetLine_eq, found]
  simp [whole, chomp, other]

theorem fixed_of_all {whole : Text} (fixed : ∀ target, retargetLine target line = whole) :
    keyword? (trimStart line) = none ∧ line = whole := by
  cases found : keyword? (trimStart line) with
  | none => exact ⟨rfl, (retargetLine_of_none found ⟨['a'], by decide⟩).symm.trans (fixed _)⟩
  | some keyword =>
    have same := (fixed ⟨['a'], by decide⟩).trans (fixed ⟨['b'], by decide⟩).symm
    simp [retargetLine_eq, found] at same

theorem namesRuntime_chomp : namesRuntime runtime (chomp line) = namesRuntime runtime line := by
  simp only [namesRuntime, runtimeOfLine_chomp, trim_chomp]

theorem exists_keyword (names : namesRuntime runtime line = true) :
    ∃ keyword, keyword? (trimStart line) = some keyword := by
  have starts : ∀ {start rest : Text}, trim line = start ++ rest → start <+: trimStart line := by
    intro start rest same
    have shorter : trim line <+: trimStart line := List.rdropWhile_prefix _ _
    exact (List.prefix_append start rest).trans (same ▸ shorter)
  cases found : keyword? (trimStart line) with
  | some keyword => exact ⟨keyword, rfl⟩
  | none =>
  simp only [keyword?, Option.map_eq_none_iff, List.find?_eq_none, keywords, List.forall_mem_cons,
    List.isPrefixOf_iff_prefix] at found
  simp only [namesRuntime, Bool.or_eq_true, decide_eq_true_eq] at names
  rcases names with (proxied | header) | log
  · have other : isProxyLine line = false := by
      rw [isProxyLine, Bool.eq_false_iff, ne_eq, List.isPrefixOf_iff_prefix]
      exact found.1
    rw [runtimeOfLine_of_not other] at proxied
    contradiction
  · exact absurd (starts header) found.2.1
  · exact absurd (starts log) found.2.2.1

theorem ingressConfig_fixed (domain : Domain) (runtime : RuntimeId) :
    ∃ found, ingressConfig domain runtime = joinLines (found ++ [[]]) ∧
      ∀ line ∈ found, '\n' ∉ line ∧ retargetLine runtime (chomp line) = line := by
  have plain : ∀ c, isLabelChar c = false → c ≠ '.' → c ∉ domain.text ∧ c ∉ runtime.text := by
    intro c other dot
    refine ⟨fun member => ?_, fun member => ?_⟩
    · rcases domain.label_of_mem member with same | label
      · exact dot same
      · simp [other] at label
    · simp [runtime.label_of_mem member] at other
  have feed := plain '\n' (by decide) (by decide)
  have back := plain '\r' (by decide) (by decide)
  refine ⟨_, ((joinLines_concat _ _).trans (List.append_nil _)).symm, fun line member => ?_⟩
  have clean : '\r' ∉ line ∧ '\n' ∉ line := by
    simp only [List.mem_cons, List.not_mem_nil, or_false] at member
    rcases member with rfl | rfl | rfl | rfl | rfl | rfl | rfl | rfl | rfl | rfl | rfl <;>
      simp [back, feed]
  refine ⟨clean.2, ?_⟩
  rw [chomp_of_not_mem clean.1]
  have site : keyword? (trimStart (domain.text ++ " \x7b".toList)) = none := by
    -- No keyword is without an underscore.
    have absent : '_' ∉ trimStart (domain.text ++ " \x7b".toList) := fun member => by
      have inside := (List.dropWhile_sublist _).subset member
      simp [(plain '_' (by decide) (by decide)).1] at inside
    simp only [keyword?, Option.map_eq_none_iff, List.find?_eq_none, List.isPrefixOf_iff_prefix]
    have under : ∀ pair ∈ keywords, '_' ∈ pair.1 := by decide
    exact fun pair member starts => absent (starts.subset (under pair member))
  have brace : trimEnd ("    reverse_proxy runtime-".toList ++ runtime.text ++ ":80 \x7b".toList) =
      "    reverse_proxy runtime-".toList ++ runtime.text ++ ":80 ".toList ++ ['{'] := by
    rw [← trimEnd_solid (show isWhitespace '{' = false by decide), List.append_assoc _ _ ['{']]
    rfl
  have proxy : retargetLine runtime
      ("    reverse_proxy runtime-".toList ++ runtime.text ++ ":80 \x7b".toList) =
      "    reverse_proxy runtime-".toList ++ runtime.text ++ ":80 \x7b".toList := by
    rw [retargetLine_eq, ending, brace, List.getLast?_concat, if_pos rfl]
    rfl
  have header : retargetLine runtime ("        header_up X-WCP-Runtime-ID ".toList ++ runtime.text) =
      "        header_up X-WCP-Runtime-ID ".toList ++ runtime.text := by
    rw [retargetLine_eq]
    exact congrArg ("        header_up X-WCP-Runtime-ID ".toList ++ ·) (List.append_nil _)
  have log : retargetLine runtime ("    log_append runtime_id ".toList ++ runtime.text) =
      "    log_append runtime_id ".toList ++ runtime.text := by
    rw [retargetLine_eq]
    exact congrArg ("    log_append runtime_id ".toList ++ ·) (List.append_nil _)
  simp only [List.mem_cons, List.not_mem_nil, or_false] at member
  rcases member with rfl | rfl | rfl | rfl | rfl | rfl | rfl | rfl | rfl | rfl | rfl
  · exact retargetLine_of_none site runtime
  · rfl
  · exact proxy
  · rfl
  · exact header
  · rfl
  · rfl
  · rfl
  · rfl
  · exact log
  · rfl

/-! ## Whole routes -/

section Pieces

variable {front : List Text} {last : Text} (single : ∀ piece ∈ front ++ [last], '\n' ∉ piece)
  (named : runtimeOfRoute (joinLines (front ++ [last])) = some runtime)

/-- What `retarget_route` makes of the text between the line feeds. -/
def retargetPieces (target : RuntimeId) (front : List Text) (last : Text) : List Text :=
  front.map (fun piece => retargetLine target (chomp piece)) ++ [retargetLine target last]

include single named in
theorem retargetRoute_pieces (target : RuntimeId) :
    retargetRoute (joinLines (front ++ [last])) target =
      some (joinLines (retargetPieces target front last)) := by
  have proxied : (lines (joinLines (front ++ [last]))).any isProxyLine = true := by
    obtain ⟨line, member, found⟩ := List.exists_of_findSome?_eq_some named
    refine List.any_eq_true.mpr ⟨line, member, ?_⟩
    by_contra other
    rw [Bool.not_eq_true] at other
    rw [runtimeOfLine_of_not other] at found
    contradiction
  rw [retargetRoute, if_pos proxied, rejoin_map single]
  cases last <;> rfl

include single in
theorem feedless_retarget (target : RuntimeId) :
    ∀ line ∈ retargetPieces target front last, '\n' ∉ line := by
  intro line member
  rcases List.mem_append.mp member with inside | same
  · obtain ⟨piece, held, rfl⟩ := List.mem_map.mp inside
    exact retargetLine_single
      (fun feed => single piece (by simp [held]) ((chomp_isPrefix piece).subset feed)) target
  · rw [List.mem_singleton.mp same]
    exact retargetLine_single (single last (by simp)) target

include single named in
theorem framed_iff (target : RuntimeId) :
    (∀ updated, retargetRoute (joinLines (front ++ [last])) target = some updated →
      List.Forall₂ (fun old new => namesRuntime runtime old = true ∨ new = old)
        (front ++ [last]) (updated.splitOn '\n')) ↔
      (∀ piece ∈ front, namesRuntime runtime piece = true ∨
        retargetLine target (chomp piece) = piece) ∧
      (namesRuntime runtime last = true ∨ retargetLine target last = last) := by
  have split := List.splitOn_intercalate '\n' (feedless_retarget single target)
    (by simp [retargetPieces])
  rw [← joinLines] at split
  simp only [retargetRoute_pieces single named, Option.some.injEq, forall_eq', split]
  exact forall₂_concat_map

include single named in
theorem retarget_again (only : ∀ piece ∈ front,
      namesRuntime runtime piece = true ∨ chomp (chomp piece) = chomp piece)
    {target later : RuntimeId} {updated : Text}
    (same : retargetRoute (joinLines (front ++ [last])) target = some updated) :
    retargetRoute updated later = retargetRoute (joinLines (front ++ [last])) later := by
  have renamed := runtimeOfRoute_retarget same
  have feeds := feedless_retarget single target
  rw [retargetRoute_pieces single named, Option.some.injEq] at same
  subst same
  rw [retargetPieces] at feeds renamed ⊢
  rw [retargetRoute_pieces feeds renamed, retargetRoute_pieces single named]
  simp only [retargetPieces, List.map_map, retargetLine_again]
  congr 3
  apply List.map_congr_left
  intro piece member
  dsimp only [Function.comp]
  cases found : keyword? (trimStart (chomp piece)) with
  | some keyword => rw [chomp_retargetLine found, retargetLine_again]
  | none =>
    rcases only piece member with names | once
    · rw [namesRuntime_chomp.symm] at names
      obtain ⟨keyword, other⟩ := exists_keyword names
      simp [found] at other
    · rw [retargetLine_of_none found, once]

end Pieces

variable {route : Text} (named : runtimeOfRoute route = some runtime)

include named in
theorem onlyNames_of_retargets (retargets : Retargets route runtime) :
    OnlyNames route runtime := by
  obtain ⟨front, last, pieces, rfl, single⟩ := exists_pieces route
  have framed := retargets.framed
  rw [pieces] at framed
  have changes := fun target => (framed_iff single named target).mp (framed target)
  rw [OnlyNames, pieces, List.dropLast_concat]
  have each : ∀ piece ∈ front, namesRuntime runtime piece = true ∨
      keyword? (trimStart piece) = none ∧ piece.getLast? ≠ some '\r' := by
    intro piece member
    refine or_iff_not_imp_left.mpr fun other => ?_
    obtain ⟨none, same⟩ := fixed_of_all fun target =>
      ((changes target).1 piece member).resolve_left other
    refine ⟨same ▸ none, fun ends => ?_⟩
    obtain ⟨body, rfl⟩ := List.getLast?_eq_some_iff.mp ends
    simp [chomp] at same
  refine ⟨fun piece member => ?_, fun piece member => (each piece member).imp_right And.right⟩
  rcases List.mem_append.mp member with inside | same
  · exact (each piece inside).imp_right And.left
  · rw [List.mem_singleton.mp same]
    exact or_iff_not_imp_left.mpr fun other =>
      (fixed_of_all fun target => (changes target).2.resolve_left other).1

theorem retarget_only_runtime_iff (route : Text) (runtime : RuntimeId)
    (named : runtimeOfRoute route = some runtime) :
    Retargets route runtime ↔ OnlyNames route runtime := by
  refine ⟨onlyNames_of_retargets named, fun ⟨only, feeds⟩ => ?_⟩
  obtain ⟨front, last, pieces, rfl, single⟩ := exists_pieces route
  rw [pieces] at only feeds
  rw [List.dropLast_concat] at feeds
  have plain : ∀ piece ∈ front, namesRuntime runtime piece = true ∨ chomp piece = piece :=
    fun piece member => (feeds piece member).imp_right fun other => by rw [chomp, if_neg other]
  have again := @retarget_again runtime front last single named fun piece member =>
    (plain piece member).imp_right (congrArg chomp)
  have retargeted := retargetRoute_pieces single named
  refine ⟨fun target => ⟨_, retargeted target, runtimeOfRoute_retarget (retargeted target)⟩, ?_,
    fun _ _ _ same => again same, ?_⟩
  · intro target
    rw [pieces]
    refine (framed_iff single named target).mpr ⟨fun piece member => ?_, ?_⟩
    · rcases only piece (by simp [member]) with names | none
      · exact .inl names
      · exact (plain piece member).imp_right fun same => by rw [same, retargetLine_of_none none]
    · exact (only last (by simp)).imp_right fun none => retargetLine_of_none none target
  · intro domain target updated generated same
    obtain ⟨found, config, fixed⟩ := ingressConfig_fixed domain runtime
    rw [again same, generated, config]
    rw [generated, config] at named
    have feeds : ∀ line ∈ found ++ [[]], '\n' ∉ line := by
      intro line member
      rcases List.mem_append.mp member with inside | same
      · exact (fixed line inside).1
      · simp [List.mem_singleton.mp same]
    rw [retargetRoute_pieces feeds named, retargetPieces,
      List.map_congr_left fun line member => (fixed line member).2, List.map_id']
    rfl

def php : RuntimeId := ⟨"php".toList, by decide⟩

def oneUpstream : Text := "a.test \x7b\n    reverse_proxy runtime-php:80\n\x7d\n".toList

theorem one_upstream_retargets :
    runtimeOfRoute oneUpstream = some php ∧ Retargets oneUpstream php := by
  have named : runtimeOfRoute oneUpstream = some php := by decide +kernel
  refine ⟨named, (retarget_only_runtime_iff _ _ named).mpr ?_⟩
  unfold OnlyNames
  decide +kernel

def twoUpstreams : Text :=
  "a.test \x7b\n    reverse_proxy runtime-php:80\n    reverse_proxy /ws 127.0.0.1:9000\n\x7d\n".toList

/-- The upstream of the web sockets becomes the runtime. -/
theorem second_upstream_retargeted :
    runtimeOfRoute twoUpstreams = some php ∧ ¬ Retargets twoUpstreams php := by
  have named : runtimeOfRoute twoUpstreams = some php := by decide +kernel
  refine ⟨named, fun retargets => ?_⟩
  have only := onlyNames_of_retargets named retargets
  unfold OnlyNames at only
  revert only
  decide +kernel

end Migrate

end OpsEngine
