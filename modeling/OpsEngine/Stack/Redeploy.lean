import OpsEngine.Stack.Environment

namespace OpsEngine.Stack

open Text

/-! # Deploying over an environment that is there

A deployment reads the `.env` it finds as text and line by line, so bytes that are
no text and carriage returns are lost, and it appends every assignment of a key the
file does not have, but replaces each of them by the last one from then on.
-/

/-- Whether a line assigns no key that `incoming` assigns. -/
def Untouched (incoming line : Text) : Prop :=
  (envLineKey line).bind (envLine incoming) = none

def held (previous : Option Contents) (key : Text) : Option Text :=
  previous.bind fun existing => envValue (fromUtf8Lossy existing) key

/-- The file as it stands, line by line. -/
def fileLines (contents : Contents) : List Contents := segments (.char '\n') contents

/-- The `.env` after one more deployment; one that is refused leaves it. -/
def redeploy (env : Text) (request : Request × (Text → Secret)) : Text :=
  match deployEnv request.2 (some (ofText env)) request.1 with
  | .ok (next, _) => next
  | .error _ => env

/-- What a deployment that installed `env` and drew secrets for `generated`
promises about the values and the lines that were there. -/
structure Preserved (previous : Option Contents) (req : Request) (env : Text)
    (generated : List Text) : Prop where
  values : ∀ key, key ∉ generated → envValue env key =
    if (envLine req.env key).isSome then envValue req.env key else held previous key
  lines : ∀ existing, previous = some existing → ∀ (index : Nat) (line : Contents),
    (fileLines existing)[index]? = some line → Untouched req.env (fromUtf8Lossy line) →
      (fileLines (ofText env))[index]? = some line
  secrets : ∀ key ∈ req.generateEnvKeys, envLine req.env key = none → ∀ value, value ≠ [] →
    held previous key = some value → ∀ later : List (Request × (Text → Secret)),
      (∀ request ∈ later, envLine request.1.env key = none) →
        envValue (later.foldl redeploy env) key = some value
  stable : ∀ secret, deployEnv secret (some (ofText env)) req = .ok (env, [])

/-- The files a request can be deployed over without a loss. -/
structure Mergeable (previous : Option Contents) (req : Request) : Prop where
  /-- the lines that stay are text and end in no carriage return -/
  plain : ∀ existing, previous = some existing → ∀ line ∈ fileLines existing,
    Untouched req.env (fromUtf8Lossy line) →
      (∀ bytes, .undecodable bytes ∉ line) ∧ line.getLast? ≠ some (.char '\r')
  /-- a key that is new is assigned by one line only, or by equal ones -/
  once : ∀ line ∈ Text.lines req.env, ∀ key, envLineKey line = some key →
    held previous key = none → envLine req.env key = some line
  /-- a file that is installed as it was sent ends in a line feed -/
  ended : previous = none → req.env = [] ∨ req.env.getLast? = some '\n' ∨
    ∃ key ∈ req.generateEnvKeys, blank req.env key = true
  /-- no secret is asked for under a key that is assigned nothing -/
  filled : ∀ key ∈ req.generateEnvKeys, envValue req.env key ≠ some []

/-! ## The lines of the installed file -/

theorem map_eq_self {α : Type} {change : α → α} {found : List α} :
    found.map change = found ↔ ∀ element ∈ found, change element = element := by
  have same := List.map_inj_left (l := found) (f := change) (g := id)
  simpa using same

theorem Request.not_mem_env (req : Request) : '\r' ∉ req.env := by
  have valid := req.envValid
  simp only [envFileIsValid, Bool.and_eq_true, Bool.not_eq_true', decide_eq_false_iff_not] at valid
  exact valid.1

theorem Request.generate_valid (req : Request) :
    ∀ key ∈ req.generateEnvKeys, envKeyIsValid key = true := by
  intro key member
  exact List.all_eq_true.mp req.keysValid key (List.mem_append_left _ member)

theorem Request.chomp_line (req : Request) : ∀ line ∈ Text.lines req.env, chomp line = line :=
  chomp_of_mem_lines req.not_mem_env

def baseLines (previous : Option Contents) (incoming : Text) : List Text :=
  match previous with
  | some existing => mergedLines (fromUtf8Lossy existing) incoming
  | none => Text.lines incoming

section

variable (previous : Option Contents)
include previous

theorem not_mem_baseLines (incoming : Text) :
    ∀ line ∈ baseLines previous incoming, '\n' ∉ line := by
  cases previous with
  | none => exact not_mem_lines incoming
  | some existing => exact not_mem_mergedLines (fromUtf8Lossy existing) incoming

theorem terminated_mergedEnv (req : Request) :
    terminated (mergedEnv previous req.env) = unlines (baseLines previous req.env) := by
  cases previous with
  | none =>
    rw [mergedEnv, terminated_eq_unlines, ← lines_eq_segments req.not_mem_env]
    rfl
  | some existing => exact terminated_unlines _

theorem lines_mergedEnv (req : Request) :
    Text.lines (mergedEnv previous req.env) = (baseLines previous req.env).map chomp := by
  cases previous with
  | none => exact (map_eq_self.mpr req.chomp_line).symm
  | some existing => exact lines_unlines (not_mem_mergedLines _ _)

theorem ended_mergedEnv (req : Request) :
    Ended (mergedEnv previous req.env) := by
  rw [Ended, terminated_mergedEnv, lines_mergedEnv, lines_unlines (not_mem_baseLines _ _)]

theorem lastAssigning_baseLines (incoming key : Text) :
    lastAssigning (baseLines previous incoming) key = (envLine incoming key).or
      (previous.bind fun existing => envLine (fromUtf8Lossy existing) key) := by
  cases previous with
  | none => simp [baseLines, envLine]
  | some existing => rw [baseLines, lastAssigning_mergedLines, Option.bind_some]

theorem envLine_mergedEnv (req : Request) (key : Text) :
    envLine (mergedEnv previous req.env) key = ((envLine req.env key).or
      (previous.bind fun existing => envLine (fromUtf8Lossy existing) key)).map chomp := by
  rw [envLine, lines_mergedEnv, lastAssigning_map fun line _ => envLineKey_chomp line,
    lastAssigning_baseLines]

end

variable {previous : Option Contents}

theorem deployEnv_eq_ok {secret : Text → Secret} {req : Request}
    {env : Text} {generated : List Text} :
    deployEnv secret previous req = .ok (env, generated) ↔
      generateMissingEnvKeys secret req.generateEnvKeys (mergedEnv previous req.env) =
          (env, generated) ∧ ∀ key ∈ req.requireEnvKeys, blank env key = false := by
  simp only [deployEnv, List.isEmpty_iff, missingEnvValues_eq_nil]
  split
  · rename_i filled
    simp only [Except.ok.injEq]
    constructor
    · intro same
      exact ⟨same, by simpa [same] using filled⟩
    · intro both
      exact both.1
  · rename_i missing
    simp only [reduceCtorEq, false_iff, not_and]
    intro same filled
    exact missing (by simpa [same] using filled)

variable {key : Text}

section Deployed

variable {secret : Text → Secret} {previous : Option Contents} {req : Request} {env : Text}
  {generated : List Text}

/-- Every line a deployment wrote. -/
def wholeLines (secret : Text → Secret) (previous : Option Contents) (incoming : Text)
    (generated : List Text) : List Text :=
  baseLines previous incoming ++ generated.map fun key => generatedLine key (secret key)

variable (deployed : deployEnv secret previous req = .ok (env, generated))
include deployed

theorem generated_of_deployed : generateMissingEnvKeys secret req.generateEnvKeys
    (mergedEnv previous req.env) = (env, generated) := (deployEnv_eq_ok.mp deployed).1

theorem blank_of_deployed : ∀ key ∈ generated,
    key ∈ req.generateEnvKeys ∧ blank (mergedEnv previous req.env) key = true := by
  intro key member
  apply blank_of_generated req.generate_valid (ended_mergedEnv previous req) key
  rwa [generated_of_deployed deployed]

theorem valid_of_deployed : ∀ key ∈ generated, envKeyIsValid key = true := fun key member =>
  req.generate_valid key (blank_of_deployed deployed key member).1

theorem filled_of_deployed : ∀ key ∈ req.generateEnvKeys, blank env key = false := by
  intro key member
  have filled : blank (generateMissingEnvKeys secret req.generateEnvKeys
      (mergedEnv previous req.env)).1 key = false :=
    filled_of_generated req.generate_valid (ended_mergedEnv previous req) key (.inl member)
  rwa [generated_of_deployed deployed] at filled

theorem lines_of_deployed : Text.lines env =
    (baseLines previous req.env).map chomp ++ generated.map fun key =>
      generatedLine key (secret key) := by
  have drawn := generated_of_deployed deployed
  have whole := lines_generateMissingEnvKeys secret req.generate_valid
    (ended_mergedEnv previous req)
  rwa [drawn, lines_mergedEnv] at whole

theorem lines_eq_map_chomp : Text.lines env =
    (wholeLines secret previous req.env generated).map chomp := by
  rw [lines_of_deployed deployed, wholeLines, List.map_append, List.map_map]
  simp [Function.comp_def, chomp_generatedLine]

theorem not_mem_wholeLines : ∀ line ∈ wholeLines secret previous req.env generated,
    '\n' ∉ line := by
  intro line member
  rcases List.mem_append.mp member with base | drawn
  · exact not_mem_baseLines previous req.env line base
  · obtain ⟨key, inside, rfl⟩ := List.mem_map.mp drawn
    exact not_mem_generatedLine (valid_of_deployed deployed key inside) (secret key)

theorem env_eq_ite : env = if generated = [] then mergedEnv previous req.env
    else unlines (wholeLines secret previous req.env generated) := by
  have drawn := generated_of_deployed deployed
  have whole := generateMissingEnvKeys_fst secret req.generateEnvKeys
    (mergedEnv previous req.env)
  rw [drawn, terminated_mergedEnv, ← unlines_append] at whole
  exact whole

theorem terminated_of_deployed : terminated env =
    unlines (wholeLines secret previous req.env generated) := by
  rw [env_eq_ite deployed]
  split
  · rename_i nothing
    simp [terminated_mergedEnv, wholeLines, nothing]
  · exact terminated_unlines _

theorem envLine_of_deployed (undrawn : key ∉ generated) :
    envLine env key = envLine (mergedEnv previous req.env) key := by
  rw [envLine, lines_of_deployed deployed, lastAssigning_append,
    lastAssigning_generated (valid_of_deployed deployed) undrawn, Option.none_or, envLine,
    lines_mergedEnv]

theorem envLine_ne_none_of_assigned (assigned : (envLine req.env key).isSome = true) :
    envLine env key ≠ none := by
  by_cases drawn : key ∈ generated
  · have last : generatedLine key (secret key) ∈ Text.lines env := by
      rw [lines_of_deployed deployed]
      exact List.mem_append_right _ (List.mem_map_of_mem drawn)
    have named := envLineKey_generatedLine (valid_of_deployed deployed key drawn) (secret key)
    exact Option.isSome_iff_ne_none.mp (lastAssigning_isSome last named)
  · obtain ⟨line, found⟩ := Option.isSome_iff_exists.mp assigned
    simp [envLine_of_deployed deployed drawn, envLine_mergedEnv, found]

/-! ## Deploying the same request again -/

theorem mergeEnvFile_again : mergeEnvFile env req.env =
    unlines ((Text.lines env).map (replaceLine req.env)) := by
  have none : (Text.lines req.env).filter (isNew env) = [] := by
    rw [List.filter_eq_nil_iff]
    intro line member
    unfold isNew
    cases assigned : envLineKey line with
    | none => simp
    | some key =>
      simp only [Option.isNone_iff_eq_none, envValue_eq_none]
      exact envLine_ne_none_of_assigned deployed (lastAssigning_isSome member assigned)
  rw [mergeEnvFile, mergedLines, none, List.append_nil]

/-- A second deployment leaves the file exactly when every line of it is the one
that replaces it. -/
theorem stable_iff :
    (∀ fresh, deployEnv fresh (some (ofText env)) req = .ok (env, [])) ↔
      env = unlines (wholeLines secret previous req.env generated) ∧
        ∀ line ∈ wholeLines secret previous req.env generated,
          replaceLine req.env (chomp line) = line := by
  have again : mergedEnv (some (ofText env)) req.env =
      unlines ((Text.lines env).map (replaceLine req.env)) := by
    rw [mergedEnv, lossy_ofText, mergeEnvFile_again deployed]
  have single := not_mem_wholeLines deployed
  have chomped := lines_eq_map_chomp deployed
  constructor
  · intro stable
    have kept : env = mergedEnv (some (ofText env)) req.env := by
      simpa using env_eq_ite (stable secret)
    have whole : env = unlines (wholeLines secret previous req.env generated) := by
      rw [← terminated_of_deployed deployed]
      conv_rhs => rw [kept, again, terminated_unlines, ← again, ← kept]
    refine ⟨whole, ?_⟩
    have same := kept.symm.trans whole
    rw [again, chomped, List.map_map] at same
    have lines := unlines_injective ?_ single same
    · exact map_eq_self.mp lines
    have merged := not_mem_baseLines (some (ofText env)) req.env
    intro line member
    apply merged line
    rw [baseLines, mergedLines, lossy_ofText, chomped, List.map_map]
    exact List.mem_append_left _ member
  · rintro ⟨whole, fixed⟩ fresh
    have replaced : (wholeLines secret previous req.env generated).map
        (replaceLine req.env ∘ chomp) = wholeLines secret previous req.env generated :=
      map_eq_self.mpr fixed
    have kept : mergedEnv (some (ofText env)) req.env = env := by
      rw [again, chomped, List.map_map, replaced, ← whole]
    rw [deployEnv_eq_ok, kept]
    exact ⟨generateMissingEnvKeys_of_filled (filled_of_deployed deployed),
      (deployEnv_eq_ok.mp deployed).2⟩

theorem envValue_of_generated {line : Text} (drawn : key ∈ generated)
    (assigned : envLine req.env key = some line) :
    envValue req.env key = some [] := by
  have empty := (blank_of_deployed deployed key drawn).2
  have member := lastAssigning_mem assigned
  obtain ⟨value, found⟩ := Option.isSome_iff_exists.mp (lineValue_isSome member.2)
  have same := req.chomp_line line member.1
  simp only [blank, envValue, envLine_mergedEnv, assigned, Option.some_or, Option.map_some, same,
    Option.bind_some, found, Option.any_some, Bool.not_not, List.isEmpty_iff] at empty
  simp [envValue, assigned, found, empty]

theorem generated_of_assigned_nothing
    (listed : key ∈ req.generateEnvKeys) (empty : envValue req.env key = some []) :
    key ∈ generated := by
  by_contra undrawn
  obtain ⟨line, assigned, value⟩ := Option.bind_eq_some_iff.mp empty
  have filled := filled_of_deployed deployed key listed
  have same := req.chomp_line line (lastAssigning_mem assigned).1
  simp [blank, envValue, envLine_of_deployed deployed undrawn, envLine_mergedEnv, assigned, same,
    value] at filled

theorem envValue_of_deployed (undrawn : key ∉ generated) :
    envValue env key = envValue (mergedEnv previous req.env) key := by
  rw [envValue, envLine_of_deployed deployed undrawn, envValue]

theorem not_mem_generated {value : Text} (filled : value ≠ [])
    (merged : envValue (mergedEnv previous req.env) key = some value) : key ∉ generated := by
  intro member
  have empty := (blank_of_deployed deployed key member).2
  simp [blank, merged, filled] at empty

end Deployed

/-! ## Lines that stay -/

theorem untouched_of_reads {incoming found line : Text} (reads : found = line ∨ found = chomp line) :
    Untouched incoming found ↔ Untouched incoming line := by
  rcases reads with rfl | rfl
  · rfl
  · rw [Untouched, envLineKey_chomp, Untouched]

theorem mem_lines_or_eq_of_replaceLine (incoming line : Text) :
    replaceLine incoming line ∈ Text.lines incoming ∨
      (Untouched incoming line ∧ replaceLine incoming line = line) := by
  cases last : (envLineKey line).bind (envLine incoming) with
  | none => exact .inr ⟨last, replaceLine_of_unassigned last⟩
  | some other =>
    obtain ⟨key, assigned, found⟩ := Option.bind_eq_some_iff.mp last
    rw [replaceLine_of_assigned assigned found]
    exact .inl (lastAssigning_mem found).1

theorem Request.chomp_replaceLine (req : Request) {line : Text}
    (plain : Untouched req.env line → chomp line = line) :
    chomp (replaceLine req.env line) = replaceLine req.env line := by
  rcases mem_lines_or_eq_of_replaceLine req.env line with incoming | ⟨untouched, same⟩
  · exact req.chomp_line _ incoming
  · rw [same]
    exact plain untouched

theorem replaceLine_replaceLine (incoming line : Text) :
    replaceLine incoming (replaceLine incoming line) = replaceLine incoming line := by
  cases last : (envLineKey line).bind (envLine incoming) with
  | none => rw [replaceLine_of_unassigned last, replaceLine_of_unassigned last]
  | some other =>
    obtain ⟨key, assigned, found⟩ := Option.bind_eq_some_iff.mp last
    have same := envLineKey_replaceLine incoming line
    rw [replaceLine_of_assigned (same.trans assigned) found,
      replaceLine_of_assigned assigned found]

theorem forall₂_fileLines (existing : Contents) :
    List.Forall₂ (fun found raw => found = fromUtf8Lossy raw ∨ found = chomp (fromUtf8Lossy raw))
      (Text.lines (fromUtf8Lossy existing)) (fileLines existing) := by
  have feeds : ∀ piece : Piece, piece.lossy = '\n' ↔ piece = .char '\n' := by
    intro piece
    cases piece <;> simp [Piece.lossy]
  exact forall₂_lines feeds existing

variable {existing : Contents} {raw : Contents} {index : Nat}

theorem line_of_fileLine (stands : (fileLines existing)[index]? = some raw) :
    ∃ found, (Text.lines (fromUtf8Lossy existing))[index]? = some found ∧
      (found = fromUtf8Lossy raw ∨ found = chomp (fromUtf8Lossy raw)) := by
  obtain ⟨length, reads⟩ := List.forall₂_iff_get.mp (forall₂_fileLines existing)
  obtain ⟨bound, rfl⟩ := List.getElem?_eq_some_iff.mp stands
  have inside : index < (Text.lines (fromUtf8Lossy existing)).length := by omega
  exact ⟨_, List.getElem?_eq_getElem inside, reads index inside bound⟩

theorem fileLine_of_line {found : Text} (member : found ∈ Text.lines (fromUtf8Lossy existing)) :
    ∃ raw ∈ fileLines existing,
      found = fromUtf8Lossy raw ∨ found = chomp (fromUtf8Lossy raw) := by
  obtain ⟨length, reads⟩ := List.forall₂_iff_get.mp (forall₂_fileLines existing)
  obtain ⟨index, inside, rfl⟩ := List.getElem_of_mem member
  have bound : index < (fileLines existing).length := by omega
  exact ⟨_, List.getElem_mem bound, reads index inside bound⟩

variable {line : Contents}

theorem getLast?_lossy :
    (fromUtf8Lossy line).getLast? = some '\r' ↔ line.getLast? = some (.char '\r') := by
  rw [fromUtf8Lossy, List.getLast?_map]
  cases line.getLast? with
  | none => simp
  | some piece => cases piece <;> simp [Piece.lossy]

theorem chomp_lossy (plain : line.getLast? ≠ some (.char '\r')) :
    chomp (fromUtf8Lossy line) = fromUtf8Lossy line := by
  simp [chomp, getLast?_lossy, plain]

theorem chomp_eq_self_iff {line : Text} : chomp line = line ↔ line.getLast? ≠ some '\r' := by
  constructor
  · intro same ends
    have shorter := congrArg List.length same
    have filled : line ≠ [] := by
      rintro rfl
      simp at ends
    simp only [chomp, ends, if_true, List.length_dropLast] at shorter
    have positive := List.length_pos_of_ne_nil filled
    omega
  · intro plain
    simp [chomp, plain]

theorem ofText_lossy (decoded : ∀ bytes, .undecodable bytes ∉ line) :
    ofText (fromUtf8Lossy line) = line := by
  rw [ofText, fromUtf8Lossy, List.map_map, map_eq_self]
  intro piece member
  cases piece with
  | char c => rfl
  | undecodable bytes => exact absurd member (decoded bytes)

theorem fileLines_ofText {found : List Text} (single : ∀ line ∈ found, '\n' ∉ line) :
    fileLines (ofText (unlines found)) = found.map ofText := by
  have written : ofText (unlines found) = (found.map ofText).flatMap (· ++ [.char '\n']) := by
    simp [ofText, unlines, List.map_flatMap, List.flatMap_map]
  rw [fileLines, written, segments_flatMap]
  intro line member feed
  obtain ⟨text, inside, rfl⟩ := List.mem_map.mp member
  obtain ⟨c, inText, same⟩ := List.mem_map.mp feed
  exact single text inside (Piece.char.inj same ▸ inText)

/-! ## When nothing is lost -/

section Promise

variable {secret : Text → Secret} {previous : Option Contents} {req : Request} {env : Text}
  {generated : List Text}

theorem mem_baseLines_of_new {line : Text} (member : line ∈ Text.lines req.env)
    (assigned : envLineKey line = some key) (absent : held previous key = none) :
    line ∈ baseLines previous req.env := by
  cases previous with
  | none => exact member
  | some existing =>
  apply List.mem_append_right
  rw [List.mem_filter]
  refine ⟨member, ?_⟩
  have none : envValue (fromUtf8Lossy existing) key = none := absent
  simp [isNew, assigned, none]

theorem chomp_of_fixed (fixed : ∀ line ∈ wholeLines secret previous req.env generated,
      replaceLine req.env (chomp line) = line) :
    ∀ line ∈ wholeLines secret previous req.env generated, chomp line = line := by
  intro line member
  have same := fixed line member
  rcases mem_lines_or_eq_of_replaceLine req.env (chomp line) with incoming | ⟨_, stays⟩
  · rw [same] at incoming
    exact req.chomp_line line incoming
  · exact stays.symm.trans same

variable {existing : Contents} {key value : Text}

theorem env_eq_of_some (deployed : deployEnv secret (some existing) req = .ok (env, generated)) :
    env = unlines (wholeLines secret (some existing) req.env generated) := by
  have written := env_eq_ite deployed
  split at written
  · rename_i nothing
    rw [written, nothing, wholeLines, List.map_nil, List.append_nil]
    rfl
  · exact written

theorem getElem?_wholeLines (secret : Text → Secret) (generated : List Text) {found : Text}
    (read : (Text.lines (fromUtf8Lossy existing))[index]? = some found)
    (untouched : Untouched req.env found) :
    (wholeLines secret (some existing) req.env generated)[index]? = some found := by
  have inside : index < (Text.lines (fromUtf8Lossy existing)).length :=
    (List.getElem?_eq_some_iff.mp read).1
  rw [wholeLines, baseLines, mergedLines, List.append_assoc,
    List.getElem?_append_left (by simpa using inside), List.getElem?_map, read, Option.map_some,
    replaceLine_of_unassigned untouched]

/-- A file none of whose lines ends in a carriage return. -/
def Clean (env : Text) : Prop := ∀ line ∈ Text.lines env, chomp line = line

theorem redeploy_keeps (request : Request × (Text → Secret)) (clean : Clean env)
    (unassigned : envLine request.1.env key = none) (filled : value ≠ [])
    (holds : envValue env key = some value) :
    Clean (redeploy env request) ∧ envValue (redeploy env request) key = some value := by
  unfold redeploy
  cases deployed : deployEnv request.2 (some (ofText env)) request.1 with
  | error missing => exact ⟨clean, holds⟩
  | ok result =>
  obtain ⟨next, drawn⟩ := result
  have merged : envValue (mergedEnv (some (ofText env)) request.1.env) key = some value := by
    obtain ⟨line, last, read⟩ := Option.bind_eq_some_iff.mp holds
    have same := clean line (lastAssigning_mem last).1
    simp [envValue, envLine_mergedEnv, unassigned, lossy_ofText, last, same, read]
  have undrawn := not_mem_generated deployed filled merged
  refine ⟨fun line member => ?_, ?_⟩
  · rw [lines_eq_map_chomp deployed] at member
    obtain ⟨whole, inside, rfl⟩ := List.mem_map.mp member
    have plain : chomp whole = whole := by
      rcases List.mem_append.mp inside with base | added
      · rw [baseLines, lossy_ofText] at base
        rcases List.mem_append.mp base with replaced | new
        · obtain ⟨old, held, rfl⟩ := List.mem_map.mp replaced
          exact request.1.chomp_replaceLine fun _ => clean old held
        · exact request.1.chomp_line whole (List.mem_filter.mp new).1
      · obtain ⟨name, _, rfl⟩ := List.mem_map.mp added
        exact chomp_generatedLine name (request.2 name)
    rw [plain, plain]
  · change envValue next key = some value
    rw [envValue_of_deployed deployed undrawn, merged]

theorem redeploys_keep (later : List (Request × (Text → Secret)))
    (clean : Clean env) (unassigned : ∀ request ∈ later, envLine request.1.env key = none)
    (filled : value ≠ []) (holds : envValue env key = some value) :
    envValue (later.foldl redeploy env) key = some value := by
  induction later generalizing env with
  | nil => exact holds
  | cons request later ih =>
    obtain ⟨here, others⟩ := List.forall_mem_cons.mp unassigned
    obtain ⟨still, kept⟩ := redeploy_keeps request clean here filled holds
    exact ih still others kept

section Merged

variable (mergeable : Mergeable previous req)
  (deployed : deployEnv secret previous req = .ok (env, generated))
include mergeable deployed

/-- Under the conditions each written line is the one that replaces it. -/
theorem Mergeable.fixed :
    ∀ line ∈ wholeLines secret previous req.env generated,
      replaceLine req.env (chomp line) = line := by
  have incoming : ∀ line ∈ Text.lines req.env, (∀ key, envLineKey line = some key →
      held previous key = none) → replaceLine req.env (chomp line) = line := by
    intro line member absent
    rw [req.chomp_line line member]
    cases assigned : envLineKey line with
    | none => exact replaceLine_of_unassigned (by simp [assigned])
    | some key =>
      exact replaceLine_of_assigned assigned
        (mergeable.once line member key assigned (absent key assigned))
  intro line member
  rcases List.mem_append.mp member with base | drawn
  · cases previous with
    | none => exact incoming line base fun _ _ => rfl
    | some existing =>
      rcases List.mem_append.mp base with replaced | added
      · obtain ⟨old, inside, rfl⟩ := List.mem_map.mp replaced
        have plain : Untouched req.env old → chomp old = old := by
          intro untouched
          obtain ⟨raw, rawInside, reads⟩ := fileLine_of_line inside
          have stays := (untouched_of_reads reads).mp untouched
          have same := chomp_lossy (mergeable.plain existing rfl raw rawInside stays).2
          rcases reads with rfl | rfl
          · exact same
          · rw [same, same]
        rw [req.chomp_replaceLine plain, replaceLine_replaceLine]
      · obtain ⟨inside, new⟩ := List.mem_filter.mp added
        refine incoming line inside fun key assigned => ?_
        simpa [isNew, assigned, held] using new
  · obtain ⟨key, inside, rfl⟩ := List.mem_map.mp drawn
    rw [chomp_generatedLine]
    apply replaceLine_of_unassigned
    rw [envLineKey_generatedLine (valid_of_deployed deployed key inside), Option.bind_some]
    by_contra assigned
    obtain ⟨other, found⟩ := Option.ne_none_iff_exists'.mp assigned
    exact mergeable.filled key (blank_of_deployed deployed key inside).1
      (envValue_of_generated deployed inside found)

theorem Mergeable.env_eq :
    env = unlines (wholeLines secret previous req.env generated) := by
  cases previous with
  | some existing => exact env_eq_of_some deployed
  | none =>
  have written := env_eq_ite deployed
  split at written
  · rename_i nothing
    have whole := terminated_of_deployed deployed
    suffices terminated env = env by rw [← whole, this]
    have same : env = req.env := written
    rcases mergeable.ended rfl with empty | feed | ⟨key, listed, missing⟩
    · simp [same, empty, terminated]
    · simp [same, feed, terminated]
    · have filled := filled_of_deployed deployed key listed
      rw [same, missing] at filled
      contradiction
  · exact written

theorem Mergeable.envValue_mergedEnv (key : Text) :
    envValue (mergedEnv previous req.env) key =
      if (envLine req.env key).isSome then envValue req.env key else held previous key := by
  have clean := chomp_of_fixed (mergeable.fixed deployed)
  rw [envValue, envLine_mergedEnv]
  cases assigned : envLine req.env key with
  | some line =>
    have same := req.chomp_line line (lastAssigning_mem assigned).1
    simp [envValue, assigned, same]
  | none =>
  cases previous with
  | none => simp [held]
  | some existing =>
  cases last : envLine (fromUtf8Lossy existing) key with
  | none => simp [held, envValue, last]
  | some line =>
  obtain ⟨inside, named⟩ := lastAssigning_mem last
  have stays : replaceLine req.env line = line :=
    replaceLine_of_unassigned (by simp [named, assigned])
  have written : line ∈ wholeLines secret (some existing) req.env generated :=
    List.mem_append_left _ (List.mem_append_left _ (stays ▸ List.mem_map_of_mem inside))
  simp [held, envValue, last, clean line written]

theorem Mergeable.lines (present : previous = some existing)
    (stands : (fileLines existing)[index]? = some raw)
    (untouched : Untouched req.env (fromUtf8Lossy raw)) :
    (fileLines (ofText env))[index]? = some raw := by
  subst present
  obtain ⟨decoded, ends⟩ := mergeable.plain existing rfl raw (List.mem_of_getElem? stands) untouched
  obtain ⟨found, read, reads⟩ := line_of_fileLine stands
  have same : found = fromUtf8Lossy raw := by
    rcases reads with same | same
    · exact same
    · rw [same, chomp_lossy ends]
  have written := getElem?_wholeLines secret generated read (same ▸ untouched)
  rw [env_eq_of_some deployed, fileLines_ofText (not_mem_wholeLines deployed), List.getElem?_map,
    written, Option.map_some, same, ofText_lossy decoded]

theorem Mergeable.clean : Clean env := by
  have clean := chomp_of_fixed (mergeable.fixed deployed)
  intro line member
  rw [lines_eq_map_chomp deployed, map_eq_self.mpr clean] at member
  exact clean line member

theorem Mergeable.preserved :
    Preserved previous req env generated where
  values key undrawn := by
    rw [envValue_of_deployed deployed undrawn, mergeable.envValue_mergedEnv deployed]
  lines existing present index raw stands untouched :=
    mergeable.lines deployed present stands untouched
  secrets key listed unassigned value filled holds later others := by
    have merged : envValue (mergedEnv previous req.env) key = some value := by
      rw [mergeable.envValue_mergedEnv deployed, unassigned, ← holds]
      rfl
    have undrawn := not_mem_generated deployed filled merged
    have kept := (envValue_of_deployed deployed undrawn).trans merged
    exact redeploys_keep later (mergeable.clean deployed) others filled kept
  stable := (stable_iff deployed).mpr ⟨mergeable.env_eq deployed, mergeable.fixed deployed⟩

end Merged

/-! ## What each loss comes from -/

section Losses

variable (preserved : Preserved previous req env generated)
  (deployed : deployEnv secret previous req = .ok (env, generated))
include preserved deployed

theorem Preserved.written :
    env = unlines (wholeLines secret previous req.env generated) ∧
      ∀ line ∈ wholeLines secret previous req.env generated,
        replaceLine req.env (chomp line) = line :=
  (stable_iff deployed).mp preserved.stable

theorem Preserved.plain (present : previous = some existing) (member : raw ∈ fileLines existing)
    (untouched : Untouched req.env (fromUtf8Lossy raw)) :
    (∀ bytes, .undecodable bytes ∉ raw) ∧ raw.getLast? ≠ some (.char '\r') := by
  subst present
  obtain ⟨index, stands⟩ := List.getElem?_of_mem member
  obtain ⟨found, read, reads⟩ := line_of_fileLine stands
  have stays := (untouched_of_reads reads).mpr untouched
  -- The line the merge read is the one that was written, so the one in the file.
  have written := getElem?_wholeLines secret generated read stays
  have kept := preserved.lines existing rfl index raw stands untouched
  rw [env_eq_of_some deployed, fileLines_ofText (not_mem_wholeLines deployed), List.getElem?_map,
    written, Option.map_some, Option.some.injEq] at kept
  have clean := chomp_of_fixed (preserved.written deployed).2 found (List.mem_of_getElem? written)
  constructor
  · intro bytes inside
    rw [← kept] at inside
    simp [ofText] at inside
  · intro ends
    rw [← getLast?_lossy, ← kept, lossy_ofText] at ends
    exact chomp_eq_self_iff.mp clean ends

theorem Preserved.once {line : Text}
    (member : line ∈ Text.lines req.env) (assigned : envLineKey line = some key)
    (absent : held previous key = none) : envLine req.env key = some line := by
  have written : line ∈ wholeLines secret previous req.env generated :=
    List.mem_append_left _ (mem_baseLines_of_new member assigned absent)
  have fixed := (preserved.written deployed).2 line written
  rw [req.chomp_line line member] at fixed
  obtain ⟨last, found⟩ := Option.isSome_iff_exists.mp (lastAssigning_isSome member assigned)
  rw [replaceLine_of_assigned assigned found] at fixed
  rw [← fixed]
  exact found

theorem Preserved.ended (absent : previous = none) :
    req.env = [] ∨ req.env.getLast? = some '\n' ∨
      ∃ key ∈ req.generateEnvKeys, blank req.env key = true := by
  subst absent
  have written := env_eq_ite deployed
  cases generated with
  | nil =>
    have same : env = req.env := written
    have whole := (preserved.written deployed).1
    have kept := terminated_of_deployed deployed
    rw [← whole, same] at kept
    by_cases fine : req.env.isEmpty || req.env.getLast? = some '\n'
    · rcases Bool.or_eq_true_iff.mp fine with empty | feed
      · exact .inl (List.isEmpty_iff.mp empty)
      · exact .inr (.inl (by simpa using feed))
    · rw [terminated, if_neg fine] at kept
      have longer := congrArg List.length kept
      simp at longer
  | cons key others =>
    obtain ⟨listed, missing⟩ := blank_of_deployed deployed key (by simp)
    exact .inr (.inr ⟨key, listed, missing⟩)

theorem Preserved.filled (listed : key ∈ req.generateEnvKeys) :
    envValue req.env key ≠ some [] := by
  intro empty
  have drawn := generated_of_assigned_nothing deployed listed empty
  have valid := valid_of_deployed deployed key drawn
  have written : generatedLine key (secret key) ∈ wholeLines secret previous req.env generated :=
    List.mem_append_right _ (List.mem_map_of_mem drawn)
  have fixed := (preserved.written deployed).2 _ written
  obtain ⟨line, assigned, value⟩ := Option.bind_eq_some_iff.mp empty
  rw [chomp_generatedLine, replaceLine_of_assigned (envLineKey_generatedLine valid _) assigned]
    at fixed
  rw [fixed, lineValue_generatedLine valid, Option.some.injEq] at value
  exact secret_ne_nil _ value

theorem Preserved.mergeable :
    Mergeable previous req where
  plain _ present _ member untouched := preserved.plain deployed present member untouched
  once _ member _ assigned absent := preserved.once deployed member assigned absent
  ended absent := preserved.ended deployed absent
  filled _ listed := preserved.filled deployed listed

end Losses

/-- A deployment keeps every value and every line, and is repeated without a
change, exactly over the files a request can be merged into without a loss. -/
theorem redeploy_preserves_iff (deployed : deployEnv secret previous req = .ok (env, generated)) :
    Preserved previous req env generated ↔ Mergeable previous req :=
  ⟨fun preserved => preserved.mergeable deployed, fun mergeable => mergeable.preserved deployed⟩

end Promise

def sampleSecret (_ : Text) : Secret := ⟨List.replicate 64 'a', by decide⟩

def sampleFile : Contents := ofText "# note\nA=1\n".toList

def sampleRequest : Request where
  env := "B=2\n".toList
  generateEnvKeys := ["S".toList]
  requireEnvKeys := []
  envValid := by decide
  keysValid := by decide

def sampleEnv : Text := unlines ["# note".toList, "A=1".toList, "B=2".toList,
  generatedLine "S".toList (sampleSecret [])]

theorem sample_mergeable : Mergeable (some sampleFile) sampleRequest := by
  have stand : fileLines sampleFile = [ofText "# note".toList, ofText "A=1".toList] := by
    decide
  have incoming : Text.lines sampleRequest.env = ["B=2".toList] := by decide
  refine ⟨?_, ?_, ?_, ?_⟩
  · rintro existing present line member -
    obtain rfl := Option.some.inj present
    rcases List.mem_cons.mp member with rfl | member
    · exact ⟨by simp, by decide⟩
    · obtain rfl := List.mem_singleton.mp member
      exact ⟨by simp, by decide⟩
  · intro line member key assigned absent
    rw [incoming, List.mem_singleton] at member
    subst member
    have named : key = "B".toList := by
      have key : envLineKey "B=2".toList = some "B".toList := by decide
      exact (Option.some.inj (key.symm.trans assigned)).symm
    subst named
    decide
  · intro absent
    cases absent
  · decide

theorem redeploy_preserves_sample :
    Preserved (some sampleFile) sampleRequest sampleEnv ["S".toList] := by
  have deployed : deployEnv sampleSecret (some sampleFile) sampleRequest =
      .ok (sampleEnv, ["S".toList]) :=
    deployEnv_eq_ok.mpr ⟨by decide, by decide⟩
  exact (redeploy_preserves_iff deployed).mpr sample_mergeable

/-! ## Files that lose something -/

theorem not_preserved_of_not_mergeable {req : Request}
    (free : req.requireEnvKeys = []) (lossy : ¬ Mergeable previous req) (secret : Text → Secret) :
    ∃ env generated, deployEnv secret previous req = .ok (env, generated) ∧
      ¬ Preserved previous req env generated := by
  have deployed : deployEnv secret previous req =
      .ok (generateMissingEnvKeys secret req.generateEnvKeys (mergedEnv previous req.env)) := by
    rw [deployEnv_eq_ok]
    simp [free]
  exact ⟨_, _, deployed, fun preserved => lossy (preserved.mergeable deployed)⟩

def carriageFile : Contents := ofText "A=1\r\n".toList

def twiceRequest : Request where
  env := "B=1\nB=2\n".toList
  generateEnvKeys := []
  requireEnvKeys := []
  envValid := by decide
  keysValid := by decide

/-- A request that assigns nothing to the key it asks a secret for. -/
def emptyRequest : Request where
  env := "S=\n".toList
  generateEnvKeys := ["S".toList]
  requireEnvKeys := []
  envValid := by decide
  keysValid := by decide

theorem carriage_not_mergeable : ¬ Mergeable (some carriageFile) sampleRequest := by
  intro mergeable
  have line : ofText "A=1\r".toList ∈ fileLines carriageFile := by decide
  have untouched : Untouched sampleRequest.env (fromUtf8Lossy (ofText "A=1\r".toList)) := by
    rw [lossy_ofText, Untouched]
    decide
  exact (mergeable.plain carriageFile rfl _ line untouched).2 (by decide)

theorem twice_not_mergeable : ¬ Mergeable (some sampleFile) twiceRequest := by
  intro mergeable
  have last := mergeable.once "B=1".toList (by decide) "B".toList (by decide) (by decide)
  revert last
  decide

theorem empty_not_mergeable : ¬ Mergeable (some sampleFile) emptyRequest := by
  intro mergeable
  exact mergeable.filled "S".toList (by decide) (by decide)

/-- A line that ends in a carriage return loses it, a key assigned twice is
rewritten by the second deployment, and a secret asked for under a key that is
assigned nothing is drawn anew. -/
theorem redeploy_loses :
    (∃ env generated, deployEnv sampleSecret (some carriageFile) sampleRequest =
        .ok (env, generated) ∧ ¬ Preserved (some carriageFile) sampleRequest env generated) ∧
    (∃ env generated, deployEnv sampleSecret (some sampleFile) twiceRequest =
        .ok (env, generated) ∧ ¬ Preserved (some sampleFile) twiceRequest env generated) ∧
    (∃ env generated, deployEnv sampleSecret (some sampleFile) emptyRequest =
        .ok (env, generated) ∧ ¬ Preserved (some sampleFile) emptyRequest env generated) :=
  ⟨not_preserved_of_not_mergeable rfl carriage_not_mergeable sampleSecret,
    not_preserved_of_not_mergeable rfl twice_not_mergeable sampleSecret,
    not_preserved_of_not_mergeable rfl empty_not_mergeable sampleSecret⟩

end OpsEngine.Stack
