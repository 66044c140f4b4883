import Mathlib.Data.Char
import Mathlib.Data.List.Dedup
import Mathlib.Data.List.Lex
import OpsEngine.Data.Lines
import OpsEngine.Data.Search

namespace OpsEngine.Stack

open Text

/-! # The environment file of the stack

`stack.deploy` lays the `.env` of a request over the one the server holds, fills
in the secrets it was asked to own and refuses to go on while a required value is
missing.  The last line that assigns a key wins.
-/

/-- What `from_utf8_lossy` makes of a file's bytes: the characters they encode,
and between them the runs of bytes that encode none. -/
inductive Piece where
  | char (c : Char)
  | undecodable (bytes : List UInt8)
deriving DecidableEq

abbrev Contents := List Piece

def ofText (text : Text) : Contents := text.map .char

def Piece.lossy : Piece → Char
  | .char c => c
  | .undecodable _ => '�'

def fromUtf8Lossy (contents : Contents) : Text := contents.map Piece.lossy

def envKeyIsValid : Text → Bool
  | [] => false
  | first :: rest =>
    (first.isAlpha || first == '_') && rest.all fun c => c.isAlphanum || c == '_'

def envFileIsValid (content : Text) : Bool :=
  !decide ('\r' ∈ content) && (lines content).all fun line =>
    let line := trimStart line
    line.isEmpty || line.head? == some '#' ||
      match splitOnce? ['='] line with
      | none => false
      | some (key, _) => envKeyIsValid key

/-- The key a line assigns, or `none` for a comment or blank line. -/
def envLineKey (line : Text) : Option Text :=
  let trimmed := trimStart line
  if trimmed.isEmpty || trimmed.head? == some '#' then none
  else (splitOnce? ['='] trimmed).map fun parts => parts.1

def lastAssigning (found : List Text) (key : Text) : Option Text :=
  (found.filter fun line => envLineKey line == some key).getLast?

/-- The last line of `content` assigning `key`, verbatim. -/
def envLine (content key : Text) : Option Text := lastAssigning (lines content) key

/-- Strips one matching pair of single or double quotes. -/
def unquoteEnvValue (value : Text) : Text :=
  match (stripStart? ['\''] value).bind (stripEnd? ['\'']) with
  | some inner => inner
  | none =>
    match (stripStart? ['"'] value).bind (stripEnd? ['"']) with
    | some inner => inner
    | none => value

/-- What stands after the `=` of a line, without its quotes. -/
def lineValue (line : Text) : Option Text :=
  (splitOnce? ['='] (trimStart line)).map fun parts => unquoteEnvValue parts.2

def envValue (content key : Text) : Option Text := (envLine content key).bind lineValue

/-- The incoming line for the key a line assigns, or the line itself. -/
def replaceLine (incoming line : Text) : Text :=
  ((envLineKey line).bind (envLine incoming)).getD line

/-- Whether a line assigns a key `existing` does not. -/
def isNew (existing line : Text) : Bool :=
  match envLineKey line with
  | none => false
  | some key => (envValue existing key).isNone

def mergedLines (existing incoming : Text) : List Text :=
  (lines existing).map (replaceLine incoming) ++ (lines incoming).filter (isNew existing)

def mergeEnvFile (existing incoming : Text) : Text := unlines (mergedLines existing incoming)

/-- Two v4 UUIDs in a row. -/
structure Secret where
  text : Text
  hex : text.length = 64 ∧ text.all isLowerHexDigit = true

def generatedLine (key : Text) (secret : Secret) : Text :=
  key ++ '=' :: '\'' :: (secret.text ++ ['\''])

/-- Whether `key` has no value, or an empty one. -/
def blank (env key : Text) : Bool := !(envValue env key).any fun value => !value.isEmpty

/-- `secret` gives what is drawn for a key; a key that is listed twice is drawn
for once, since it has a value from then on. -/
def generateMissingEnvKeys (secret : Text → Secret) : List Text → Text → Text × List Text
  | [], env => (env, [])
  | key :: keys, env =>
    if blank env key then
      let rest := generateMissingEnvKeys secret keys
        (terminated env ++ unlines [generatedLine key (secret key)])
      (rest.1, key :: rest.2)
    else generateMissingEnvKeys secret keys env

def missingEnvValues (env : Text) (keys : List Text) : List Text :=
  ((keys.filter (blank env)).mergeSort fun first second => decide (first ≤ second)).dedup

/-- The part of a request that concerns the environment, as `parse` accepts it. -/
structure Request where
  env : Text
  generateEnvKeys : List Text
  requireEnvKeys : List Text
  envValid : envFileIsValid env = true
  keysValid : (generateEnvKeys ++ requireEnvKeys).all envKeyIsValid = true

def mergedEnv (previous : Option Contents) (incoming : Text) : Text :=
  match previous with
  | some existing => mergeEnvFile (fromUtf8Lossy existing) incoming
  | none => incoming

/-- The `.env` a deployment installs and the keys it drew secrets for, or the
required keys that have no value. -/
def deployEnv (secret : Text → Secret) (previous : Option Contents) (req : Request) :
    Except (List Text) (Text × List Text) :=
  let env := generateMissingEnvKeys secret req.generateEnvKeys (mergedEnv previous req.env)
  let missing := missingEnvValues env.1 req.requireEnvKeys
  if missing.isEmpty then .ok env else .error missing

/-! ## Which key a line assigns -/

theorem lossy_ofText (text : Text) : fromUtf8Lossy (ofText text) = text := by
  simp [fromUtf8Lossy, ofText, Function.comp_def, Piece.lossy]

theorem splitOnce?_key_append (text : Text) {last : Char} (other : last ≠ '=') :
    (splitOnce? ['='] (text ++ [last])).map (fun parts => parts.1) =
      (splitOnce? ['='] text).map fun parts => parts.1 := by
  cases split : splitOnce? ['='] text with
  | none =>
    rw [splitOnce?_behind (by simp [other]) (splitOnce?_none.mp split)]
    rfl
  | some parts =>
    rw [splitOnce?_append split _ (by simp)]
    rfl

/-- A carriage return at the end is blank at the start of a line and follows the
`=` of an assignment. -/
theorem envLineKey_chomp (line : Text) : envLineKey (chomp line) = envLineKey line := by
  unfold chomp
  split
  · rename_i ends
    obtain ⟨body, rfl⟩ := List.getLast?_eq_some_iff.mp ends
    rw [List.dropLast_concat]
    unfold envLineKey trimStart
    rw [List.dropWhile_append]
    split
    · rename_i empty
      rw [List.isEmpty_iff.mp empty]
      decide
    · rename_i filled
      obtain ⟨c, rest, same⟩ := List.exists_cons_of_ne_nil (mt List.isEmpty_iff.mpr filled)
      have key := splitOnce?_key_append (c :: rest) (show '\r' ≠ '=' by decide)
      simp only [same]
      simp only [List.isEmpty_cons, List.head?_cons, key]
      rfl
  · rfl

/-! ## The last line that assigns a key -/

theorem lastAssigning_append (first second : List Text) (key : Text) :
    lastAssigning (first ++ second) key = (lastAssigning second key).or (lastAssigning first key) := by
  simp [lastAssigning, List.filter_append, List.getLast?_append]

variable {found : List Text} {key : Text} {line : Text}

theorem lastAssigning_mem (last : lastAssigning found key = some line) :
    line ∈ found ∧ envLineKey line = some key := by
  have member := List.mem_of_getLast? last
  simpa using member

theorem lastAssigning_eq_none :
    lastAssigning found key = none ↔ ∀ line ∈ found, envLineKey line ≠ some key := by
  simp [lastAssigning]

theorem lastAssigning_isSome (member : line ∈ found)
    (assigned : envLineKey line = some key) : (lastAssigning found key).isSome = true := by
  rw [Option.isSome_iff_ne_none]
  intro nothing
  exact lastAssigning_eq_none.mp nothing line member assigned

theorem lastAssigning_map {change : Text → Text}
    (keeps : ∀ line ∈ found, envLineKey (change line) = envLineKey line) (key : Text) :
    lastAssigning (found.map change) key = (lastAssigning found key).map change := by
  have same : found.filter ((fun line => envLineKey line == some key) ∘ change) =
      found.filter fun line => envLineKey line == some key :=
    List.filter_congr fun line member => by simp [keeps line member]
  rw [lastAssigning, List.filter_map, same, List.getLast?_map]
  rfl

theorem lineValue_isSome (assigned : envLineKey line = some key) :
    (lineValue line).isSome = true := by
  simp only [envLineKey] at assigned
  split at assigned
  · simp at assigned
  · obtain ⟨parts, split, _⟩ := Option.map_eq_some_iff.mp assigned
    simp [lineValue, split]

theorem envValue_eq_none {content : Text} :
    envValue content key = none ↔ envLine content key = none := by
  cases last : envLine content key with
  | none => simp [envValue, last]
  | some line =>
    have value := lineValue_isSome (lastAssigning_mem last).2
    simp [envValue, last, ← Option.not_isSome_iff_eq_none, value]

/-! ## Merging -/

theorem envLineKey_replaceLine (incoming line : Text) :
    envLineKey (replaceLine incoming line) = envLineKey line := by
  unfold replaceLine
  cases key : envLineKey line with
  | none => simpa using key
  | some name =>
    cases last : envLine incoming name with
    | none => simpa [last] using key
    | some other => simpa [last] using (lastAssigning_mem last).2

theorem replaceLine_of_assigned {incoming other : Text}
    (assigned : envLineKey line = some key) (last : envLine incoming key = some other) :
    replaceLine incoming line = other := by
  simp [replaceLine, assigned, last]

theorem replaceLine_of_unassigned {incoming : Text}
    (unassigned : (envLineKey line).bind (envLine incoming) = none) :
    replaceLine incoming line = line := by
  simp [replaceLine, unassigned]

theorem lastAssigning_replaced (incoming : Text) (found : List Text) (key : Text) :
    lastAssigning (found.map (replaceLine incoming)) key =
      (lastAssigning found key).map fun line => (envLine incoming key).getD line := by
  rw [lastAssigning_map fun line _ => envLineKey_replaceLine incoming line]
  refine Option.map_congr fun line last => ?_
  simp [replaceLine, (lastAssigning_mem last).2]

theorem lastAssigning_new (existing incoming key : Text) :
    lastAssigning ((lines incoming).filter (isNew existing)) key =
      if envLine existing key = none then envLine incoming key else none := by
  have both : ((lines incoming).filter (isNew existing)).filter
        (fun line => envLineKey line == some key) = (lines incoming).filter fun line =>
        envLineKey line == some key && (envValue existing key).isNone := by
    rw [List.filter_filter]
    refine List.filter_congr fun line _ => ?_
    by_cases assigned : envLineKey line = some key
    · simp [isNew, assigned]
    · simp [beq_eq_false_iff_ne.mpr assigned]
  rw [lastAssigning, both]
  by_cases absent : envLine existing key = none
  · rw [if_pos absent, envValue_eq_none.mpr absent]
    simp [envLine, lastAssigning]
  · have some : (envValue existing key).isNone = false := by
      rw [Bool.eq_false_iff, ne_eq, Option.isNone_iff_eq_none, envValue_eq_none]
      exact absent
    simp [absent, some]

/-- The last assignment of a key after a merge: the incoming one, or else the one
that was there. -/
theorem lastAssigning_mergedLines (existing incoming key : Text) :
    lastAssigning (mergedLines existing incoming) key =
      (envLine incoming key).or (envLine existing key) := by
  rw [mergedLines, lastAssigning_append, lastAssigning_replaced, lastAssigning_new]
  have old : lastAssigning (lines existing) key = envLine existing key := rfl
  rw [old]
  cases envLine existing key <;> cases envLine incoming key <;> simp

theorem not_mem_mergedLines (existing incoming : Text) :
    ∀ line ∈ mergedLines existing incoming, '\n' ∉ line := by
  intro line member
  rcases List.mem_append.mp member with replaced | added
  · obtain ⟨old, inside, rfl⟩ := List.mem_map.mp replaced
    unfold replaceLine
    cases last : (envLineKey old).bind (envLine incoming) with
    | none => exact not_mem_lines existing old inside
    | some other =>
      obtain ⟨key, _, found⟩ := Option.bind_eq_some_iff.mp last
      exact not_mem_lines incoming other (lastAssigning_mem found).1
  · exact not_mem_lines incoming line (List.mem_filter.mp added).1

/-! ## Generating -/

section Keys

variable {key : Text}

theorem isAlpha_or_underscore_of_valid {first : Char} {rest : Text}
    (valid : envKeyIsValid (first :: rest) = true) : first.isAlphanum = true ∨ first = '_' := by
  simp only [envKeyIsValid, Bool.and_eq_true, Bool.or_eq_true, beq_iff_eq] at valid
  rcases valid.1 with alpha | under
  · exact .inl (by simp [Char.isAlphanum, alpha])
  · exact .inr under

theorem of_mem_valid_key (valid : envKeyIsValid key = true) :
    ∀ c ∈ key, c.isAlphanum = true ∨ c = '_' := by
  cases key with
  | nil => simp
  | cons first rest =>
  intro c member
  rcases List.mem_cons.mp member with rfl | later
  · exact isAlpha_or_underscore_of_valid valid
  · simp only [envKeyIsValid, Bool.and_eq_true, List.all_eq_true, Bool.or_eq_true,
      beq_iff_eq] at valid
    exact valid.2 c later

theorem not_mem_valid_key (valid : envKeyIsValid key = true) {c : Char}
    (other : c.isAlphanum = false) (under : c ≠ '_') : c ∉ key := by
  intro member
  rcases of_mem_valid_key valid c member with alphanum | same
  · simp [other] at alphanum
  · exact under same

end Keys

theorem trimStart_generatedLine (valid : envKeyIsValid key = true) (secret : Secret) :
    trimStart (generatedLine key secret) = generatedLine key secret ∧
      (generatedLine key secret).head? ≠ some '#' := by
  cases key with
  | nil => simp [envKeyIsValid] at valid
  | cons first rest =>
  have start := isAlpha_or_underscore_of_valid valid
  have solid := isWhitespace_of_alphanum start
  constructor
  · simp [trimStart, generatedLine, solid]
  rintro hash
  simp only [generatedLine, List.cons_append, List.head?_cons, Option.some.injEq] at hash
  subst hash
  revert start
  decide

theorem envLineKey_generatedLine (valid : envKeyIsValid key = true)
    (secret : Secret) : envLineKey (generatedLine key secret) = some key := by
  obtain ⟨trimmed, comment⟩ := trimStart_generatedLine valid secret
  have single : '=' ∉ key := not_mem_valid_key valid (by decide) (by decide)
  have filled : (generatedLine key secret).isEmpty = false := by simp [generatedLine]
  simp only [envLineKey, trimmed, filled, beq_eq_false_iff_ne.mpr comment, Bool.or_self,
    Bool.false_eq_true, if_false]
  simp [generatedLine, splitOnce?_char single]

theorem lineValue_generatedLine (valid : envKeyIsValid key = true)
    (secret : Secret) : lineValue (generatedLine key secret) = some secret.text := by
  have single : '=' ∉ key := not_mem_valid_key valid (by decide) (by decide)
  rw [lineValue, (trimStart_generatedLine valid secret).1, generatedLine, splitOnce?_char single]
  have inner := stripEnd?_append secret.text ['\'']
  simp [unquoteEnvValue, stripStart?, inner]

theorem secret_ne_nil (secret : Secret) : secret.text ≠ [] := by
  intro empty
  have length := secret.hex.1
  simp [empty] at length

theorem chomp_generatedLine (key : Text) (secret : Secret) :
    chomp (generatedLine key secret) = generatedLine key secret := by
  simp [chomp, generatedLine, List.getLast?_cons]

theorem not_mem_generatedLine (valid : envKeyIsValid key = true) (secret : Secret) :
    '\n' ∉ generatedLine key secret := by
  have named : '\n' ∉ key := not_mem_valid_key valid (by decide) (by decide)
  have drawn : '\n' ∉ secret.text := by
    intro member
    have digit := List.all_eq_true.mp secret.hex.2 _ member
    revert digit
    decide
  simp [generatedLine, named, drawn]

/-- A text whose last line may end where the text does. -/
def Ended (env : Text) : Prop := lines (terminated env) = lines env

theorem terminated_terminated_append (env : Text) (found : List Text) :
    terminated (terminated env ++ unlines found) = terminated env ++ unlines found := by
  rw [terminated_eq_unlines env, ← unlines_append, terminated_unlines]

theorem lines_terminated_append {env : Text} (ended : Ended env)
    (single : ∀ line ∈ found, '\n' ∉ line) :
    lines (terminated env ++ unlines found) = lines env ++ found.map chomp := by
  have plain := not_mem_segments '\n' env
  have same : (segments '\n' env).map chomp = lines env := by
    rw [← ended, terminated_eq_unlines, lines_unlines plain]
  rw [terminated_eq_unlines, lines_unlines_append plain, lines_unlines single, same]

section Generate

variable {secret : Text → Secret} {env : Text} {keys : List Text}

theorem lastAssigning_generated
    (valid : ∀ name ∈ keys, envKeyIsValid name = true) (other : key ∉ keys) :
    lastAssigning (keys.map fun name => generatedLine name (secret name)) key = none := by
  rw [lastAssigning_eq_none]
  intro line member
  obtain ⟨name, inside, rfl⟩ := List.mem_map.mp member
  rw [envLineKey_generatedLine (valid name inside)]
  intro same
  exact other (Option.some.inj same ▸ inside)

theorem ended_generated (env key : Text) :
    Ended (terminated env ++ unlines [generatedLine key (secret key)]) := by
  rw [Ended, terminated_terminated_append]

theorem lines_generated (valid : envKeyIsValid key = true) (ended : Ended env) :
    lines (terminated env ++ unlines [generatedLine key (secret key)]) =
      lines env ++ [generatedLine key (secret key)] := by
  have single : ∀ line ∈ [generatedLine key (secret key)], '\n' ∉ line := by
    intro line member
    rw [List.mem_singleton.mp member]
    exact not_mem_generatedLine valid (secret key)
  rw [lines_terminated_append ended single]
  simp [chomp_generatedLine]

theorem envLine_generated (valid : envKeyIsValid key = true) (ended : Ended env) (other : Text) :
    envLine (terminated env ++ unlines [generatedLine key (secret key)]) other =
      if other = key then some (generatedLine key (secret key)) else envLine env other := by
  have assigned := envLineKey_generatedLine valid (secret key)
  rw [envLine, lines_generated valid ended, lastAssigning_append]
  by_cases same : other = key
  · subst same
    simp [lastAssigning, assigned]
  · have differs : key ≠ other := fun equal => same equal.symm
    simp [lastAssigning, assigned, same, differs, envLine]

theorem blank_generated (valid : envKeyIsValid key = true) (ended : Ended env) (other : Text) :
    blank (terminated env ++ unlines [generatedLine key (secret key)]) other =
      if other = key then false else blank env other := by
  rw [blank, envValue, envLine_generated valid ended]
  by_cases same : other = key
  · simp [same, lineValue_generatedLine valid, secret_ne_nil]
  · simp [same, blank, envValue]

theorem generateMissingEnvKeys_fst (secret : Text → Secret) (keys : List Text) (env : Text) :
    (generateMissingEnvKeys secret keys env).1 =
      if (generateMissingEnvKeys secret keys env).2 = [] then env
      else terminated env ++ unlines ((generateMissingEnvKeys secret keys env).2.map fun key =>
        generatedLine key (secret key)) := by
  induction keys generalizing env with
  | nil => rfl
  | cons key keys ih =>
    simp only [generateMissingEnvKeys]
    split
    · simp only [reduceCtorEq, if_false, List.map_cons]
      rw [ih, terminated_terminated_append]
      split
      · rename_i nothing
        rw [nothing]
        rfl
      · rw [List.append_assoc, ← unlines_append]
        rfl
    · exact ih env

theorem blank_of_generated (valid : ∀ name ∈ keys, envKeyIsValid name = true) (ended : Ended env) :
    ∀ key ∈ (generateMissingEnvKeys secret keys env).2, key ∈ keys ∧ blank env key = true := by
  induction keys generalizing env with
  | nil => simp [generateMissingEnvKeys]
  | cons first keys ih =>
    obtain ⟨here, later⟩ := List.forall_mem_cons.mp valid
    intro key member
    simp only [generateMissingEnvKeys] at member
    split at member
    · rename_i missing
      rcases List.mem_cons.mp member with same | generated
      · exact ⟨by simp [same], same ▸ missing⟩
      obtain ⟨listed, empty⟩ := ih later (ended_generated env first) key generated
      rw [blank_generated here ended] at empty
      split at empty
      · simp at empty
      · exact ⟨List.mem_cons_of_mem _ listed, empty⟩
    · obtain ⟨listed, empty⟩ := ih later ended key member
      exact ⟨List.mem_cons_of_mem _ listed, empty⟩

theorem filled_of_generated (valid : ∀ name ∈ keys, envKeyIsValid name = true)
    (ended : Ended env) (key : Text) (wanted : key ∈ keys ∨ blank env key = false) :
    blank (generateMissingEnvKeys secret keys env).1 key = false := by
  induction keys generalizing env with
  | nil => simpa [generateMissingEnvKeys] using wanted
  | cons first keys ih =>
    obtain ⟨here, later⟩ := List.forall_mem_cons.mp valid
    simp only [generateMissingEnvKeys]
    split
    · apply ih later (ended_generated env first)
      rw [blank_generated here ended]
      by_cases same : key = first
      · exact .inr (by simp [same])
      · rcases wanted with listed | filled
        · exact .inl ((List.mem_cons.mp listed).resolve_left same)
        · exact .inr (by simp [same, filled])
    · rename_i present
      apply ih later ended
      rcases wanted with listed | filled
      · rcases List.mem_cons.mp listed with same | listed
        · exact .inr (by simpa [same] using present)
        · exact .inl listed
      · exact .inr filled

theorem generateMissingEnvKeys_of_filled (filled : ∀ key ∈ keys, blank env key = false) :
    generateMissingEnvKeys secret keys env = (env, []) := by
  induction keys with
  | nil => rfl
  | cons key keys ih =>
    obtain ⟨here, later⟩ := List.forall_mem_cons.mp filled
    simp only [generateMissingEnvKeys, here, Bool.false_eq_true, if_false]
    exact ih later

theorem lines_generateMissingEnvKeys (secret : Text → Secret)
    (valid : ∀ name ∈ keys, envKeyIsValid name = true) (ended : Ended env) :
    lines (generateMissingEnvKeys secret keys env).1 =
      lines env ++ (generateMissingEnvKeys secret keys env).2.map fun key =>
        generatedLine key (secret key) := by
  rw [generateMissingEnvKeys_fst]
  split
  · rename_i nothing
    simp [nothing]
  rw [lines_terminated_append ended]
  · simp [Function.comp_def, chomp_generatedLine]
  · intro line member
    obtain ⟨key, generated, rfl⟩ := List.mem_map.mp member
    have listed := (blank_of_generated valid ended key generated).1
    exact not_mem_generatedLine (valid key listed) (secret key)

end Generate

theorem missingEnvValues_eq_nil {env : Text} {keys : List Text} :
    missingEnvValues env keys = [] ↔ ∀ key ∈ keys, blank env key = false := by
  have sorted := List.mergeSort_perm (keys.filter (blank env))
    fun first second => decide (first ≤ second)
  rw [missingEnvValues, List.dedup_eq_nil, ← List.length_eq_zero_iff, sorted.length_eq]
  simp

end OpsEngine.Stack
