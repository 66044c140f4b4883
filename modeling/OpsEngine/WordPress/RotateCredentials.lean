import OpsEngine.Data.Error
import OpsEngine.Data.Words

namespace OpsEngine.RotateCredentials

/-! # Rotating the database password of a site

The password is changed in MariaDB and then in `wp-config.php`.  A failure after the first
change is compensated with the old password, as it was read from the output of `wp`.
-/

def utf8Length (text : Text) : Nat := (text.map Char.utf8Size).sum

def validSecret (value : Text) (maxLen : Nat) : Bool :=
  !value.isEmpty && decide (utf8Length value ≤ maxLen) &&
    value.all fun c => !(c == '\n' || c == '\r' || c == '\x00')

def reservedUsers : List Text :=
  ["root".toList, "mysql".toList, "mariadb.sys".toList, "healthcheck".toList]

def validDbUser (user : Text) : Bool :=
  !user.isEmpty && decide (user.length ≤ 80) &&
    user.all (fun c => c.isAlphanum || ['_', '-', '.', '@', '%'].contains c) &&
    !reservedUsers.contains (user.map Char.toLower)

structure Secrets where
  dbRootPassword : Text
  newPassword : Text
  rootValid : validSecret dbRootPassword 4096 = true
  newValid : validSecret newPassword 1024 = true

structure Request where
  container : Text
  root : Text
  uid : Nat
  gid : Nat
  mariadbContainer : Text

/-! ## Commands -/

inductive Command where
  | get (key : Text)
  | alterUser (user password : Text)
  | setPassword (password : Text)
  | check

def wpArgs (request : Request) (tail : List Text) : List Text :=
  ["exec".toList, "-i".toList, "--user".toList,
    Nat.toDigits 10 request.uid ++ ':' :: Nat.toDigits 10 request.gid, request.container,
    "wp".toList, "--path=".toList ++ request.root, "--allow-root".toList] ++ tail

def mariadbArgs (request : Request) : List Text :=
  ["exec".toList, "-i".toList, request.mariadbContainer, "sh".toList, "-c".toList,
    "IFS= read -r MYSQL_PWD; export MYSQL_PWD; exec mariadb -uroot --batch".toList]

def Command.args (request : Request) : Command → List Text
  | .get key => wpArgs request ["config".toList, "get".toList, key, "--format=json".toList]
  | .alterUser _ _ => mariadbArgs request
  | .setPassword password => wpArgs request
      ["config".toList, "set".toList, "DB_PASSWORD".toList, password, "--type=constant".toList]
  | .check => wpArgs request ["db".toList, "check".toList, "--quiet".toList]

def sqlString (value : Text) : Text :=
  (value.flatMap fun c => if c = '\\' then ['\\', '\\'] else [c]).flatMap
    fun c => if c = '\'' then ['\'', '\''] else [c]

def Command.input (secrets : Secrets) : Command → Option Text
  | .alterUser user password => some (secrets.dbRootPassword ++ "\nALTER USER '".toList ++
      sqlString user ++ "'@'%' IDENTIFIED BY '".toList ++ sqlString password ++
      "'; FLUSH PRIVILEGES;\n".toList)
  | _ => none

/-- The commands in their order, and the check for a cancellation between them. -/
inductive Step where
  | readUser
  | readPassword
  | preCommit
  | alterUser
  | setConfig
  | verify
  | revertConfig
  | revertUser

def Step.number : Step → Nat
  | .readUser => 0
  | .readPassword => 1
  | .preCommit => 2
  | .alterUser => 3
  | .setConfig => 4
  | .verify => 5
  | .revertConfig => 6
  | .revertUser => 7

def Step.compensates : Step → Bool
  | .revertConfig | .revertUser => true
  | _ => false

structure Weather where
  /-- the first step that finds the request cancelled -/
  cancelledFrom : Nat
  starts : Step → Bool
  fails : Step → Option ErrorCode
  /-- whether a command that fails or is killed takes effect all the same -/
  lands : Step → Bool

def Weather.cancelled (weather : Weather) (step : Step) : Bool :=
  decide (weather.cancelledFrom ≤ step.number)

/-- How a command fails.  Under a cancelled token every command is killed once it runs. -/
def Weather.outcome (weather : Weather) (step : Step) : Option ErrorCode :=
  if !weather.starts step then some .dependencyUnavailable
  else if weather.cancelled step then some ((weather.fails step).getD .cancelled)
  else weather.fails step

/-- A compensating command that is started and not cancelled takes effect. -/
def Weather.effective (weather : Weather) (step : Step) : Bool :=
  weather.starts step && ((weather.outcome step).isNone || weather.lands step ||
    (step.compensates && !weather.cancelled step))

structure Process where
  args : List Text
  /-- what it reads from its standard input -/
  input : Option Text

structure Host where
  user : Text
  /-- the password in MariaDB -/
  database : Text
  /-- the password in `wp-config.php` -/
  config : Text
  /-- the commands that were tried -/
  issued : List Process

def Command.effect : Command → Host → Host
  | .alterUser _ password, host => { host with database := password }
  | .setPassword password, host => { host with config := password }
  | _, host => host

section

variable (request : Request) (secrets : Secrets) (weather : Weather)

def issue (step : Step) (command : Command) (host : Host) : Host :=
  let after := if weather.effective step then command.effect host else host
  { after with issued := host.issued ++ [⟨command.args request, command.input secrets⟩] }

end

/-! ## Reading a value -/

/-- How `wp` encodes the characters of a JSON string.  Which of them it escapes is left
open. -/
class JsonEncoding where
  escape : Char → Text
  kept_or_escaped : ∀ c, escape c = [c] ∨ ∃ second rest, escape c = '\\' :: second :: rest
  quote : escape '"' = ['\\', '"']
  last : ∀ c, c ≠ '"' → (escape c).getLast? ≠ some '"'

open JsonEncoding (escape)

section

variable [JsonEncoding]

def escaped (value : Text) : Text := value.flatMap escape

/-- What `wp config get --format=json` prints. -/
def printed (value : Text) : Text := '"' :: escaped value ++ ['"', '\n']

end

def isQuote (c : Char) : Bool := c == '"'

def readConfigValue (output : Text) : Text :=
  ((Text.trim output).dropWhile isQuote).rdropWhile isQuote

/-! ## The request -/

inductive Stage where
  | readCredentials
  | alterUser
  | setConfig
  | verify

def Stage.message : Stage → Text
  | .readCredentials => "could not read the site's existing database credentials".toList
  | .alterUser => "MariaDB rejected the credential rotation".toList
  | .setConfig => "could not write the new database password to wp-config.php".toList
  | .verify => ("could not verify WordPress database connectivity after rotation; the " ++
      "previous credentials were restored").toList

inductive Error where
  | cancelled
  | invalidCredentialOutput
  | rejected (stage : Stage) (code : ErrorCode)

def Error.protocol : Error → ErrorCode × Text
  | .cancelled => (.cancelled, "cancelled before the database credential rotation ran".toList)
  | .invalidCredentialOutput => (.internal, Stage.readCredentials.message)
  | .rejected stage code => (code, stage.message)

section

variable [JsonEncoding] (request : Request) (secrets : Secrets) (weather : Weather)

/-- Both changes and the check; the failure is compensated with the old password. -/
def rotate (user old : Text) (host : Host) : Except Error Text × Host :=
  let host := issue request secrets weather .alterUser (.alterUser user secrets.newPassword) host
  match weather.outcome .alterUser with
  | some code => (.error (.rejected .alterUser code), host)
  | none =>
    let host := issue request secrets weather .setConfig (.setPassword secrets.newPassword) host
    let (failure, host) :=
      match weather.outcome .setConfig with
      | some code => (some (.rejected .setConfig code), host)
      | none => ((weather.outcome .verify).map (.rejected .verify),
          issue request secrets weather .verify .check host)
    match failure with
    | none => (.ok user, host)
    | some error =>
      let host := issue request secrets weather .revertConfig (.setPassword old) host
      (.error error, issue request secrets weather .revertUser (.alterUser user old) host)

/-- The user and the old password, if nothing stops the request before its first change. -/
def readCredentials (host : Host) : Except Error (Text × Text) × Host :=
  let host := issue request secrets weather .readUser (.get "DB_USER".toList) host
  match weather.outcome .readUser with
  | some code => (.error (.rejected .readCredentials code), host)
  | none =>
    let user := readConfigValue (printed host.user)
    if !validDbUser user then (.error .invalidCredentialOutput, host)
    else
      let host := issue request secrets weather .readPassword (.get "DB_PASSWORD".toList) host
      match weather.outcome .readPassword with
      | some code => (.error (.rejected .readCredentials code), host)
      | none =>
        let old := readConfigValue (printed host.config)
        if !validSecret old 1024 then (.error .invalidCredentialOutput, host)
        else if weather.cancelled .preCommit then (.error .cancelled, host)
        else (.ok (user, old), host)

/-- The database user, or why the rotation failed. -/
def execute (host : Host) : Except Error Text × Host :=
  let (credentials, host) := readCredentials request secrets weather host
  match credentials with
  | .error error => (.error error, host)
  | .ok (user, old) => rotate request secrets weather user old host

end

section

variable (request : Request) (secrets : Secrets) (weather : Weather)

@[simp] theorem issue_issued (step : Step) (command : Command) (host : Host) :
    (issue request secrets weather step command host).issued =
      host.issued ++ [⟨command.args request, command.input secrets⟩] := rfl

@[simp] theorem issue_database (step : Step) (command : Command) (host : Host) :
    (issue request secrets weather step command host).database =
      if weather.effective step then (command.effect host).database else host.database := by
  unfold issue
  split <;> rfl

@[simp] theorem issue_config (step : Step) (command : Command) (host : Host) :
    (issue request secrets weather step command host).config =
      if weather.effective step then (command.effect host).config else host.config := by
  unfold issue
  split <;> rfl

@[simp] theorem issue_user (step : Step) (command : Command) (host : Host) :
    (issue request secrets weather step command host).user = host.user := by
  unfold issue
  split
  · cases command <;> rfl
  · rfl

@[simp] theorem args_alterUser (user password : Text) :
    Command.args request (.alterUser user password) = mariadbArgs request := rfl

@[simp] theorem args_setPassword {password other : Text} :
    Command.args request (.setPassword password) = Command.args request (.setPassword other) ↔
      password = other := by
  simp [Command.args, wpArgs]

theorem effective_of_worked {weather : Weather} {step : Step}
    (worked : weather.outcome step = none) : weather.effective step = true := by
  cases started : weather.starts step with
  | false => simp [Weather.outcome, started] at worked
  | true => simp [Weather.effective, worked, started]

theorem rotate_readable (user old : Text) (host : Host) :
    (rotate request secrets weather user old host).1 ≠ .error .invalidCredentialOutput := by
  cases altered : weather.outcome .alterUser <;> cases set : weather.outcome .setConfig <;>
    cases verified : weather.outcome .verify <;> simp [rotate, altered, set, verified]

end

/-! ## What the reading makes of a value -/

section

variable [JsonEncoding] {c : Char}

/-- The character is printed as it is. -/
def plain (c : Char) : Bool := decide (escape c = [c])

theorem escape_plain (ordinary : plain c = true) : escape c = [c] := of_decide_eq_true ordinary

theorem escape_special (special : plain c = false) :
    ∃ second rest, escape c = '\\' :: second :: rest :=
  (JsonEncoding.kept_or_escaped c).resolve_left (of_decide_eq_false special)

theorem escape_last (other : c ≠ '"') : ∃ first last, escape c = first ++ [last] ∧ last ≠ '"' := by
  rcases List.eq_nil_or_concat' (escape c) with empty | ⟨first, last, same⟩
  · rcases JsonEncoding.kept_or_escaped c with kept | ⟨_, _, special⟩ <;> simp_all
  · refine ⟨first, last, same, fun quote => JsonEncoding.last c other ?_⟩
    simp [same, quote]

theorem not_quote_of_plain (ordinary : plain c = true) : c ≠ '"' := by
  rintro rfl
  have same := escape_plain ordinary
  rw [JsonEncoding.quote] at same
  contradiction

theorem length_escape (c : Char) : 1 ≤ (escape c).length ∧
    (plain c = false → 2 ≤ (escape c).length) := by
  cases ordinary : plain c with
  | true => simp [escape_plain ordinary]
  | false =>
    obtain ⟨second, rest, same⟩ := escape_special ordinary
    simp [same]

theorem length_escaped (value : Text) : value.length ≤ (escaped value).length := by
  induction value with
  | nil => simp
  | cons c rest ih =>
    have one := (length_escape c).1
    simp only [escaped, List.flatMap_cons, List.length_append, List.length_cons] at ih ⊢
    omega

theorem plain_of_length {value : Text} (short : (escaped value).length ≤ value.length) :
    value.all plain = true := by
  induction value with
  | nil => rfl
  | cons c rest ih =>
    obtain ⟨one, two⟩ := length_escape c
    have long := length_escaped rest
    simp only [escaped, List.flatMap_cons, List.length_append, List.length_cons] at short ih long
    have ordinary : plain c = true := by
      by_contra special
      have := two (by simpa using special)
      omega
    rw [List.all_cons, ordinary, ih (by omega)]
    rfl

theorem dropWhile_escaped (value : Text) (rest : Text) (filled : value ≠ []) :
    (escaped value ++ rest).dropWhile isQuote = escaped value ++ rest := by
  cases value with
  | nil => contradiction
  | cons c others =>
  have first : ∃ head tail, escape c = head :: tail ∧ isQuote head = false := by
    cases ordinary : plain c with
    | true =>
      exact ⟨c, [], escape_plain ordinary, by simp [isQuote, not_quote_of_plain ordinary]⟩
    | false =>
      obtain ⟨second, rest, same⟩ := escape_special ordinary
      exact ⟨_, _, same, by decide⟩
  obtain ⟨head, tail, same, stays⟩ := first
  rw [escaped, List.flatMap_cons, same, List.cons_append, List.cons_append,
    List.dropWhile_cons_of_neg (by simp [stays])]

theorem readConfigValue_printed (value : Text) :
    readConfigValue (printed value) = (escaped value).rdropWhile isQuote := by
  have trimmed : Text.trim (printed value) = '"' :: (escaped value ++ ['"']) := by
    have ends : printed value = '"' :: escaped value ++ ['"'] ++ ['\n'] := by simp [printed]
    rw [Text.trim, Text.trimStart, printed, List.cons_append, List.dropWhile_cons_of_neg (by decide),
      ← List.cons_append, ← printed, ends, Text.trimEnd, List.rdropWhile_concat_pos _ _ _ (by decide),
      List.rdropWhile_concat_neg _ _ _ (by decide), List.cons_append]
  rw [readConfigValue, trimmed, List.dropWhile_cons_of_pos (by decide)]
  by_cases filled : value = []
  · subst filled
    simp [escaped, isQuote, List.rdropWhile]
  · rw [dropWhile_escaped value _ filled, List.rdropWhile_concat_pos _ _ _ (by decide)]

/-- A value is read as it is exactly if nothing in it is escaped. -/
theorem readConfigValue_eq_iff (value : Text) :
    readConfigValue (printed value) = value ↔ value.all plain = true := by
  rw [readConfigValue_printed]
  constructor
  · intro same
    rcases List.eq_nil_or_concat' value with rfl | ⟨first, c, rfl⟩
    · rfl
    have parts : escaped (first ++ [c]) = escaped first ++ escape c := by simp [escaped]
    by_cases quote : c = '"'
    · subst quote
      -- the quote at the end is lost and its backslash stays
      have kept : (escaped (first ++ ['"'])).rdropWhile isQuote = escaped first ++ ['\\'] := by
        rw [parts, show escape '"' = ['\\'] ++ ['"'] from JsonEncoding.quote, ← List.append_assoc,
          List.rdropWhile_concat_pos _ _ _ (by decide), List.rdropWhile_concat_neg _ _ _ (by decide)]
      rw [kept] at same
      exact absurd (List.append_inj_right' same rfl) (by decide)
    · obtain ⟨start, last, ends, differs⟩ := escape_last quote
      rw [parts, ends, ← List.append_assoc,
        List.rdropWhile_concat_neg _ _ _ (by simpa [isQuote] using differs), List.append_assoc,
        ← ends, ← parts] at same
      exact plain_of_length (congrArg List.length same).le
  · intro ordinary
    have same : escaped value = value := by
      induction value with
      | nil => rfl
      | cons c rest ih =>
        rw [List.all_cons, Bool.and_eq_true] at ordinary
        rw [escaped, List.flatMap_cons, escape_plain ordinary.1, ← escaped, ih ordinary.2]
        rfl
    rw [same]
    refine List.rdropWhile_eq_self_iff.mpr fun filled => ?_
    have last := List.all_eq_true.mp ordinary _ (List.getLast_mem filled)
    simpa [isQuote] using not_quote_of_plain last

end

/-! ## The site is not locked out -/

section

variable [JsonEncoding] (request : Request) (secrets : Secrets) (weather : Weather) (user password : Text)

def start : Host := ⟨user, password, password, []⟩

/-- What is read of a value of `wp-config.php`. -/
def readBack (value : Text) : Text := readConfigValue (printed value)

def readable (value : Text) : Bool := validSecret (readBack value) 1024

/-- Both values are read, and the user is one that may be changed. -/
def Reads : Prop :=
  weather.outcome .readUser = none ∧ validDbUser (readBack user) = true ∧
    weather.outcome .readPassword = none

theorem readCredentials_of_reads (reads : Reads weather user) :
    (readCredentials request secrets weather (start user password)).1 =
      if !readable password then .error .invalidCredentialOutput
      else if weather.cancelled .preCommit then .error .cancelled
      else .ok (readBack user, readBack password) := by
  obtain ⟨readsUser, validUser, readsPassword⟩ := reads
  simp only [readBack] at validUser
  simp only [readCredentials, readsUser, readsPassword, issue_user, issue_config, start,
    Command.effect, validUser, Bool.not_true, ite_self, readable, readBack]
  split_ifs <;> simp_all

theorem readCredentials_of_not_reads (unread : ¬Reads weather user) : ∃ error, ∀ secrets password,
    (readCredentials request secrets weather (start user password)).1 = .error error := by
  cases readsUser : weather.outcome .readUser with
  | some code => exact ⟨_, fun _ _ => by rw [readCredentials, readsUser]⟩
  | none =>
  cases validUser : validDbUser (readConfigValue (printed user)) with
  | false =>
    refine ⟨.invalidCredentialOutput, fun _ _ => ?_⟩
    simp [readCredentials, readsUser, validUser, start]
  | true =>
  cases readsPassword : weather.outcome .readPassword with
  | none => exact absurd ⟨readsUser, validUser, readsPassword⟩ unread
  | some code =>
    refine ⟨.rejected .readCredentials code, fun _ _ => ?_⟩
    simp [readCredentials, readsUser, readsPassword, validUser, start]

def Host.seen (host : Host) : List (List Text) := host.issued.map Process.args

/-- The reads change nothing, and what is seen of them does not depend on a secret. -/
theorem readCredentials_host : ∃ seen, ∀ secrets password,
    let after := (readCredentials request secrets weather (start user password)).2
    after.database = password ∧ after.config = password ∧ after.seen = seen := by
  cases readsUser : weather.outcome .readUser with
  | some code =>
    refine ⟨[Command.args request (.get "DB_USER".toList)], fun _ _ => ?_⟩
    simp [readCredentials, readsUser, start, Command.effect, Host.seen]
  | none =>
  cases validUser : validDbUser (readConfigValue (printed user)) with
  | false =>
    refine ⟨[Command.args request (.get "DB_USER".toList)], fun _ _ => ?_⟩
    simp [readCredentials, readsUser, validUser, start, Command.effect, Host.seen]
  | true =>
  refine ⟨[Command.args request (.get "DB_USER".toList),
    Command.args request (.get "DB_PASSWORD".toList)], fun _ _ => ?_⟩
  cases readsPassword : weather.outcome .readPassword <;>
    simp only [readCredentials, readsUser, readsPassword, validUser, start, issue_user,
      Bool.not_true]
  all_goals split_ifs <;> simp_all [Command.effect, Host.seen]

/-- Both passwords are the new one after a success, and the old one after an error. -/
def Settled : Prop :=
  match execute request secrets weather (start user password) with
  | (.ok _, after) => after.database = secrets.newPassword ∧ after.config = secrets.newPassword
  | (.error _, after) => after.database = password ∧ after.config = password

/-- The first change is tried. -/
def Changes : Prop :=
  Reads weather user ∧ readable password = true ∧ weather.cancelled .preCommit = false

/-- A change was made that is to be undone. -/
def Weather.Undoes : Prop :=
  weather.outcome .alterUser = none ∧
    (weather.outcome .setConfig ≠ none ∨ weather.outcome .verify ≠ none)

/-- A failed change of the database has no effect; after a later failure a password that
is put back was read as it is, and one that is not put back is still the old one. -/
def Recovers : Prop :=
  (weather.outcome .alterUser ≠ none → weather.effective .alterUser = true →
    secrets.newPassword = password) ∧
  (weather.Undoes →
    (if weather.effective .revertUser then password.all plain = true
      else secrets.newPassword = password) ∧
    (if weather.effective .revertConfig then password.all plain = true
      else weather.effective .setConfig = true → secrets.newPassword = password))

theorem execute_eq (host : Host) : execute request secrets weather host =
    match (readCredentials request secrets weather host).1 with
    | .error error => (.error error, (readCredentials request secrets weather host).2)
    | .ok (user, old) => rotate request secrets weather user old
        (readCredentials request secrets weather host).2 := rfl

theorem execute_of_changes (changes : Changes weather user password) :
    execute request secrets weather (start user password) =
      rotate request secrets weather (readBack user) (readBack password)
        (readCredentials request secrets weather (start user password)).2 := by
  obtain ⟨reads, valid, goes⟩ := changes
  rw [execute_eq, readCredentials_of_reads request secrets weather user password reads, valid, goes]
  rfl

theorem execute_of_not_changes (stays : ¬Changes weather user password) :
    ∃ error, execute request secrets weather (start user password) =
      (.error error, (readCredentials request secrets weather (start user password)).2) := by
  have ends : ∃ error, (readCredentials request secrets weather (start user password)).1 =
      .error error := by
    by_cases reads : Reads weather user
    · rw [readCredentials_of_reads request secrets weather user password reads]
      split_ifs with invalid cancelled
      · exact ⟨_, rfl⟩
      · exact ⟨_, rfl⟩
      · exact absurd ⟨reads, by simpa using invalid, by simpa using cancelled⟩ stays
    · obtain ⟨error, failed⟩ := readCredentials_of_not_reads request weather user reads
      exact ⟨error, failed secrets password⟩
  obtain ⟨error, failed⟩ := ends
  exact ⟨error, by rw [execute_eq, failed]⟩

theorem undone_iff {host : Host} (database : host.database = secrets.newPassword)
    (config : host.config =
      if weather.effective .setConfig then secrets.newPassword else password) :
    (let host := issue request secrets weather .revertConfig (.setPassword (readBack password)) host
      let host := issue request secrets weather .revertUser (.alterUser user (readBack password)) host
      host.database = password ∧ host.config = password) ↔
    (if weather.effective .revertUser then password.all plain = true
      else secrets.newPassword = password) ∧
    (if weather.effective .revertConfig then password.all plain = true
      else weather.effective .setConfig = true → secrets.newPassword = password) := by
  have same : readBack password = password ↔ password.all plain = true :=
    readConfigValue_eq_iff password
  cases user : weather.effective .revertUser <;> cases config : weather.effective .revertConfig <;>
    cases set : weather.effective .setConfig <;> simp_all [Command.effect]

theorem settled_iff :
    Settled request secrets weather user password ↔
      (Changes weather user password → Recovers secrets weather password) := by
  obtain ⟨seen, keeps⟩ := readCredentials_host request weather user
  obtain ⟨database, config, -⟩ := keeps secrets password
  by_cases changes : Changes weather user password
  · rw [Settled, execute_of_changes request secrets weather user password changes]
    rw [imp_iff_right changes]
    generalize (readCredentials request secrets weather (start user password)).2 = host at *
    cases altered : weather.outcome .alterUser with
    | some code =>
      cases effect : weather.effective .alterUser <;>
        simp [rotate, altered, Recovers, Weather.Undoes, Command.effect, effect, database, config]
    | none =>
    have effect := effective_of_worked altered
    cases set : weather.outcome .setConfig with
    | some code =>
      simp only [rotate, altered, set, Recovers, Weather.Undoes]
      rw [undone_iff]
      · simp
      · simp [effect, Command.effect]
      · simp [effect, Command.effect, config]
    | none =>
    have written := effective_of_worked set
    cases verified : weather.outcome .verify with
    | none =>
      simp [rotate, altered, set, verified, Recovers, Weather.Undoes, effect, written,
        Command.effect]
    | some code =>
    simp only [rotate, altered, set, verified, Recovers, Weather.Undoes, Option.map]
    rw [undone_iff]
    · simp
    · simp [effect, Command.effect]
    · simp [written, Command.effect]
  · obtain ⟨error, failed⟩ := execute_of_not_changes request secrets weather user password changes
    simp only [Settled, failed, changes, false_imp_iff, iff_true]
    exact ⟨database, config⟩

end

def blog : Request := ⟨"php".toList, "/var/www/blog".toList, 1000, 1000, "mariadb".toList⟩

def fresh : Secrets := ⟨"root-secret".toList, "new-secret".toList, by decide, by decide⟩

/-- Cancelled after the change in MariaDB: the compensation is killed as well. -/
def cancelledMidway : Weather := ⟨4, fun _ => true, fun _ => none, fun _ => false⟩

/-- An encoding that escapes what it has to. -/
abbrev sparing : JsonEncoding where
  escape c := if c = '"' ∨ c = '\\' then ['\\', c] else [c]
  kept_or_escaped c := by
    split_ifs
    · exact .inr ⟨c, [], rfl⟩
    · exact .inl rfl
  quote := rfl
  last c other := by split_ifs <;> simpa using other

theorem cancelled_locks_out : letI := sparing
    ¬Settled blog fresh cancelledMidway "blog".toList "old-secret".toList := by
  rintro ⟨database, -⟩
  exact absurd database (by decide +kernel)

/-! ## What is seen of the secrets -/

inductive Record where
  | committed (dbUser : Text)
  | failed (code : ErrorCode) (message : Text)

def Record.ofResult : Except Error Text → Record
  | .ok user => .committed user
  | .error error => .failed error.protocol.1 error.protocol.2

/-- The line in the audit log: whether the request succeeded, or its code. -/
def auditLine : Except Error Text → Bool × Option ErrorCode
  | .ok _ => (true, none)
  | .error error => (false, some error.protocol.1)

structure Observation where
  args : List (List Text)
  record : Record
  audit : Bool × Option ErrorCode
  result : Except Error Text

section

variable [JsonEncoding] (request : Request) (weather : Weather) (user : Text)
  (first second : Secrets) (old older : Text)

def observe (secrets : Secrets) (password : Text) : Observation :=
  let ended := execute request secrets weather (start user password)
  ⟨ended.2.seen, .ofResult ended.1, auditLine ended.1, ended.1⟩

/-- Both old passwords can be read or none; if the password is changed the new ones are the
same; and if it is put back the old ones are read as the same. -/
def Silent : Prop :=
  Reads weather user → readable old = readable older ∧
    (readable old = true → weather.cancelled .preCommit = false →
      weather.outcome .alterUser = none → first.newPassword = second.newPassword ∧
        (weather.Undoes → readBack old = readBack older))

theorem observe_eq_iff :
    observe request weather user first old = observe request weather user second older ↔
    (execute request first weather (start user old)).2.seen =
      (execute request second weather (start user older)).2.seen ∧
    (execute request first weather (start user old)).1 =
      (execute request second weather (start user older)).1 := by
  simp only [observe, Observation.mk.injEq]
  constructor
  · rintro ⟨args, -, -, result⟩
    exact ⟨args, result⟩
  · rintro ⟨args, result⟩
    rw [args, result]
    exact ⟨rfl, rfl, rfl, rfl⟩

theorem rotate_seen_iff {host other : Host} (seen : host.seen = other.seen) :
    ((rotate request first weather user (readBack old) host).2.seen =
        (rotate request second weather user (readBack older) other).2.seen ∧
      (rotate request first weather user (readBack old) host).1 =
        (rotate request second weather user (readBack older) other).1) ↔
    (weather.outcome .alterUser = none → first.newPassword = second.newPassword ∧
      (weather.Undoes → readBack old = readBack older)) := by
  unfold Host.seen at *
  cases altered : weather.outcome .alterUser with
  | some code => simp [rotate, altered, seen]
  | none =>
  cases set : weather.outcome .setConfig with
  | some code => simp [rotate, altered, set, seen, Weather.Undoes]
  | none =>
    cases verified : weather.outcome .verify <;>
      simp [rotate, altered, set, verified, seen, Weather.Undoes]

theorem observe_iff :
    observe request weather user first old = observe request weather user second older ↔
      Silent weather user first second old older := by
  rw [observe_eq_iff]
  obtain ⟨seen, keeps⟩ := readCredentials_host request weather user
  have same := (keeps first old).2.2.trans (keeps second older).2.2.symm
  by_cases reads : Reads weather user
  · have ended := fun secrets password =>
      readCredentials_of_reads request secrets weather user password reads
    rw [Silent, imp_iff_right reads, execute_eq, execute_eq, ended, ended]
    cases goes : weather.cancelled .preCommit with
    | true => cases readable old <;> cases readable older <;> simp [same]
    | false =>
    cases readable old <;> cases readable older
    · simp [same]
    · refine iff_of_false (fun equal => ?_) (by simp)
      exact rotate_readable _ _ _ _ _ _ equal.2.symm
    · refine iff_of_false (fun equal => ?_) (by simp)
      exact rotate_readable _ _ _ _ _ _ equal.2
    · simpa using rotate_seen_iff request weather _ first second old older same
  · obtain ⟨error, failed⟩ := readCredentials_of_not_reads request weather user reads
    simp [execute_eq, failed, same, Silent, reads]

end

def other : Secrets := ⟨"root-secret".toList, "other-secret".toList, by decide, by decide⟩

/-- The new password is an argument of `wp config set`. -/
theorem new_password_seen : letI := sparing
    ∃ weather user old,
    observe blog weather user fresh old ≠ observe blog weather user other old := by
  refine ⟨⟨8, fun _ => true, fun _ => none, fun _ => false⟩, "blog".toList, "old-secret".toList,
    fun equal => ?_⟩
  have args := congrArg Observation.args equal
  exact absurd args (by decide +kernel)

end OpsEngine.RotateCredentials
