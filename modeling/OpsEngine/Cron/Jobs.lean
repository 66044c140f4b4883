import OpsEngine.Data.Search
import OpsEngine.Data.Words

namespace OpsEngine.Cron

open Text

/-! # Backup jobs in a crontab

A database backup is one tagged line of root's crontab.  Older lines pass the
database password on the command line; they are listed with it taken out.
-/

inductive DbType where
  | mariadb
  | postgres
deriving DecidableEq

def DbType.parse (value : Text) : Option DbType :=
  if value = "mariadb".toList then some .mariadb
  else if value = "postgres".toList then some .postgres
  else none

def DbType.text : DbType → Text
  | .mariadb => "mariadb".toList
  | .postgres => "postgres".toList

def databaseNameIsValid (value : Text) : Bool :=
  !value.isEmpty && decide (value.length ≤ 64) && value.all fun c => c.isAlphanum || c == '_'

structure DatabaseName where
  text : Text
  valid : databaseNameIsValid text = true
deriving DecidableEq

def DatabaseName.parse (value : Text) : Option DatabaseName :=
  if valid : databaseNameIsValid value = true then some ⟨value, valid⟩ else none

structure Target where
  dbType : DbType
  database : DatabaseName
deriving DecidableEq

def Target.parse (dbType database : Text) : Option Target := do
  let dbType ← DbType.parse dbType
  let database ← DatabaseName.parse database
  some ⟨dbType, database⟩

inductive JobFormat where
  | engine
  | legacy
deriving DecidableEq

structure ScheduledJob where
  line : Text
  schedule : Text
  dbType : Text
  database : Text
  retentionDays : Nat
  enabled : Bool
  format : JobFormat
  secretInCrontab : Bool
deriving DecidableEq

structure ParsedLine where
  job : ScheduledJob
  target : Target
deriving DecidableEq

def enginePrefix : Text := "/usr/local/bin/ops-engine backup run-scheduled ".toList

def commentMarker : Text := " # [db-backup] ".toList

/-! ## Taking the password out -/

/-- The text from the quote that closes a shell string on; `'\''` does not. -/
def closing : Text → Option Text
  | [] => none
  | '\'' :: '\\' :: '\'' :: '\'' :: rest => closing rest
  | c :: rest => if c = '\'' then some (c :: rest) else closing rest

def redacted : Text := "[redacted]".toList

/-- One round of the loop for each occurrence of the marker; a round takes at
least the marker, so the length of the text is enough of them. -/
def redactRounds (marker : Text) : Nat → Text → Text
  | 0, rest => rest
  | rounds + 1, rest =>
    match splitOnce? marker rest with
    | none => rest
    | some (before, tail) =>
      before ++ marker ++ redacted ++
        match closing tail with
        | some rest => redactRounds marker rounds rest
        | none => []

def redactQuotedAfter (command marker : Text) : Text := redactRounds marker command.length command

def mariadbMarker : Text := "mariadb-dump -uroot -p'".toList

def postgresMarker : Text := "PGPASSWORD='".toList

def redactLegacy (command : Text) : Text :=
  redactQuotedAfter (redactQuotedAfter command mariadbMarker) postgresMarker

def containsSecret (command : Text) : Bool :=
  Text.contains mariadbMarker command || Text.contains postgresMarker command

/-! ## Reading a line -/

def numberAfter (command marker : Text) : Nat :=
  match splitOnce? marker command with
  | some (_, rest) => (parseU32 (rest.takeWhile fun c => c.isDigit)).getD 0
  | none => 0

def retentionMarker (format : JobFormat) : Text :=
  match format with
  | .engine => "--retention-days ".toList
  | .legacy => "-mtime +".toList

def finish (raw : Text) (enabled : Bool) (schedule command : Text) (target : Target) :
    ParsedLine :=
  let format := if enginePrefix.isPrefixOf command then JobFormat.engine else .legacy
  let secretInCrontab := decide (format = .legacy) && containsSecret command
  { job :=
      { line := if secretInCrontab then redactLegacy raw else raw
        schedule
        dbType := target.dbType.text
        database := target.database.text
        retentionDays := numberAfter command (retentionMarker format)
        enabled
        format
        secretInCrontab }
    target }

def splitFields : List Text → Option (List Text × List Text)
  | [] => none
  | first :: others =>
    if first.head? = some '@' then some ([first], others)
    else if others.length < 4 then none
    else some (first :: others.take 4, others.drop 4)

/-- A line without the blanks around it and the hashes that disable it. -/
def lineContent (raw : Text) : Text := trim ((trim raw).dropWhile fun c => c == '#')

def parseLine (raw : Text) : Option ParsedLine := do
  let enabled := (trim raw).head? ≠ some '#'
  let (command, info) ← rsplitOnce? commentMarker (lineContent raw)
  let (dbType, database) ← splitOnce? [':'] (trim info)
  let target ← Target.parse (trim dbType) (trim database)
  let (schedule, command) ← splitFields (splitWhitespace (trim command))
  if command.isEmpty then none
  else some (finish raw enabled (joinWords schedule) (joinWords command) target)

def listJobs (tab : Text) : List ScheduledJob :=
  ((lines tab).filterMap parseLine).map fun parsed => parsed.job

end OpsEngine.Cron
