import OpsEngine.Cron.Schedule

namespace OpsEngine.AgentRegistry

open Text (contains rsplitOnce? decimal?)

/-! # Agents from the registry

The script of an agent is installed only as the registry lists it and the operator has
reviewed it.  That a community agent was approved is said by a marker file, whose name
is the agent's with the hash behind it.
-/

def isHash (text : Text) : Bool :=
  decide (text.length = 64) && text.all fun c => c.isDigit || ('a' ≤ c && c ≤ 'f')

abbrev Hash : Type := { text : Text // isHash text = true }

def isNameChar (c : Char) : Bool := c.isLower || c.isDigit

def validAgentName : Text → Bool
  | [] => false
  | c :: rest => decide (rest.length < 64) && isNameChar c &&
      rest.all fun c => isNameChar c || c == '-'

abbrev AgentName : Type := { text : Text // validAgentName text = true }

def builtIn : List Text :=
  ["metrics-agent".toList, "resource-alert".toList, "backup-agent".toList,
    "bruteforce-guard".toList, "backup-restore-drill".toList, "error-log-digest".toList,
    "cache-warmup".toList]

structure InstallRequest where
  name : AgentName
  release : Text
  sha256 : Hash
  schedule : Option Cron.Schedule

structure RegistryAgent where
  version : Text
  tier : Text
  author : Text
  schedule : Text
  defaultSchedule : Text
  minEngine : Text
  isolation : Text
  writablePaths : List Text
  script : Text
  requiresOps : List Text
  requiresHelpers : List Text
  requiresTools : List Text
  files : List (Text × Text)

structure Registry where
  schema : Nat
  release : Text
  agents : List (Text × RegistryAgent)
  /-- names with versions -/
  revoked : List (Text × Text)

inductive Error where
  | fetch
  | badRegistry (why : Text)
  | unknownAgent
  | builtIn
  | revoked
  | engineTooOld
  | missingOperations (names : List Text)
  | missingHelpers (names : List Text)
  | missingTools (names : List Text)
  | unsupportedTools (names : List Text)
  | hashMismatch
  | notApproved
  | scheduleNotConfigurable
deriving DecidableEq

structure HostFacts where
  operations : List Text
  helpers : List Text
  toolPresent : Text → Option Bool

inductive Tier where
  | official
  | community
deriving DecidableEq

structure Agent where
  name : Text
  version : Text
  defaultSchedule : Option Text
  configurableSchedule : Bool
  script : Text
  systemdWritable : Option (List Text)
  author : Text
deriving DecidableEq

structure Verified where
  agent : Agent
  tier : Tier
  scriptSha256 : Text
deriving DecidableEq

/-- What the engine can do with downloaded bytes. -/
structure Codec (Bytes : Type) where
  json : Bytes → Option Registry
  utf8 : Bytes → Option Text
  sha256 : Bytes → Hash

/-! ## Verification -/

def ensure (holds : Bool) (error : Error) : Except Error Unit :=
  if holds then .ok () else .error error

def require {α : Type} (value : Option α) (error : Error) : Except Error α :=
  match value with
  | some value => .ok value
  | none => .error error

def bad (why : String) : Error := .badRegistry why.toList

def validRequirements (names : List Text) (maxLen : Nat) (allow : Char → Bool) : Bool :=
  decide (names.length ≤ 32) &&
    names.all fun name => !name.isEmpty && decide (name.length ≤ maxLen) && name.all allow

def isToolChar (c : Char) : Bool := isNameChar c || c == '-'

def checkRequirements (entry : RegistryAgent) (host : HostFacts) : Except Error Unit := do
  ensure (validRequirements entry.requiresOps 64 (fun c => c.isAlphanum || c == '.') &&
    validRequirements entry.requiresHelpers 32 isToolChar &&
    validRequirements entry.requiresTools 32 isToolChar) (bad "requirements are not valid")
  let operations := entry.requiresOps.filter (!host.operations.contains ·)
  ensure operations.isEmpty (.missingOperations operations)
  let helpers := entry.requiresHelpers.filter (!host.helpers.contains ·)
  ensure helpers.isEmpty (.missingHelpers helpers)
  let unsupported := entry.requiresTools.filter (host.toolPresent · == none)
  ensure unsupported.isEmpty (.unsupportedTools unsupported)
  let absent := entry.requiresTools.filter (host.toolPresent · == some false)
  ensure absent.isEmpty (.missingTools absent)

def parseU64 (text : Text) : Option Nat :=
  let digits := match text with
    | '+' :: rest => rest
    | _ => text
  (decimal? digits).filter fun value => decide (value < 2 ^ 64)

def parseSemver (text : Text) : Option (Nat × Nat × Nat) :=
  match text.splitOn '.' with
  | [major, minor, patch] => do
    return (← parseU64 major, ← parseU64 minor, ← parseU64 patch)
  | _ => none

def older (current needed : Nat × Nat × Nat) : Bool :=
  current.1 < needed.1 || current.1 == needed.1 &&
    (current.2.1 < needed.2.1 || current.2.1 == needed.2.1 && current.2.2 < needed.2.2)

def isControl (c : Char) : Bool := c.toNat < 0x20 || 0x7f ≤ c.toNat && c.toNat ≤ 0x9f

def validAuthor (author : Text) : Bool :=
  decide (author.length ≤ 100) && !author.any isControl && author == Text.trim author

def parseTier (tier : Text) : Option Tier :=
  if tier = "official".toList then some .official
  else if tier = "community".toList then some .community
  else none

/-- Whether the caller may choose the schedule, and the one to use otherwise. -/
def scheduleOf (entry : RegistryAgent) : Except Error (Bool × Option Text) := do
  if entry.schedule = "none".toList then return (false, none)
  ensure (entry.schedule == "fixed".toList || entry.schedule == "configurable".toList)
    (bad "unknown schedule kind")
  ensure (Cron.Schedule.parse entry.defaultSchedule).isSome (bad "default schedule is invalid")
  return (entry.schedule == "configurable".toList, some entry.defaultSchedule)

def writablePrefixes : List Text :=
  ["/root/.wcp/".toList, "/var/log/".toList, "/var/www/".toList, "/var/lib/wcp-agent/".toList]

def validWritablePath (path : Text) : Bool :=
  writablePrefixes.any (·.isPrefixOf path) && decide (path.length ≤ 200) &&
    ((path.splitOn '/').drop 1).all fun part =>
      !part.isEmpty && part != "..".toList && part != ".".toList &&
        part.all fun c => c.isAlphanum || c == '.' || c == '_' || c == '-'

def isolationOf (entry : RegistryAgent) (scheduled : Bool) : Except Error (Option (List Text)) :=
  if (entry.isolation.isEmpty || entry.isolation == "cron".toList) && entry.writablePaths.isEmpty then
    .ok none
  else if entry.isolation == "systemd".toList && scheduled &&
      decide (entry.writablePaths.length ≤ 16) && entry.writablePaths.all validWritablePath then
    .ok (some entry.writablePaths)
  else .error (bad "isolation settings are not valid")

def plainFileName (name : Text) : Bool :=
  !name.isEmpty && !name.any (fun c => c == '/' || c == '\\') && name.head? != some '.'

def releasesBase : Text :=
  "https://github.com/local-control-panel/agents/releases/download".toList

def rawBase : Text := "https://raw.githubusercontent.com/local-control-panel/agents".toList

def InstallRequest.registryUrl (request : InstallRequest) : Text :=
  releasesBase ++ ['/'] ++ request.release ++ "/registry.json".toList

def InstallRequest.scriptPath (request : InstallRequest) (script : Text) : Text :=
  "agents/".toList ++ request.name.val ++ ['/'] ++ script

def InstallRequest.scriptUrl (request : InstallRequest) (script : Text) : Text :=
  rawBase ++ ['/'] ++ request.release ++ ['/'] ++ request.scriptPath script

section

variable {Bytes : Type} (codec : Codec Bytes) (fetch : Text → Nat → Option Bytes)
  (request : InstallRequest) (engineVersion : Text) (approved : Text → Text → Bool)
  (host : HostFacts)

/-- What the registry's entry must be before the script is fetched. -/
def checkEntry (registry : Registry) (entry : RegistryAgent) :
    Except Error (Tier × (Bool × Option Text) × Option (List Text) × Text) := do
  ensure (!registry.revoked.contains (request.name.val, entry.version)) .revoked
  ensure (validAuthor entry.author) (bad "invalid author")
  let tier ← require (parseTier entry.tier) (bad "unknown tier")
  let needed ← require (parseSemver entry.minEngine) (bad "version is not x.y.z")
  let current ← require (parseSemver engineVersion) (bad "version is not x.y.z")
  ensure (!older current needed) .engineTooOld
  checkRequirements entry host
  ensure (parseSemver entry.version).isSome (bad "version is not x.y.z")
  let schedule ← scheduleOf entry
  let writable ← isolationOf entry schedule.2.isSome
  ensure (request.schedule.isNone || schedule.1) .scheduleNotConfigurable
  ensure (plainFileName entry.script) (bad "script name is not a plain file name")
  let listed ← require (entry.files.lookup (request.scriptPath entry.script))
    (bad "script is not listed in files")
  ensure (isHash listed) (bad "script hash is malformed")
  return (tier, schedule, writable, listed)

def fetchVerified : Except Error Verified := do
  ensure (!builtIn.contains request.name.val) .builtIn
  let reply ← require (fetch request.registryUrl (1024 * 1024)) .fetch
  let registry ← require (codec.json reply) (bad "not valid JSON")
  ensure (registry.schema == 1) (bad "unsupported schema")
  ensure (registry.release == request.release) (bad "belongs to another release")
  let entry ← require (registry.agents.lookup request.name.val) .unknownAgent
  let (tier, schedule, writable, listed) ← checkEntry request engineVersion host registry entry
  let bytes ← require (fetch (request.scriptUrl entry.script) (256 * 1024)) .fetch
  let actual := (codec.sha256 bytes).val
  ensure (actual == listed && actual == request.sha256.val) .hashMismatch
  ensure (tier == .official || approved request.name.val actual) .notApproved
  let script ← require (codec.utf8 bytes) (bad "script is not UTF-8")
  ensure (!script.any (· == '\x00') && "#!".toList.isPrefixOf script)
    (bad "script must be text starting with #!")
  return ⟨⟨request.name.val, entry.version, schedule.2, schedule.1, script, writable, entry.author⟩,
    tier, actual⟩

end

/-! ## Approvals -/

structure ApproveRequest where
  name : AgentName
  sha256 : Hash

structure UnapproveRequest where
  name : AgentName
  sha256 : Option Hash

/-- The file of an approval, below `agent-approvals`. -/
def approvalFile (name sha256 : Text) : Text := name ++ '-' :: sha256

def ApproveRequest.file (request : ApproveRequest) : Text :=
  approvalFile request.name.val request.sha256.val

def UnapproveRequest.matches (request : UnapproveRequest) (file : Text) : Bool :=
  match rsplitOnce? ['-'] file with
  | none => false
  | some (name, hash) =>
    name == request.name.val && isHash hash && request.sha256.all (·.val == hash)

/-- How the atomic write of a marker ends; `late` fails after the rename. -/
inductive Fate where
  | done
  | failed
  | late

/-- The loop of `unapprove` over the files it has listed. -/
def withdraw (removes : Text → Bool) : List Text → List Text → Bool × List Text
  | [], files => (true, files)
  | file :: rest, files =>
    if removes file then withdraw removes rest (files.filter (· != file)) else (false, files)

inductive Event where
  | approve (request : ApproveRequest) (fate : Fate)
  | unapprove (request : UnapproveRequest) (lists : Bool) (removes : Text → Bool)
  | install (request : InstallRequest)

/-- Whether the request succeeds, and the markers it leaves. -/
def Event.run : Event → List Text → Bool × List Text
  | .approve _ .failed, files => (false, files)
  | .approve request .done, files => (true, files.insert request.file)
  | .approve request .late, files => (false, files.insert request.file)
  | .unapprove request lists removes, files =>
    if lists then withdraw removes (files.filter request.matches) files else (false, files)
  | .install _, files => (true, files)

/-- The markers, and what was requested with its answers, latest first. -/
structure Ledger where
  files : List Text
  log : List (Event × Bool)

def Ledger.step (ledger : Ledger) (event : Event) : Ledger :=
  let ended := event.run ledger.files
  ⟨ended.2, (event, ended.1) :: ledger.log⟩

def Ledger.after (history : List Event) : Ledger := history.foldl Ledger.step ⟨[], []⟩

def Ledger.approved (ledger : Ledger) (name sha256 : Text) : Bool :=
  ledger.files.contains (approvalFile name sha256)

/-! ## What a marker says -/

variable {hash : Text}

theorem no_dash (valid : isHash hash = true) : '-' ∉ hash := by
  intro member
  have digit := List.all_eq_true.mp (Bool.and_eq_true _ _ ▸ valid).2 _ member
  exact absurd digit (by decide)

theorem rsplitOnce?_approvalFile (name : Text) (valid : isHash hash = true) :
    rsplitOnce? ['-'] (approvalFile name hash) = some (name, hash) := by
  have absent : contains ['-'] hash = false := by
    rw [Bool.eq_false_iff, ne_eq, Text.contains_iff, List.singleton_infix_iff]
    exact no_dash valid
  exact Text.rsplitOnce?_last (by simp) absent name

theorem approvalFile_inj {name other another : Text} (valid : isHash hash = true)
    (valid' : isHash another = true) :
    approvalFile name hash = approvalFile other another ↔ name = other ∧ hash = another := by
  refine ⟨fun same => ?_, by rintro ⟨rfl, rfl⟩; rfl⟩
  have parts := rsplitOnce?_approvalFile name valid
  rw [same, rsplitOnce?_approvalFile other valid'] at parts
  simpa [eq_comm] using parts

theorem matches_approvalFile (request : UnapproveRequest) (name : Text) (hash : Hash) :
    request.matches (approvalFile name hash.val) = true ↔
      request.name.val = name ∧ (request.sha256 = none ∨ request.sha256 = some hash) := by
  rw [UnapproveRequest.matches, rsplitOnce?_approvalFile name hash.property]
  cases request.sha256 with
  | none => simpa [hash.property] using eq_comm
  | some other =>
    simp only [hash.property, Bool.and_true, Option.all_some, Bool.and_eq_true, beq_iff_eq,
      reduceCtorEq, false_or, Option.some.injEq, Subtype.ext_iff]
    exact and_congr_left fun _ => eq_comm

def Event.approves (name : Text) (hash : Hash) : Event → Prop
  | .approve request _ => request.name.val = name ∧ request.sha256 = hash
  | _ => False

def Event.withdraws (name : Text) (hash : Hash) : Event → Prop
  | .unapprove request _ _ =>
    request.name.val = name ∧ (request.sha256 = none ∨ request.sha256 = some hash)
  | _ => False

/-- There was an approval, and it was not withdrawn since. -/
def Standing (name : Text) (hash : Hash) : List (Event × Bool) → Prop
  | [] => False
  | (event, succeeded) :: earlier => event.approves name hash ∨
      ¬(event.withdraws name hash ∧ succeeded = true) ∧ Standing name hash earlier

section

variable {removes : Text → Bool} {listed files : List Text} {file name : Text} {hash : Hash}
  {event : Event}

theorem mem_of_withdraw (stays : file ∈ (withdraw removes listed files).2) : file ∈ files := by
  induction listed generalizing files with
  | nil => exact stays
  | cons first rest ih =>
    unfold withdraw at stays
    split at stays
    · exact List.mem_of_mem_filter (ih stays)
    · exact stays

theorem mem_withdraw (there : file ∈ files) (unlisted : file ∉ listed) :
    file ∈ (withdraw removes listed files).2 := by
  induction listed generalizing files with
  | nil => exact there
  | cons first rest ih =>
    simp only [List.mem_cons, not_or] at unlisted
    unfold withdraw
    split
    · exact ih (List.mem_filter.mpr ⟨there, by simpa using unlisted.1⟩) unlisted.2
    · exact there

theorem withdrawn (succeeds : (withdraw removes listed files).1 = true) (member : file ∈ listed) :
    file ∉ (withdraw removes listed files).2 := by
  induction listed generalizing files with
  | nil => cases member
  | cons first rest ih =>
    unfold withdraw at succeeds ⊢
    split at succeeds
    · rename_i removed
      rw [if_pos removed]
      rcases List.mem_cons.mp member with rfl | later
      · intro stays
        simpa using mem_of_withdraw stays
      · exact ih succeeds later
    · cases succeeds

theorem mem_of_run (other : ¬event.approves name hash)
    (there : approvalFile name hash.val ∈ (event.run files).2) :
    approvalFile name hash.val ∈ files := by
  cases event with
  | approve request fate =>
    have differs : approvalFile name hash.val ≠ request.file := by
      rw [ApproveRequest.file, ne_eq, approvalFile_inj hash.property request.sha256.property]
      rintro ⟨rfl, same⟩
      exact other ⟨rfl, Subtype.ext same.symm⟩
    cases fate with
    | failed => exact there
    | done | late => exact (List.mem_insert_iff.mp there).resolve_left differs
  | unapprove request lists removes =>
    cases lists with
    | true => exact mem_of_withdraw there
    | false => exact there
  | install request => exact there

theorem mem_run (other : ¬event.withdraws name hash) (there : approvalFile name hash.val ∈ files) :
    approvalFile name hash.val ∈ (event.run files).2 := by
  cases event with
  | approve request fate =>
    cases fate with
    | failed => exact there
    | done | late => exact List.mem_insert_of_mem there
  | unapprove request lists removes =>
    cases lists with
    | true =>
      refine mem_withdraw there fun listed => other ?_
      exact (matches_approvalFile request name hash).mp (List.mem_filter.mp listed).2
    | false => exact there
  | install request => exact there

theorem not_mem_run (withdraws : event.withdraws name hash)
    (succeeds : (event.run files).1 = true) :
    approvalFile name hash.val ∉ (event.run files).2 := by
  cases event with
  | approve | install => cases withdraws
  | unapprove request lists removes =>
  cases lists with
  | true =>
    intro stays
    have listed := List.mem_filter.mpr ⟨mem_of_withdraw stays,
      (matches_approvalFile request name hash).mpr withdraws⟩
    exact withdrawn succeeds listed stays
  | false => cases succeeds

end

/-- The step lemma. -/
theorem standing_step {ledger : Ledger} {name : Text} {hash : Hash}
    (stands : approvalFile name hash.val ∈ ledger.files → Standing name hash ledger.log)
    (event : Event) (there : approvalFile name hash.val ∈ (ledger.step event).files) :
    Standing name hash (ledger.step event).log := by
  by_cases approves : event.approves name hash
  · exact .inl approves
  · refine .inr ⟨fun withdrawal => ?_, stands (mem_of_run approves there)⟩
    exact not_mem_run withdrawal.1 withdrawal.2 there

theorem standing_after (history : List Event) (name : Text) (hash : Hash)
    (there : approvalFile name hash.val ∈ (Ledger.after history).files) :
    Standing name hash (Ledger.after history).log := by
  induction history using List.reverseRecOn with
  | nil => cases there
  | append_singleton earlier event ih =>
    rw [Ledger.after, List.foldl_append] at there ⊢
    exact standing_step ih event there

/-! ## What is installed -/

/-- What is true of a script that is accepted. -/
structure Reviewed {Bytes : Type} (codec : Codec Bytes) (request : InstallRequest)
    (engineVersion : Text) (log : List (Event × Bool)) (registry : Registry) (entry : RegistryAgent)
    (bytes : Bytes) : Prop where
  requested : codec.sha256 bytes = request.sha256
  listed : entry.files.lookup (request.scriptPath entry.script) = some (codec.sha256 bytes).val
  foreign : request.name.val ∉ builtIn
  valid : (request.name.val, entry.version) ∉ registry.revoked
  engine : ∃ needed current, parseSemver entry.minEngine = some needed ∧
    parseSemver engineVersion = some current ∧ older current needed = false
  approved : entry.tier = "community".toList → Standing request.name.val request.sha256 log

theorem bind_ok {α β : Type} {first : Except Error α} {next : α → Except Error β} {result : β} :
    (first >>= next) = .ok result ↔ ∃ value, first = .ok value ∧ next value = .ok result := by
  cases first with
  | error error => simp [bind, Except.bind]
  | ok value => simp [bind, Except.bind]

theorem ensure_ok {holds : Bool} {error : Error} {done : Unit} :
    ensure holds error = .ok done ↔ holds = true := by
  cases holds <;> simp [ensure]

theorem require_ok {α : Type} {value : Option α} {error : Error} {result : α} :
    require value error = .ok result ↔ value = some result := by
  cases value <;> simp [require]

theorem parseTier_community {tier : Text} {parsed : Tier} (parses : parseTier tier = some parsed)
    (community : tier = "community".toList) : parsed = .community := by
  subst community
  simpa [parseTier, eq_comm] using parses

theorem checkEntry_ok {request : InstallRequest} {engineVersion : Text} {host : HostFacts}
    {registry : Registry} {entry : RegistryAgent}
    {checked : Tier × (Bool × Option Text) × Option (List Text) × Text}
    (ended : checkEntry request engineVersion host registry entry = .ok checked) :
    (request.name.val, entry.version) ∉ registry.revoked ∧ parseTier entry.tier = some checked.1 ∧
      (∃ needed current, parseSemver entry.minEngine = some needed ∧
        parseSemver engineVersion = some current ∧ older current needed = false) ∧
      entry.files.lookup (request.scriptPath entry.script) = some checked.2.2.2 := by
  simp only [checkEntry, bind_ok, ensure_ok, require_ok] at ended
  obtain ⟨-, unrevoked, -, -, tier, tiered, needed, needs, current, has, -, new, -, -, -, -, schedule,
    -, writable, -, -, -, -, -, listed, found, -, -, returned⟩ := ended
  cases returned
  exact ⟨by simpa using unrevoked, tiered, ⟨needed, current, needs, has, by simpa using new⟩, found⟩

/-- Whatever the servers answer and whatever was requested before, a script that is accepted
is the reviewed one, and one of the community is approved; and no request changes an
approval but that of its own name and hash. -/
theorem only_reviewed_installed {Bytes : Type} (codec : Codec Bytes)
    (fetch : Text → Nat → Option Bytes) (request : InstallRequest) (engineVersion : Text)
    (host : HostFacts) (history : List Event) :
    (∀ verified, fetchVerified codec fetch request engineVersion
        (Ledger.after history).approved host = .ok verified →
      ∃ reply registry entry bytes, fetch request.registryUrl (1024 * 1024) = some reply ∧
        codec.json reply = some registry ∧ registry.agents.lookup request.name.val = some entry ∧
        codec.utf8 bytes = some verified.agent.script ∧
        Reviewed codec request engineVersion (Ledger.after history).log registry entry bytes) ∧
    ∀ (ledger : Ledger) (event : Event) (name : Text) (hash : Hash),
      ¬event.approves name hash → ¬event.withdraws name hash →
        (ledger.step event).approved name hash.val = ledger.approved name hash.val := by
  constructor
  · intro verified accepted
    simp only [fetchVerified, bind_ok, ensure_ok, require_ok] at accepted
    obtain ⟨-, foreign, reply, fetched, registry, parsed, -, -, -, -, entry, known,
      ⟨tier, schedule, writable, listed⟩, checked, bytes, -, -, hashed, -, approved, script, decoded,
      -, -, returned⟩ := accepted
    obtain ⟨unrevoked, tiered, new, found⟩ := checkEntry_ok checked
    cases returned
    simp only [Bool.and_eq_true, beq_iff_eq] at hashed
    have same : codec.sha256 bytes = request.sha256 := Subtype.ext hashed.2
    refine ⟨reply, registry, entry, bytes, fetched, parsed, known, decoded, same, ?_,
      by simpa using foreign, unrevoked, new, fun community => ?_⟩
    · rw [found, ← hashed.1]
    · rw [parseTier_community tiered community, same] at approved
      have there : (Ledger.after history).approved request.name.val request.sha256.val = true := by
        simpa using approved
      exact standing_after history _ _ (by simpa [Ledger.approved] using there)
  · intro ledger event name hash approves withdraws
    have same : approvalFile name hash.val ∈ (event.run ledger.files).2 ↔
        approvalFile name hash.val ∈ ledger.files :=
      ⟨mem_of_run approves, mem_run withdraws⟩
    simpa [Ledger.approved, Ledger.step] using same

section

def reviewedHash : Hash := ⟨List.replicate 64 'a', by decide⟩

def diskReport : InstallRequest :=
  ⟨⟨"disk-report".toList, by decide⟩, "1.0.0".toList, reviewedHash, none⟩

def diskScript : Text := "#!/bin/sh".toList

def diskEntry : RegistryAgent where
  version := "1.2.0".toList
  tier := "community".toList
  author := []
  schedule := "none".toList
  defaultSchedule := []
  minEngine := "0.1.0".toList
  isolation := []
  writablePaths := []
  script := "agent.sh".toList
  requiresOps := []
  requiresHelpers := []
  requiresTools := []
  files := [("agents/disk-report/agent.sh".toList, reviewedHash.val)]

def otherHash : Hash := ⟨List.replicate 64 '0', by decide⟩

/-- The registry's answer, or a script. -/
def diskCodec : Codec (Option Text) where
  json
    | none => some ⟨1, "1.0.0".toList, [("disk-report".toList, diskEntry)], []⟩
    | some _ => none
  utf8 bytes := bytes
  sha256 bytes := if bytes = some diskScript then reviewedHash else otherHash

def diskServer (url : Text) (_ : Nat) : Option (Option Text) :=
  if url = diskReport.registryUrl then some none else some (some diskScript)

def diskApproval : Event := .approve ⟨diskReport.name, reviewedHash⟩ .done

theorem disk_report_reviewed :
    (∃ registry entry bytes, Reviewed diskCodec diskReport "0.2.0".toList
      (Ledger.after [diskApproval]).log registry entry bytes) ∧
    ((Ledger.after [diskApproval]).step (.install diskReport)).approved
      diskReport.name.val reviewedHash.val = true := by
  have reviewed := only_reviewed_installed diskCodec diskServer diskReport "0.2.0".toList
    ⟨[], [], fun _ => none⟩ [diskApproval]
  constructor
  · obtain ⟨_, registry, entry, bytes, -, -, -, -, accepted⟩ := reviewed.1
      ⟨⟨diskReport.name.val, "1.2.0".toList, none, false, diskScript, none, []⟩, .community,
        reviewedHash.val⟩ (by decide +kernel)
    exact ⟨registry, entry, bytes, accepted⟩
  · rw [reviewed.2 _ _ diskReport.name.val reviewedHash id id]
    decide +kernel

end

end OpsEngine.AgentRegistry
