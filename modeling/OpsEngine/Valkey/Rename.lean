import OpsEngine.Data.Domain
import OpsEngine.Data.Words

namespace OpsEngine.Valkey

open Function Text

/-! # Renaming the Valkey user of a site

`db.renameValkeySite` sets a user under the new name with the database and the password
hash of the old one, deletes the old one and saves.  Every command goes to the running
server, whose ACL file holds what was last saved.
-/

/-- What `ACL GETUSER` prints of a user, a line each; nothing for a missing one. -/
abbrev Reply := List Text

abbrev Acl := Text → Option Reply

structure Server where
  running : Acl
  saved : Acl

def username (domain : Domain) : Text := "site_".toList ++ domain.text

def maxDatabase : Nat := 255

def parseUserDatabase (reply : Reply) : Option Nat :=
  match (reply.map Text.trim).dropWhile fun line => decide (line ≠ "databases".toList) with
  | _ :: line :: _ =>
    if "db=".toList.isPrefixOf line then
      let value := line.drop 3
      if value.contains ',' || value.contains '-' then none
      else (Text.parseU32 value).filter fun n => decide (1 ≤ n ∧ n ≤ maxDatabase)
    else none
  | _ => none

def parseUserHash (reply : Reply) : Option Text :=
  match (reply.map Text.trim).dropWhile fun line => decide (line ≠ "passwords".toList) with
  | _ :: lines =>
    match (lines.takeWhile fun line => decide (line ≠ "commands".toList)).filter (!·.isEmpty) with
    | [hash] =>
      if hash.length = 64 ∧ hash.all "0123456789abcdefABCDEF".toList.contains then
        some (hash.map Char.toLower)
      else none
    | _ => none
  | [] => none

def isAsciiWhitespace (c : Char) : Bool := [' ', '\t', '\n', '\x0c', '\r'].contains c

/-- A user under the new name that is not the one to be moved. -/
def occupied (found : Reply) (database : Nat) (hash : Text) : Bool :=
  !found.all (fun line => line.all isAsciiWhitespace) &&
    (parseUserDatabase found != some database || parseUserHash found != some hash)

/-- A command works, or fails and may have been carried out. -/
inductive Fate where
  | done
  | failed (took : Bool)

def Fate.run (fate : Fate) (change : Server → Server) (server : Server) : Bool × Server :=
  match fate with
  | .done => (true, change server)
  | .failed took => (false, if took then change server else server)

structure Weather where
  /-- the request is admitted and not cancelled -/
  starts : Bool
  readsOld : Bool
  readsTarget : Bool
  setUser : Fate
  delUser : Fate
  save : Fate
  commits : Bool

inductive Error where
  | refused
  | rejected
  | targetExists
  | postCommit

def Server.reply (server : Server) (user : Text) : Reply := (server.running user).getD []

def Server.set (server : Server) (user : Text) (entry : Option Reply) : Server :=
  { server with running := update server.running user entry }

def Server.save (server : Server) : Server := { server with saved := server.running }

def commit (weather : Weather) (renamed : Bool) (server : Server) : Except Error Bool × Server :=
  (if weather.commits then .ok renamed else .error .postCommit, server)

/-- The server prints a user set by `acl_rules` for a database and a hash as `shows`. -/
def rename (shows : Nat → Text → Reply) (source target : Domain) (server : Server)
    (weather : Weather) : Except Error Bool × Server :=
  if ¬ weather.starts then (.error .refused, server)
  else if ¬ weather.readsOld then (.error .rejected, server)
  else
    let old := server.reply (username source)
    match parseUserDatabase old, parseUserHash old with
    | some database, some hash =>
      if ¬ weather.readsTarget then (.error .rejected, server)
      else if occupied (server.reply (username target)) database hash then
        (.error .targetExists, server)
      else
        match weather.setUser.run (·.set (username target) (some (shows database hash))) server with
        | (false, after) => (.error .rejected, after)
        | (true, after) =>
          match weather.delUser.run (·.set (username source) none) after with
          | (false, after) => (.error .rejected, after)
          | (true, after) =>
            match weather.save.run .save after with
            | (false, after) => (.error .rejected, after)
            | (true, after) => commit weather true after
    | _, _ => commit weather false server

def attempts (shows : Nat → Text → Reply) (source target : Domain) (start : Server)
    (weathers : List Weather) : Server :=
  weathers.foldl (fun server weather => (rename shows source target server weather).2) start

/-! ## What is promised -/

section Promise

variable (source target : Domain) (database : Nat) (hash : Text)

def Has (entry : Option Reply) : Prop :=
  parseUserDatabase (entry.getD []) = some database ∧ parseUserHash (entry.getD []) = some hash

instance (entry : Option Reply) : Decidable (Has database hash entry) :=
  inferInstanceAs (Decidable (_ ∧ _))

/-- Every user but the two of the request is the same. -/
def Spared (before after : Acl) : Prop :=
  ∀ user, user ≠ username source → user ≠ username target → after user = before user

/-- The access moved to the new name. -/
def Moved (before after : Acl) : Prop :=
  Has database hash (after (username target)) ∧
    (source ≠ target → after (username source) = none) ∧ Spared source target before after

def Preserved (start after : Server) : Prop :=
  Moved source target database hash start.running after.running ∧
    Moved source target database hash start.saved after.saved

/-- The old user can still be moved and no other waits to be saved, or all was moved and
saved before. -/
def Intact (start before : Server) : Prop :=
  source ≠ target ∧
    if Has database hash (before.running (username source)) then
      Spared source target start.saved start.running
    else Moved source target database hash start.saved before.saved

/-- The access is under the old name, or gone from it. -/
structure Underway (start server : Server) : Prop where
  others : Spared source target start.running server.running
  access : Has database hash (server.running (username source)) ∨
    server.running (username source) = none ∧
      (source ≠ target → Has database hash (server.running (username target)))

end Promise

variable {shows : Nat → Text → Reply} {source target : Domain} {database : Nat} {hash : Text}
  {server start : Server}

theorem username_ne (apart : source ≠ target) : username target ≠ username source := by
  intro same
  cases source
  cases target
  simp_all [username]

theorem not_has_none : ¬ Has database hash none := fun has => absurd has.1 nofun

theorem rename_idle (weather : Weather)
    (unusable : ∀ database hash, ¬ Has database hash (server.running (username source))) :
    (rename shows source target server weather).2 = server := by
  unfold rename
  dsimp only
  split
  · rfl
  split
  · rfl
  split
  · rename_i database hash read shown
    exact absurd ⟨read, shown⟩ (unusable database hash)
  · rfl

/-- The server once the access has moved. -/
def Server.moved (server : Server) (source target : Domain) (reply : Reply) : Server :=
  (server.set (username target) (some reply)).set (username source) none

theorem rename_steps (has : Has database hash (server.running (username source)))
    (weather : Weather) :
    (rename shows source target server weather).2 ∈
        [server, server.set (username target) (some (shows database hash)),
          server.moved source target (shows database hash),
          (server.moved source target (shows database hash)).save] ∧
      ∀ renamed, (rename shows source target server weather).1 = .ok renamed →
        (rename shows source target server weather).2 =
          (server.moved source target (shows database hash)).save := by
  have read : parseUserDatabase (server.reply (username source)) = some database := has.1
  have shown : parseUserHash (server.reply (username source)) = some hash := has.2
  unfold rename
  dsimp only
  rw [read, shown]
  split
  · simp
  split
  · simp
  dsimp only
  split
  · simp
  split
  · simp
  rcases weather.setUser with _ | took
  · rcases weather.delUser with _ | took
    · rcases weather.save with _ | took
      · simp [Fate.run, commit, Server.moved]
      · cases took <;> simp [Fate.run, Server.moved]
    · cases took <;> simp [Fate.run, Server.moved]
  · cases took <;> simp [Fate.run]

variable (shown : Has database hash (some (shows database hash)))
include shown

theorem Underway.moved (underway : Underway source target database hash start server) :
    Underway source target database hash start (server.moved source target (shows database hash)) := by
  refine ⟨fun user old new => ?_, .inr ⟨?_, fun apart => ?_⟩⟩
  · simpa [Server.moved, Server.set, old, new] using underway.others user old new
  · simp [Server.moved, Server.set]
  · simpa [Server.moved, Server.set, username_ne apart] using shown

theorem Underway.rename (underway : Underway source target database hash start server)
    (weather : Weather) :
    Underway source target database hash start (rename shows source target server weather).2 := by
  rcases underway.access with has | ⟨absent, moved⟩
  · obtain ⟨left, -⟩ := @rename_steps shows source target database hash server has weather
    simp only [List.mem_cons, List.not_mem_nil, or_false] at left
    rcases left with same | same | same | same <;> rw [same]
    · exact underway
    · refine ⟨fun user old new => ?_, .inl ?_⟩
      · simpa [Server.set, new] using underway.others user old new
      · by_cases one : source = target
        · simpa [Server.set, one] using shown
        · simpa [Server.set, (username_ne one).symm] using has
    · exact underway.moved shown
    · exact ⟨(underway.moved shown).others, (underway.moved shown).access⟩
  · rw [rename_idle weather fun _ _ => absent ▸ not_has_none]
    exact underway

theorem Underway.attempts (underway : Underway source target database hash start server)
    (weathers : List Weather) :
    Underway source target database hash start (attempts shows source target server weathers) := by
  induction weathers generalizing server with
  | nil => exact underway
  | cons weather weathers ih => exact ih (underway.rename shown weather)

/-- Where the server prints the new user as it was set, a successful request, after any
attempts before it, preserves the access exactly under the condition. -/
theorem rename_preserves_iff (had : Has database hash (start.running (username source)))
    (weathers : List Weather) {weather : Weather} {renamed : Bool}
    (succeeded : (rename shows source target (attempts shows source target start weathers)
      weather).1 = .ok renamed) :
    Preserved source target database hash start
        (rename shows source target (attempts shows source target start weathers) weather).2 ↔
      Intact source target database hash start (attempts shows source target start weathers) := by
  have begun : Underway source target database hash start start := ⟨fun _ _ _ => rfl, .inl had⟩
  have underway := begun.attempts shown weathers
  generalize attempts shows source target start weathers = before at succeeded underway ⊢
  unfold Intact
  rcases underway.access with has | ⟨absent, access⟩
  · obtain ⟨others, last⟩ := underway.moved shown
    have absent : (before.moved source target (shows database hash)).running (username source) =
        none := by
      simp [Server.moved, Server.set]
    rw [(rename_steps has weather).2 renamed succeeded, if_pos has]
    constructor
    · rintro ⟨running, saved⟩
      refine ⟨?_, fun user old new => (others user old new).symm.trans (saved.2.2 user old new)⟩
      rintro rfl
      exact not_has_none (absent ▸ running.1)
    · rintro ⟨apart, agree⟩
      obtain ⟨-, access⟩ := last.resolve_left fun has => not_has_none (absent ▸ has)
      exact ⟨⟨access apart, fun _ => absent, others⟩, access apart, fun _ => absent,
        fun user old new => (others user old new).trans (agree user old new)⟩
  · have gone : ∀ database hash, ¬ Has database hash (before.running (username source)) :=
      fun _ _ => absent ▸ not_has_none
    rw [rename_idle weather gone, if_neg (gone database hash)]
    constructor
    · rintro ⟨running, saved⟩
      refine ⟨?_, saved⟩
      rintro rfl
      exact gone _ _ running.1
    · rintro ⟨apart, saved⟩
      exact ⟨⟨access apart, fun _ => absent, underway.others⟩, saved⟩

omit shown

def printed (database : Nat) (hash : Text) : Reply :=
  ["passwords".toList, hash, "commands".toList, "databases".toList,
    "db=".toList ++ Nat.toDigits 10 database]

def oldDomain : Domain := ⟨"a.test".toList, by decide⟩

def newDomain : Domain := ⟨"b.test".toList, by decide⟩

def aHash : Text := List.replicate 64 'a'

def oldServer : Server :=
  let acl := update (fun _ => none) (username oldDomain) (some (printed 3 aHash))
  ⟨acl, acl⟩

def fine : Weather := ⟨true, true, true, .done, .done, .done, true⟩

theorem printed_has : Has 3 aHash (some (printed 3 aHash)) := by decide +kernel

/-- The new user is set although the command fails. -/
def halfway : Weather := { fine with setUser := .failed true }

theorem retry_preserves : Preserved oldDomain newDomain 3 aHash oldServer
    (rename printed oldDomain newDomain
      (attempts printed oldDomain newDomain oldServer [halfway]) fine).2 :=
  (@rename_preserves_iff printed oldDomain newDomain 3 aHash oldServer printed_has
    (by decide +kernel) [halfway] fine true rfl).mpr ⟨by decide, fun _ _ _ => rfl⟩

def unsaved : Weather := { fine with save := .failed false }

/-- After a failed `ACL SAVE` the retry succeeds without one, and a site renamed to itself
loses its user. -/
theorem rename_loses :
    let retried := rename printed oldDomain newDomain
      (attempts printed oldDomain newDomain oldServer [unsaved]) fine
    let same := rename printed oldDomain oldDomain oldServer fine
    retried.1 = .ok false ∧ ¬ Preserved oldDomain newDomain 3 aHash oldServer retried.2 ∧
      same.1 = .ok true ∧ ¬ Preserved oldDomain oldDomain 3 aHash oldServer same.2 := by
  refine ⟨rfl, fun preserved => ?_, rfl, fun preserved => ?_⟩
  · exact absurd (preserved.2.2.1 (by decide)) (by decide +kernel)
  · exact absurd preserved.1.1 (by decide +kernel)

end OpsEngine.Valkey
