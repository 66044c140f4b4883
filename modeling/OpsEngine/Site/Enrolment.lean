import OpsEngine.Data.Identifiers

namespace OpsEngine.Enrolment

/-! # The enrolment of a site for deploys

The credential is written first and the manifest last.  A failed write of the manifest is
undone by putting the credential back, also where the write took effect.
-/

/-- A file, with its nine permission bits. -/
structure File where
  content : Text
  uid : Nat
  gid : Nat
  mode : Nat
deriving DecidableEq

structure Site where
  manifest : Option File
  credential : Option File
deriving DecidableEq

/-- How a write or a removal ends; `late` fails in the sync of the directory. -/
inductive Fate where
  | done
  | failed
  | late
deriving DecidableEq

def Fate.succeeds (fate : Fate) : Bool := decide (fate = .done)

def Fate.leaves (before after : Site) : Fate → Site
  | .failed => before
  | _ => after

structure EnrollRequest where
  manifestJson : Text
  credential : Text

structure Context where
  /-- the owner an existing manifest must have -/
  requiredUid : Nat
  minIdentity : Nat
  /-- whom the engine runs as -/
  uid : Nat
  gid : Nat

structure Weather where
  resolveIdentity : Option (Nat × Nat)
  readsManifest : Bool
  readsCredential : Bool
  credentialWrite : Fate
  manifestWrite : Fate
  /-- the committed record is saved -/
  saves : Bool

variable (ctx : Context)

/-- A manifest as the engine writes it. -/
def manifestFile (content : Text) : File := ⟨content, ctx.uid, ctx.gid, 0o644⟩

def newCredential (request : EnrollRequest) (uid gid : Nat) : File :=
  ⟨request.credential, uid, gid, 0o600⟩

/-- Whether a request succeeds, and the states it passes through. -/
abbrev Course : Type := Bool × List Site

/-- `enroll` once the credential is in place. -/
def writeManifest (weather : Weather) (request : EnrollRequest) (previous : Option File)
    (credentialCurrent : Bool) (site : Site) : Course :=
  let current := weather.readsManifest && site.manifest.any fun file =>
    file.content == request.manifestJson && file.uid == ctx.requiredUid && file.mode == 0o644
  if current then (weather.saves, [])
  else
    let written := weather.manifestWrite.leaves site
      { site with manifest := some (manifestFile ctx request.manifestJson) }
    if weather.manifestWrite.succeeds then (weather.saves, [written])
    else if credentialCurrent then (false, [written])
    else (false, [written, { written with credential := previous }])

def enroll (weather : Weather) (request : EnrollRequest) (site : Site) : Course :=
  match weather.resolveIdentity.filter fun (uid, gid) =>
    decide (ctx.minIdentity ≤ uid) && decide (ctx.minIdentity ≤ gid) with
  | none => (false, [])
  | some (uid, gid) =>
    let previous := if weather.readsCredential then site.credential else none
    if previous == some (newCredential request uid gid) then
      writeManifest ctx weather request previous true site
    else
      let written := weather.credentialWrite.leaves site
        { site with credential := some (newCredential request uid gid) }
      if weather.credentialWrite.succeeds then
        let rest := writeManifest ctx weather request previous false written
        (rest.1, written :: rest.2)
      else (false, [written])

/-- `remove_if_present`. -/
def remove (fate : Fate) (present : Bool) (before after : Site) : Course :=
  if present then (fate.succeeds, [fate.leaves before after]) else (true, [])

def unenroll (manifest credential : Fate) (saves : Bool) (site : Site) : Course :=
  let first := remove manifest site.manifest.isSome site { site with manifest := none }
  if first.1 then
    let rest := remove credential site.credential.isSome { site with manifest := none } ⟨none, none⟩
    (rest.1 && saves, first.2 ++ rest.2)
  else first

/-- `rewrite` parses the manifest and gives it the new domain, if that is another one. -/
def renameManifest (rewrite : Text → Except Unit (Option Text)) (write : Fate) (saves : Bool)
    (site : Site) : Course :=
  match site.manifest with
  | none => (false, [])
  | some manifest =>
    if manifest.uid ≠ ctx.requiredUid ∨ manifest.mode &&& 0o022 ≠ 0 then (false, [])
    else
      match rewrite manifest.content with
      | .error () => (false, [])
      | .ok none => (saves, [])
      | .ok (some updated) =>
        (write.succeeds && saves,
          [write.leaves site { site with manifest := some (manifestFile ctx updated) }])

/-! ## Sequences of requests -/

inductive Call where
  | enroll (weather : Weather) (request : EnrollRequest)
  | unenroll (manifest credential : Fate) (saves : Bool)
  | renameManifest (rewrite : Text → Except Unit (Option Text)) (write : Fate) (saves : Bool)

def Call.run : Call → Site → Course
  | .enroll weather request => Enrolment.enroll ctx weather request
  | .unenroll manifest credential saves => Enrolment.unenroll manifest credential saves
  | .renameManifest rewrite write saves => Enrolment.renameManifest ctx rewrite write saves

/-- The key a call brings. -/
def Call.key? : Call → Option Text
  | .enroll _ request => some request.credential
  | _ => none

/-- A call, and after how many states it is killed. -/
structure Turn where
  call : Call
  killed : Option Nat

/-- The site, and the key of the last enrolment that succeeded. -/
structure Standing where
  site : Site
  key : Option Text

def Turn.passed (turn : Turn) (site : Site) : List Site :=
  match turn.killed with
  | none => (turn.call.run ctx site).2
  | some count => (turn.call.run ctx site).2.take count

def Turn.left (turn : Turn) (site : Site) : Site := ((turn.passed ctx site).getLast?).getD site

def Turn.succeeds (turn : Turn) (site : Site) : Bool :=
  turn.killed.isNone && (turn.call.run ctx site).1

def Standing.step (standing : Standing) (turn : Turn) : Standing where
  site := turn.left ctx standing.site
  key := if turn.succeeds ctx standing.site then turn.call.key? <|> standing.key else standing.key

/-- Where there is a manifest, there is the key of the last enrolment or a running one. -/
def Keyed (key running : Option Text) (site : Site) : Prop :=
  site.manifest.isSome = true → ∃ file, site.credential = some file ∧
    (key = some file.content ∨ running = some file.content)

/-- What is to hold of one request: at every moment, after it, and if it fails. -/
structure Sound (standing : Standing) (turn : Turn) : Prop where
  during : ∀ site ∈ turn.passed ctx standing.site, Keyed standing.key turn.call.key? site
  after : Keyed (standing.step ctx turn).key none (standing.step ctx turn).site
  undone : turn.call.key?.isSome = true → turn.killed = none →
    turn.succeeds ctx standing.site = false → turn.left ctx standing.site = standing.site

def AlwaysSound : Standing → List Turn → Prop
  | _, [] => True
  | standing, turn :: rest => Sound ctx standing turn ∧ AlwaysSound (standing.step ctx turn) rest

/-- The steps of one request go as the source expects: no write fails after its rename, a
credential that is there can be read, the record is saved, and the process is killed only
before its first write, with the standing key, or between the writes of a first enrolment. -/
def Smooth (standing : Standing) (turn : Turn) : Prop :=
  match turn.call with
  | .enroll weather request =>
    weather.credentialWrite ≠ .late ∧ weather.manifestWrite ≠ .late ∧
    (weather.readsCredential = true ∨ standing.site.credential = none) ∧ weather.saves = true ∧
    ∀ count, turn.killed = some count → count = 0 ∨ standing.key = some request.credential ∨
      count = 1 ∧ standing.site = ⟨none, none⟩
  | _ => True

def AlwaysSmooth : Standing → List Turn → Prop
  | _, [] => True
  | standing, turn :: rest => Smooth standing turn ∧ AlwaysSmooth (standing.step ctx turn) rest

/-! ## What each request does -/

variable {ctx} {weather : Weather} {request : EnrollRequest} {site : Site} {turn : Turn}
  {standing : Standing}

def Carries (key : Text) (site : Site) : Prop :=
  ∃ file, site.credential = some file ∧ file.content = key

/-- A course of an enrolment from `site` that either undoes itself or installs `key`. -/
structure Undoing (key : Text) (site : Site) (course : Course) : Prop where
  passes : ∀ passed ∈ course.2, passed = site ∨ Carries key passed
  fails : course.1 = false → course.2.getLast?.getD site = site
  succeeds : course.1 = true → Carries key (course.2.getLast?.getD site)

variable {fate : Fate}

theorem Fate.leaves_failed {before after : Site} (fails : fate.succeeds = false)
    (timely : fate ≠ .late) : fate.leaves before after = before := by
  cases fate with
  | done => cases fails
  | failed => rfl
  | late => exact absurd rfl timely

theorem Fate.leaves_done {before after : Site} (succeeds : fate.succeeds = true) :
    fate.leaves before after = after := by
  cases fate with
  | done => rfl
  | failed => cases succeeds
  | late => cases succeeds

theorem writeManifest_current {previous : Option File} (timely : weather.manifestWrite ≠ .late)
    (saves : weather.saves = true) (carries : Carries request.credential site) :
    Undoing request.credential site (writeManifest ctx weather request previous true site) := by
  unfold writeManifest
  dsimp only
  split
  · exact ⟨by simp, by simp [saves], fun _ => carries⟩
  cases write : weather.manifestWrite.succeeds with
  | true =>
    rw [Fate.leaves_done write]
    exact ⟨by simpa using .inr carries, by simp [saves], fun _ => carries⟩
  | false =>
    rw [Fate.leaves_failed write timely]
    exact ⟨by simp, by simp, by simp⟩

theorem writeManifest_written {file : File} (timely : weather.manifestWrite ≠ .late)
    (saves : weather.saves = true) (content : file.content = request.credential) :
    let written : Site := { site with credential := some file }
    let rest := writeManifest ctx weather request site.credential false written
    Undoing request.credential site (rest.1, written :: rest.2) := by
  intro written
  have carries : Carries request.credential written := ⟨file, rfl, content⟩
  unfold writeManifest
  dsimp only
  split
  · exact ⟨by simpa using .inr carries, by simp [saves], fun _ => carries⟩
  cases write : weather.manifestWrite.succeeds with
  | true =>
    rw [Fate.leaves_done write]
    refine ⟨?_, by simp [saves], fun _ => ⟨file, rfl, content⟩⟩
    simpa using ⟨.inr carries, .inr ⟨file, rfl, content⟩⟩
  | false =>
    rw [Fate.leaves_failed write timely]
    exact ⟨by simpa [written] using .inr carries, fun _ => rfl, by simp⟩

theorem enroll_undoing (first : weather.credentialWrite ≠ .late)
    (second : weather.manifestWrite ≠ .late)
    (readable : weather.readsCredential = true ∨ site.credential = none)
    (saves : weather.saves = true) :
    Undoing request.credential site (enroll ctx weather request site) := by
  unfold enroll
  split
  · exact ⟨by simp, fun _ => rfl, by simp⟩
  rename_i uid gid identity
  have previous : (if weather.readsCredential then site.credential else none) =
      site.credential := by
    rcases readable with reads | absent
    · simp [reads]
    · simp [absent]
  simp only [previous]
  split
  · rename_i current
    exact writeManifest_current second saves ⟨_, beq_iff_eq.mp current, rfl⟩
  cases write : weather.credentialWrite.succeeds with
  | true =>
    rw [Fate.leaves_done write]
    exact writeManifest_written second saves rfl
  | false =>
    rw [Fate.leaves_failed write first]
    exact ⟨by simp, fun _ => rfl, by simp⟩

theorem enroll_first (passed : Site)
    (taken : passed ∈ (enroll ctx weather request ⟨none, none⟩).2.take 1) :
    passed.manifest = none := by
  unfold enroll at taken
  split at taken
  · cases taken
  have absent : (if weather.readsCredential then (none : Option File) else none) = none := by
    split <;> rfl
  simp only [absent, reduceCtorEq, beq_iff_eq, if_false] at taken
  split at taken <;> cases write : weather.credentialWrite <;>
    simp_all [Fate.leaves]

/-- What the other requests pass through has no manifest or the credential of before. -/
def Quiet (site : Site) (course : Course) : Prop :=
  ∀ passed ∈ course.2, passed.manifest = none ∨
    passed.credential = site.credential ∧ site.manifest.isSome = true

variable {passed : Site}

theorem remove_passes {present : Bool} {before after : Site}
    (member : passed ∈ (remove fate present before after).2) :
    present = true ∧ (passed = before ∨ passed = after) := by
  cases present with
  | false => cases member
  | true =>
    obtain rfl := List.mem_singleton.mp member
    cases fate <;> simp [Fate.leaves]

theorem unenroll_quiet (manifest credential : Fate) (saves : Bool) :
    Quiet site (unenroll manifest credential saves site) := by
  intro passed member
  have first (taken : passed ∈ (remove manifest site.manifest.isSome site
      { site with manifest := none }).2) :
      passed.manifest = none ∨ passed.credential = site.credential ∧ site.manifest.isSome = true := by
    obtain ⟨present, rfl | rfl⟩ := remove_passes taken
    · exact .inr ⟨rfl, present⟩
    · exact .inl rfl
  unfold unenroll at member
  dsimp only at member
  split at member
  · rcases List.mem_append.mp member with taken | taken
    · exact first taken
    · obtain ⟨-, rfl | rfl⟩ := remove_passes taken <;> exact .inl rfl
  · exact first member

theorem renameManifest_quiet (rewrite : Text → Except Unit (Option Text)) (write : Fate)
    (saves : Bool) : Quiet site (renameManifest ctx rewrite write saves site) := by
  intro passed member
  unfold renameManifest at member
  split at member
  · cases member
  rename_i manifest present
  split at member
  · cases member
  split at member
  · cases member
  · cases member
  · obtain rfl := List.mem_singleton.mp member
    cases write <;> exact .inr ⟨rfl, by simp [present]⟩

/-! ## One request, and all of them -/

theorem Keyed.running {key running : Option Text} (keyed : Keyed key none site) :
    Keyed key running site := by
  intro present
  obtain ⟨file, found, owner⟩ := keyed present
  exact ⟨file, found, .inl (owner.resolve_right (by simp))⟩

theorem Keyed.of_quiet {key : Option Text} {course : Course} (keyed : Keyed key none site)
    (quiet : Quiet site course) (member : passed ∈ course.2) :
    Keyed key none passed := by
  intro present
  rcases quiet passed member with absent | ⟨same, before⟩
  · simp [absent] at present
  · rw [same]
    exact keyed before

theorem Turn.mem_run (member : passed ∈ turn.passed ctx site) :
    passed ∈ (turn.call.run ctx site).2 := by
  unfold Turn.passed at member
  split at member
  · exact member
  · exact List.mem_of_mem_take member

theorem Turn.left_cases (ctx : Context) (turn : Turn) (site : Site) :
    turn.left ctx site = site ∨ turn.left ctx site ∈ turn.passed ctx site := by
  unfold Turn.left
  cases last : (turn.passed ctx site).getLast? with
  | none => exact .inl rfl
  | some passed => exact .inr (List.mem_of_getLast? last)

theorem sound_of_quiet (keyed : Keyed standing.key none standing.site)
    (other : turn.call.key? = none)
    (quiet : Quiet standing.site (turn.call.run ctx standing.site)) :
    Sound ctx standing turn := by
  have key : (standing.step ctx turn).key = standing.key := by
    simp [Standing.step, other]
  refine ⟨fun passed member => (keyed.of_quiet quiet (Turn.mem_run member)).running, ?_, ?_⟩
  · rw [key]
    change Keyed standing.key none (turn.left ctx standing.site)
    rcases Turn.left_cases ctx turn standing.site with same | member
    · rwa [same]
    · exact keyed.of_quiet quiet (Turn.mem_run member)
  · simp [other]

theorem Keyed.of_carries {key running : Option Text} {text : Text} (carries : Carries text site)
    (owner : key = some text ∨ running = some text) : Keyed key running site := by
  obtain ⟨file, found, rfl⟩ := carries
  exact fun _ => ⟨file, found, owner⟩

theorem sound_of_enroll {killed : Option Nat} (keyed : Keyed standing.key none standing.site)
    (smooth : Smooth standing ⟨.enroll weather request, killed⟩) :
    Sound ctx standing ⟨.enroll weather request, killed⟩ := by
  obtain ⟨first, second, readable, saves, kills⟩ := smooth
  have undoing : Undoing request.credential standing.site
      (enroll ctx weather request standing.site) := enroll_undoing first second readable saves
  refine ⟨?_, ?_, ?_⟩
  · intro passed member
    rcases undoing.passes passed (Turn.mem_run member) with rfl | carries
    · exact keyed.running
    · exact .of_carries carries (.inr rfl)
  · cases killed with
    | none =>
      cases answer : (enroll ctx weather request standing.site).1 with
      | false =>
        have left := undoing.fails answer
        simpa [Standing.step, Turn.succeeds, Turn.left, Turn.passed, Call.run, answer, left]
          using keyed
      | true =>
        have key : (standing.step ctx ⟨.enroll weather request, none⟩).key =
            some request.credential := by
          simp [Standing.step, Turn.succeeds, Call.run, Call.key?, answer]
        exact .of_carries (undoing.succeeds answer) (.inl key)
    | some count =>
      -- a killed request leaves the key of before, so what it wrote must not need another
      change Keyed standing.key none
        (Turn.left ctx ⟨.enroll weather request, some count⟩ standing.site)
      rcases Turn.left_cases ctx ⟨.enroll weather request, some count⟩ standing.site
        with same | member
      · rwa [same]
      rcases kills count rfl with rfl | key | ⟨rfl, fresh⟩
      · cases member
      · rcases undoing.passes _ (Turn.mem_run member) with same | carries
        · rwa [same]
        · exact .of_carries carries (.inl key)
      · rw [fresh] at member ⊢
        intro present
        rw [enroll_first _ member] at present
        cases present
  · rintro - rfl failed
    exact undoing.fails (by simpa [Turn.succeeds, Call.run] using failed)

theorem sound_of_smooth (keyed : Keyed standing.key none standing.site)
    (smooth : Smooth standing turn) : Sound ctx standing turn := by
  obtain ⟨call, killed⟩ := turn
  cases call with
  | enroll weather request => exact sound_of_enroll keyed smooth
  | unenroll manifest credential saves =>
    exact sound_of_quiet keyed rfl (unenroll_quiet manifest credential saves)
  | renameManifest rewrite write saves =>
    exact sound_of_quiet keyed rfl (renameManifest_quiet rewrite write saves)

/-- In a run whose requests all go smoothly, a manifest always has its key, and an enrolment
that fails changes nothing. -/
theorem alwaysSound_of_smooth (ctx : Context) (standing : Standing) (turns : List Turn)
    (keyed : Keyed standing.key none standing.site) (smooth : AlwaysSmooth ctx standing turns) :
    AlwaysSound ctx standing turns := by
  induction turns generalizing standing with
  | nil => trivial
  | cons turn rest ih =>
    have sound : Sound ctx standing turn := sound_of_smooth keyed smooth.1
    exact ⟨sound, ih _ sound.after smooth.2⟩

/-! ## The first enrolment whose manifest fails late -/

def rootContext : Context := ⟨0, 1000, 0, 0⟩

def freshStanding : Standing := ⟨⟨none, none⟩, none⟩

def keyRequest : EnrollRequest := ⟨"\x7b\x7d".toList, "key".toList⟩

def firstEnrolment (manifestWrite : Fate) : Turn :=
  ⟨.enroll ⟨some (1001, 1001), true, true, .done, manifestWrite, true⟩ keyRequest, none⟩

/-- A manifest write that fails before its rename is undone. -/
theorem alwaysSound_failed_manifest :
    AlwaysSound rootContext freshStanding [firstEnrolment .failed] :=
  alwaysSound_of_smooth rootContext freshStanding [firstEnrolment .failed]
    (fun present => nomatch present)
    ⟨⟨by decide, by decide, .inl rfl, rfl, fun _ killed => nomatch killed⟩, trivial⟩

/-- After one that fails in the sync of the directory, the manifest stays without its key. -/
theorem late_manifest_without_key :
    ¬ ∀ turns : List Turn, AlwaysSound rootContext freshStanding turns := by
  intro always
  have keyed := (always [firstEnrolment .late]).1.after
  obtain ⟨file, found, -⟩ := keyed (by decide)
  have removed : (freshStanding.step rootContext (firstEnrolment .late)).site.credential = none := by
    decide
  cases found

end OpsEngine.Enrolment
