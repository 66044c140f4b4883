import OpsEngine.Create.AllOrNothing

namespace OpsEngine.Create

open Effect
open Migrate (Identity StepError)

/-! # What the records vouch for

A removal compares what it finds with what the request's own allocation recorded
and with the plan in the journal.  Whatever a request with a journal has on the
host agrees with both.
-/

/-- What `state::load` makes of the record of the request's allocation. -/
def Site.allocation (site : Site) (id : RequestId) : Loaded :=
  match site.allocations id with
  | none => .notFound
  | some .torn => .unreadable
  | some (.whole record) => .found record

/-- The identity that the record of the allocation vouches for. -/
def Site.proof? (site : Site) (id : RequestId) : Option Identity := (site.allocation id).proof?

/-- What the request has made is as its plan and its allocation have it. -/
structure Traced (plan : Plan) (id : RequestId) (site : Site) : Prop where
  identity : ∀ record found, site.allocations id = some (.whole record) →
    record.status = .committed → site.identity = some ⟨id, found⟩ → record.outcome = some (.ok found)
  root : ∀ proof found, site.proof? id = some proof → site.root = some ⟨id, found⟩ →
    found = (proof.uid, proof.gid)
  service : ∀ proof found, site.proof? id = some proof → site.service = some ⟨id, found⟩ →
    found = proof
  exec : ∀ proof found, site.proof? id = some proof → site.exec = some ⟨id, found⟩ →
    found = Migrate.poolReverseProxyCaddyfile plan.domain proof.port
  route : ∀ found, site.route = some ⟨id, found⟩ → found = ingressConfig plan

/-- Every journal is of the domain, and the request it is of is traced. -/
structure Vouched (domain : Domain) (site : Site) : Prop where
  distinct : (site.journals.map Prod.fst).Nodup
  traced : ∀ id journal, site.journal? id = some journal →
    journal.plan.domain = domain ∧ Traced journal.plan id site

def Step.admitted? : Step → Option RequestId
  | .admission id => some id
  | _ => none

/-- As `Fresh`, where the request's allocation has no record either. -/
def Unused (chance : Chance) (step : Step) (site : Site) : Prop :=
  Fresh chance step site ∧
    ∀ id ∈ step.admitted?, (site.sweep chance).records id = none → site.allocations id = none

instance (chance : Chance) (step : Step) (site : Site) : Decidable (Unused chance step site) :=
  inferInstanceAs (Decidable (_ ∧ _))

/-! ## What is left of a request -/

structure Fewer (id : RequestId) (before after : Site) : Prop where
  allocations : after.allocations id = before.allocations id ∨ after.allocations id = none
  identity : ∀ found, after.identity = some ⟨id, found⟩ → before.identity = some ⟨id, found⟩
  root : ∀ found, after.root = some ⟨id, found⟩ → before.root = some ⟨id, found⟩
  service : ∀ found, after.service = some ⟨id, found⟩ → before.service = some ⟨id, found⟩
  exec : ∀ found, after.exec = some ⟨id, found⟩ → before.exec = some ⟨id, found⟩
  route : ∀ found, after.route = some ⟨id, found⟩ → before.route = some ⟨id, found⟩

theorem Fewer.refl (id : RequestId) (site : Site) : Fewer id site site :=
  ⟨.inl rfl, fun _ found => found, fun _ found => found, fun _ found => found, fun _ found => found,
    fun _ found => found⟩

variable {before after : Site} {id : RequestId}

theorem Fewer.proof? (fewer : Fewer id before after)
    {proof : Identity} (found : after.proof? id = some proof) : before.proof? id = some proof := by
  unfold Site.proof? Site.allocation at *
  rcases fewer.allocations with same | gone
  · rw [same] at found
    exact found
  · rw [gone] at found
    contradiction

theorem Traced.fewer {plan : Plan}
    (traced : Traced plan id before) (fewer : Fewer id before after) : Traced plan id after where
  identity record found recorded committed here := by
    have earlier : before.allocations id = some (.whole record) := by
      rcases fewer.allocations with same | gone
      · exact same ▸ recorded
      · rw [gone] at recorded
        contradiction
    exact traced.identity record found earlier committed (fewer.identity found here)
  root proof found vouched here := traced.root proof found (fewer.proof? vouched) (fewer.root found here)
  service proof found vouched here :=
    traced.service proof found (fewer.proof? vouched) (fewer.service found here)
  exec proof found vouched here := traced.exec proof found (fewer.proof? vouched) (fewer.exec found here)
  route found here := traced.route found (fewer.route found here)

theorem Fewer.owner (fewer : Fewer id before after)
    {artifact : Artifact} (owned : after.owner artifact = some id) :
    before.owner artifact = some id := by
  have kept : ∀ {α : Type} {old new : Option (Owned α)},
      (∀ found, new = some ⟨id, found⟩ → old = some ⟨id, found⟩) →
      new.map Owned.owner = some id → old.map Owned.owner = some id := by
    intro α old new less here
    obtain ⟨found, there, own⟩ := Option.map_eq_some_iff.mp here
    subst own
    rw [less found.value there]
    rfl
  cases artifact with
  | identity => exact kept fewer.identity owned
  | root => exact kept fewer.root owned
  | service => exact kept fewer.service owned
  | exec => exact kept fewer.exec owned
  | route => exact kept fewer.route owned

variable {α : Type}

section Steps

variable (fits : Journal → Prop)

/-- A journal that is new fits. -/
structure Journaled (before after : Site) : Prop where
  distinct : (before.journals.map Prod.fst).Nodup → (after.journals.map Prod.fst).Nodup
  found : ∀ id journal, after.journal? id = some journal →
    before.journal? id = some journal ∨ journal.requestId = id ∧ fits journal

/-- Nothing is new but a journal that fits. -/
structure Trimmed (before after : Site) : Prop where
  journals : Journaled fits before after
  fewer : ∀ other, Fewer other before after

variable {fits : Journal → Prop} {before after : Site}

theorem Journaled.of_eq (same : after.journals = before.journals) :
    Journaled fits before after := by
  refine ⟨fun distinct => same ▸ distinct, fun other journal found => .inl ?_⟩
  unfold Site.journal? at *
  rw [← same]
  exact found

theorem Trimmed.refl (site : Site) : Trimmed fits site site :=
  ⟨.of_eq rfl, fun other => .refl other site⟩

theorem trimmed_drop (site : Site) (artifact : Artifact) :
    Trimmed fits site (site.drop artifact) := by
  refine ⟨.of_eq (drop_journals site artifact), fun other => ?_⟩
  cases artifact with
  | identity => exact { Fewer.refl other site with identity := nofun }
  | root => exact { Fewer.refl other site with root := nofun }
  | service => exact { Fewer.refl other site with service := nofun }
  | exec => exact { Fewer.refl other site with exec := nofun }
  | route => exact { Fewer.refl other site with route := nofun }

end Steps

/-! ## The request that makes things -/

variable {fits : Journal → Prop}

theorem Vouched.trim {domain : Domain}
    (vouched : Vouched domain before) (trimmed : Trimmed fits before after)
    (fitting : ∀ journal, fits journal →
      journal.plan.domain = domain ∧ Traced journal.plan journal.requestId before) :
    Vouched domain after := by
  refine ⟨trimmed.journals.distinct vouched.distinct, fun id journal found => ?_⟩
  rcases trimmed.journals.found id journal found with earlier | ⟨own, fits⟩
  · obtain ⟨here, traced⟩ := vouched.traced id journal earlier
    exact ⟨here, traced.fewer (trimmed.fewer id)⟩
  · obtain ⟨here, traced⟩ := fitting journal fits
    rw [own] at traced
    exact ⟨here, traced.fewer (trimmed.fewer id)⟩

theorem Vouched.less {domain : Domain} (vouched : Vouched domain before)
    (trimmed : Trimmed (fun _ => False) before after) : Vouched domain after :=
  vouched.trim trimmed fun _ impossible => impossible.elim

section Request

variable {domain : Domain} {plan : Plan} {id : RequestId} {site : Site}

def Own (plan : Plan) (id : RequestId) (journal : Journal) : Prop :=
  journal.requestId = id ∧ journal.plan = plan

structure Bare (id : RequestId) (site : Site) : Prop where
  allocations : site.allocations id = none
  nothing : ∀ artifact, site.owner artifact ≠ some id

structure Tracing (domain : Domain) (plan : Plan) (id : RequestId) (site : Site) : Prop where
  vouched : Vouched domain site
  within : plan.domain = domain
  traced : Traced plan id site
  planned : ∀ journal, site.journal? id = some journal → journal.plan = plan

structure Starting (domain : Domain) (plan : Plan) (id : RequestId) (site : Site) : Prop where
  tracing : Tracing domain plan id site
  bare : Bare id site

/-- As `Tracing`, where the record of the allocation vouches for `identity` only. -/
structure Equipped (domain : Domain) (plan : Plan) (id : RequestId) (identity : Identity)
    (site : Site) : Prop where
  tracing : Tracing domain plan id site
  proof : ∀ proof, site.proof? id = some proof → proof = identity

theorem not_owned {α : Type} {slot : Option (Owned α)} {found : α}
    (other : slot.map Owned.owner ≠ some id) : slot ≠ some ⟨id, found⟩ := by
  rintro rfl
  exact other rfl

theorem Bare.traced (bare : Bare id site) (plan : Plan) : Traced plan id site := by
  exact
    { identity := fun _ _ _ _ here => absurd here (not_owned (bare.nothing .identity))
      root := fun _ _ _ here => absurd here (not_owned (bare.nothing .root))
      service := fun _ _ _ here => absurd here (not_owned (bare.nothing .service))
      exec := fun _ _ _ here => absurd here (not_owned (bare.nothing .exec))
      route := fun _ here => absurd here (not_owned (bare.nothing .route)) }

variable {after : Site}

theorem Bare.trim (bare : Bare id site) (trimmed : Trimmed fits site after) : Bare id after := by
  refine ⟨?_, fun artifact owned => bare.nothing artifact ((trimmed.fewer id).owner owned)⟩
  rcases (trimmed.fewer id).allocations with same | gone
  · exact same.trans bare.allocations
  · exact gone

theorem Tracing.trim (tracing : Tracing domain plan id site)
    (trimmed : Trimmed (Own plan id) site after) : Tracing domain plan id after := by
  refine ⟨tracing.vouched.trim trimmed fun journal own => ?_, tracing.within,
    tracing.traced.fewer (trimmed.fewer id), fun journal found => ?_⟩
  · obtain ⟨same, planned⟩ := own
    rw [same, planned]
    exact ⟨tracing.within, tracing.traced⟩
  · rcases trimmed.journals.found id journal found with earlier | ⟨_, own⟩
    · exact tracing.planned journal earlier
    · exact own.2

variable {assertion : Site → Prop}

variable {identity : Identity} {journal : Journal}

/-- `after` differs from `before` in what is the request's. -/
structure Beside (id : RequestId) (before after : Site) : Prop where
  journals : after.journals = before.journals
  fewer : ∀ other, other ≠ id → Fewer other before after

theorem Tracing.beside (tracing : Tracing domain plan id site)
    (beside : Beside id site after) (traced : Traced plan id after) :
    Tracing domain plan id after := by
  have journals : ∀ other, after.journal? other = site.journal? other := by
    intro other
    unfold Site.journal?
    rw [beside.journals]
  refine ⟨⟨?_, fun other journal found => ?_⟩, tracing.within, traced, ?_⟩
  · rw [beside.journals]
    exact tracing.vouched.distinct
  · rw [journals] at found
    by_cases own : other = id
    · subst own
      rw [tracing.planned journal found]
      exact ⟨tracing.within, traced⟩
    · obtain ⟨here, theirs⟩ := tracing.vouched.traced other journal found
      exact ⟨here, theirs.fewer (beside.fewer other own)⟩
  · intro journal found
    rw [journals] at found
    exact tracing.planned journal found

theorem ne_of_owner {owner other : RequestId} {value found : α} (apart : other ≠ owner) :
    (some ⟨owner, value⟩ : Option (Owned α)) ≠ some ⟨other, found⟩ := by
  intro same
  cases same
  exact apart rfl

theorem beside_put (site : Site) (id : RequestId) (creation : Creation) :
    Beside id site (site.put id creation) := by
  cases creation with
  | root identity =>
    exact ⟨rfl, fun other apart => { Fewer.refl other site with
      root := fun _ here => absurd here (ne_of_owner apart) }⟩
  | service identity =>
    exact ⟨rfl, fun other apart => { Fewer.refl other site with
      service := fun _ here => absurd here (ne_of_owner apart) }⟩
  | exec content =>
    exact ⟨rfl, fun other apart => { Fewer.refl other site with
      exec := fun _ here => absurd here (ne_of_owner apart) }⟩
  | route content =>
    exact ⟨rfl, fun other apart => { Fewer.refl other site with
      route := fun _ here => absurd here (ne_of_owner apart) }⟩

/-- What `run` makes of the identity it was given. -/
def Creation.Planned (plan : Plan) (identity : Identity) : Creation → Prop
  | .root given | .service given => given = identity
  | .exec content => content = Migrate.poolReverseProxyCaddyfile plan.domain identity.port
  | .route content => content = ingressConfig plan

variable {creation : Creation}

theorem Equipped.put (equipped : Equipped domain plan id identity site)
    (planned : creation.Planned plan identity) :
    Equipped domain plan id identity (site.put id creation) := by
  obtain ⟨tracing, proof⟩ := equipped
  have vouches : ∀ {found}, (site.put id creation).proof? id = some found → found = identity := by
    intro found vouched
    refine proof found ?_
    cases creation <;> exact vouched
  refine ⟨tracing.beside (beside_put site id creation) ?_, fun found vouched => vouches vouched⟩
  cases creation with
  | root given =>
    refine { tracing.traced with root := fun found uid vouched here => ?_ }
    cases here
    rw [vouches vouched, planned]
  | service given =>
    refine { tracing.traced with service := fun found given vouched here => ?_ }
    cases here
    rw [vouches vouched, planned]
  | exec content =>
    refine { tracing.traced with exec := fun found content vouched here => ?_ }
    cases here
    rw [vouches vouched, planned]
  | route content =>
    refine { tracing.traced with route := fun content here => ?_ }
    cases here
    exact planned

variable {allocations : Ledger.Records StepError Identity}

theorem leave_uncommitted {remnant : Remnant} {error : StepError} {now : Nat}
    (absent : allocations id = none) {record : Ledger.Record StepError Identity}
    (found : remnant.leave error now id allocations id = some (.whole record)) :
    record.status ≠ .committed := by
  cases remnant with
  | unrecorded =>
    rw [show Remnant.unrecorded.leave error now id allocations = allocations from rfl, absent] at found
    contradiction
  | torn => simp [Remnant.leave, Ledger.Records.set] at found
  | begun =>
    simp only [Remnant.leave, Ledger.Records.set, Function.update_self] at found
    cases found
    simp [Ledger.Record.begun]
  | failed =>
    simp only [Remnant.leave, Ledger.Records.set, Function.update_self] at found
    cases found
    simp [Ledger.Record.failed]

theorem leave_of_ne {remnant : Remnant} {error : StepError} {now : Nat} {other : RequestId}
    (apart : other ≠ id) :
    remnant.leave error now id allocations other = allocations other := by
  cases remnant <;> simp [Remnant.leave, Ledger.Records.set, apart]

/-- A traced allocation: the identity is the one that a committed record names. -/
theorem Bare.allocated (bare : Bare id site) (plan : Plan) {slot : Option (Owned Identity)}
    (named : ∀ record found, allocations id = some (.whole record) → record.status = .committed →
      slot = some ⟨id, found⟩ → record.outcome = some (.ok found)) :
    Traced plan id { site with allocations, identity := slot } := by
  have traced := bare.traced plan
  exact
    { identity := named
      root := fun _ _ _ here => absurd here (not_owned (bare.nothing .root))
      service := fun _ _ _ here => absurd here (not_owned (bare.nothing .service))
      exec := fun _ _ _ here => absurd here (not_owned (bare.nothing .exec))
      route := traced.route }

theorem Starting.allocate (starting : Starting domain plan id site) (chance : Chance)
    (root : Text) :
    Outcomes (fun identity after => Equipped domain plan id identity after)
      (fun _ after => Tracing domain plan id after) (site.allocate chance plan root id).1
      (site.allocate chance plan root id).2 := by
  obtain ⟨tracing, bare⟩ := starting
  have beside : ∀ {allocations : Ledger.Records StepError Identity} {slot : Option (Owned Identity)},
      (∀ other, other ≠ id → allocations other = site.allocations other) →
      (slot = site.identity ∨ ∃ identity, slot = some ⟨id, identity⟩) →
      Beside id site { site with allocations, identity := slot } := by
    intro allocations slot same either
    refine ⟨rfl, fun other apart => { Fewer.refl other site with
      allocations := .inl (same other apart), identity := fun found here => ?_ }⟩
    rcases either with kept | ⟨identity, made⟩
    · exact kept ▸ here
    · exact absurd (made.symm.trans here) (ne_of_owner apart)
  have tracks : ∀ {allocations : Ledger.Records StepError Identity} {slot : Option (Owned Identity)},
      (∀ other, other ≠ id → allocations other = site.allocations other) →
      (slot = site.identity ∨ ∃ identity, slot = some ⟨id, identity⟩) →
      (∀ record found, allocations id = some (.whole record) → record.status = .committed →
        slot = some ⟨id, found⟩ → record.outcome = some (.ok found)) →
      Tracing domain plan id { site with allocations, identity := slot } :=
    fun same either named => tracing.beside (beside same either) (bare.allocated plan named)
  unfold Site.allocate
  split
  · have found : ∀ record, (site.allocations.set id (.whole
          (if chance.recorded then .committed (chance.allocated plan root) chance.now else .begun)))
          id = some (.whole record) → record.status = .committed →
        record = .committed (chance.allocated plan root) chance.now := by
      intro record here committed
      rw [Ledger.Records.set, Function.update_self] at here
      cases here
      split at committed
      · rename_i recorded
        rw [if_pos recorded]
      · contradiction
    refine ⟨tracks (fun other apart => Function.update_of_ne apart _ _) (.inr ⟨_, rfl⟩) ?_, ?_⟩
    · intro record identity here committed made
      cases made
      rw [found record here committed]
      rfl
    · intro proof vouched
      unfold Site.proof? Site.allocation at vouched
      simp only [Ledger.Records.set, Function.update_self] at vouched
      split at vouched
      · cases vouched
        rfl
      · contradiction
  · have uncommitted : ∀ {error record}, (chance.remnant.leave error chance.now id site.allocations) id =
        some (.whole record) → record.status ≠ .committed := fun here =>
      leave_uncommitted bare.allocations here
    split
    · exact tracks (fun other apart => leave_of_ne apart) (.inr ⟨_, rfl⟩)
        fun record found here committed => absurd committed (uncommitted here)
    · exact tracks (fun other apart => leave_of_ne apart) (.inl rfl)
        fun record found here committed => absurd committed (uncommitted here)

/-! ## The programs -/

theorem Own.mark (own : Own plan id journal) (artifact : Artifact) :
    Own plan id (journal.mark artifact) := by
  cases artifact <;> exact own

theorem Own.complete (own : Own plan id journal) (result : CreateResult) :
    Own plan id (journal.complete result) := own

section

variable (starting : Starting domain plan id site)
include starting

end

def Call.Within (domain : Domain) : Call → Prop
  | .create plan _ => plan.domain = domain
  | .recover _ _ | .elsewhere => True

end Request

end OpsEngine.Create
