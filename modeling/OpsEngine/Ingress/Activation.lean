import OpsEngine.Ingress.Operations

namespace OpsEngine.Ingress

open Effect Files Function

/-! # What an activation can leave

Wherever an activation is stopped and whatever fails in it, the live file is the
old one or the new one, and a copy set aside never stands without a live file.
-/

/-- What the environment may decide; every rule is about all such decisions. -/
abbrev Admits := RouteChoice → RouteOp → HostState → Prop

/-- The services accept what they are given. -/
structure Consenting (answer : (query : Query) → Answer query) : Prop where
  validate : ∀ service path, answer (.validate service path) = true
  reload : ∀ service, answer (.reload service) = true

/-- No call fails and nobody objects. -/
structure Smooth (admits : Admits) : Prop where
  calm : Calm admits
  consents : ∀ choice operation state, admits choice operation state → Consenting choice.answer

/-! ## The files of a domain -/

/-- The files one request can touch. -/
inductive Part where
  | live
  | disabled
  | backup
  | staged
  | stagedTemp
  | kept
  | keptTemp
  | backupTemp
  | disabledAside
  | backupAside
deriving DecidableEq

def Part.path (dir : Dir) (domain : Domain) (suffix : Text) : Part → FilePath
  | .live => ⟨dir, domain.text ++ ".caddyfile".toList⟩
  | .disabled => ⟨dir, domain.text ++ ".caddyfile.disabled".toList⟩
  | .backup => ⟨dir, domain.text ++ ".maintenance-backup".toList⟩
  | .staged => sibling ⟨dir, domain.text ++ ".caddyfile".toList⟩ ".tmp".toList
  | .stagedTemp =>
    tempSiblingPath (sibling ⟨dir, domain.text ++ ".caddyfile".toList⟩ ".tmp".toList)
  | .kept => rollbackSibling ⟨dir, domain.text ++ ".caddyfile".toList⟩ suffix
  | .keptTemp => tempSiblingPath (rollbackSibling ⟨dir, domain.text ++ ".caddyfile".toList⟩ suffix)
  | .backupTemp => tempSiblingPath ⟨dir, domain.text ++ ".maintenance-backup".toList⟩
  | .disabledAside =>
    rollbackSibling ⟨dir, domain.text ++ ".caddyfile.disabled".toList⟩ suffix
  | .backupAside => rollbackSibling ⟨dir, domain.text ++ ".maintenance-backup".toList⟩ suffix

theorem Part.path_injective {dir : Dir} {domain : Domain} {suffix : Text} :
    Injective (Part.path dir domain suffix) := by
  intro first second same
  cases first <;> cases second <;>
    simp [Part.path, sibling, rollbackSibling, tempSiblingPath] at same ⊢

/-- What each file of a group holds. -/
abbrev Shape (Index : Type) := Index → Option (Option Text)

abbrev Picture := Shape Part

/-! ## Reading and discarding -/

section Steps

variable {Index : Type} [DecidableEq Index] {paths : Index → FilePath} {before after : Routes}
  {files : Shape Index} {admits : Admits} {invariant : HostState → Prop} {servers : Servers}

omit [DecidableEq Index] in
theorem holding_readOptional (group : FileGroup paths before after files) (part : Index)
    {content : Option Text} (held : files part = content.map some)
    (holds : invariant ⟨after, servers⟩) {post : Except IoError (Option Text) → HostState → Prop}
    (failed : ∀ error, ¬ Calm admits → post (.error error) ⟨after, servers⟩)
    (found : post (.ok content) ⟨after, servers⟩) :
    SafeOn serve admits invariant () post (readOptional (paths part)) ⟨after, servers⟩ := by
  have looks : after.look (paths part) = content.map some := (group.inside part).trans held
  apply Safe.bind
  apply holding_read group.plain holds
  · intro unreliable
    exact failed .other fun calm => unreliable (calm _)
  · intro absent
    rw [looks, Option.map_eq_none_iff] at absent
    subst absent
    exact found
  intro stored present
  rw [looks] at present
  cases content with
  | none => contradiction
  | some text =>
    cases present
    exact found

/-- The picture after a file was discarded, or could not be. -/
structure Dropped (admits : Admits) (part : Index) (files picture : Shape Index) : Prop where
  either : picture = files ∨ picture = Function.update files part none
  gone : Calm admits → picture part = none

variable {picture : Shape Index}

theorem Dropped.other {part other : Index}
    (dropped : Dropped admits part files picture) (apart : other ≠ part) :
    picture other = files other := by
  rcases dropped.either with same | same
  · rw [same]
  · rw [same, update_of_ne apart]

theorem Dropped.here {part : Index} (dropped : Dropped admits part files picture) :
    picture part = files part ∨ picture part = none := by
  rcases dropped.either with same | same
  · exact .inl (by rw [same])
  · exact .inr (by rw [same, update_self])

theorem holding_discard (group : FileGroup paths before after files)
    (injective : Injective paths) (part : Index) {post : Unit → HostState → Prop}
    (here : invariant ⟨after, servers⟩)
    (continues : ∀ later picture, FileGroup paths before later picture →
      Dropped admits part files picture → invariant ⟨later, servers⟩ ∧ post () ⟨later, servers⟩) :
    SafeOn serve admits invariant () post (discard (paths part)) ⟨after, servers⟩ := by
  apply Safe.bind
  apply group.holding_remove injective part here
  · intro rough
    exact (continues after files group ⟨.inl rfl, fun calm => absurd calm rough⟩).2
  · intro absent
    exact (continues after files group ⟨.inl rfl, fun _ => absent⟩).2
  · intro later removed
    exact continues later _ removed ⟨.inr rfl, fun _ => update_self _ _ _⟩

end Steps

/-! ## The contract of `replaceLive` -/

def Part.ofActivation : Part → Bool
  | .live | .staged | .stagedTemp | .kept | .keptTemp => true
  | _ => false

def Part.isScratch : Part → Bool
  | .staged | .stagedTemp | .keptTemp => true
  | _ => false

theorem Part.ne_of_activation {part other : Part} (outside : part.ofActivation = false)
    (inside : other.ofActivation = true) : part ≠ other := by
  rintro rfl
  rw [inside] at outside
  contradiction

theorem Part.ne_of_scratch {part other : Part} (plain : part.isScratch = false)
    (scratch : other.isScratch = true) : part ≠ other := by
  rintro rfl
  rw [scratch] at plain
  contradiction

/-- A picture an activation can leave: the route is the old one, or the new one
where the guard allows it. -/
structure Activating (allowed : Prop) (content : Text) (files picture : Picture) : Prop where
  route : picture .live = files .live ∨ allowed ∧ picture .live = some (some content)
  anchored : picture .kept = files .kept ∨ picture .kept = none ∨ (picture .live).isSome = true
  others : ∀ part, part.ofActivation = false → picture part = files part

/-- The picture a successful activation leaves. -/
structure Activated (admits : Admits) (allowed : Prop) (content : Text) (files picture : Picture) :
    Prop extends Activating allowed content files picture where
  stored : picture .live = some (some content)
  permitted : allowed
  swept : Calm admits → ∀ part, part.ofActivation = true → part ≠ .live →
    picture part = files part ∨ picture part = none

theorem Activating.refl (allowed : Prop) (content : Text) (files : Picture) :
    Activating allowed content files files :=
  ⟨.inl rfl, .inl rfl, fun _ _ => rfl⟩

theorem Activating.congr {allowed : Prop} {content : Text} {files picture other : Picture}
    (activating : Activating allowed content files picture)
    (same : ∀ part, part.isScratch = false → other part = picture part) :
    Activating allowed content files other := by
  refine ⟨?_, ?_, fun part outside => ?_⟩
  · rw [same .live rfl]
    exact activating.route
  · rw [same .live rfl, same .kept rfl]
    exact activating.anchored
  · have plain : part.isScratch = false := by
      cases part <;> first | rfl | contradiction
    rw [same part plain]
    exact activating.others part outside

section Contract

variable {dir : Dir} {domain : Domain} {suffix : Text} {before after : Routes} {files : Picture}
  {admits : Admits} {invariant : HostState → Prop} {service : Service} {content : Text}
  {servers : Servers}

/-- What the servers hold after an activation that failed: only one whose files
were put back reloaded the service. -/
def ServedAfter (service : Service) (servers : Servers) (error : ActivateError) (later : HostState) :
    Prop :=
  later.world =
    if error = .reloadFailedAndRestored then servers.reloaded service later.disk.look else servers

/-- What the servers hold after a successful one: the files as they are, which of
those it touched since lost at most its own kept copy. -/
def ServedNow (service : Service) (servers : Servers) (kept : FilePath) (later : HostState) : Prop :=
  ∃ view : View, later.world = servers.reloaded service view ∧
    ∀ path, path ≠ kept → view path = later.disk.look path

/-- The post of an activation that started on `files`. -/
def ActivationPost (admits : Admits) (service : Service) (dir : Dir) (domain : Domain) (suffix : Text)
    (allowed : Prop) (content : Text) (before : Routes) (files : Picture) (servers : Servers) :
    Except ActivateError Activation → HostState → Prop :=
  Outcomes
    (fun _ later => ServedNow service servers (Part.path dir domain suffix .kept) later ∧
      ∃ picture, FileGroup (Part.path dir domain suffix) before later.disk picture ∧
        Activated admits allowed content files picture)
    (fun error later => ServedAfter service servers error later ∧
      ∃ picture, FileGroup (Part.path dir domain suffix) before later.disk picture ∧
        Activating allowed content files picture ∧
        (liveWasRestored error = true → picture .live = files .live) ∧
        (Smooth admits → ¬ allowed))

/-- Every state in which an activation of `content` can be stopped satisfies the
invariant. -/
def Tolerates (invariant : HostState → Prop) (dir : Dir) (domain : Domain) (suffix : Text)
    (allowed : Prop) (content : Text) (before : Routes) (files : Picture) : Prop :=
  ∀ later picture servers, FileGroup (Part.path dir domain suffix) before later picture →
    Activating allowed content files picture → invariant ⟨later, servers⟩

/-- The new content is staged and, where there is an old one, that is kept. -/
structure Staged (admits : Admits) (current : Option Text) (content : Text)
    (files picture : Picture) : Prop where
  old : files .live = current.map some
  live : picture .live = files .live
  staged : picture .staged = some (some content)
  kept : picture .kept = files .kept ∨ picture .kept = none ∨ current.isSome = true
  others : ∀ part, part.ofActivation = false → picture part = files part
  neat : Calm admits → ∀ part, part = .stagedTemp ∨ part = .keptTemp →
    picture part = files part ∨ picture part = none

variable {current : Option Text} {allowed : Prop} {picture : Picture}

section

variable (staged : Staged admits current content files picture)
include staged

theorem Staged.activating :
    Activating allowed content files picture := by
  refine ⟨.inl staged.live, ?_, staged.others⟩
  rcases staged.kept with same | gone | present
  · exact .inl same
  · exact .inr (.inl gone)
  · refine .inr (.inr ?_)
    rw [staged.live, staged.old, Option.isSome_map]
    exact present

/-- The picture right after the staged file became the live one. -/
def Picture.swapped (picture : Picture) : Picture :=
  Function.update (Function.update picture .staged none) .live (picture .staged)

theorem Staged.swapped (permitted : allowed) :
    Activating allowed content files picture.swapped := by
  have route : picture.swapped .live = some (some content) := staged.staged
  refine ⟨.inr ⟨permitted, route⟩, .inr (.inr (by rw [route]; rfl)), fun part outside => ?_⟩
  have other : picture.swapped part = picture part := by
    cases part <;> first | rfl | contradiction
  rw [other]
  exact staged.others part outside

theorem Staged.activated (permitted : allowed)
    {final : Picture} (dropped : Dropped admits .kept picture.swapped final) :
    Activated admits allowed content files final := by
  have same : ∀ part, part ≠ .kept → final part = picture.swapped part :=
    fun part apart => dropped.other apart
  have route : final .live = some (some content) := (same .live (by simp)).trans staged.staged
  have swapped := staged.swapped permitted
  refine ⟨⟨.inr ⟨permitted, route⟩, .inr (.inr (by rw [route]; rfl)), fun part outside => ?_⟩, route,
    permitted, ?_⟩
  · rw [same part (Part.ne_of_activation outside rfl)]
    exact swapped.others part outside
  intro calm part inside notLive
  cases part with
  | staged => exact .inr (same .staged (by simp))
  | stagedTemp =>
    rw [same .stagedTemp (by simp)]
    exact staged.neat calm .stagedTemp (.inl rfl)
  | keptTemp =>
    rw [same .keptTemp (by simp)]
    exact staged.neat calm .keptTemp (.inr rfl)
  | kept => exact .inr (dropped.gone calm)
  | live => contradiction
  | disabled | backup | backupTemp | disabledAside | backupAside => contradiction

end

theorem Smooth.reload_ne {query : Query} {state : HostState} (smooth : Smooth admits)
    (answered : ∃ choice, admits choice (Op.ask query) state ∧ choice.answer (.reload service) = false) :
    False := by
  obtain ⟨choice, admitted, refused⟩ := answered
  have agreed := (smooth.consents choice _ state admitted).reload service
  rw [refused] at agreed
  contradiction

theorem Activating.discarded_staged {first second : Picture}
    (activating : Activating allowed content files first) (live : first .live = files .live)
    (dropped : Dropped admits .staged first second) :
    Activating allowed content files second ∧ second .live = files .live := by
  refine ⟨activating.congr fun part plain => dropped.other (Part.ne_of_scratch plain rfl), ?_⟩
  rw [dropped.other (by simp)]
  exact live

theorem Activating.discarded_kept {first second : Picture}
    (activating : Activating allowed content files first) (live : first .live = files .live)
    (dropped : Dropped admits .kept first second) :
    Activating allowed content files second ∧ second .live = files .live := by
  have route : second .live = files .live := (dropped.other (by simp)).trans live
  refine ⟨⟨.inl route, ?_, fun part outside => ?_⟩, route⟩
  · rcases dropped.here with same | gone
    · rw [same, route, ← live]
      exact activating.anchored
    · exact .inr (.inl gone)
  · rw [dropped.other (Part.ne_of_activation outside rfl)]
    exact activating.others part outside

/-- The picture right after the new content was staged. -/
def Picture.staging (files : Picture) (content : Text) : Picture :=
  Function.update (Function.update files .stagedTemp none) .staged (some (some content))

theorem staged_staging (old : files .live = current.map some) :
    Staged admits current content files (files.staging content) where
  old := old
  live := rfl
  staged := rfl
  kept := .inl rfl
  others part outside := by cases part <;> first | rfl | contradiction
  neat _ part either := by
    rcases either with rfl | rfl
    · exact .inr rfl
    · exact .inl rfl

theorem staged_kept {previous : Text} (old : files .live = some (some previous)) :
    Staged admits (some previous) content files
      (update (update (files.staging content) .keptTemp none) .kept (some (some previous))) where
  old := old
  live := rfl
  staged := rfl
  kept := .inr (.inr rfl)
  others part outside := by cases part <;> first | rfl | contradiction
  neat _ part either := by
    rcases either with rfl | rfl
    · exact .inr rfl
    · exact .inr rfl

theorem Activating.spilled (activating : Activating allowed content files picture) {temp : Part}
    (scratch : temp.isScratch = true) (spill : Option (Option Text)) :
    Activating allowed content files (update picture temp spill) := by
  apply activating.congr
  intro part plain
  exact update_of_ne (Part.ne_of_scratch plain scratch) _ _

section Walk

variable (tolerates : Tolerates invariant dir domain suffix allowed content before files)
include tolerates

section Swap

variable (staged : Staged admits current content files picture)
  (keeps : ∀ previous, current = some previous → picture .kept = some (some previous))
  (permitted : allowed)
include staged keeps permitted

theorem safe_putBack
    (group : FileGroup (Part.path dir domain suffix) before after picture.swapped) :
    SafeOn serve admits invariant ()
      (Outcomes
        (fun _ later => later.world = servers ∧
          ∃ final, FileGroup (Part.path dir domain suffix) before later.disk final ∧
            Activating allowed content files final ∧ final .live = files .live)
        (fun _ later => later.world = servers ∧
          ∃ final, FileGroup (Part.path dir domain suffix) before later.disk final ∧
            Activating allowed content files final))
      (putBack (RoutePaths.new (Part.path dir domain suffix .live) suffix) current)
      ⟨after, servers⟩ := by
  have swapped := staged.swapped permitted
  have holds := tolerates after _ servers group swapped
  cases current with
  | none =>
    apply group.holding_remove Part.path_injective .live holds
    · intro _
      exact ⟨rfl, _, group, swapped⟩
    · intro _
      exact ⟨rfl, _, group, swapped⟩
    intro later removed
    have absent : update picture.swapped .live none .live = files .live := by
      rw [update_self, staged.old]
      rfl
    have back : Activating allowed content files (update picture.swapped .live none) := by
      refine ⟨.inl absent, ?_, fun part outside => ?_⟩
      · rcases staged.kept with same | gone | present
        · exact .inl same
        · exact .inr (.inl gone)
        · contradiction
      · rw [update_of_ne (Part.ne_of_activation outside rfl)]
        exact swapped.others part outside
    exact ⟨tolerates later _ servers removed back, rfl, _, removed, back, absent⟩
  | some previous =>
    have kept := keeps previous rfl
    apply group.holding_rename Part.path_injective .kept .live holds
    · intro error _
      exact ⟨rfl, _, group, swapped⟩
    intro later _ moved
    have again : update (update picture.swapped .kept none) .live
        (picture.swapped .kept) .live = files .live := by
      rw [update_self, staged.old]
      exact kept
    have back : Activating allowed content files (update
        (update picture.swapped .kept none) .live (picture.swapped .kept)) := by
      refine ⟨.inl again, .inr (.inl rfl), fun part outside => ?_⟩
      have other : update (update picture.swapped .kept none) .live
          (picture.swapped .kept) part = picture.swapped part := by
        cases part <;> first | rfl | contradiction
      rw [other]
      exact swapped.others part outside
    exact ⟨tolerates later _ servers moved back, rfl, _, moved, back, again⟩

theorem safe_swapIn (group : FileGroup (Part.path dir domain suffix) before after picture) :
    SafeOn serve admits invariant ()
      (ActivationPost admits service dir domain suffix allowed content before files servers)
      (swapIn service (RoutePaths.new (Part.path dir domain suffix .live) suffix) current)
      ⟨after, servers⟩ := by
  have injective := @Part.path_injective dir domain suffix
  have here := tolerates after picture servers group staged.activating
  apply Safe.bind
  apply group.holding_rename injective .staged .live here
  · intro error cause
    have rough : ¬ Calm admits := by
      intro calm
      have absent := cause calm
      rw [staged.staged] at absent
      contradiction
    apply Safe.bind
    apply holding_discard group injective .staged here
    intro middle first grouped dropped
    obtain ⟨activating, live⟩ := staged.activating.discarded_staged staged.live dropped
    have kept := tolerates middle first servers grouped activating
    refine ⟨kept, ?_⟩
    apply Safe.bind
    apply holding_discard grouped injective .kept kept
    intro last second regrouped again
    obtain ⟨left, route⟩ := activating.discarded_kept live again
    exact ⟨tolerates last second servers regrouped left, rfl, second, regrouped, left,
      fun _ => route, fun smooth => absurd smooth.calm rough⟩
  · intro moved _ swapped
    have activating := staged.swapped permitted
    refine ⟨tolerates moved _ servers swapped activating, ?_⟩
    apply holding_ask
    intro answer answered
    cases answer with
    | true =>
      have loaded := tolerates moved _ (serve (.reload service) true moved servers) swapped activating
      refine ⟨loaded, ?_⟩
      apply Safe.bind
      apply holding_discard swapped injective .kept loaded
      intro last final grouped dropped
      have activated : Activated admits allowed content files final :=
        staged.activated permitted dropped
      refine ⟨tolerates last final _ grouped activated.toActivating,
        ⟨moved.look, rfl, fun path apart => ?_⟩, final, grouped, activated⟩
      -- only the kept copy went after the reload
      refine swapped.agree grouped fun part same => ?_
      have other : part ≠ .kept := fun equal => apart (by rw [same, equal])
      exact (dropped.other other).symm
    | false =>
      have refused : ¬ Smooth admits := fun smooth => smooth.reload_ne answered
      refine ⟨tolerates moved _ _ swapped activating, ?_⟩
      apply (safe_putBack tolerates staged keeps permitted swapped).seq
      intro result later outcome
      obtain ⟨later, _⟩ := later
      cases result with
      | error error =>
        obtain ⟨rfl, final, grouped, left⟩ := outcome
        exact ⟨rfl, final, grouped, left, fun impossible => by contradiction,
          fun smooth => absurd smooth refused⟩
      | ok _ =>
        obtain ⟨rfl, final, grouped, left, live⟩ := outcome
        apply holding_ask
        intro confirmed _
        refine ⟨tolerates later final _ grouped left, ?_⟩
        cases confirmed <;>
          exact ⟨rfl, final, grouped, left, fun _ => live, fun smooth => absurd smooth refused⟩

end Swap

theorem safe_abandon (group : FileGroup (Part.path dir domain suffix) before after picture)
    (activating : Activating allowed content files picture) (live : picture .live = files .live)
    (objected : ¬ Smooth admits) {error : ActivateError}
    (untried : error ≠ .reloadFailedAndRestored) :
    SafeOn serve admits invariant ()
      (ActivationPost admits service dir domain suffix allowed content before files servers)
      (discard (Part.path dir domain suffix .staged) >>= fun _ => pure (.error error))
      ⟨after, servers⟩ := by
  apply Safe.bind
  apply holding_discard group Part.path_injective .staged
    (tolerates after picture servers group activating)
  intro later final grouped dropped
  obtain ⟨left, same⟩ := activating.discarded_staged live dropped
  have served : ServedAfter service servers error ⟨later, servers⟩ := (if_neg untried).symm
  exact ⟨tolerates later final servers grouped left, served, final, grouped, left, fun _ => same,
    fun smooth => absurd smooth objected⟩

section

variable (group : FileGroup (Part.path dir domain suffix) before after (files.staging content))
  (old : files .live = current.map some) (permitted : allowed)
include group old permitted

theorem safe_keepPrevious :
    SafeOn serve admits invariant ()
      (ActivationPost admits service dir domain suffix allowed content before files servers)
      (keepPrevious (RoutePaths.new (Part.path dir domain suffix .live) suffix) current >>= fun kept =>
        match kept with
        | .error error =>
          discard (Part.path dir domain suffix .staged) >>= fun _ => pure (.error (.io error))
        | .ok () =>
          swapIn service (RoutePaths.new (Part.path dir domain suffix .live) suffix) current)
      ⟨after, servers⟩ := by
  have staged : Staged admits current content files (files.staging content) := staged_staging old
  cases current with
  | none =>
    have keeps : ∀ previous : Text, (none : Option Text) = some previous →
        files.staging content .kept = some (some previous) := by
      intro previous impossible
      contradiction
    exact safe_swapIn tolerates staged keeps permitted group
  | some previous =>
  have kept : Staged admits (some previous) content files _ := staged_kept old
  have spilled : ∀ spill, Activating allowed content files
      (update (files.staging content) .keptTemp spill) :=
    fun spill => staged.activating.spilled rfl spill
  apply group.holding_replace Part.path_injective .keptTemp .kept (by simp)
  · intro later spill grouped
    exact tolerates later _ servers grouped (spilled spill)
  · intro later grouped
    exact tolerates later _ servers grouped kept.activating
  · intro error later spill grouped rough
    exact safe_abandon tolerates grouped (spilled spill) rfl (fun smooth => rough smooth.calm)
      (by simp)
  intro later grouped
  have keeps : ∀ earlier : Text, some previous = some earlier →
      update (update (files.staging content) .keptTemp none) .kept
        (some (some previous)) Part.kept = some (some earlier) := by
    intro earlier same
    cases same
    rfl
  exact safe_swapIn tolerates kept keeps permitted grouped

theorem safe_install :
    SafeOn serve admits invariant ()
      (ActivationPost admits service dir domain suffix allowed content before files servers)
      (install service (RoutePaths.new (Part.path dir domain suffix .live) suffix) current)
      ⟨after, servers⟩ := by
  have staged : Staged admits current content files (files.staging content) := staged_staging old
  have activating : Activating allowed content files (files.staging content) := staged.activating
  have found : after.look (Part.path dir domain suffix .staged) = some (some content) :=
    group.inside .staged
  apply Safe.bind
  apply holding_present group.plain (tolerates after _ servers group activating)
  · intro _
    apply holding_ask
    intro answer answered
    refine ⟨tolerates after _ _ group activating, ?_⟩
    cases answer with
    | false =>
      have objected : ¬ Smooth admits := by
        intro smooth
        obtain ⟨choice, admitted, refused⟩ := answered
        have agreed := (smooth.consents choice _ _ admitted).validate service
          (Part.path dir domain suffix .staged)
        exact absurd (refused.symm.trans agreed) (by simp)
      exact safe_abandon tolerates group activating rfl objected (by simp)
    | true => exact safe_keepPrevious tolerates group old permitted
  · intro cause
    have objected : ¬ Smooth admits := by
      intro smooth
      have absent : after.look (Part.path dir domain suffix .staged) = none := cause (smooth.calm _)
      rw [found] at absent
      contradiction
    exact safe_abandon tolerates group activating rfl objected (by simp)

end

end Walk

/-- The contract of an activation: it starts on `files`, whose live file holds
`current`, and may be stopped anywhere. -/
theorem safe_replaceLive [Sha256] {guard : HashGuard}
    (group : FileGroup (Part.path dir domain suffix) before after files)
    (old : files .live = current.map some)
    (tolerates : Tolerates invariant dir domain suffix (guard.isSatisfiedBy current = true) content
      before files) :
    SafeOn serve admits invariant ()
      (ActivationPost admits service dir domain suffix (guard.isSatisfiedBy current = true) content
        before files servers)
      (replaceLive service (Part.path dir domain suffix .live) content guard suffix)
      ⟨after, servers⟩ := by
  have start : Activating (guard.isSatisfiedBy current = true) content files files :=
    Activating.refl _ content files
  have holds := tolerates after files servers group start
  apply Safe.bind
  apply holding_readOptional group .live old holds
  · intro error rough
    exact ⟨rfl, files, group, start, fun _ => rfl, fun smooth => absurd smooth.calm rough⟩
  dsimp only
  by_cases guarded : guard.isSatisfiedBy current = true
  · have admissible : ¬ guard.isSatisfiedBy current = false := by simp [guarded]
    rw [if_neg admissible]
    by_cases unchanged : current = some content
    · rw [if_pos unchanged]
      have stored : files .live = some (some content) := by
        rw [old, unchanged]
        rfl
      apply holding_ask
      intro answer answered
      refine ⟨tolerates after files _ group start, ?_⟩
      cases answer with
      | true =>
        exact ⟨⟨after.look, rfl, fun _ _ => rfl⟩, files, group,
          ⟨start, stored, guarded, fun _ _ _ _ => .inl rfl⟩⟩
      | false =>
        exact ⟨rfl, files, group, start, fun _ => rfl,
          fun smooth => (smooth.reload_ne answered).elim⟩
    · rw [if_neg unchanged]
      have staged : Staged admits current content files (files.staging content) :=
        staged_staging old
      apply group.holding_replace Part.path_injective .stagedTemp .staged (by simp)
      · intro later spill grouped
        exact tolerates later _ servers grouped (start.spilled rfl spill)
      · intro later grouped
        exact tolerates later _ servers grouped staged.activating
      · intro error later spill grouped rough
        exact ⟨rfl, _, grouped, start.spilled rfl spill, fun _ => rfl,
          fun smooth => absurd smooth.calm rough⟩
      · intro later grouped
        exact safe_install tolerates grouped old guarded
  · have refused : guard.isSatisfiedBy current = false := by simpa using guarded
    rw [if_pos refused]
    exact ⟨rfl, files, group, start, fun _ => rfl, fun _ => guarded⟩

end Contract

end OpsEngine.Ingress
