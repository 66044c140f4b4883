import OpsEngine.Ingress.Names
import OpsEngine.Ingress.Transition

namespace OpsEngine.Ingress

open Effect Files Function

/-! # Disk and server after a change of routes

A change that was carried out is on disk and in the server; one that was
rejected is in neither.
-/

/-- The server runs with the files as they are. -/
def Agrees (service : Service) (state : HostState) : Prop :=
  state.world service = service.sees state.disk.look

/-- The route files are regular and completely written. -/
structure Sound (disk : Routes) : Prop where
  plain : disk.Plain
  whole : ∀ path, IsRouteFile path → disk.look path ≠ some none

theorem Sound.content {disk : Routes} (sound : Sound disk) {path : FilePath}
    (route : IsRouteFile path) : ∃ content : Option Text, disk.look path = content.map some := by
  have whole := sound.whole path route
  cases held : disk.look path with
  | none => exact ⟨none, rfl⟩
  | some stored =>
    cases stored with
    | none => exact absurd held whole
    | some text => exact ⟨some text, rfl⟩

/-- No file a server imports, or may come to import, differs. -/
def SameRoutes (before after : View) : Prop := ∀ path, IsRouteFile path → after path = before path

variable {service : Service}

variable {first second : View}

theorem SameRoutes.imported (same : SameRoutes first second) (path : FilePath)
    (imported : service.imports path = true) : second path = first path :=
  same path (.inl ⟨service, imported⟩)

theorem Service.sees_congr (same : ∀ path, service.imports path = true → second path = first path) :
    service.sees second = service.sees first := by
  funext path
  unfold Service.sees
  split
  next imported => rw [same path imported]
  next => rfl

variable {servers : Servers} {before : View}

theorem Servers.reloaded_same {after : View}
    (agrees : servers service = service.sees before) (same : SameRoutes before after) :
    servers.reloaded service after = servers := by
  rw [Servers.reloaded, update_eq_self_iff, Service.sees_congr same.imported]
  exact agrees.symm

/-! ## What a call owes -/

/-- The errors that reject a change. -/
def ActivateError.rejects : ActivateError → Bool
  | .hashGuardMismatch | .validateFailed | .reloadFailedAndRestored => true
  | _ => false

def OperationError.rejects : OperationError → Bool
  | .hashGuardMismatch => true
  | .activate error => error.rejects
  | _ => false

/-- A successful call made the route files those of `goal` and has them served;
a rejected one left files and server as they were. -/
def CallPost {ε α : Type} (rejects : ε → Bool) (service : Service) (goal before : View)
    (servers : Servers) : Except ε α → HostState → Prop :=
  Outcomes
    (fun _ later => SameRoutes goal later.disk.look ∧
      later.world = servers.reloaded service later.disk.look)
    (fun error later => rejects error = true →
      SameRoutes before later.disk.look ∧ later.world = servers)

/-- What `CallPost` says of every run of a call on a server that agrees with the
disk. -/
def Faithful {ε α : Type} (rejects : ε → Bool) (service : Service) (goal : View → View)
    (call : Action (Except ε α)) : Prop :=
  ∀ (state : HostState) (choices : Nat → RouteChoice), Sound state.disk → Agrees service state →
    CallPost rejects service (goal state.disk.look) state.disk.look state.world
      (host.solo () choices call state).1 (host.solo () choices call state).2

def anything : Admits := fun _ _ _ => True

/-- A call keeps its part although anything may fail. -/
abbrev Owes {ε α : Type} (rejects : ε → Bool) (service : Service) (goal : View) (state : HostState)
    (call : Action (Except ε α)) (here : HostState) : Prop :=
  SafeOn serve anything (fun _ => True) ()
    (CallPost rejects service goal state.disk.look state.world) call here

theorem faithful_of_safe {ε α : Type} {rejects : ε → Bool}
    {goal : View → View} {call : Action (Except ε α)}
    (safe : ∀ state : HostState, Sound state.disk → Agrees service state →
      Owes rejects service (goal state.disk.look) state call state) :
    Faithful rejects service goal call :=
  fun state _ sound agrees => (safe state sound agrees).solo fun _ _ _ => trivial

section Groups

variable {Index : Type} {paths : Index → FilePath} {before after : Routes} {shape : Shape Index}
  {goal : View}

theorem FileGroup.look_of (property : FilePath → Option (Option Text) → Prop)
    (group : FileGroup paths before after shape)
    (inside : ∀ index, property (paths index) (shape index))
    (outside : ∀ path, (∀ index, path ≠ paths index) → property path (before.look path))
    (path : FilePath) : property path (after.look path) := by
  by_cases elsewhere : ∀ index, path ≠ paths index
  · rw [group.elsewhere path elsewhere]
    exact outside path elsewhere
  simp only [not_forall, not_not] at elsewhere
  obtain ⟨index, same⟩ := elsewhere
  subst same
  rw [group.inside index]
  exact inside index

theorem FileGroup.sameRoutes (group : FileGroup paths before after shape)
    (inside : ∀ index, IsRouteFile (paths index) → shape index = goal (paths index))
    (outside : ∀ path, (∀ index, path ≠ paths index) → before.look path = goal path) :
    SameRoutes goal after.look :=
  FileGroup.look_of (fun path held => IsRouteFile path → held = goal path) group inside
    fun path elsewhere _ => outside path elsewhere

end Groups

/-! ## Activations -/

abbrev shapeOf {Index : Type} (paths : Index → FilePath) (view : View) : Shape Index :=
  fun index => view (paths index)

abbrev routeParts (domain : Domain) (id : RequestId) : Part → FilePath :=
  Part.path .routes domain id.text

variable {content : Text} {state : HostState} {part : Part} {admits : Admits}

section Activations

variable {dir : Dir} {domain : Domain} {id : RequestId} {service : Service}

theorem Part.routeFile (route : IsRouteFile (Part.path dir domain id.text part)) :
    part = .live ∨ part = .disabled ∨ part = .backup := by
  have temp : ∀ path : FilePath, ¬ IsRouteFile (tempSiblingPath path) :=
    fun path => not_routeFile_tmp (List.suffix_append path.name _)
  have aside : ∀ path : FilePath, ¬ IsRouteFile (rollbackSibling path id.text) := by
    intro path
    apply not_routeFile_id
    exact (List.suffix_append _ id.text).trans (List.suffix_append path.name _)
  cases part with
  | live => exact .inl rfl
  | disabled => exact .inr (.inl rfl)
  | backup => exact .inr (.inr rfl)
  | staged | stagedTemp | keptTemp | backupTemp => exact absurd route (temp _)
  | kept | disabledAside | backupAside => exact absurd route (aside _)

theorem Part.live_or_untouched (route : IsRouteFile (Part.path dir domain id.text part)) :
    part = .live ∨ part.ofActivation = false := by
  rcases Part.routeFile route with rfl | rfl | rfl
  · exact .inl rfl
  all_goals exact .inr rfl

theorem ActivationPost.callPost {allowed : Prop}
    {before : Routes} (agrees : servers service = service.sees before.look)
    {answer : Except ActivateError Activation} {later : HostState}
    (post : ActivationPost admits service dir domain id.text allowed content before
      (fun part => before.look (Part.path dir domain id.text part)) servers answer later) :
    CallPost ActivateError.rejects service
      (update before.look (Part.path dir domain id.text .live) (some (some content)))
      before.look servers answer later := by
  have injective := @Part.path_injective dir domain id.text
  cases answer with
  | ok activation =>
    obtain ⟨⟨view, world, loaded⟩, picture, group, activated⟩ := post
    have routes : SameRoutes (update before.look (Part.path dir domain id.text .live)
        (some (some content))) later.disk.look := by
      apply FileGroup.sameRoutes group
      · intro part route
        rcases Part.live_or_untouched route with rfl | untouched
        · rw [update_self]
          exact activated.stored
        · rw [update_of_ne (injective.ne (Part.ne_of_activation untouched rfl))]
          exact activated.others part untouched
      · intro path elsewhere
        rw [update_of_ne (elsewhere .live)]
    refine ⟨routes, ?_⟩
    have same : SameRoutes later.disk.look view := by
      intro path route
      apply loaded
      intro kept
      subst kept
      rcases Part.routeFile route with impossible | impossible | impossible <;> contradiction
    rw [world, Servers.reloaded, Servers.reloaded, Service.sees_congr same.imported]
  | error error =>
    obtain ⟨served, picture, group, activating, restored, _⟩ := post
    intro rejected
    have live : picture .live = before.look (Part.path dir domain id.text .live) := by
      apply restored
      cases error <;> first | rfl | contradiction
    have routes : SameRoutes before.look later.disk.look := by
      apply FileGroup.sameRoutes group
      · intro part route
        rcases Part.live_or_untouched route with rfl | untouched
        · exact live
        · exact activating.others part untouched
      · exact fun _ _ => rfl
    refine ⟨routes, ?_⟩
    rw [served]
    split
    · exact Servers.reloaded_same agrees routes
    · rfl

theorem safe_replaceLive_call [Sha256] {guard : HashGuard}
    (sound : Sound state.disk) (agrees : Agrees service state)
    (route : IsRouteFile (Part.path dir domain id.text .live)) :
    Owes ActivateError.rejects service
      (update state.disk.look (Part.path dir domain id.text .live) (some (some content))) state
      (replaceLive service (Part.path dir domain id.text .live) content guard id.text) state := by
  obtain ⟨current, held⟩ := sound.content route
  have safe : SafeOn serve anything (fun _ => True) () _
      (replaceLive service (Part.path dir domain id.text .live) content guard id.text)
      ⟨state.disk, state.world⟩ :=
    safe_replaceLive (FileGroup.start sound.plain) held fun _ _ _ _ _ => trivial
  exact safe.mono fun answer later post => post.callPost agrees

end Activations

theorem isRouteFile_live (domain : Domain) : IsRouteFile (routePath domain) := by
  refine .inl ⟨.ingress, ?_⟩
  exact Text.endsWith_iff.mpr (List.suffix_append domain.text _)

theorem isRouteFile_fragment (runtime : RuntimeId) (domain : Domain) :
    IsRouteFile (fragmentPath runtime domain) := by
  refine .inl ⟨.pool runtime, ?_⟩
  simp only [fragmentPath, Service.imports, decide_true, Bool.true_and]
  exact Text.endsWith_iff.mpr (List.suffix_append domain.text _)

def View.set (path : FilePath) (content : Option Text) (view : View) : View :=
  Function.update view path (content.map some)

variable {id : RequestId}

theorem safe_activateLive [Sha256] {invariant : HostState → Prop} {domain : Domain} {guard : HashGuard}
    {current : Option Text} (sound : Sound state.disk)
    (held : state.disk.look (routePath domain) = current.map some)
    (tolerates : Tolerates invariant .routes domain id.text (guard.isSatisfiedBy current = true)
      content state.disk (shapeOf (routeParts domain id) state.disk.look)) :
    SafeOn serve admits invariant ()
      (ActivationPost admits .ingress .routes domain id.text (guard.isSatisfiedBy current = true)
        content state.disk (shapeOf (routeParts domain id) state.disk.look) state.world)
      (activateLive domain content guard id.text) ⟨state.disk, state.world⟩ := by
  have group : FileGroup (routeParts domain id) state.disk state.disk _ := FileGroup.start sound.plain
  have start : Activating (guard.isSatisfiedBy current = true) content _ _ :=
    Activating.refl _ content (shapeOf (routeParts domain id) state.disk.look)
  have here := tolerates state.disk _ state.world group start
  apply Safe.bind
  apply holding_op rfl here
  · intro unreliable
    exact ⟨rfl, _, group, start, fun _ => rfl, fun smooth => absurd (smooth.calm _) unreliable⟩
  · exact fun _ => ⟨here, safe_replaceLive group held tolerates⟩

theorem activateLive_faithful [Sha256] (domain : Domain) (content : Text) (guard : HashGuard)
    (id : RequestId) :
    Faithful ActivateError.rejects .ingress (View.set (routePath domain) (some content))
      (activateLive domain content guard id.text) := by
  apply faithful_of_safe
  intro state sound agrees
  obtain ⟨current, held⟩ := sound.content (isRouteFile_live domain)
  have safe : SafeOn serve anything (fun _ => True) () _
      (activateLive domain content guard id.text) ⟨state.disk, state.world⟩ :=
    safe_activateLive sound held fun _ _ _ _ _ => trivial
  exact safe.mono fun answer later post => post.callPost agrees

theorem activateFragment_faithful [Sha256] (runtime : RuntimeId) (domain : Domain) (content : Text)
    (guard : HashGuard) (id : RequestId) :
    Faithful ActivateError.rejects (.pool runtime)
      (View.set (fragmentPath runtime domain) (some content))
      (activateFragment runtime domain content guard id.text) := by
  apply faithful_of_safe
  intro state sound agrees
  apply Safe.bind
  refine holding_op rfl trivial nofun fun _ => ⟨trivial, ?_⟩
  apply Safe.bind
  refine holding_op rfl trivial nofun fun _ =>
    ⟨trivial, safe_replaceLive_call sound agrees (isRouteFile_fragment runtime domain)⟩

/-! ## Transitions -/

variable {answer : Except ActivateError Unit} {reloadService : Option Service}

section Transitions

variable {Index : Type} [DecidableEq Index] {paths : Index → FilePath} {before start : Routes}
  {shape : Shape Index} {admits : Admits} {moves : List (Index × Index)} {cleanup : List Index}
  {service : Service} {goal : View} {servers : Servers}

/-- What a caller of `transition` sees to: the moves lead to `goal`, their way
back leads to where the call began, nothing imported is cleaned up, and the
server is reloaded where its files change. -/
structure Planned (paths : Index → FilePath) (before : View) (shape : Shape Index)
    (moves : List (Index × Index)) (cleanup : List Index) (reloadService : Option Service)
    (service : Service) (goal : View) : Prop where
  aside : ∀ index ∈ cleanup, ¬ IsRouteFile (paths index)
  reached : ∀ index, IsRouteFile (paths index) → moves.foldl Shape.shift shape index = goal (paths index)
  returned : ∀ index, IsRouteFile (paths index) →
    (moves.reverse.map back).foldl Shape.shift (moves.foldl Shape.shift shape) index =
      before (paths index)
  beyond : ∀ path, (∀ index, path ≠ paths index) → before path = goal path
  reloads : reloadService = some service ∨
    reloadService = none ∧ ∀ path, service.imports path = true → goal path = before path

theorem Planned.callPost
    (planned : Planned paths before.look shape moves cleanup reloadService service goal)
    (same : ∀ path, (∀ index, path ≠ paths index) → start.look path = before.look path)
    (agrees : servers service = service.sees before.look) {later : HostState}
    (post : TransitionPost admits paths start moves cleanup reloadService shape servers answer later) :
    CallPost ActivateError.rejects service goal before.look servers answer later := by
  obtain ⟨⟨final, group, _, outcome⟩, _⟩ := post
  cases answer with
  | ok _ =>
    obtain ⟨cleaned, served⟩ := outcome
    have routes : SameRoutes goal later.disk.look := by
      apply FileGroup.sameRoutes group
      · intro index route
        have kept : index ∉ cleanup := fun member => planned.aside index member route
        rw [cleaned, foldl_drop_of_not_mem kept]
        exact planned.reached index route
      · intro path elsewhere
        rw [same path elsewhere, planned.beyond path elsewhere]
    refine ⟨routes, ?_⟩
    rcases planned.reloads with reloads | ⟨reloads, unseen⟩
    · subst reloads
      obtain ⟨view, world, loaded⟩ := served
      have unchanged : SameRoutes later.disk.look view := by
        intro path route
        apply loaded
        rintro ⟨index, member, rfl⟩
        exact planned.aside index member route
      rw [world, Servers.reloaded, Servers.reloaded, Service.sees_congr unchanged.imported]
    subst reloads
    -- what changed is not imported
    have sees : service.sees later.disk.look = service.sees before.look :=
      Service.sees_congr fun path imported =>
        (routes.imported path imported).trans (unseen path imported)
    have world : later.world = servers := served
    rw [world, eq_comm, Servers.reloaded, update_eq_self_iff, sees]
    exact agrees.symm
  | error error =>
    intro rejected
    cases error with
    | reloadFailedAndRestored =>
      obtain ⟨undone, reloaded, reloads, world⟩ := outcome
      have routes : SameRoutes before.look later.disk.look := by
        apply FileGroup.sameRoutes group
        · intro index route
          rw [undone]
          exact planned.returned index route
        · exact same
      refine ⟨routes, ?_⟩
      have known : reloaded = service := by
        rcases planned.reloads with found | ⟨none, _⟩
        · rw [found] at reloads
          exact (Option.some.inj reloads).symm
        · rw [none] at reloads
          contradiction
      rw [world, known]
      exact Servers.reloaded_same agrees routes
    | io _ | path | hashGuardMismatch | validateFailed | reloadFailedUnchanged | recoveryFailed _ =>
      contradiction

end Transitions

variable {Index : Type} {goal : View} {paths : Index → FilePath}

theorem safe_transition_call [DecidableEq Index]
    {moves : List (Index × Index)} {cleanup : List Index}
    (sound : Sound state.disk) (agrees : Agrees service state) (injective : Injective paths)
    (planned : Planned paths state.disk.look (shapeOf paths state.disk.look) moves cleanup
      reloadService service goal) :
    Owes ActivateError.rejects service goal state
      (transition (moves.map (renameOf paths)) reloadService (cleanup.map paths)) state := by
  have safe : SafeOn serve anything (fun _ => True) () _
      (transition (moves.map (renameOf paths)) reloadService (cleanup.map paths))
      ⟨state.disk, state.world⟩ :=
    safe_transition injective (fun _ _ _ _ _ => trivial) (FileGroup.start sound.plain) reloadService
  exact safe.mono fun answer later post => planned.callPost (fun _ _ => rfl) agrees post

variable {later : Routes}

section Requests

theorem isRouteFile_disabled (domain : Domain) : IsRouteFile (disabledRoutePath domain) :=
  .inr ⟨domain, .inl rfl⟩

theorem isRouteFile_backup (domain : Domain) : IsRouteFile (backupRoutePath domain) :=
  .inr ⟨domain, .inr rfl⟩

def SetEnabledRequest.move (request : SetEnabledRequest) : Part × Part :=
  if request.enabled then (.disabled, .live) else (.live, .disabled)

theorem SetEnabledRequest.rename_eq (request : SetEnabledRequest) :
    request.rename = renameOf (routeParts request.domain request.requestId) request.move := by
  unfold SetEnabledRequest.rename SetEnabledRequest.move
  split <;> rfl

theorem SetEnabledRequest.isRouteFile (request : SetEnabledRequest) :
    IsRouteFile request.rename.source ∧ IsRouteFile request.rename.target := by
  unfold SetEnabledRequest.rename
  split
  · exact ⟨isRouteFile_disabled _, isRouteFile_live _⟩
  · exact ⟨isRouteFile_live _, isRouteFile_disabled _⟩

def View.moved (source target : FilePath) (view : View) : View :=
  if (view source).isSome = true
  then Function.update (Function.update view source none) target (view source) else view

theorem Shape.shift_look [DecidableEq Index]
    (injective : Injective paths) (view : View) (move : Index × Index) (index : Index) :
    Shape.shift (shapeOf paths view) move index =
      View.moved (paths move.1) (paths move.2) view (paths index) := by
  unfold Shape.shift View.moved
  split
  · have cleared := update_comp_eq_of_injective view injective move.1 none
    have moved := update_comp_eq_of_injective (update view (paths move.1) none) injective move.2
      (view (paths move.1))
    rw [cleared] at moved
    exact (congrFun moved index).symm
  · rfl

variable {view : View}

theorem View.moved_of_ne {source target path : FilePath} (first : path ≠ source)
    (second : path ≠ target) : View.moved source target view path = view path := by
  unfold View.moved
  split
  · rw [update_of_ne second, update_of_ne first]
  · rfl

theorem setEnabled_planned (request : SetEnabledRequest) {content : Text} {view : View}
    (source : view request.rename.source = some (some content))
    (target : view request.rename.target = none) :
    Planned (routeParts request.domain request.requestId) view
      (shapeOf (routeParts request.domain request.requestId) view) [request.move] []
      (some .ingress) .ingress (View.moved request.rename.source request.rename.target view) := by
  rw [request.rename_eq] at source target ⊢
  have injective := @Part.path_injective .routes request.domain request.requestId.text
  refine ⟨fun _ impossible => by contradiction, ?_, ?_, ?_, .inl rfl⟩
  · intro part _
    exact Shape.shift_look injective view request.move part
  · intro part _
    have restored : (Shape.shift (shapeOf (routeParts request.domain request.requestId) view)
        request.move).shift (back request.move) part =
          shapeOf (routeParts request.domain request.requestId) view part :=
      Shape.shift_back (Option.isSome_iff_exists.mpr ⟨_, source⟩) fun _ => target
    exact restored
  · intro path elsewhere
    exact (View.moved_of_ne (elsewhere _) (elsewhere _)).symm

theorem setEnabled_faithful [Sha256] (request : SetEnabledRequest) :
    Faithful OperationError.rejects .ingress
      (View.moved request.rename.source request.rename.target) (setEnabledBody request) := by
  apply faithful_of_safe
  intro state sound agrees
  obtain ⟨source, sourceHeld⟩ := sound.content request.isRouteFile.1
  obtain ⟨target, targetHeld⟩ := sound.content request.isRouteFile.2
  have group : FileGroup (routeParts request.domain request.requestId) state.disk state.disk _ :=
    FileGroup.start sound.plain
  apply Safe.bind
  refine holding_op rfl trivial nofun fun _ => ⟨trivial, ?_⟩
  have planned := @setEnabled_planned request
  rw [request.rename_eq] at sourceHeld targetHeld planned ⊢
  apply Safe.bind
  refine holding_readOptional group request.move.1 sourceHeld trivial nofun ?_
  apply Safe.bind
  refine holding_readOptional group request.move.2 targetHeld trivial nofun ?_
  cases source with
  | none =>
    cases target with
    | none =>
      nofun
    | some content =>
    dsimp only
    split
    · exact fun _ => ⟨fun _ _ => rfl, rfl⟩
    apply holding_ask
    intro answer _
    refine ⟨trivial, ?_⟩
    cases answer with
    | false =>
      nofun
    | true =>
    apply holding_ask
    intro now _
    refine ⟨trivial, fun path _ => ?_, rfl⟩
    have still : (state.disk.look (renameOf (routeParts request.domain request.requestId)
        request.move).source).isSome = false := by rw [sourceHeld]; rfl
    simp only [View.moved, still, Bool.false_eq_true, if_false]
  | some content =>
    cases target with
    | some _ =>
      nofun
    | none =>
    dsimp only
    split
    · exact fun _ => ⟨fun _ _ => rfl, rfl⟩
    refine (safe_transition_call sound agrees Part.path_injective
      (planned sourceHeld targetHeld)).attempt (fun _ _ outcome => outcome) ?_
    intro _ later outcome
    apply holding_ask
    intro now _
    exact ⟨trivial, outcome⟩

theorem not_imported {front ending : Text} (long : 10 ≤ ending.length)
    (apart : ¬ ".caddyfile".toList <:+ ending) :
    Service.ingress.imports ⟨.routes, front ++ ending⟩ = false := by
  rw [Service.imports, Bool.eq_false_iff, ne_eq, Text.endsWith_iff]
  intro suffix
  exact apart (List.suffix_of_suffix_length_le suffix (List.suffix_append front ending) long)

def removeMoves (wasLive : Bool) (backup : Option Text) : List (Part × Part) :=
  (if wasLive then (.live, .kept) else (.disabled, .disabledAside)) ::
    (if backup.isSome then [(.backup, .backupAside)] else [])

theorem RemoveRouteRequest.renames_eq (request : RemoveRouteRequest) (wasLive : Bool)
    (backup : Option Text) :
    (request.staged wasLive backup).map (fun path => ⟨path, asideOf request.requestId path⟩) =
      (removeMoves wasLive backup).map (renameOf (routeParts request.domain request.requestId)) ∧
    (request.staged wasLive backup).map (asideOf request.requestId) =
      ((removeMoves wasLive backup).map Prod.snd).map
        (routeParts request.domain request.requestId) := by
  cases wasLive <;> cases backup <;> exact ⟨rfl, rfl⟩

/-- Nothing is left of a domain's route. -/
def View.without (domain : Domain) (view : View) : View := fun path =>
  if path = routePath domain ∨ path = disabledRoutePath domain ∨ path = backupRoutePath domain
  then none else view path

theorem View.without_of_route (domain : Domain) (id : RequestId) (view : View)
    (route : IsRouteFile (routeParts domain id part)) :
    View.without domain view (routeParts domain id part) = none := by
  rcases Part.routeFile route with rfl | rfl | rfl
  · exact if_pos (.inl rfl)
  · exact if_pos (.inr (.inl rfl))
  · exact if_pos (.inr (.inr rfl))

theorem View.without_of_ne {domain : Domain} {path : FilePath}
    (elsewhere : ∀ part, path ≠ routeParts domain id part) :
    View.without domain view path = view path := by
  apply if_neg
  rintro (live | disabled | backup)
  · exact elsewhere .live live
  · exact elsewhere .disabled disabled
  · exact elsewhere .backup backup

/-- The shape a removal starts on: the route at one of its two places. -/
structure Removable (wasLive : Bool) (content : Text) (backup : Option Text) (shape : Picture) :
    Prop where
  live : shape .live = if wasLive then some (some content) else none
  disabled : shape .disabled = if wasLive then none else some (some content)
  backup : shape .backup = backup.map some

variable {backup : Option Text} {wasLive : Bool}

theorem Removable.moved {shape : Picture} (removable : Removable wasLive content backup shape)
    (route : part = .live ∨ part = .disabled ∨ part = .backup) :
    (removeMoves wasLive backup).foldl Shape.shift shape part = none := by
  obtain ⟨live, disabled, kept⟩ := removable
  rcases route with rfl | rfl | rfl <;> cases wasLive <;> cases backup <;>
    simp_all [removeMoves, Shape.shift]

theorem Removable.returned {shape : Picture} (removable : Removable wasLive content backup shape)
    (route : part = .live ∨ part = .disabled ∨ part = .backup) :
    ((removeMoves wasLive backup).reverse.map back).foldl Shape.shift
      ((removeMoves wasLive backup).foldl Shape.shift shape) part = shape part := by
  obtain ⟨live, disabled, kept⟩ := removable
  rcases route with rfl | rfl | rfl <;> cases wasLive <;> cases backup <;>
    simp_all [removeMoves, back, Shape.shift]

theorem remove_planned (request : RemoveRouteRequest) (removable : Removable wasLive content backup
      (shapeOf (routeParts request.domain request.requestId) view)) :
    Planned (routeParts request.domain request.requestId) view
      (shapeOf (routeParts request.domain request.requestId) view) (removeMoves wasLive backup)
      ((removeMoves wasLive backup).map Prod.snd) (if wasLive then some .ingress else none) .ingress
      (View.without request.domain view) := by
  refine ⟨?_, ?_, ?_, ?_, ?_⟩
  · intro part member route
    cases wasLive <;> cases backup <;> simp [removeMoves] at member <;>
      rcases Part.routeFile route with rfl | rfl | rfl <;> simp at member
  · intro part route
    rw [View.without_of_route request.domain request.requestId view route]
    exact removable.moved (Part.routeFile route)
  · intro part route
    exact removable.returned (Part.routeFile route)
  · intro path elsewhere
    exact (View.without_of_ne elsewhere).symm
  cases wasLive with
  | true => exact .inl rfl
  | false =>
  refine .inr ⟨rfl, fun path imported => ?_⟩
  unfold View.without
  split
  · rename_i named
    rcases named with rfl | rfl | rfl
    · exact removable.live.symm
    · have unseen : Service.ingress.imports (disabledRoutePath request.domain) = false :=
        not_imported (by decide) (by decide)
      rw [unseen] at imported
      contradiction
    · have unseen : Service.ingress.imports (backupRoutePath request.domain) = false :=
        not_imported (by decide) (by decide)
      rw [unseen] at imported
      contradiction
  · rfl

theorem removeStaged_safe [Sha256] (request : RemoveRouteRequest) (sound : Sound state.disk)
    (agrees : Agrees .ingress state) (removable : Removable wasLive content backup
      (shapeOf (routeParts request.domain request.requestId) state.disk.look)) :
    Owes OperationError.rejects .ingress (View.without request.domain state.disk.look) state
      (removeStaged request wasLive content backup) state := by
  unfold removeStaged
  split
  · exact fun _ => ⟨fun _ _ => rfl, rfl⟩
  split
  · exact fun _ => ⟨fun _ _ => rfl, rfl⟩
  dsimp only
  rw [(request.renames_eq wasLive backup).1, (request.renames_eq wasLive backup).2]
  refine (safe_transition_call sound agrees Part.path_injective
    (remove_planned request removable)).attempt (fun _ _ outcome => outcome) ?_
  intro _ later outcome
  apply holding_ask
  intro now _
  exact ⟨trivial, outcome⟩

theorem remove_faithful [Sha256] (request : RemoveRouteRequest) :
    Faithful OperationError.rejects .ingress (View.without request.domain) (removeBody request) := by
  apply faithful_of_safe
  intro state sound agrees
  obtain ⟨live, liveHeld⟩ := sound.content (isRouteFile_live request.domain)
  obtain ⟨disabled, disabledHeld⟩ := sound.content (isRouteFile_disabled request.domain)
  obtain ⟨backup, backupHeld⟩ := sound.content (isRouteFile_backup request.domain)
  have group : FileGroup (routeParts request.domain request.requestId) state.disk state.disk _ :=
    FileGroup.start sound.plain
  apply Safe.bind
  refine holding_op rfl trivial nofun fun _ => ⟨trivial, ?_⟩
  apply Safe.bind
  refine holding_readOptional group .live liveHeld trivial nofun ?_
  apply Safe.bind
  refine holding_readOptional group .disabled disabledHeld trivial nofun ?_
  apply Safe.bind
  refine holding_readOptional group .backup backupHeld trivial nofun ?_
  cases live with
  | none =>
    cases disabled with
    | none =>
      nofun
    | some content => exact removeStaged_safe request sound agrees ⟨liveHeld, disabledHeld, backupHeld⟩
  | some content =>
    cases disabled with
    | none => exact removeStaged_safe request sound agrees ⟨liveHeld, disabledHeld, backupHeld⟩
    | some _ =>
      nofun

/-! ## One file set aside -/

theorem planned_aside [DecidableEq Index] (injective : Injective paths) {live aside : Index}
    (held : (view (paths live)).isSome = true) (unseen : ¬ IsRouteFile (paths aside))
    (service : Service) :
    Planned paths view (shapeOf paths view) [(live, aside)] [aside] (some service) service
      (View.set (paths live) none view) := by
  have notAside : ∀ index, IsRouteFile (paths index) → index ≠ aside := by
    intro index route same
    rw [same] at route
    exact unseen route
  have present : (shapeOf paths view live).isSome = true := held
  refine ⟨?_, ?_, ?_, ?_, .inl rfl⟩
  · intro index member route
    exact notAside index route (List.mem_singleton.mp member)
  · intro index route
    have moved : List.foldl Shape.shift (shapeOf paths view) [(live, aside)] =
        update (update (shapeOf paths view) live none) aside (view (paths live)) :=
      if_pos present
    rw [moved, update_of_ne (notAside index route)]
    by_cases same : index = live
    · rw [same, update_self, View.set, update_self]
      rfl
    · rw [update_of_ne same, View.set, update_of_ne (injective.ne same)]
  · intro index route
    have restored : (Shape.shift (shapeOf paths view) (live, aside)).shift
        (back ((live, aside) : Index × Index)) index = shapeOf paths view index :=
      Shape.shift_back present fun same => absurd same (notAside index route)
    exact restored
  · intro path elsewhere
    exact (update_of_ne (elsewhere live) _ _).symm

theorem removeFragment_faithful [Sha256] (request : RemoveConfigRequest) :
    Faithful OperationError.rejects (.pool request.runtime)
      (View.set (fragmentPath request.runtime request.domain) none) (removeFragmentBody request) := by
  apply faithful_of_safe
  intro state sound agrees
  obtain ⟨current, held⟩ := sound.content (isRouteFile_fragment request.runtime request.domain)
  have injective := @Part.path_injective (.pool request.runtime) request.domain request.requestId.text
  have group : FileGroup (Part.path (.pool request.runtime) request.domain request.requestId.text)
      state.disk state.disk _ := FileGroup.start sound.plain
  apply Safe.bind
  refine holding_op rfl trivial nofun fun _ => ⟨trivial, ?_⟩
  apply Safe.bind
  refine holding_readOptional group .live held trivial nofun ?_
  cases current with
  | none =>
    nofun
  | some content =>
  dsimp only
  split
  · exact fun _ => ⟨fun _ _ => rfl, rfl⟩
  have unseen : ¬ IsRouteFile (Part.path (.pool request.runtime) request.domain
      request.requestId.text .kept) := by
    intro route
    rcases Part.routeFile route with impossible | impossible | impossible <;> contradiction
  have present : (state.disk.look (Part.path (.pool request.runtime) request.domain
      request.requestId.text .live)).isSome = true := Option.isSome_iff_exists.mpr ⟨_, held⟩
  have planned := planned_aside injective present unseen (.pool request.runtime)
  refine (safe_transition_call sound agrees injective planned).attempt (fun _ _ outcome => outcome) ?_
  intro _ later outcome
  apply holding_ask
  intro now _
  exact ⟨trivial, outcome⟩

/-! ## Managed files -/

/-- The files `apply_managed_file` touches. -/
inductive ManagedPart where
  | live
  | staged
  | stagedTemp
  | wrapper
  | wrapperTemp
  | rollback
deriving DecidableEq

def ManagedPart.path (id : RequestId) (live : FilePath) : ManagedPart → FilePath
  | .live => live
  | .staged => (ManagedPaths.new id live).staged
  | .stagedTemp => tempSiblingPath (ManagedPaths.new id live).staged
  | .wrapper => (ManagedPaths.new id live).wrapper
  | .wrapperTemp => tempSiblingPath (ManagedPaths.new id live).wrapper
  | .rollback => (ManagedPaths.new id live).rollback

theorem ManagedFile.dir_path (file : ManagedFile) : file.path.dir = .bans := by
  cases file <;> rfl

theorem ManagedPart.path_injective {id : RequestId} {file : ManagedFile} :
    Injective (ManagedPart.path id file.path) := by
  have bans := file.dir_path
  generalize file.path = live at bans ⊢
  obtain ⟨dir, name⟩ := live
  subst bans
  intro first second same
  cases first <;> cases second <;>
    simp [ManagedPart.path, ManagedPaths.new, asideOf, sibling, rollbackSibling, tempSiblingPath]
      at same ⊢

theorem ManagedPart.routeFile {live : FilePath} {part : ManagedPart}
    (route : IsRouteFile (ManagedPart.path id live part)) : part = .live := by
  have temp : ∀ path : FilePath, ¬ IsRouteFile (tempSiblingPath path) :=
    fun path => not_routeFile_tmp (List.suffix_append path.name _)
  cases part with
  | live => rfl
  | staged | stagedTemp | wrapperTemp => exact absurd route (temp _)
  | wrapper => exact absurd route (not_routeFile_tmp (List.suffix_append _ _))
  | rollback =>
    have ends : id.text <:+ (asideOf id live).name :=
      (List.suffix_append _ id.text).trans (List.suffix_append live.name _)
    exact absurd route (not_routeFile_id ends)

theorem ManagedFile.isRouteFile (file : ManagedFile) : IsRouteFile file.path := by
  refine .inl ⟨.ingress, ?_⟩
  cases file with
  | bans => rfl
  | adminPaths domain => exact Text.endsWith_iff.mpr (List.suffix_append _ _)

section Managed

variable {id : RequestId} {file : ManagedFile} {state : HostState} {after : Routes}
  {shape : Shape ManagedPart} {content : Text} {current : Option Text}

/-- Nothing but what no server imports differs from the beginning. -/
structure Preparing (id : RequestId) (file : ManagedFile) (before after : Routes)
    (shape : Shape ManagedPart) : Prop where
  group : FileGroup (ManagedPart.path id file.path) before after shape
  live : shape .live = before.look file.path

theorem Preparing.sameRoutes (preparing : Preparing id file state.disk after shape) :
    SameRoutes state.disk.look after.look := by
  apply FileGroup.sameRoutes preparing.group
  · intro part route
    rw [ManagedPart.routeFile route]
    exact preparing.live
  · exact fun _ _ => rfl

theorem CallPost.congr {ε α : Type} {rejects : ε → Bool}
    {current : Servers} {answer : Except ε α} {after : Routes}
    (outcome : CallPost rejects service goal before servers answer ⟨after, current⟩)
    (same : SameRoutes after.look later.look) :
    CallPost rejects service goal before servers answer ⟨later, current⟩ := by
  cases answer with
  | ok result =>
    obtain ⟨routes, world⟩ := outcome
    refine ⟨fun path route => (same path route).trans (routes path route), ?_⟩
    have loaded : current = servers.reloaded service after.look := world
    rw [loaded, Servers.reloaded, Servers.reloaded, Service.sees_congr same.imported]
  | error error =>
    intro rejected
    obtain ⟨routes, world⟩ := outcome rejected
    exact ⟨fun path route => (same path route).trans (routes path route), world⟩

theorem Dropped.sameRoutes [DecidableEq Index]
    {before after : Routes} {shape picture : Shape Index} {part : Index}
    (group : FileGroup paths before after shape) (grouped : FileGroup paths before later picture)
    (dropped : Dropped admits part shape picture) (unseen : ¬ IsRouteFile (paths part)) :
    SameRoutes after.look later.look := by
  apply FileGroup.sameRoutes grouped
  · intro index route
    rw [group.inside index]
    apply dropped.other
    intro same
    rw [same] at route
    exact unseen route
  · exact fun path elsewhere => (group.elsewhere path elsewhere).symm

theorem safe_discardManaged
    (group : FileGroup (ManagedPart.path id file.path) state.disk after shape)
    (outcome : CallPost ActivateError.rejects .ingress goal state.disk.look state.world answer
      ⟨after, servers⟩) :
    Owes ActivateError.rejects .ingress goal state
      (discardManaged (ManagedPaths.new id file.path) >>= fun _ => pure answer)
      ⟨after, servers⟩ := by
  have injective := @ManagedPart.path_injective id file
  have unseen : ∀ part, part ≠ .live → ¬ IsRouteFile (ManagedPart.path id file.path part) :=
    fun part apart route => apart (ManagedPart.routeFile route)
  unfold discardManaged
  rw [Program.bind_assoc]
  apply Safe.bind
  apply holding_discard group injective .staged trivial
  intro middle first grouped dropped
  refine ⟨trivial, ?_⟩
  have same := dropped.sameRoutes group grouped (unseen .staged (by simp))
  apply Safe.bind
  apply holding_discard grouped injective .wrapper trivial
  intro later second regrouped again
  refine ⟨trivial, ?_⟩
  have further := again.sameRoutes grouped regrouped (unseen .wrapper (by simp))
  exact (outcome.congr same).congr further

def swapMoves (current : Option Text) : List (ManagedPart × ManagedPart) :=
  (if current.isSome then [(.live, .rollback)] else []) ++ [(.staged, .live)]

def swapCleanup (current : Option Text) : List ManagedPart :=
  if current.isSome then [.rollback] else []

theorem swap_planned (old : before file.path = current.map some)
    (live : shape .live = before file.path) (staged : shape .staged = some (some content)) :
    Planned (ManagedPart.path id file.path) before shape (swapMoves current) (swapCleanup current)
      (some .ingress) .ingress (View.set file.path (some content) before) := by
  refine ⟨?_, ?_, ?_, ?_, .inl rfl⟩
  · intro part member route
    rw [ManagedPart.routeFile route] at member
    cases current <;> simp [swapCleanup] at member
  · intro part route
    rw [ManagedPart.routeFile route]
    have goal : View.set file.path (some content) before (ManagedPart.path id file.path .live) =
        some (some content) := update_self _ _ _
    cases current <;> simp_all [swapMoves, Shape.shift]
  · intro part route
    rw [ManagedPart.routeFile route]
    have here : before (ManagedPart.path id file.path .live) = current.map some := old
    cases current <;> simp_all [swapMoves, back, Shape.shift]
  · intro path elsewhere
    exact (update_of_ne (elsewhere .live) _ _).symm

theorem safe_swapManaged (agrees : Agrees .ingress state)
    (preparing : Preparing id file state.disk after shape)
    (old : state.disk.look file.path = current.map some)
    (staged : shape .staged = some (some content)) :
    Owes ActivateError.rejects .ingress (View.set file.path (some content) state.disk.look) state
      (swapManaged (ManagedPaths.new id file.path) current) ⟨after, state.world⟩ := by
  have planned : Planned (ManagedPart.path id file.path) state.disk.look shape _ _ _ _ _ :=
    swap_planned old preparing.live staged
  have moves : (if current.isSome then [⟨(ManagedPaths.new id file.path).live,
      (ManagedPaths.new id file.path).rollback⟩] else []) ++
        [⟨(ManagedPaths.new id file.path).staged, (ManagedPaths.new id file.path).live⟩] =
      (swapMoves current).map (renameOf (ManagedPart.path id file.path)) := by
    cases current <;> rfl
  have cleanup : (if current.isSome then [(ManagedPaths.new id file.path).rollback] else []) =
      (swapCleanup current).map (ManagedPart.path id file.path) := by
    cases current <;> rfl
  unfold swapManaged
  rw [moves, cleanup]
  refine Safe.seq (safe_transition ManagedPart.path_injective (fun _ _ _ _ _ => trivial)
    preparing.group (some .ingress)) ?_
  intro answer later post
  obtain ⟨final, group, _⟩ := post.1
  exact safe_discardManaged group (planned.callPost (fun _ _ => rfl) agrees post)

theorem Preparing.safe_abandon (preparing : Preparing id file state.disk after shape)
    (error : ActivateError) :
    Owes ActivateError.rejects .ingress goal state
      (discardManaged (ManagedPaths.new id file.path) >>= fun _ =>
        pure (.error error : Except ActivateError Unit)) ⟨after, state.world⟩ :=
  safe_discardManaged preparing.group fun _ => ⟨preparing.sameRoutes, rfl⟩

theorem safe_validateManaged (agrees : Agrees .ingress state)
    (preparing : Preparing id file state.disk after shape)
    (old : state.disk.look file.path = current.map some)
    (staged : shape .staged = some (some content)) (stagedPath : Text) :
    Owes ActivateError.rejects .ingress (View.set file.path (some content) state.disk.look) state
      (validateManaged (ManagedPaths.new id file.path) current stagedPath) ⟨after, state.world⟩ := by
  have injective := @ManagedPart.path_injective id file
  apply Safe.bind
  apply holding_present preparing.group.plain trivial
  · intro _
    apply preparing.group.holding_replace injective .wrapperTemp .wrapper (by simp)
    · exact fun _ _ _ => trivial
    · exact fun _ _ => trivial
    · intro error later spill grouped _
      have still : Preparing id file state.disk later _ := ⟨grouped, preparing.live⟩
      exact still.safe_abandon _
    intro later grouped
    have wrapped : Preparing id file state.disk later _ := ⟨grouped, preparing.live⟩
    apply Safe.bind
    apply holding_present grouped.plain trivial
    · intro _
      apply holding_ask
      intro answer _
      refine ⟨trivial, ?_⟩
      apply Safe.bind
      apply holding_discard grouped injective .wrapper trivial
      intro last picture regrouped dropped
      refine ⟨trivial, ?_⟩
      have unwrapped : Preparing id file state.disk last picture :=
        ⟨regrouped, (dropped.other (by simp)).trans preparing.live⟩
      cases answer with
      | true => exact safe_swapManaged agrees unwrapped old ((dropped.other (by simp)).trans staged)
      | false => exact unwrapped.safe_abandon _
    · intro _
      exact wrapped.safe_abandon _
  · intro _
    exact preparing.safe_abandon _

theorem applyManagedFile_faithful (root : Text) (id : RequestId) (file : ManagedFile)
    (content : Option Text) :
    Faithful ActivateError.rejects .ingress (View.set file.path content)
      (applyManagedFile root id file content) := by
  apply faithful_of_safe
  intro state sound agrees
  obtain ⟨current, held⟩ := sound.content file.isRouteFile
  have injective := @ManagedPart.path_injective id file
  have group : FileGroup (ManagedPart.path id file.path) state.disk state.disk _ :=
    FileGroup.start sound.plain
  apply Safe.bind
  refine holding_op rfl trivial nofun fun _ => ⟨trivial, ?_⟩
  apply Safe.bind
  refine holding_op rfl trivial nofun fun _ => ⟨trivial, ?_⟩
  apply Safe.bind
  refine holding_readOptional group .live held trivial nofun ?_
  dsimp only
  by_cases unchanged : current = content
  · rw [if_pos unchanged]
    apply holding_ask
    intro answer _
    refine ⟨trivial, ?_⟩
    cases answer with
    | true =>
      refine ⟨fun path _ => ?_, rfl⟩
      have same : View.set file.path content state.disk.look = state.disk.look := by
        rw [View.set, update_eq_self_iff, held, unchanged]
      rw [same]
    | false =>
      nofun
  · rw [if_neg unchanged]
    cases content with
    | none =>
      have present : (state.disk.look (ManagedPart.path id file.path .live)).isSome = true := by
        cases current with
        | none => contradiction
        | some text => exact Option.isSome_iff_exists.mpr ⟨_, held⟩
      have unseen : ¬ IsRouteFile (ManagedPart.path id file.path .rollback) := by
        intro route
        have impossible := ManagedPart.routeFile route
        contradiction
      have planned := planned_aside injective present unseen .ingress
      apply (safe_transition_call sound agrees injective planned).seq
      intro answer later outcome
      cases answer <;> exact outcome
    | some text =>
      apply group.holding_replace injective .stagedTemp .staged (by simp)
      · exact fun _ _ _ => trivial
      · exact fun _ _ => trivial
      · nofun
      intro later grouped
      have preparing : Preparing id file state.disk later _ := ⟨grouped, rfl⟩
      apply (safe_validateManaged agrees preparing held rfl _).seq
      intro answer last outcome
      cases answer <;> exact outcome

end Managed

end Requests

/-! ## The live route, and a second attempt -/

section Attempts

variable {domain : Domain} {content : Text} {guard : HashGuard} {id : RequestId}
  {state : HostState} {current : Option Text}

theorem Activating.sound {allowed : Prop} {picture : Picture}
    (sound : Sound state.disk) (group : FileGroup (routeParts domain id) state.disk later picture)
    (activating : Activating allowed content (shapeOf (routeParts domain id) state.disk.look)
      picture) : Sound later := by
  refine ⟨group.plain, FileGroup.look_of (fun path held => IsRouteFile path → held ≠ some none) group
    ?_ fun path _ => sound.whole path⟩
  intro part route
  rcases Part.live_or_untouched route with rfl | untouched
  · rcases activating.route with same | ⟨_, replaced⟩
    · rw [same]
      exact sound.whole _ route
    · rw [replaced]
      simp
  · rw [activating.others part untouched]
    exact sound.whole _ route

variable [Sha256]

/-- A previous route stays in place or is replaced; it is never absent. -/
theorem activateLive_present (sound : Sound state.disk)
    (present : (state.disk.look (routePath domain)).isSome = true) (choices : List RouteChoice) :
    ((host.advance () choices (activateLive domain content guard id.text) state).2.disk.look
      (routePath domain)).isSome = true := by
  obtain ⟨current, held⟩ := sound.content (isRouteFile_live domain)
  have tolerates : Tolerates (fun later => (later.disk.look (routePath domain)).isSome = true)
      .routes domain id.text (guard.isSatisfiedBy current = true) content state.disk
      (shapeOf (routeParts domain id) state.disk.look) := by
    intro later picture servers grouped activating
    have looks : later.look (routePath domain) = picture .live := grouped.inside .live
    rw [looks]
    rcases activating.route with same | ⟨_, replaced⟩
    · rw [same]
      exact present
    · rw [replaced]
      rfl
  have safe : SafeOn serve anything
      (fun later => (later.disk.look (routePath domain)).isSome = true) () _
      (activateLive domain content guard id.text) ⟨state.disk, state.world⟩ :=
    safe_activateLive sound held tolerates
  exact (safe.follows present (host.follows_of_forall () (fun _ _ _ => trivial) choices _ _)).1

/-- No step of the run fails. -/
def Undisturbed (choices : Nat → RouteChoice) : Prop :=
  ∀ index, (choices index).fault = false ∧ Consenting (choices index).answer

theorem activateLive_sound (sound : Sound state.disk) (choices : Nat → RouteChoice) :
    Sound (host.solo () choices (activateLive domain content guard id.text) state).2.disk := by
  obtain ⟨current, held⟩ := sound.content (isRouteFile_live domain)
  have safe : SafeOn serve anything (fun _ => True) () _
      (activateLive domain content guard id.text) ⟨state.disk, state.world⟩ :=
    safe_activateLive sound held fun _ _ _ _ _ => trivial
  have left : SafeOn serve anything (fun _ => True) () (fun _ later => Sound later.disk)
      (activateLive domain content guard id.text) ⟨state.disk, state.world⟩ := by
    apply safe.mono
    intro answer later outcome
    cases answer with
    | ok _ =>
      obtain ⟨_, picture, grouped, activated⟩ := outcome
      exact activated.toActivating.sound sound grouped
    | error _ =>
      obtain ⟨_, picture, grouped, activating, _⟩ := outcome
      exact activating.sound sound grouped
  exact left.solo fun _ _ _ => trivial

/-- An activation in which no step fails and the guard holds is carried out and
served, also where the file had the content already. -/
theorem activateLive_undisturbed (sound : Sound state.disk) {choices : Nat → RouteChoice}
    (undisturbed : Undisturbed choices)
    (guarded : ∀ current : Option Text, state.disk.look (routePath domain) = current.map some →
      guard.isSatisfiedBy current = true) :
    ∃ activation, (host.solo () choices (activateLive domain content guard id.text) state).1 =
        .ok activation ∧
      (host.solo () choices (activateLive domain content guard id.text) state).2.world .ingress
        (routePath domain) = some (some content) := by
  obtain ⟨current, held⟩ := sound.content (isRouteFile_live domain)
  let quiet : Admits := fun choice _ _ => choice.fault = false ∧ Consenting choice.answer
  have smooth : Smooth quiet :=
    ⟨fun _ choice _ admitted => admitted.1, fun choice _ _ admitted => admitted.2⟩
  have safe : SafeOn serve quiet (fun _ => True) () _
      (activateLive domain content guard id.text) ⟨state.disk, state.world⟩ :=
    safe_activateLive sound held fun _ _ _ _ _ => trivial
  have done : SafeOn serve quiet (fun _ => True) ()
      (fun answer later => ∃ activation, answer = .ok activation ∧
        later.world .ingress (routePath domain) = some (some content))
      (activateLive domain content guard id.text) ⟨state.disk, state.world⟩ := by
    apply safe.mono
    intro answer later outcome
    cases answer with
    | error _ =>
      obtain ⟨_, _, _, _, _, objected⟩ := outcome
      exact absurd (guarded current held) (objected smooth)
    | ok result =>
    obtain ⟨⟨view, world, loaded⟩, picture, grouped, activated⟩ := outcome
    refine ⟨result, rfl, ?_⟩
    have stored : later.disk.look (routePath domain) = some (some content) :=
      (grouped.inside .live).trans activated.stored
    have imported : Service.ingress.imports (routePath domain) = true :=
      Text.endsWith_iff.mpr (List.suffix_append domain.text _)
    have apart : Part.path .routes domain id.text .live ≠ Part.path .routes domain id.text .kept :=
      Part.path_injective.ne (by simp)
    have seen : view (routePath domain) = later.disk.look (routePath domain) := loaded _ apart
    rw [world, Servers.reloaded, update_self, Service.sees, if_pos imported, seen]
    exact stored
  exact done.solo fun index _ _ => undisturbed index

end Attempts

/-- A change of routes that is carried out is on disk and in the server; one that
is rejected leaves both as they were; the live route is never absent while it is
replaced; and a second attempt that nothing disturbs serves the content. -/
theorem rejected_change_undone [Sha256] :
    (∀ (domain : Domain) (content : Text) (guard : HashGuard) (id : RequestId),
      Faithful ActivateError.rejects .ingress (View.set (routePath domain) (some content))
        (activateLive domain content guard id.text)) ∧
    (∀ (runtime : RuntimeId) (domain : Domain) (content : Text) (guard : HashGuard) (id : RequestId),
      Faithful ActivateError.rejects (.pool runtime)
        (View.set (fragmentPath runtime domain) (some content))
        (activateFragment runtime domain content guard id.text)) ∧
    (∀ request : SetEnabledRequest, Faithful OperationError.rejects .ingress
      (View.moved request.rename.source request.rename.target) (setEnabledBody request)) ∧
    (∀ request : RemoveRouteRequest, Faithful OperationError.rejects .ingress
      (View.without request.domain) (removeBody request)) ∧
    (∀ request : RemoveConfigRequest, Faithful OperationError.rejects (.pool request.runtime)
      (View.set (fragmentPath request.runtime request.domain) none) (removeFragmentBody request)) ∧
    (∀ (root : Text) (id : RequestId) (file : ManagedFile) (content : Option Text),
      Faithful ActivateError.rejects .ingress (View.set file.path content)
        (applyManagedFile root id file content)) ∧
    (∀ (domain : Domain) (content : Text) (guard : HashGuard) (id : RequestId) (state : HostState)
      (choices : List RouteChoice), Sound state.disk →
      (state.disk.look (routePath domain)).isSome = true →
      ((host.advance () choices (activateLive domain content guard id.text) state).2.disk.look
        (routePath domain)).isSome = true) ∧
    (∀ (domain : Domain) (content : Text) (guard again : HashGuard) (id next : RequestId)
      (state failed : HostState) (choices retry : Nat → RouteChoice) (error : ActivateError),
      Sound state.disk → Agrees .ingress state →
      host.solo () choices (activateLive domain content guard id.text) state =
        (.error error, failed) → Undisturbed retry →
      (∀ current : Option Text, failed.disk.look (routePath domain) = current.map some →
        again.isSatisfiedBy current = true) → ∃ activation,
        (host.solo () retry (activateLive domain content again next.text) failed).1 =
          .ok activation ∧
        (host.solo () retry (activateLive domain content again next.text) failed).2.world .ingress
          (routePath domain) = some (some content)) := by
  refine ⟨activateLive_faithful, activateFragment_faithful, setEnabled_faithful, remove_faithful,
    removeFragment_faithful, applyManagedFile_faithful, ?_, ?_⟩
  · intro domain content guard id state choices sound present
    exact activateLive_present sound present choices
  intro domain content guard again id next state failed choices retry error sound _ ended
    undisturbed guarded
  have left : Sound failed.disk := by
    have after : Sound (host.solo () choices (activateLive domain content guard id.text)
        state).2.disk := activateLive_sound sound choices
    rw [ended] at after
    exact after
  exact activateLive_undisturbed left undisturbed guarded

/-! The same on a host with one route. -/

def shop : Domain := ⟨"shop.test".toList, shopTest_valid⟩

def shopRequest : RequestId := .numbered 1

def shopRoutes : Routes := Disk.put Disk.empty (routePath shop) (.file 0 (some "old".toList))

def shopHost : HostState := ⟨shopRoutes, fun service => service.sees shopRoutes.look⟩

def consent : (query : Query) → Answer query
  | .validate _ _ => true
  | .reload _ => true
  | .now => (0 : Nat)

def quietly : Nat → RouteChoice := fun _ => { fault := false, order := [], answer := consent }

def objection : (query : Query) → Answer query
  | .reload _ => false
  | query => consent query

/-- The reload after the swap, the fourteenth step, is rejected and no later one. -/
def rejecting : Nat → RouteChoice := fun index =>
  { fault := false, order := [], answer := if index = 13 then objection else consent }

theorem shopRoutes_look : shopRoutes.look =
    update (Disk.look (Disk.empty : Routes)) (routePath shop) (some (some "old".toList)) :=
  Disk.look_put_file _ _ _ _

theorem sound_shopRoutes : Sound shopRoutes := by
  have empty : (Disk.empty : Routes).Plain := by
    intro path node found
    simp [Disk.node, Disk.empty] at found
  refine ⟨empty.put _ _ _, fun path _ => ?_⟩
  rw [shopRoutes_look]
  by_cases same : path = routePath shop
  · rw [same, update_self]
    simp
  · rw [update_of_ne same]
    simp [Disk.look, Disk.node, Disk.empty]

theorem undisturbed_quietly : Undisturbed quietly :=
  fun _ => ⟨rfl, ⟨fun _ _ => rfl, fun _ => rfl⟩⟩

def shopGuard : HashGuard := .sha256 ⟨"old".toList⟩

/-- The first attempt at a new route, and what is left of it. -/
abbrev shopAttempt : Action (Except ActivateError Activation) :=
  @activateLive .verbatim shop "new".toList shopGuard shopRequest.text

abbrev shopLeft : HostState := (host.solo () rejecting shopAttempt shopHost).2

theorem shop_rejected :
    host.solo () rejecting shopAttempt shopHost = (.error .reloadFailedAndRestored, shopLeft) := rfl

theorem shopLeft_look : shopLeft.disk.look (routePath shop) = some (some "old".toList) := rfl

/-- A new route that the server rejects is taken back, and a second attempt serves it. -/
theorem rejected_change_undone_shop :
    (SameRoutes shopHost.disk.look shopLeft.disk.look ∧ shopLeft.world = shopHost.world) ∧
    ((host.advance () [rejecting 0, rejecting 1] shopAttempt shopHost).2.disk.look
        (routePath shop)).isSome = true ∧ ∃ activation,
      (host.solo () quietly shopAttempt shopLeft).1 = .ok activation ∧
      (host.solo () quietly shopAttempt shopLeft).2.world .ingress (routePath shop) =
        some (some "new".toList) := by
  obtain ⟨activates, _, _, _, _, _, present, retries⟩ := @rejected_change_undone .verbatim
  have undone := activates shop "new".toList shopGuard shopRequest shopHost rejecting
    sound_shopRoutes rfl
  rw [shop_rejected] at undone
  have guarded : ∀ current : Option Text, shopLeft.disk.look (routePath shop) = current.map some →
      @HashGuard.isSatisfiedBy .verbatim shopGuard current = true := by
    intro current found
    rw [shopLeft_look] at found
    cases current with
    | none => contradiction
    | some text =>
      obtain rfl := Option.some.inj (Option.some.inj found)
      rfl
  exact ⟨undone rfl, present shop "new".toList shopGuard shopRequest shopHost _ sound_shopRoutes rfl,
    retries shop "new".toList shopGuard shopGuard shopRequest shopRequest shopHost shopLeft rejecting
      quietly _ sound_shopRoutes rfl shop_rejected undisturbed_quietly guarded⟩

end OpsEngine.Ingress
