import OpsEngine.Ingress.Operations

namespace OpsEngine.Ingress

open Files

/-! # Which names are whose

A file that is set aside or half written ends in `.tmp` or in the hex digits of a
request id, a route in one of four fixed endings.
-/

/-- A file some server imports, or that a later operation turns into one. -/
def IsRouteFile (path : FilePath) : Prop :=
  (∃ service : Service, service.imports path = true) ∨
    ∃ domain, path = disabledRoutePath domain ∨ path = backupRoutePath domain

def endings : List Text := ["file".toList, "y".toList, "led".toList, "kup".toList]

variable {path : FilePath}

theorem IsRouteFile.ends (route : IsRouteFile path) :
    ∃ ending ∈ endings, ending <:+ path.name := by
  have of : ∀ {whole : Text} (ending : Text), ending <:+ whole → whole <:+ path.name →
      ending ∈ endings → ∃ ending ∈ endings, ending <:+ path.name :=
    fun ending short whole member => ⟨ending, member, short.trans whole⟩
  rcases route with ⟨service, imported⟩ | ⟨domain, disabled | backup⟩
  · obtain ⟨dir, name⟩ := path
    have caddyfile : Text.endsWith name ".caddyfile".toList = true →
        ∃ ending ∈ endings, ending <:+ name :=
      fun ends => of "file".toList (by decide) (Text.endsWith_iff.mp ends) (by decide)
    cases service with
    | ingress =>
      cases dir with
      | routes => exact caddyfile imported
      | bans => exact of "y".toList (by decide) (Text.endsWith_iff.mp imported) (by decide)
      | pool runtime => contradiction
    | pool runtime =>
      cases dir with
      | routes => contradiction
      | bans => contradiction
      | pool other =>
        simp only [Service.imports, Bool.and_eq_true] at imported
        exact caddyfile imported.2
  · subst disabled
    exact of "led".toList (by decide) (List.suffix_append domain.text _) (by decide)
  · subst backup
    exact of "kup".toList (by decide) (List.suffix_append domain.text _) (by decide)

theorem not_routeFile_of_suffix {tail : Text} (ends : tail <:+ path.name)
    (long : 4 ≤ tail.length) (apart : ∀ ending ∈ endings, ¬ ending <:+ tail) :
    ¬ IsRouteFile path := by
  intro route
  obtain ⟨ending, member, suffix⟩ := route.ends
  have short : ∀ other ∈ endings, other.length ≤ 4 := by decide
  exact apart ending member
    (List.suffix_of_suffix_length_le suffix ends ((short ending member).trans long))

theorem not_routeFile_tmp (temp : ".tmp".toList <:+ path.name) :
    ¬ IsRouteFile path :=
  not_routeFile_of_suffix temp (by decide) (by decide)

theorem isLowerHexDigit_hexDigit : ∀ digit < 16, isLowerHexDigit (hexDigit digit) = true := by decide

theorem isLowerHexDigit_of_mem {count value : Nat} {c : Char} (member : c ∈ hexDigits count value) :
    isLowerHexDigit c = true := by
  induction count generalizing value with
  | zero => simp [hexDigits] at member
  | succ count ih =>
    simp only [hexDigits, List.mem_append, List.mem_singleton] at member
    rcases member with front | last
    · exact ih front
    · rw [last]
      exact isLowerHexDigit_hexDigit _ (Nat.mod_lt _ (by decide))

theorem hexDigits_length (count value : Nat) : (hexDigits count value).length = count := by
  induction count generalizing value with
  | zero => rfl
  | succ count ih => simp [hexDigits, ih]

theorem RequestId.text_ends (id : RequestId) :
    (hexDigits 32 id.uuid.toNat).drop 20 <:+ id.text := by
  iterate 4
    apply List.IsSuffix.trans _ (List.suffix_append _ _)
    apply List.IsSuffix.trans _ (List.suffix_cons _ _)
  exact List.suffix_rfl

theorem not_hex_ending : ∀ ending ∈ endings, ¬ ending.all isLowerHexDigit = true := by decide +kernel

theorem not_routeFile_id {id : RequestId} (ends : id.text <:+ path.name) :
    ¬ IsRouteFile path := by
  have tail := (RequestId.text_ends id).trans ends
  have digits : ∀ c ∈ (hexDigits 32 id.uuid.toNat).drop 20, isLowerHexDigit c = true :=
    fun c member => isLowerHexDigit_of_mem (List.drop_subset _ _ member)
  apply not_routeFile_of_suffix tail
  · simp [hexDigits_length]
  · intro ending member suffix
    have hex : ending.all isLowerHexDigit = true :=
      List.all_eq_true.mpr fun c inside => digits c (suffix.subset inside)
    exact (not_hex_ending ending member) hex

end OpsEngine.Ingress
