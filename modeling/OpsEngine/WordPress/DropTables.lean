import OpsEngine.Data.Words

namespace OpsEngine.DropTables

open Text (unlines)

/-! # Dropping orphaned tables

A table is dropped only if fresh listings show it as existing and not registered.  Which
tables of a multisite are registered is asked of the network, and whether the site is
one is read from its configuration: a read that fails counts as `no`.
-/

def maxTables : Nat := 200

def maxTableName : Nat := 64

def isNameChar (c : Char) : Bool := c.isAlphanum || c == '_' || c == '$'

def validTableName (name : Text) : Bool :=
  !name.isEmpty && decide (name.length ≤ maxTableName) && name.all isNameChar

structure Request where
  tables : List Text
  filled : tables ≠ []
  bounded : tables.length ≤ maxTables
  distinct : tables.Nodup
  valid : ∀ name ∈ tables, validTableName name = true

/-- The constant `MULTISITE`: a boolean, or some other value of PHP that is true or not
and whose JSON is not `true`. -/
inductive Constant where
  | bool (value : Bool)
  | other (printed : Text) (truthy : Bool) (untrue : Text.trim printed ≠ "true".toList)

def Constant.printed : Constant → Text
  | .bool true => "true".toList
  | .bool false => "false".toList
  | .other printed _ _ => printed

def Constant.truthy : Constant → Bool
  | .bool value => value
  | .other _ truthy _ => truthy

structure Site where
  constant : Option Constant
  /-- WordPress does not run with any other table prefix. -/
  tablePrefix : { text : Text // text.all (fun c => c.isAlphanum || c == '_') = true }
  /-- the tables that have the prefix -/
  tables : List Text
  /-- the tables WordPress registers, for the site or for the network -/
  registered : Bool → List Text

def Site.multisite (site : Site) : Bool :=
  match site.constant with
  | none => false
  | some constant => constant.truthy

inductive Command where
  | multisite
  | tablePrefix
  | tables
  | registered (network : Bool)
  | drop (name : Text)

inductive Error where
  | cancelled
  | rejected
  | unexpectedListing (message : Text)
deriving DecidableEq

/-- Which commands succeed, and before which table the request is cancelled. -/
structure Weather where
  works : Command → Bool
  cancelled : Text → Bool

/-- What a command that works prints.  An undefined constant makes `wp config get` fail. -/
def Site.prints (site : Site) : Command → Except Error Text
  | .multisite =>
    match site.constant with
    | none => .error .rejected
    | some constant => .ok constant.printed
  | .tablePrefix => .ok site.tablePrefix
  | .tables => .ok (unlines site.tables)
  | .registered network => .ok (unlines (site.registered network))
  | .drop _ => .ok []

def run (site : Site) (weather : Weather) (command : Command) : Except Error Text :=
  if weather.works command then site.prints command else .error .rejected

def breaks (c : Char) : Bool := Text.isWhitespace c || c == ','

def names (printed : Text) : List Text := (printed.splitOnP breaks).filter validTableName

inductive Reason where
  | wrongPrefix
  | registered
  | notFound
  | dropFailed
deriving DecidableEq

structure Listings where
  tablePrefix : Text
  all : List Text
  registered : List Text

def decideTable (listings : Listings) (name : Text) : Option Reason :=
  if !listings.tablePrefix.isPrefixOf name then some .wrongPrefix
  else if listings.registered.contains name then some .registered
  else if !listings.all.contains name then some .notFound
  else none

/-- Whether `MULTISITE` is read as the boolean `true`. -/
def readsMultisite (site : Site) (weather : Weather) : Bool :=
  match run site weather .multisite with
  | .ok printed => Text.trim printed == "true".toList
  | .error _ => false

/-- The listings when every command works. -/
def fresh (site : Site) (network : Bool) : Listings :=
  ⟨site.tablePrefix, names (unlines site.tables), names (unlines (site.registered network))⟩

def readListings (site : Site) (weather : Weather) : Except Error Listings := do
  let multisite := readsMultisite site weather
  let tablePrefix := Text.trim (← run site weather .tablePrefix)
  if !validTableName tablePrefix then
    throw (.unexpectedListing "could not determine the table prefix".toList)
  let all := names (← run site weather .tables)
  let registered := names (← run site weather (.registered multisite))
  if !registered.contains (tablePrefix ++ "options".toList) then
    throw (.unexpectedListing "registered table listing is incomplete".toList)
  return ⟨tablePrefix, all, registered⟩

/-- `none` for a table that was dropped. -/
structure TableResult where
  name : Text
  refused : Option Reason
deriving DecidableEq

/-- The results, and the tables for which a `DROP TABLE` is issued. -/
def dropEach (weather : Weather) (listings : Listings) :
    List Text → Except Error (List TableResult) × List Text
  | [] => (.ok [], [])
  | name :: rest =>
    if weather.cancelled name then (.error .cancelled, [])
    else
      let later := dropEach weather listings rest
      match decideTable listings name with
      | some reason => (later.1.map (⟨name, some reason⟩ :: ·), later.2)
      | none =>
        let refused := if weather.works (.drop name) then none else some .dropFailed
        (later.1.map (⟨name, refused⟩ :: ·), name :: later.2)

def dropTables (site : Site) (weather : Weather) (request : Request) :
    Except Error (List TableResult) × List Text :=
  match readListings site weather with
  | .error error => (.error error, [])
  | .ok listings => dropEach weather listings request.tables

/-! ## Listings -/

variable {name : Text} {tables : List Text}

theorem unbroken_of_valid (valid : validTableName name = true) :
    name ≠ [] ∧ ∀ c ∈ name, breaks c = false := by
  simp only [validTableName, Bool.and_eq_true, List.all_eq_true, Bool.not_eq_true',
    List.isEmpty_eq_false_iff] at valid
  refine ⟨valid.1.1, fun c member => ?_⟩
  have named := valid.2 c member
  simp only [isNameChar, Bool.or_eq_true, beq_iff_eq] at named
  rcases named with (letter | rfl) | rfl
  · have solid := Text.isWhitespace_of_alphanum (.inl letter)
    have apart : c ≠ ',' := by
      rintro rfl
      exact absurd letter (by decide)
    simp [breaks, solid, apart]
  · decide
  · decide

/-- The name stands in a listing: alone, or between blanks and commas of a longer one. -/
def Shown (name : Text) (listed : List Text) : Prop :=
  validTableName name = true ∧ ∃ entry ∈ listed, name ∈ entry.splitOnP breaks

theorem mem_names_iff {listed : List Text} : name ∈ names (unlines listed) ↔ Shown name listed := by
  have line : breaks '\n' = true := by decide
  induction listed with
  | nil =>
    have empty : names (unlines []) = [] := by decide
    rw [empty]
    simp [Shown]
  | cons first others ih =>
    have rest : name ∈ ((unlines others).splitOnP breaks).filter validTableName ↔
      Shown name others := ih
    rw [Text.unlines_cons, names, List.splitOnP_append_cons _ _ line, List.filter_append,
      List.mem_append, rest]
    simp only [Shown, List.mem_filter, List.mem_cons, exists_eq_or_imp]
    tauto

theorem shown_of_mem (valid : validTableName name = true) {listed : List Text}
    (member : name ∈ listed) : Shown name listed := by
  refine ⟨valid, name, member, ?_⟩
  rw [List.splitOnP_eq_singleton (unbroken_of_valid valid).2]
  exact List.mem_singleton_self name

theorem trim_tablePrefix (site : Site) : Text.trim site.tablePrefix = site.tablePrefix := by
  obtain ⟨text, plain⟩ := site.tablePrefix
  have solid : ∀ c ∈ text, ¬Text.isWhitespace c = true := by
    intro c member
    have named := List.all_eq_true.mp plain c member
    simp only [Bool.or_eq_true, beq_iff_eq] at named
    simp [Text.isWhitespace_of_alphanum named]
  have start : Text.trimStart text = text := List.dropWhile_eq_self_iff.mpr fun filled =>
    solid _ (List.getElem_mem filled)
  change Text.trimEnd (Text.trimStart text) = text
  rw [start]
  exact List.rdropWhile_eq_self_iff.mpr fun filled => solid _ (List.getLast_mem filled)

section Reading

variable (site : Site) (weather : Weather)

/-- The network is asked: `MULTISITE` is the boolean `true`, and it can be read. -/
def Site.asksNetwork : Prop :=
  site.constant = some (.bool true) ∧ weather.works .multisite = true

theorem readsMultisite_iff : readsMultisite site weather = true ↔ site.asksNetwork weather := by
  cases works : weather.works .multisite with
  | false => simp [readsMultisite, run, works, Site.asksNetwork]
  | true =>
  cases found : site.constant with
  | none => simp [readsMultisite, run, works, Site.prints, found, Site.asksNetwork]
  | some constant =>
  simp only [readsMultisite, run, works, Site.prints, found, Site.asksNetwork, if_true, beq_iff_eq,
    Option.some.injEq, and_true]
  cases constant with
  | bool value =>
    cases value with
    | false => exact iff_of_false (by decide) nofun
    | true => exact iff_of_true (by decide) rfl
  | other printed truthy untrue => exact iff_of_false untrue nofun

variable {site weather} in
theorem multisite_of_asks (asks : site.asksNetwork weather) : site.multisite = true := by
  simp [Site.multisite, asks.1, Constant.truthy]

/-- The commands that list work, and what they list has the site's own options. -/
structure Site.Listable (network : Bool) : Prop where
  tablePrefix : weather.works .tablePrefix = true
  valid : validTableName site.tablePrefix = true
  tables : weather.works .tables = true
  registered : weather.works (.registered network) = true
  options : Shown (site.tablePrefix.val ++ "options".toList) (site.registered network)

theorem readListings_cases :
    (¬ site.Listable weather (readsMultisite site weather) ∧
      ∃ error, readListings site weather = .error error) ∨
    (site.Listable weather (readsMultisite site weather) ∧
      readListings site weather = .ok (fresh site (readsMultisite site weather))) := by
  unfold readListings fresh
  generalize readsMultisite site weather = network
  simp only [run, Site.prints]
  cases first : weather.works .tablePrefix with
  | false => exact .inl ⟨fun listable => by simp [listable.tablePrefix] at first, _, rfl⟩
  | true =>
  simp only [if_true, bind, Except.bind, trim_tablePrefix]
  cases valid : validTableName site.tablePrefix with
  | false => exact .inl ⟨fun listable => by simp [listable.valid] at valid, _, rfl⟩
  | true =>
  cases second : weather.works .tables with
  | false => exact .inl ⟨fun listable => by simp [listable.tables] at second, _, rfl⟩
  | true =>
  cases third : weather.works (.registered network) with
  | false => exact .inl ⟨fun listable => by simp [listable.registered] at third, _, rfl⟩
  | true =>
  simp only [if_true, Bool.not_true, Bool.false_eq_true, if_false]
  by_cases own : Shown (site.tablePrefix.val ++ "options".toList) (site.registered network)
  · have there := List.contains_iff_mem.mpr (mem_names_iff.mpr own)
    rw [there]
    exact .inr ⟨⟨first, valid, second, third, own⟩, rfl⟩
  · have missing : (names (unlines (site.registered network))).contains
        (site.tablePrefix.val ++ "options".toList) = false := by
      simpa [mem_names_iff] using own
    rw [missing]
    exact .inl ⟨fun listable => own listable.options, _, rfl⟩

end Reading

/-! ## Drops -/

variable {site : Site} {weather : Weather} {listings : Listings}

/-- The tables the request gets to. -/
def reached (weather : Weather) (tables : List Text) : List Text :=
  tables.takeWhile fun name => !weather.cancelled name

theorem mem_dropEach :
    name ∈ (dropEach weather listings tables).2 ↔
      name ∈ reached weather tables ∧ decideTable listings name = none := by
  induction tables with
  | nil => simp [dropEach, reached]
  | cons first rest ih =>
    cases cancelled : weather.cancelled first with
    | true => simp [dropEach, reached, cancelled]
    | false =>
    have reaches : reached weather (first :: rest) = first :: reached weather rest := by
      simp [reached, cancelled]
    rw [reaches, List.mem_cons, or_and_right, ← ih]
    cases decided : decideTable listings first with
    | some reason =>
      have skipped : ¬(name = first ∧ decideTable listings name = none) := by
        rintro ⟨rfl, passed⟩
        rw [decided] at passed
        cases passed
      simp [dropEach, cancelled, decided, skipped]
    | none =>
      have issued : name = first ∧ decideTable listings name = none ↔ name = first :=
        and_iff_left_of_imp fun same => same ▸ decided
      simp [dropEach, cancelled, decided, issued]

theorem dropEach_error :
    (∃ error, (dropEach weather listings tables).1 = .error error) ↔
      ∃ name ∈ tables, weather.cancelled name = true := by
  induction tables with
  | nil => simp [dropEach]
  | cons first rest ih =>
    cases cancelled : weather.cancelled first with
    | true => simp [dropEach, cancelled]
    | false =>
    have later : (∃ error, (dropEach weather listings (first :: rest)).1 = .error error) ↔
        ∃ error, (dropEach weather listings rest).1 = .error error := by
      cases below : (dropEach weather listings rest).1 <;>
        cases decided : decideTable listings first <;>
          simp [dropEach, cancelled, decided, below, Except.map]
    rw [later, ih]
    simp [cancelled]

/-- Every table is reported once, in the order of the request, and as dropped exactly if
its command was issued and succeeded. -/
theorem dropEach_reports {results : List TableResult}
    (ended : (dropEach weather listings tables).1 = .ok results) :
    results.map TableResult.name = tables ∧ ∀ result ∈ results,
      result.refused = none ↔ decideTable listings result.name = none ∧
        weather.works (.drop result.name) = true := by
  induction tables generalizing results with
  | nil => cases ended; simp
  | cons first rest ih =>
    cases cancelled : weather.cancelled first with
    | true => simp [dropEach, cancelled] at ended
    | false =>
    cases below : (dropEach weather listings rest).1 with
    | error error =>
      cases decided : decideTable listings first <;>
        simp [dropEach, cancelled, decided, below, Except.map] at ended
    | ok later =>
    have parts : ∃ refused, results = ⟨first, refused⟩ :: later ∧
        (refused = none ↔ decideTable listings first = none ∧
          weather.works (.drop first) = true) := by
      cases decided : decideTable listings first <;>
        simp only [dropEach, cancelled, decided, below, Except.map] at ended <;>
        cases ended
      · exact ⟨_, rfl, by cases weather.works (.drop first) <;> simp⟩
      · exact ⟨_, rfl, by simp⟩
    obtain ⟨refused, rfl, fair⟩ := parts
    obtain ⟨named, others⟩ := ih below
    refine ⟨by simp [named], fun result member => ?_⟩
    rcases List.mem_cons.mp member with rfl | member
    · exact fair
    · exact others result member

/-- No registered, foreign or unlisted table is dropped, an error leaves every table, and
a result reports each requested table as it is. -/
structure Careful (site : Site) (weather : Weather) (request : Request) : Prop where
  spares : ∀ name ∈ (dropTables site weather request).2,
    name ∉ site.registered site.multisite ∧ site.tablePrefix.val <+: name ∧ name ∈ site.tables
  fails : ∀ error, (dropTables site weather request).1 = .error error →
    (dropTables site weather request).2 = []
  reports : ∀ results, (dropTables site weather request).1 = .ok results →
    results.map TableResult.name = request.tables ∧ ∀ result ∈ results,
      result.refused = none ↔ result.name ∈ (dropTables site weather request).2 ∧
        weather.works (.drop result.name) = true

/-- Where the listings are read: a table that shows up in them with the prefix and is not
shown as registered is a table and not only a piece of a longer name; on a multisite whose
network was not asked the network does not register it; and the request is not cancelled
at a later table. -/
def Guarded (site : Site) (weather : Weather) (request : Request) : Prop :=
  ∀ network, (network = true ↔ site.asksNetwork weather) → site.Listable weather network →
    ∀ name ∈ reached weather request.tables, site.tablePrefix.val <+: name →
      Shown name site.tables → ¬ Shown name (site.registered network) →
      name ∈ site.tables ∧ (∀ other ∈ request.tables, weather.cancelled other = false) ∧
      (site.multisite = true → network = false → name ∉ site.registered true)

theorem decideTable_none_iff {network : Bool} : decideTable (fresh site network) name = none ↔
    site.tablePrefix.val <+: name ∧ Shown name site.tables ∧
      ¬ Shown name (site.registered network) := by
  rw [← mem_names_iff, ← mem_names_iff, ← List.isPrefixOf_iff_prefix]
  unfold decideTable fresh
  split
  · simp_all
  split
  · simp_all
  split <;> simp_all

theorem unregistered (valid : validTableName name = true)
    (hidden : ¬ Shown name (site.registered (readsMultisite site weather)))
    (asked : site.multisite = true → readsMultisite site weather = false →
      name ∉ site.registered true) :
    name ∉ site.registered site.multisite := by
  have seen : name ∉ site.registered (readsMultisite site weather) := fun member =>
    hidden (shown_of_mem valid member)
  cases reads : readsMultisite site weather with
  | true =>
    rw [multisite_of_asks ((readsMultisite_iff site weather).mp reads), ← reads]
    exact seen
  | false =>
    cases multisite : site.multisite with
    | true => exact asked multisite reads
    | false => rwa [reads] at seen

theorem careful_iff (site : Site) (weather : Weather) (request : Request) :
    Careful site weather request ↔ Guarded site weather request := by
  have asks := readsMultisite_iff site weather
  have only : ∀ {network : Bool}, (network = true ↔ site.asksNetwork weather) →
      network = readsMultisite site weather := fun same =>
    Bool.eq_iff_iff.mpr (same.trans asks.symm)
  rcases readListings_cases site weather with
    ⟨unread, error, read⟩ | ⟨listable, read⟩
  · refine ⟨fun _ network same listable => ?_, fun _ => ?_⟩
    · rw [only same] at listable
      exact absurd listable unread
    · constructor <;> simp [dropTables, read]
  have drops : dropTables site weather request =
      dropEach weather (fresh site (readsMultisite site weather)) request.tables := by
    rw [dropTables, read]
  constructor
  · rintro ⟨spares, fails, -⟩ network same - name reaches prefixed shown hidden
    obtain rfl := only same
    have issued : name ∈ (dropTables site weather request).2 := by
      rw [drops]
      exact mem_dropEach.mpr ⟨reaches, decideTable_none_iff.mpr ⟨prefixed, shown, hidden⟩⟩
    obtain ⟨free, -, listed⟩ := spares name issued
    refine ⟨listed, fun other asked => ?_, fun multisite _ => multisite ▸ free⟩
    by_contra cancelled
    obtain ⟨error, failed⟩ := dropEach_error.mpr ⟨other, asked, by simpa using cancelled⟩
    rw [fails error (drops ▸ failed)] at issued
    cases issued
  · intro guarded
    replace guarded := guarded _ asks listable
    have issued : ∀ name ∈ (dropTables site weather request).2,
        name ∈ reached weather request.tables ∧ site.tablePrefix.val <+: name ∧
          Shown name site.tables ∧
          ¬ Shown name (site.registered (readsMultisite site weather)) := by
      rw [drops]
      intro name member
      obtain ⟨reaches, passes⟩ := mem_dropEach.mp member
      exact ⟨reaches, decideTable_none_iff.mp passes⟩
    constructor
    · intro name member
      obtain ⟨reaches, prefixed, shown, hidden⟩ := issued name member
      obtain ⟨listed, -, asked⟩ := guarded name reaches prefixed shown hidden
      have valid := request.valid name (List.takeWhile_subset _ reaches)
      exact ⟨unregistered valid hidden asked, prefixed, listed⟩
    · intro error failed
      rw [drops] at failed
      obtain ⟨other, asked, cancelled⟩ := dropEach_error.mp ⟨error, failed⟩
      refine List.eq_nil_iff_forall_not_mem.mpr fun name member => ?_
      obtain ⟨reaches, prefixed, shown, hidden⟩ := issued name member
      have calm := (guarded name reaches prefixed shown hidden).2.1 other asked
      exact absurd (calm.symm.trans cancelled) (by decide)
    intro results ended
    rw [drops] at ended ⊢
    obtain ⟨named, fair⟩ := dropEach_reports ended
    refine ⟨named, fun result member => ?_⟩
    -- a request that returned its results has gone through all its tables
    have all : reached weather request.tables = request.tables := by
      refine List.takeWhile_eq_self_iff.mpr fun name asked => ?_
      by_contra cancelled
      obtain ⟨error, failed⟩ :=
        dropEach_error.mpr ⟨name, asked, by simpa using cancelled⟩
      rw [ended] at failed
      cases failed
    have asked : result.name ∈ request.tables := by
      rw [← named]
      exact List.mem_map_of_mem member
    rw [fair result member, mem_dropEach, all, and_iff_right asked]

/-! ## A multisite read as a single site -/

def network : Site where
  constant := some (.other "1".toList true (by decide))
  tablePrefix := ⟨"wp_".toList, by decide⟩
  tables := ["wp_options".toList, "wp_2_posts".toList]
  registered
    | false => ["wp_options".toList]
    | true => ["wp_options".toList, "wp_2_posts".toList]

def calm : Weather where
  works _ := true
  cancelled _ := false

def posts : Request where
  tables := ["wp_2_posts".toList]
  filled := by simp
  bounded := by decide
  distinct := by simp
  valid := by decide

/-- `define('MULTISITE', 1)` is printed as `1`, and a table of the network is dropped. -/
theorem network_not_careful : ¬Careful network calm posts := by
  intro careful
  exact (careful.spares "wp_2_posts".toList (by decide +kernel)).1 (by decide)

end OpsEngine.DropTables
