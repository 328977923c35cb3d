import GameLibrary.Proofs.CommandLine.Resolving
import GameLibrary.Proofs.CommandLine.Settings
import GameLibrary.Proofs.Filter.Years
import GameLibrary.Proofs.Library.Views
import GameLibrary.Proofs.Time.Calendar

/-!
# Where the program breaks down

The program may break down at two places: where it makes the permits of its fetcher, and where a
fetch tells its deadline. Its filters do not, since its clock shows no year that is too early to
count back from (`counts_back_year_at`). `Arguments.Overstrains` says which arguments lead there, and
`perform_breaks_iff` that no others do. So some of the command lines that are accepted break the
program down (`program_breakdowns`), although every duration that is made of their numbers can be
told.
-/

namespace GameLibrary.CommandLine

variable {around : Surroundings} {breakdown : Breakdown}

section Running

variable {asked : Arguments} {url : String}

/-- The settings of a fetcher are refused if there are too many workers. -/
theorem of_config?_eq (asked : Arguments) (url : String) :
    Fetcher.ofConfig? (asked.fetchConfig url) =
      if Fetcher.greatestPermits < asked.workers then .error .tooManyPermits
      else .ok (.ofConfig (asked.fetchConfig url)) := by
  have hpermits : Fetcher.greatestPermits < (asked.fetchConfig url).permits ↔
      Fetcher.greatestPermits < asked.workers := by
    change Fetcher.greatestPermits < max asked.workers 1 ↔ _
    unfold Fetcher.greatestPermits
    omega
  simp only [Fetcher.ofConfig?, hpermits]

/-- What may come of asking the service for its health. -/
theorem reaches_connect {result : Except Breakdown (Remote × Fetcher.Config)} :
    Reaches around (connect asked url) result ↔ ∃ receptions : List Http.Reception, result =
      if Fetcher.greatestPermits < asked.workers then .error .tooManyPermits
      else .ok (((Remote.ofUrl url).checked (receptions.head?.getD default)).2,
        asked.fetchConfig url) := by
  unfold connect
  refine reaches_ask.trans (exists_congr fun receptions => ?_)
  dsimp only
  rw [of_config?_eq]
  by_cases hmany : Fetcher.greatestPermits < asked.workers
  · simp only [if_pos hmany]
    exact (and_iff_right trivial).trans reaches_throw
  · simp only [if_neg hmany]
    exact (and_iff_right trivial).trans reaches_pure

/-- The service, if the arguments give its address. -/
def link (asked : Arguments) : Session (Option (Remote × Fetcher.Config)) :=
  match asked.popularityUrl with
  | none => pure none
  | some url => some <$> connect asked url

/-- Connecting breaks down if the service is wanted with too many workers. -/
theorem reaches_link_error : Reaches around (link asked) (.error breakdown) ↔
    breakdown = .tooManyPermits ∧
      asked.popularityUrl.isSome ∧ Fetcher.greatestPermits < asked.workers := by
  cases hurl : asked.popularityUrl with
  | none => simp [link, hurl, reaches_pure]
  | some url =>
      by_cases hmany : Fetcher.greatestPermits < asked.workers <;>
        simp [link, hurl, reaches_map, reaches_connect, hmany, Except.map]

theorem reaches_link_ok {service : Option (Remote × Fetcher.Config)} :
    Reaches around (link asked) (.ok service) ↔
      (asked.popularityUrl = none ∧ service = none) ∨
        ∃ (url : String) (receptions : List Http.Reception), asked.popularityUrl = some url ∧
          asked.workers ≤ Fetcher.greatestPermits ∧
          service = some (((Remote.ofUrl url).checked (receptions.head?.getD default)).2,
            asked.fetchConfig url) := by
  cases hurl : asked.popularityUrl with
  | none => simp [link, hurl, reaches_pure]
  | some url =>
      by_cases hmany : Fetcher.greatestPermits < asked.workers
      · simp [link, hurl, reaches_map, reaches_connect, hmany, Except.map]
      · simp [link, hurl, reaches_map, reaches_connect, hmany, Except.map, not_lt.1 hmany]

/-- The filters of a program that is started at a time. -/
def catalogAt (start : Instant) : Catalog := Standard.catalog (yearAt start)

/-- There is a year five years before the one that the clock shows. -/
theorem counts_back_year_at (now : Instant) : Standard.CountsBack (yearAt now) 5 := by
  have hyear := CivilDate.year_of_nonneg
    (CivilDate.date_of_of_day_number ((Timestamp.ofInstant now).seconds.fdiv Timestamp.secondsPerDay))
    (Int.fdiv_nonneg (Int.natCast_nonneg (now.nanoseconds / 1000000000)) (by decide))
  have hmin := Int32.toInt_minValue
  have hmax := Int32.toInt_maxValue
  have hfive : (5 : Int32).toInt = 5 := by decide
  unfold Standard.CountsBack yearAt
  dsimp only
  rw [Int32.toInt_ofInt_of_le (by omega) (by omega)]
  omega

/-- The filters of a program answer on every item, so a query on them comes to a view. -/
theorem view_returns (start : Instant) (items : List Item) (query : LibraryQuery) :
    ∃ view, View.ofQuery (catalogAt start) items query = .ok view :=
  View.of_query_returns.2 ((Standard.count_returns _ _).2 (.inl (counts_back_year_at start)))

variable {start : Instant} {items : List Item}

/-- Without popularity a query is answered. -/
theorem steady_answer : Steady around (answer asked (catalogAt start) none items) := by
  obtain ⟨view, hview⟩ := view_returns start items asked.query
  unfold answer
  rw [hview]
  exact steady_pure _

/-- The answer to a query breaks down where the fetch of its popularity does. -/
theorem answer_breaks_iff {remote : Remote} {config : Fetcher.Config} :
    Reaches around (answer asked (catalogAt start) (some (remote, config)) items)
        (.error breakdown) ↔
      ∃ view, View.ofQuery (catalogAt start) items asked.query = .ok view ∧
        Reaches around (fetch remote config view.ids) (.error breakdown) := by
  obtain ⟨view, hview⟩ := view_returns start items asked.query
  simp only [hview, Except.ok.injEq, exists_eq_left']
  unfold answer
  rw [hview]
  refine reaches_ask.trans ⟨?_, fun h => ?_⟩
  · rintro ⟨now, -, h⟩
    rcases reaches_bind_error.1 h with h | ⟨cache, -, h⟩
    · exact resolve_breaks_iff.1 h
    · cases reaches_pure.1 h
  · refine ⟨around.latest, Nat.le_refl _, reaches_bind_error.2 (.inl ?_)⟩
    exact resolve_breaks_iff.2 h

variable {catalog : Catalog}

/-- A query that is answered is a success. -/
theorem status_of_answer {service : Option (Remote × Fetcher.Config)} {exit : Exit}
    (h : Reaches around (answer asked catalog service items) (.ok exit)) : exit.status = 0 := by
  unfold answer at h
  obtain ⟨view, -, h⟩ := reaches_bind_ok.1 h
  cases service with
  | none =>
      obtain ⟨cache, -, h⟩ := reaches_bind_ok.1 h
      cases reaches_pure.1 h
      rfl
  | some service =>
      obtain ⟨now, -, h⟩ := reaches_ask.1 h
      obtain ⟨cache, -, h⟩ := reaches_bind_ok.1 h
      cases reaches_pure.1 h
      rfl

/-- The items of the library, if its file can be read. -/
def Arguments.items? (asked : Arguments) (around : Surroundings) : Option (List Item) :=
  (around.files (asked.library.getD "")).bind Item.listOfBytes?

/-- What the program prints once it has a service, or goes without. -/
def present (asked : Arguments) (catalog : Catalog) (service : Option (Remote × Fetcher.Config)) :
    Session Exit := do
  if asked.listFilters then return ⟨0, catalog.toJson.pretty ++ "\n"⟩
  else
    let content ← Dialogue.put (.readFile (asked.library.getD ""))
    match content.bind Item.listOfBytes? with
    | none => return failed
    | some items => answer asked catalog service items

theorem perform_eq (asked : Arguments) : perform asked = (do
    let start ← Dialogue.clock
    let service ← link asked
    present asked (catalogAt start) service) := by
  unfold perform link
  cases asked.popularityUrl <;> rfl

theorem steady_present : Steady around (present asked (catalogAt start) none) := by
  unfold present
  split
  · exact steady_pure _
  · refine .bind (steady_lift _) fun content => ?_
    split
    · exact steady_pure _
    · exact steady_answer

/-- With a service the program breaks down if it shows items and the deadline is too far. -/
theorem present_breaks_iff {remote : Remote} :
    Reaches around (present asked (catalogAt start) (some (remote, asked.fetchConfig url)))
      (.error breakdown) ↔
      breakdown = .deadlineTooFar ∧ asked.listFilters = false ∧
        (∃ items view, asked.items? around = some items ∧
          View.ofQuery (catalogAt start) items asked.query = .ok view ∧ view.ids ≠ []) ∧
        around.TooFar (Arguments.fourFifths asked.resolveTimeoutSeconds) := by
  have hfacets : (asked.fetchConfig url).facets ≠ [] := by
    change Facet.all ≠ []
    decide
  unfold present
  cases hlist : asked.listFilters with
  | true => exact iff_of_false (steady_pure _ _) (by simp)
  | false =>
      refine reaches_ask.trans ?_
      constructor
      · rintro ⟨content, rfl, h⟩
        split at h
        · cases reaches_pure.1 h
        · rename_i items hitems
          obtain ⟨view, hview, hfetch⟩ := answer_breaks_iff.1 h
          obtain ⟨hbreakdown, hids, -, hfar⟩ := fetch_breaks_iff.1 hfetch
          exact ⟨hbreakdown, rfl, ⟨items, view, hitems, hview, hids⟩, hfar⟩
      · rintro ⟨hbreakdown, -, ⟨items, view, hitems, hview, hids⟩, hfar⟩
        refine ⟨_, rfl, ?_⟩
        unfold Arguments.items? at hitems
        rw [hitems]
        exact answer_breaks_iff.2
          ⟨view, hview, fetch_breaks_iff.2 ⟨hbreakdown, hids, hfacets, hfar⟩⟩

theorem status_of_present {service : Option (Remote × Fetcher.Config)} {exit : Exit}
    (h : Reaches around (present asked catalog service) (.ok exit)) :
    exit.status = 0 ∨ exit.status = 1 := by
  unfold present at h
  split at h
  · cases reaches_pure.1 h
    exact .inl rfl
  · obtain ⟨content, -, h⟩ := reaches_ask.1 h
    split at h
    · cases reaches_pure.1 h
      exact .inr rfl
    · exact .inl (status_of_answer h)

/-- The arguments can break the program down in this way. -/
def Arguments.Overstrains (asked : Arguments) (around : Surroundings) : Breakdown → Prop
  | .tooManyPermits => asked.popularityUrl.isSome ∧ Fetcher.greatestPermits < asked.workers
  | .deadlineTooFar =>
      asked.popularityUrl.isSome ∧ asked.workers ≤ Fetcher.greatestPermits ∧
        asked.listFilters = false ∧
          (∃ start ≤ around.latest, ∃ items view, asked.items? around = some items ∧
            View.ofQuery (catalogAt start) items asked.query = .ok view ∧ view.ids ≠ []) ∧
          around.TooFar (Arguments.fourFifths asked.resolveTimeoutSeconds)
  | .differenceTooFar => False

theorem perform_breaks_iff : Reaches around (perform asked) (.error breakdown) ↔
    asked.Overstrains around breakdown := by
  rw [perform_eq]
  refine reaches_ask.trans ?_
  constructor
  · rintro ⟨start, hstart, h⟩
    rcases reaches_bind_error.1 h with h | ⟨service, hservice, h⟩
    · obtain ⟨rfl, hmany⟩ := reaches_link_error.1 h
      exact hmany
    · rcases reaches_link_ok.1 hservice with ⟨-, rfl⟩ | ⟨url, receptions, hurl, hfew, rfl⟩
      · exact absurd h (steady_present _)
      · obtain ⟨rfl, hlist, hitems, hfar⟩ := present_breaks_iff.1 h
        exact ⟨by rw [hurl, Option.isSome_some], hfew, hlist, ⟨start, hstart, hitems⟩, hfar⟩
  · intro h
    cases breakdown with
    | tooManyPermits =>
        exact ⟨around.latest, Nat.le_refl _,
          reaches_bind_error.2 (.inl (reaches_link_error.2 ⟨rfl, h⟩))⟩
    | deadlineTooFar =>
        -- The clock shows the time of the start first, and the latest time when the fetch begins.
        obtain ⟨hsome, hfew, hlist, ⟨start, hstart, hitems⟩, hfar⟩ := h
        obtain ⟨url, hurl⟩ := Option.isSome_iff_exists.1 hsome
        exact ⟨start, hstart, reaches_bind_error.2 (.inr ⟨_,
          reaches_link_ok.2 (.inr ⟨url, [], hurl, hfew, rfl⟩),
          present_breaks_iff.2 ⟨rfl, hlist, hitems, hfar⟩⟩)⟩
    | differenceTooFar => exact h.elim

/-- Without a breakdown the program ends with a success or as a failure. -/
theorem status_of_perform {exit : Exit} (h : Reaches around (perform asked) (.ok exit)) :
    exit.status = 0 ∨ exit.status = 1 := by
  rw [perform_eq] at h
  obtain ⟨start, -, h⟩ := reaches_ask.1 h
  obtain ⟨service, -, h⟩ := reaches_bind_ok.1 h
  exact status_of_present h

end Running

section Programs

variable {arguments : List String} {environment : String → Option String} {asked : Arguments}

/-- A command line that is accepted is served as it asks, and a breakdown has a status of its
own. -/
theorem program_may_end_iff (hread : Arguments.read arguments environment = .ok asked)
    {exit : Exit} : (program arguments environment).MayEnd around exit ↔
      Reaches around (perform asked) (.ok exit) ∨
        exit = ⟨101, ""⟩ ∧ ∃ breakdown, Reaches around (perform asked) (.error breakdown) := by
  unfold program
  rw [hread]
  refine (Dialogue.may_end_bind (perform asked).run _ exit).trans ?_
  constructor
  · rintro ⟨breakdown | other, hperform, hexit⟩
    · exact .inr ⟨hexit, breakdown, hperform⟩
    · cases hexit
      exact .inl hperform
  · rintro (hperform | ⟨hexit, breakdown, hperform⟩)
    · exact ⟨.ok exit, hperform, rfl⟩
    · exact ⟨.error breakdown, hperform, hexit⟩

/-- A command line that is accepted makes only durations that can be told. It breaks the program down
exactly if it asks a popularity service with more workers than permits can be managed, or asks it for
the items of a query with a deadline that is beyond the last instant, as the one clock tells it. -/
theorem program_breakdowns (hread : Arguments.read arguments environment = .ok asked)
    (around : Surroundings) :
    asked.InRange ∧
      (5 * 2 ^ 61 - 1024 ≤ asked.resolveTimeoutSeconds ↔
        2 ^ 63 * 1000000000 ≤ (Arguments.fourFifths asked.resolveTimeoutSeconds).nanoseconds) ∧
      (∀ breakdown, Reaches around (perform asked) (.error breakdown) ↔
        asked.Overstrains around breakdown) ∧
      ((program arguments environment).MayEnd around ⟨101, ""⟩ ↔
        ∃ breakdown, asked.Overstrains around breakdown) ∧
      ∀ machine : Machine, machine.now ≤ around.latest → machine.files = around.files →
        ((program arguments environment).run machine).1.status ∈ [0, 1] ∨
          ∃ breakdown, asked.Overstrains around breakdown := by
  have hsized := Arguments.sized_of_read hread
  have hbroken : (∃ breakdown, Reaches around (perform asked) (.error breakdown)) ↔
      ∃ breakdown, asked.Overstrains around breakdown :=
    exists_congr fun breakdown => perform_breaks_iff
  refine ⟨hsized.in_range, (Arguments.four_fifths_far_iff hsized.resolveTimeout).symm,
    fun breakdown => perform_breaks_iff, ?_, ?_⟩
  · rw [program_may_end_iff hread, ← hbroken]
    constructor
    · rintro (hperform | ⟨-, hperform⟩)
      · rcases status_of_perform hperform with hstatus | hstatus <;> cases hstatus
      · exact hperform
    · exact fun hperform => .inr ⟨rfl, hperform⟩
  · intro machine hnow hfiles
    have hend := Dialogue.may_end_run (program arguments environment) hnow hfiles
    rcases (program_may_end_iff hread).1 hend with hperform | ⟨-, hperform⟩
    · exact .inl (by simpa using status_of_perform hperform)
    · exact .inr (hbroken.1 hperform)

/-- A command line with as many workers as can be managed, and with the least number of seconds of
which four fifths are beyond the last instant at any time. -/
def patientLine : List String :=
  ["--library=shelf.json", "--popularity-url", "http://localhost:8080",
    "--workers=2305843009213693951", "--resolve-timeout-secs", "11529215046068468736"]

/-- What the command line asks for. -/
def patient : Arguments where
  library := some "shelf.json"
  filters := []
  store := none
  genre := none
  search := none
  popularityUrl := some "http://localhost:8080"
  cacheDirectory := none
  tier1Seconds := 300
  tier2Seconds := 86400
  workers := 2 ^ 61 - 1
  callTimeoutSeconds := 10
  resolveTimeoutSeconds := 5 * 2 ^ 61 - 1024
  listFilters := false
  printMetrics := false

/-- A machine at the beginning of its clock, with a library of one item. -/
def oneItem : Surroundings where
  latest := ⟨0⟩
  files _ := some "[\x7b\"id\":\"a\",\"title\":\"A\",\"store\":\"gog\"\x7d]".toUTF8

theorem program_breakdowns_patient :
    Arguments.read patientLine (fun _ => none) = .ok patient ∧
      (program patientLine fun _ => none).MayEnd oneItem ⟨101, ""⟩ := by
  have hread : Arguments.read patientLine (fun _ => none) = .ok patient := by decide +kernel
  obtain ⟨view, hview⟩ := view_returns ⟨0⟩
    [⟨"a", "A", "gog", [], none, none, none, false, false⟩] patient.query
  have hids : view.ids ≠ [] := by
    have hshown : (View.ofQuery (catalogAt ⟨0⟩)
        [⟨"a", "A", "gog", [], none, none, none, false, false⟩] patient.query).map View.ids =
          .ok ["a"] := by decide +kernel
    rw [hview] at hshown
    rw [Except.ok.inj hshown]
    exact List.cons_ne_nil _ _
  have hitems : ∃ items view, patient.items? oneItem = some items ∧
      View.ofQuery (catalogAt ⟨0⟩) items patient.query = .ok view ∧ view.ids ≠ [] :=
    ⟨_, view, by decide +kernel, hview, hids⟩
  have hfar : 2 ^ 63 * 1000000000 ≤
      (Arguments.fourFifths patient.resolveTimeoutSeconds).nanoseconds :=
    (Arguments.four_fifths_far_iff (by decide)).2 (by decide)
  exact ⟨hread, (program_breakdowns hread oneItem).2.2.2.1.2
    ⟨.deadlineTooFar, rfl, by decide, rfl, ⟨⟨0⟩, Nat.le_refl _, hitems⟩,
      hfar.trans (Nat.le_add_left _ _)⟩⟩

end Programs

end GameLibrary.CommandLine
