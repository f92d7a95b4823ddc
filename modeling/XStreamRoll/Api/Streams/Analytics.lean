/-
`getAnalytics`, which counts the events of a stream.

Two queries are behind it.  The first counts the events of the last day, week and month and the
errors among them.  The second counts the events of each of the last sixty minutes, with the
minute that has begun as the last.

Time zones are whole minutes off UTC and days have 24 hours.  A double is the rational that it
is; how an exact result is rounded to one, and the averages and percentiles of Postgres, are
parameters.
-/
import Mathlib.Data.Rat.Floor
import Mathlib.Tactic.Linarith
import XStreamRoll.Api.Streams
import XStreamRoll.Api.Streams.Visibility
import XStreamRoll.Buckets

namespace XStreamRoll

def minuteMicros : Int := 60000000

def dayMicros : Int := 24 * 60 * minuteMicros

/-- `date_trunc('minute', …)` -/
def Timestamptz.truncMinute (t : Timestamptz) : Timestamptz :=
  ⟨t.micros - t.micros % minuteMicros⟩

def Timestamptz.plusMinutes (t : Timestamptz) (n : Int) : Timestamptz :=
  ⟨t.micros + n * minuteMicros⟩

def Timestamptz.minusDays (t : Timestamptz) (n : Int) : Timestamptz := ⟨t.micros - n * dayMicros⟩

namespace Api

/-- A row of `stream_events`. -/
structure StreamEventRow where
  id : Int
  streamId : Int
  eventType : Option String
  processingLatencyMs : Option Int
  createdAt : Timestamptz
deriving DecidableEq, Repr

/-- Doubles, and the aggregates that Postgres gives back as such. -/
structure Doubles where
  nearest : ℚ → ℚ
  nearest_mono : Monotone nearest
  nearest_natCast : ∀ n : ℕ, n ≤ 2 ^ 53 → nearest n = n
  /-- `AVG(…)::float` of some integers -/
  average : List Int → ℚ
  /-- `percentile_cont(0.99) WITHIN GROUP (ORDER BY …)`, of some integers -/
  percentile99 : List Int → ℚ

structure StreamEventCountsDto where
  last24h : Nat
  last7d : Nat
  last30d : Nat
deriving DecidableEq, Repr

structure StreamErrorRateDto where
  window : String
  totalEvents : Nat
  errorEvents : Nat
  percentage : ℚ
deriving DecidableEq, Repr

structure StreamLatencyDto where
  window : String
  averageMs : Option ℚ
  p99Ms : Option ℚ
deriving DecidableEq, Repr

structure EventsPerMinuteDto where
  minute : String
  count : Nat
deriving DecidableEq, Repr

structure StreamAnalyticsDto where
  streamId : Int
  totalEventsProcessed : StreamEventCountsDto
  errorRate : StreamErrorRateDto
  processingLatency : StreamLatencyDto
  eventsPerMinute : List EventsPerMinuteDto
  generatedAt : String
deriving DecidableEq, Repr

namespace Doubles

/-- `roundPercent`, where `Math.round` rounds up what is halfway. -/
def roundPercent (doubles : Doubles) (value : ℚ) : ℚ :=
  doubles.nearest (⌊doubles.nearest (value * 100) + 1 / 2⌋ / 100)

/-- `roundPercent((errorEvents / last30d) * 100)` -/
def percentage (doubles : Doubles) (errorEvents last30d : Nat) : ℚ :=
  if last30d = 0 then 0
  else doubles.roundPercent (doubles.nearest (doubles.nearest (errorEvents / last30d) * 100))

end Doubles

namespace StreamsDbRepository

/-- The row of the first query. -/
structure AnalyticsRow where
  last24h : Nat
  last7d : Nat
  last30d : Nat
  errorEvents30d : Nat
  averageLatencyMs : Option ℚ
  p99LatencyMs : Option ℚ
deriving DecidableEq, Repr

/-- What an aggregate makes of a column: NULLs are skipped, and of nothing it is NULL. -/
def aggregate (f : List Int → ℚ) (column : List (Option Int)) : Option ℚ :=
  if column.reduceOption = [] then none else some (f column.reduceOption)

/-- `LOWER(event_type) = 'error'` -/
def isError (folding : CaseFolding) (event : StreamEventRow) : Bool :=
  event.eventType.any fun eventType => eventType.toList.map folding.lower = "error".toList

def analyticsRow (doubles : Doubles) (folding : CaseFolding) (NOW : Timestamptz) (streamId : Int)
    (events : List StreamEventRow) : AnalyticsRow :=
  let inScope := events.filter fun event =>
    decide (event.streamId = streamId) && decide (NOW.minusDays 30 ≤ event.createdAt)
  { last24h := inScope.countP fun event => NOW.minusDays 1 ≤ event.createdAt
    last7d := inScope.countP fun event => NOW.minusDays 7 ≤ event.createdAt
    last30d := inScope.length
    errorEvents30d := inScope.countP (isError folding)
    averageLatencyMs :=
      aggregate doubles.average (inScope.map StreamEventRow.processingLatencyMs)
    p99LatencyMs :=
      aggregate doubles.percentile99 (inScope.map StreamEventRow.processingLatencyMs) }

/-- The minute of a row of the second query. -/
def bucket (NOW : Timestamptz) (i : Nat) : Timestamptz := NOW.truncMinute.plusMinutes (i - 59)

def seriesRows (NOW : Timestamptz) (streamId : Int) (events : List StreamEventRow) :
    List (Timestamptz × Nat) :=
  (List.range 60).map fun i =>
    (bucket NOW i, events.countP fun event => decide (event.streamId = streamId) &&
      decide (bucket NOW i ≤ event.createdAt) &&
      decide (event.createdAt < (bucket NOW i).plusMinutes 1))

/-- What `getAnalytics` makes of the two results. -/
def analytics (doubles : Doubles) (streamId : Int) (stats : AnalyticsRow)
    (series : List (Timestamptz × Nat)) (now : Date) : StreamAnalyticsDto where
  streamId := streamId
  totalEventsProcessed := ⟨stats.last24h, stats.last7d, stats.last30d⟩
  errorRate := ⟨"30d", stats.last30d, stats.errorEvents30d,
    doubles.percentage stats.errorEvents30d stats.last30d⟩
  processingLatency := ⟨"30d", stats.averageLatencyMs, stats.p99LatencyMs⟩
  eventsPerMinute := series.map fun row => ⟨row.1.toDate.toISOString, row.2⟩
  generatedAt := now.toISOString

end StreamsDbRepository

namespace StreamsRepository

/-- The in-memory repository has no events to count. -/
def getAnalytics (now : Date) (streamId : Int) : StreamAnalyticsDto :=
  let startMinute : Int := now.getTime - now.getTime % 60000 - 59 * 60000
  { streamId := streamId
    totalEventsProcessed := ⟨0, 0, 0⟩
    errorRate := ⟨"30d", 0, 0, 0⟩
    processingLatency := ⟨"30d", none, none⟩
    eventsPerMinute := (List.range 60).map fun (index : Nat) =>
      ⟨Date.toISOString ⟨startMinute + index * 60000⟩, 0⟩
    generatedAt := now.toISOString }

end StreamsRepository

/-! ## What the numbers have to do with one another -/

namespace Doubles

variable (doubles : Doubles)

theorem nearest_zero : doubles.nearest 0 = 0 := by
  have exact := doubles.nearest_natCast 0 (by decide)
  rwa [Nat.cast_zero] at exact

/-- Rounding stays between what is a double itself. -/
theorem nearest_between {x : ℚ} {n : ℕ} (fits : n ≤ 2 ^ 53) (nonneg : 0 ≤ x) (below : x ≤ n) :
    0 ≤ doubles.nearest x ∧ doubles.nearest x ≤ n := by
  constructor
  · rw [← doubles.nearest_zero]
    exact doubles.nearest_mono nonneg
  · rw [← doubles.nearest_natCast n fits]
    exact doubles.nearest_mono below

theorem roundPercent_between {value : ℚ} (nonneg : 0 ≤ value) (below : value ≤ 100) :
    0 ≤ doubles.roundPercent value ∧ doubles.roundPercent value ≤ 100 := by
  have scaled := doubles.nearest_between (x := value * 100) (n := 10000) (by decide)
    (by linarith) (by push_cast; linarith)
  have floored : 0 ≤ ⌊doubles.nearest (value * 100) + 1 / 2⌋ ∧
      ⌊doubles.nearest (value * 100) + 1 / 2⌋ ≤ 10000 := by
    constructor
    · exact Int.floor_nonneg.mpr (by linarith [scaled.1])
    · apply Int.lt_add_one_iff.mp
      refine Int.floor_lt.mpr ?_
      have above := scaled.2
      push_cast at above ⊢
      linarith
  have lower : (0 : ℚ) ≤ ⌊doubles.nearest (value * 100) + 1 / 2⌋ := by exact_mod_cast floored.1
  have upper : (⌊doubles.nearest (value * 100) + 1 / 2⌋ : ℚ) ≤ 10000 := by
    exact_mod_cast floored.2
  exact doubles.nearest_between (n := 100) (by decide) (by linarith) (by push_cast; linarith)

theorem percentage_between {errorEvents last30d : Nat} (h : errorEvents ≤ last30d) :
    0 ≤ doubles.percentage errorEvents last30d ∧
      doubles.percentage errorEvents last30d ≤ 100 := by
  unfold percentage
  split
  · exact ⟨le_refl _, by norm_num⟩
  · next some =>
    have counted : (errorEvents : ℚ) ≤ last30d := by exact_mod_cast h
    have positive : (0 : ℚ) < last30d := by exact_mod_cast Nat.pos_of_ne_zero some
    have ratio := doubles.nearest_between (x := errorEvents / last30d) (n := 1) (by decide)
      (div_nonneg (Nat.cast_nonneg _) positive.le)
      (by rw [Nat.cast_one]; exact (div_le_one positive).mpr counted)
    rw [Nat.cast_one] at ratio
    have hundred := doubles.nearest_between
      (x := doubles.nearest (errorEvents / last30d) * 100) (n := 100) (by decide)
      (by linarith [ratio.1]) (by push_cast; linarith [ratio.2])
    exact doubles.roundPercent_between hundred.1 hundred.2

end Doubles

/-- The windows lie in one another, errors are events, the percentage is one, there is an
average where there is a percentile, and there are sixty minutes. -/
structure StreamAnalyticsDto.Consistent (dto : StreamAnalyticsDto) : Prop where
  week : dto.totalEventsProcessed.last24h ≤ dto.totalEventsProcessed.last7d
  month : dto.totalEventsProcessed.last7d ≤ dto.totalEventsProcessed.last30d
  total : dto.errorRate.totalEvents = dto.totalEventsProcessed.last30d
  errors : dto.errorRate.errorEvents ≤ dto.errorRate.totalEvents
  percentage : 0 ≤ dto.errorRate.percentage ∧ dto.errorRate.percentage ≤ 100
  latency : dto.processingLatency.averageMs.isSome = dto.processingLatency.p99Ms.isSome
  minutes : dto.eventsPerMinute.length = 60

namespace StreamsDbRepository

@[simp] theorem aggregate_nil (f : List Int → ℚ) : aggregate f [] = none := rfl

theorem isSome_aggregate (f g : List Int → ℚ) (column : List (Option Int)) :
    (aggregate f column).isSome = (aggregate g column).isSome := by
  unfold aggregate
  split <;> rfl

theorem analytics_consistent (doubles : Doubles) (folding : CaseFolding) (NOW₁ NOW₂ : Timestamptz)
    (streamId : Int) (events₁ events₂ : List StreamEventRow) (now : Date) :
    (analytics doubles streamId (analyticsRow doubles folding NOW₁ streamId events₁)
      (seriesRows NOW₂ streamId events₂) now).Consistent where
  week := by
    apply List.countP_mono_left
    intro event _ recent
    simp only [decide_eq_true_eq, Timestamptz.le_iff, Timestamptz.minusDays, dayMicros,
      minuteMicros] at recent ⊢
    omega
  month := List.countP_le_length
  total := rfl
  errors := List.countP_le_length
  percentage := doubles.percentage_between List.countP_le_length
  latency := isSome_aggregate _ _ _
  minutes := by simp [analytics, seriesRows]

theorem bucket_succ (NOW : Timestamptz) (i : Nat) :
    (bucket NOW i).plusMinutes 1 = bucket NOW (i + 1) := by
  simp only [bucket, Timestamptz.plusMinutes, Timestamptz.mk.injEq, minuteMicros]
  omega

theorem bucket_increasing (NOW : Timestamptz) (i : Nat) : bucket NOW i ≤ bucket NOW (i + 1) := by
  rw [← bucket_succ, Timestamptz.le_iff]
  simp only [Timestamptz.plusMinutes, minuteMicros]
  omega

/-- The minutes partition the events from the first of them to the end of the last. -/
theorem series_sum (NOW : Timestamptz) (streamId : Int) (events : List StreamEventRow) :
    ((seriesRows NOW streamId events).map Prod.snd).sum =
      (events.filter fun event => event.streamId = streamId).countP fun event =>
        within (bucket NOW 0) (bucket NOW 60) event.createdAt := by
  have counts : (seriesRows NOW streamId events).map Prod.snd = (List.range 60).map fun i =>
      (events.filter fun event => event.streamId = streamId).countP fun event =>
        within (bucket NOW i) (bucket NOW (i + 1)) event.createdAt := by
    rw [seriesRows, List.map_map]
    apply List.map_congr_left
    intro i _
    rw [Function.comp_apply, List.countP_filter, bucket_succ]
    apply List.countP_congr
    intro event _
    simp only [within, Bool.and_eq_true]
    tauto
  rw [counts, sum_countP_within (bucket_increasing NOW)]

/-- The minutes lie within the last day. -/
theorem series_le_last24h (doubles : Doubles) (folding : CaseFolding) {NOW₁ NOW₂ : Timestamptz}
    (later : NOW₁ ≤ NOW₂) (streamId : Int) (events : List StreamEventRow) :
    (events.filter fun event => event.streamId = streamId).countP (fun event =>
        within (bucket NOW₂ 0) (bucket NOW₂ 60) event.createdAt) ≤
      (analyticsRow doubles folding NOW₁ streamId events).last24h := by
  show _ ≤ List.countP _ (List.filter _ _)
  rw [List.countP_filter, List.countP_filter]
  apply List.countP_mono_left
  intro event _ counted
  simp only [Bool.and_eq_true, within_iff, decide_eq_true_eq, Timestamptz.le_iff,
    Timestamptz.lt_iff, bucket, Timestamptz.plusMinutes, Timestamptz.truncMinute,
    Timestamptz.minusDays, dayMicros, minuteMicros] at counted later ⊢
  omega

/-- The sum of the minutes counts every event of the stream between the first minute and the
last once.  What it has over the count of the last day was recorded between the two queries. -/
theorem analytics_adds_up (doubles : Doubles) (folding : CaseFolding) {NOW₁ NOW₂ : Timestamptz}
    (later : NOW₁ ≤ NOW₂) (streamId : Int) (events recorded : List StreamEventRow) (now : Date) :
    let dto := analytics doubles streamId (analyticsRow doubles folding NOW₁ streamId events)
      (seriesRows NOW₂ streamId (events ++ recorded)) now
    (dto.eventsPerMinute.map EventsPerMinuteDto.count).sum =
        ((events ++ recorded).filter fun event => event.streamId = streamId).countP
          (fun event => within (bucket NOW₂ 0) (bucket NOW₂ 60) event.createdAt) ∧
      (dto.eventsPerMinute.map EventsPerMinuteDto.count).sum ≤
        dto.totalEventsProcessed.last24h + recorded.length := by
  intro dto
  have sum : (dto.eventsPerMinute.map EventsPerMinuteDto.count).sum =
      ((events ++ recorded).filter fun event => event.streamId = streamId).countP
        (fun event => within (bucket NOW₂ 0) (bucket NOW₂ 60) event.createdAt) := by
    rw [← series_sum]
    show ((List.map _ _).map _).sum = _
    rw [List.map_map]
    rfl
  refine ⟨sum, ?_⟩
  rw [sum, List.filter_append, List.countP_append]
  exact Nat.add_le_add (series_le_last24h doubles folding later streamId events)
    (le_trans List.countP_le_length (List.length_filter_le _ recorded))

/-- Exact arithmetic, with the largest of a few integers as their percentile. -/
def exactDoubles : Doubles where
  nearest := id
  nearest_mono := monotone_id
  nearest_natCast _ _ := rfl
  average column := column.sum / column.length
  percentile99 column := column.foldl max 0

theorem analytics_adds_up_error :
    let events : List StreamEventRow := [⟨1, 1, some "ERROR", some 12, ⟨0⟩⟩]
    let recorded : List StreamEventRow := [⟨2, 1, none, none, ⟨5⟩⟩]
    let dto := analytics exactDoubles 1 (analyticsRow exactDoubles plainFolding ⟨0⟩ 1 events)
      (seriesRows ⟨7⟩ 1 (events ++ recorded)) ⟨0⟩
    (dto.eventsPerMinute.map EventsPerMinuteDto.count).sum ≤
      dto.totalEventsProcessed.last24h + recorded.length :=
  (analytics_adds_up exactDoubles plainFolding (by decide) 1 _ _ ⟨0⟩).2

end StreamsDbRepository

/-- Without events the two repositories say the same. -/
theorem StreamsRepository.getAnalytics_eq (doubles : Doubles) (folding : CaseFolding) (now : Date)
    (streamId : Int) {events : List StreamEventRow}
    (none : ∀ event ∈ events, event.streamId ≠ streamId) :
    StreamsDbRepository.analytics doubles streamId
        (StreamsDbRepository.analyticsRow doubles folding now.toTimestamptz streamId events)
        (StreamsDbRepository.seriesRows now.toTimestamptz streamId events) now =
      StreamsRepository.getAnalytics now streamId := by
  have inScope : (events.filter fun event => decide (event.streamId = streamId) &&
      decide (now.toTimestamptz.minusDays 30 ≤ event.createdAt)) = [] := by
    rw [List.filter_eq_nil_iff]
    intro event hevent both
    simp [none event hevent] at both
  have empty : ∀ i, events.countP (fun event => decide (event.streamId = streamId) &&
      decide (StreamsDbRepository.bucket now.toTimestamptz i ≤ event.createdAt) &&
      decide (event.createdAt <
        (StreamsDbRepository.bucket now.toTimestamptz i).plusMinutes 1)) = 0 := by
    intro i
    rw [List.countP_eq_zero]
    intro event hevent all
    simp [none event hevent] at all
  have minute (i : Nat) : (StreamsDbRepository.bucket now.toTimestamptz i).toDate =
      ⟨now.getTime - now.getTime % 60000 - 59 * 60000 + i * 60000⟩ := by
    simp only [StreamsDbRepository.bucket, Timestamptz.plusMinutes, Timestamptz.truncMinute,
      Date.toTimestamptz, Timestamptz.toDate, minuteMicros, Date.mk.injEq]
    omega
  simp only [StreamsDbRepository.analytics, StreamsDbRepository.analyticsRow, inScope,
    StreamsDbRepository.seriesRows, empty, List.map_map, Function.comp_def, minute,
    StreamsRepository.getAnalytics, List.countP_nil, List.length_nil, List.map_nil,
    StreamsDbRepository.aggregate_nil, Doubles.percentage, if_true]

end Api
end XStreamRoll
