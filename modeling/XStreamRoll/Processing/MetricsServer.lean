/-
The counters of the worker and the server that shows them.

The worker calls functions that count.  `startMetricsServer` answers `GET /metrics` with what the
counters say at that moment, as JSON or in the text format of scrapers, and the probes of
Kubernetes with whether the worker is shutting down.
-/
import Mathlib.Data.List.Infix
import XStreamRoll.Exposition
import XStreamRoll.Json
import XStreamRoll.Transition
import XStreamRoll.Processing.SessionRegistry

namespace XStreamRoll
namespace Processing

open Transition

structure Counters where
  messagesProcessed : Nat
  errors : Nat
  queueDepth : Nat
  locks : LockMetrics
  deriving DecidableEq, Repr

/-- What `getMetrics` returns. -/
structure Metrics extends Counters where
  uptimeSeconds : Int
  deriving DecidableEq, Repr

structure MetricsRequest where
  method : String
  url : String
  /-- The header `Accept` in lower case, empty when there is none. -/
  accept : String

structure MetricsResponse where
  status : Nat
  contentType : Option String
  body : String
  deriving DecidableEq, Repr

namespace Metrics

/-- `JSON.stringify(getMetrics())` -/
def toJson (m : Metrics) : Json :=
  .object [("messagesProcessed", .number (Nat.repr m.messagesProcessed)),
    ("errors", .number (Nat.repr m.errors)),
    ("queueDepth", .number (Nat.repr m.queueDepth)),
    ("lockAcquisitionsTotal", .number (Nat.repr m.locks.lockAcquisitionsTotal)),
    ("lockAcquisitionsDenied", .number (Nat.repr m.locks.lockAcquisitionsDenied)),
    ("lockRenewalsTotal", .number (Nat.repr m.locks.lockRenewalsTotal)),
    ("lockRenewalsFailed", .number (Nat.repr m.locks.lockRenewalsFailed)),
    ("lockReleasesTotal", .number (Nat.repr m.locks.lockReleasesTotal)),
    ("lockReleasesFailed", .number (Nat.repr m.locks.lockReleasesFailed)),
    ("activeLocks", .number m.locks.activeLocks.repr),
    ("concurrentRouteDedupes", .number (Nat.repr m.locks.concurrentRouteDedupes)),
    ("uptimeSeconds", .number m.uptimeSeconds.repr)]

/-- The body of `GET /metrics` for a scraper. -/
def prometheus (m : Metrics) : String :=
  joinLines [
    "# HELP xstreamroll_messages_processed_total Total messages processed by the worker",
    "# TYPE xstreamroll_messages_processed_total counter",
    "xstreamroll_messages_processed_total " ++ Nat.repr m.messagesProcessed,
    "# HELP xstreamroll_errors_total Total errors encountered by the worker",
    "# TYPE xstreamroll_errors_total counter",
    "xstreamroll_errors_total " ++ Nat.repr m.errors,
    "# HELP xstreamroll_queue_depth Current queue depth of the worker",
    "# TYPE xstreamroll_queue_depth gauge",
    "xstreamroll_queue_depth " ++ Nat.repr m.queueDepth,
    "# HELP xstreamroll_uptime_seconds Uptime of the worker in seconds",
    "# TYPE xstreamroll_uptime_seconds gauge",
    "xstreamroll_uptime_seconds " ++ m.uptimeSeconds.repr,
    "# HELP xstreamroll_lock_acquisitions_total Total lock acquisitions attempted",
    "# TYPE xstreamroll_lock_acquisitions_total counter",
    "xstreamroll_lock_acquisitions_total " ++ Nat.repr m.locks.lockAcquisitionsTotal,
    "# HELP xstreamroll_lock_acquisitions_denied " ++
      "Total lock acquisitions denied (another worker owns stream)",
    "# TYPE xstreamroll_lock_acquisitions_denied counter",
    "xstreamroll_lock_acquisitions_denied " ++ Nat.repr m.locks.lockAcquisitionsDenied,
    "# HELP xstreamroll_lock_renewals_total Total lock renewals attempted",
    "# TYPE xstreamroll_lock_renewals_total counter",
    "xstreamroll_lock_renewals_total " ++ Nat.repr m.locks.lockRenewalsTotal,
    "# HELP xstreamroll_lock_renewals_failed Total lock renewals that failed (lock lost)",
    "# TYPE xstreamroll_lock_renewals_failed counter",
    "xstreamroll_lock_renewals_failed " ++ Nat.repr m.locks.lockRenewalsFailed,
    "# HELP xstreamroll_lock_releases_total Total lock releases attempted",
    "# TYPE xstreamroll_lock_releases_total counter",
    "xstreamroll_lock_releases_total " ++ Nat.repr m.locks.lockReleasesTotal,
    "# HELP xstreamroll_lock_releases_failed Total lock releases that failed",
    "# TYPE xstreamroll_lock_releases_failed counter",
    "xstreamroll_lock_releases_failed " ++ Nat.repr m.locks.lockReleasesFailed,
    "# HELP xstreamroll_active_locks Current number of active locks held",
    "# TYPE xstreamroll_active_locks gauge",
    "xstreamroll_active_locks " ++ m.locks.activeLocks.repr,
    "# HELP xstreamroll_concurrent_route_dedupes Total concurrent route() calls deduplicated",
    "# TYPE xstreamroll_concurrent_route_dedupes counter",
    "xstreamroll_concurrent_route_dedupes " ++ Nat.repr m.locks.concurrentRouteDedupes] ++ "\n"

end Metrics

/-! ## The process -/

/-- The counting functions that the worker calls. -/
inductive Count
  | incrementProcessed
  | incrementErrors
  | setQueueDepth (depth : Nat)
  | incrementLockAcquisitions
  | incrementLockAcquisitionsDenied
  | incrementLockRenewals
  | incrementLockRenewalsFailed
  | incrementLockReleases
  | incrementLockReleasesFailed
  | incrementConcurrentRouteDedupes
  deriving DecidableEq, Repr

namespace Counters

def zero : Counters := ⟨0, 0, 0, .zero⟩

def count (c : Counters) : Count → Counters
  | .incrementProcessed => { c with messagesProcessed := c.messagesProcessed + 1 }
  | .incrementErrors => { c with errors := c.errors + 1 }
  | .setQueueDepth depth => { c with queueDepth := depth }
  | .incrementLockAcquisitions => { c with locks := c.locks.incrementLockAcquisitions }
  | .incrementLockAcquisitionsDenied => { c with locks := c.locks.incrementLockAcquisitionsDenied }
  | .incrementLockRenewals => { c with locks := c.locks.incrementLockRenewals }
  | .incrementLockRenewalsFailed => { c with locks := c.locks.incrementLockRenewalsFailed }
  | .incrementLockReleases => { c with locks := c.locks.incrementLockReleases }
  | .incrementLockReleasesFailed => { c with locks := c.locks.incrementLockReleasesFailed }
  | .incrementConcurrentRouteDedupes =>
    { c with locks := c.locks.incrementConcurrentRouteDedupes }

end Counters

structure MetricsServer where
  counters : Counters
  live : Bool
  startTime : Date
  now : Date

namespace MetricsServer

inductive Action
  | count (call : Count)
  | tick (ms : Nat)
  | markShuttingDown
  | markReady
  deriving DecidableEq, Repr

/-- The module has just been loaded. -/
def started (now : Date) : MetricsServer := ⟨.zero, true, now, now⟩

def step (s : MetricsServer) : Action → Option MetricsServer
  | .count call => some { s with counters := s.counters.count call }
  | .tick ms => some { s with now := ⟨s.now.getTime + ms⟩ }
  | .markShuttingDown => some { s with live := false }
  | .markReady => some { s with live := true }

def getMetrics (s : MetricsServer) : Metrics :=
  { s.counters with uptimeSeconds := (s.now.getTime - s.startTime.getTime) / 1000 }

def json (status : Nat) (body : Json) : MetricsResponse :=
  ⟨status, some "application/json", body.stringify⟩

def wantsJson (request : MetricsRequest) : Bool :=
  decide ("application/json".toList <:+: request.accept.toList) &&
    !decide ("text/plain".toList <:+: request.accept.toList) &&
    !decide ("*/*".toList <:+: request.accept.toList)

/-- `deadLetters` is what `list` of the dead-letter store gives, if there is a store. -/
def handle (deadLetters : Option (Except Unit (List Json))) (request : MetricsRequest)
    (s : MetricsServer) : MetricsResponse :=
  let ok := Json.object [("status", .string "ok"), ("timestamp", .string s.now.toISOString)]
  let unavailable := Json.object [("error", .string "dead-letter store unavailable")]
  if request.method = "GET" then
    if request.url = "/livez" then json 200 ok
    else if request.url = "/healthz" ∨ request.url = "/health" then
      if s.live then json 200 ok else json 503 (.object [("status", .string "shutting-down")])
    else if request.url = "/metrics/json" then json 200 s.getMetrics.toJson
    else if request.url = "/dead-letters" ∨ request.url = "/dead-letters/" then
      match deadLetters with
      | none => json 503 unavailable
      | some (.ok records) => json 200 (.array records)
      | some (.error ()) => json 500 unavailable
    else if request.url = "/metrics" ∨ request.url = "/metrics/" ∨
        request.url = "/metrics/prometheus" then
      if wantsJson request then json 200 s.getMetrics.toJson
      else ⟨200, some "text/plain; version=0.0.4", s.getMetrics.prometheus⟩
    else ⟨404, none, ""⟩
  else ⟨404, none, ""⟩

/-! ## What a history counts -/

/-- How often a function has been called. -/
def calls (call : Count) (as : List Action) : Nat := as.count (.count call)

def Action.depth? : Action → Option Nat
  | .count (.setQueueDepth depth) => some depth
  | _ => none

/-- What `setQueueDepth` has been called with last. -/
def lastDepth (as : List Action) : Nat := (as.filterMap Action.depth?).getLast?.getD 0

def Action.elapsed : Action → Nat
  | .tick ms => ms
  | _ => 0

/-- The milliseconds that have passed. -/
def elapsed (as : List Action) : Nat := (as.map Action.elapsed).sum

/-- The samples of a scrape at the end of a history. -/
def samples (as : List Action) : List (String × Int) :=
  [("xstreamroll_messages_processed_total", calls .incrementProcessed as),
    ("xstreamroll_errors_total", calls .incrementErrors as),
    ("xstreamroll_queue_depth", lastDepth as),
    ("xstreamroll_uptime_seconds", elapsed as / 1000),
    ("xstreamroll_lock_acquisitions_total", calls .incrementLockAcquisitions as),
    ("xstreamroll_lock_acquisitions_denied", calls .incrementLockAcquisitionsDenied as),
    ("xstreamroll_lock_renewals_total", calls .incrementLockRenewals as),
    ("xstreamroll_lock_renewals_failed", calls .incrementLockRenewalsFailed as),
    ("xstreamroll_lock_releases_total", calls .incrementLockReleases as),
    ("xstreamroll_lock_releases_failed", calls .incrementLockReleasesFailed as),
    ("xstreamroll_active_locks", calls .incrementLockAcquisitions as -
      calls .incrementLockRenewalsFailed as - calls .incrementLockReleases as),
    ("xstreamroll_concurrent_route_dedupes", calls .incrementConcurrentRouteDedupes as)]

/-- The counter that a function counts in. -/
def tally (c : Counters) : Count → Nat
  | .incrementProcessed => c.messagesProcessed
  | .incrementErrors => c.errors
  | .setQueueDepth _ => 0
  | .incrementLockAcquisitions => c.locks.lockAcquisitionsTotal
  | .incrementLockAcquisitionsDenied => c.locks.lockAcquisitionsDenied
  | .incrementLockRenewals => c.locks.lockRenewalsTotal
  | .incrementLockRenewalsFailed => c.locks.lockRenewalsFailed
  | .incrementLockReleases => c.locks.lockReleasesTotal
  | .incrementLockReleasesFailed => c.locks.lockReleasesFailed
  | .incrementConcurrentRouteDedupes => c.locks.concurrentRouteDedupes

variable {s t : MetricsServer} {a : Action} {as : List Action} {now : Date}

theorem tally_count (c : Counters) (called : Count) {call : Count}
    (counts : ∀ depth, call ≠ .setQueueDepth depth) :
    tally (c.count called) call = tally c call + if called = call then 1 else 0 := by
  cases call with
  | setQueueDepth depth => exact absurd rfl (counts depth)
  | _ => cases called <;> rfl

theorem step_tally (h : s.step a = some t) {call : Count}
    (counts : ∀ depth, call ≠ .setQueueDepth depth) :
    tally t.counters call = tally s.counters call + calls call [a] := by
  cases a with
  | count called =>
    obtain rfl := Option.some.inj h
    rw [calls, List.count_singleton]
    simpa using tally_count s.counters called counts
  | tick ms | markShuttingDown | markReady =>
    obtain rfl := Option.some.inj h
    rw [calls, List.count_singleton]
    rfl

theorem run_tally (h : run step s as = some t) {call : Count}
    (counts : ∀ depth, call ≠ .setQueueDepth depth) :
    tally t.counters call = tally s.counters call + calls call as := by
  induction as generalizing s with
  | nil =>
    obtain rfl := Option.some.inj h
    rfl
  | cons a as ih =>
    obtain ⟨r, hr, hrt⟩ := run_cons_eq_some.mp h
    have more : calls call ([a] ++ as) = calls call [a] + calls call as := List.count_append
    rw [List.singleton_append] at more
    rw [ih hrt, step_tally hr counts, more, Nat.add_assoc]

/-- The gauge of the locks goes with three of the counters. -/
def Balanced (s : MetricsServer) : Prop :=
  s.counters.locks.activeLocks = s.counters.locks.lockAcquisitionsTotal -
    s.counters.locks.lockRenewalsFailed - s.counters.locks.lockReleasesTotal

theorem step_balanced (hs : s.Balanced) (h : s.step a = some t) : t.Balanced := by
  unfold Balanced at hs ⊢
  cases a with
  | count called =>
    obtain rfl := Option.some.inj h
    cases called <;>
      simp only [Counters.count, LockMetrics.incrementLockAcquisitions,
        LockMetrics.incrementLockAcquisitionsDenied, LockMetrics.incrementLockRenewals,
        LockMetrics.incrementLockRenewalsFailed, LockMetrics.incrementLockReleases,
        LockMetrics.incrementLockReleasesFailed, LockMetrics.incrementConcurrentRouteDedupes] <;>
      omega
  | tick ms | markShuttingDown | markReady =>
    obtain rfl := Option.some.inj h
    exact hs

theorem step_queueDepth (h : s.step a = some t) :
    t.counters.queueDepth = a.depth?.getD s.counters.queueDepth := by
  cases a with
  | count called =>
    obtain rfl := Option.some.inj h
    cases called <;> rfl
  | tick ms | markShuttingDown | markReady =>
    obtain rfl := Option.some.inj h
    rfl

theorem run_queueDepth (h : run step s as = some t) :
    t.counters.queueDepth = (as.filterMap Action.depth?).getLast?.getD s.counters.queueDepth := by
  induction as generalizing s with
  | nil =>
    obtain rfl := Option.some.inj h
    rfl
  | cons a as ih =>
    obtain ⟨r, hr, hrt⟩ := run_cons_eq_some.mp h
    rw [ih hrt, step_queueDepth hr, List.filterMap_cons]
    cases a.depth? with
    | none => rfl
    | some depth => rw [Option.getD_some, List.getLast?_cons, Option.getD_some]

theorem run_clock (h : run step s as = some t) :
    t.startTime = s.startTime ∧ t.now.getTime = s.now.getTime + elapsed as := by
  induction as generalizing s with
  | nil =>
    obtain rfl := Option.some.inj h
    exact ⟨rfl, (Int.add_zero _).symm⟩
  | cons a as ih =>
    obtain ⟨r, hr, hrt⟩ := run_cons_eq_some.mp h
    have first : r.startTime = s.startTime ∧ r.now.getTime = s.now.getTime + a.elapsed := by
      cases a <;> obtain rfl := Option.some.inj hr <;> simp [Action.elapsed]
    have more : elapsed (a :: as) = a.elapsed + elapsed as := by simp [elapsed]
    obtain ⟨start, clock⟩ := ih hrt
    refine ⟨start.trans first.1, ?_⟩
    rw [clock, first.2, more]
    omega

/-! ## What a scraper reads -/

def families (m : Metrics) : List Exposition.Family :=
  [⟨"xstreamroll_messages_processed_total", "Total messages processed by the worker", "counter",
      m.messagesProcessed⟩,
    ⟨"xstreamroll_errors_total", "Total errors encountered by the worker", "counter", m.errors⟩,
    ⟨"xstreamroll_queue_depth", "Current queue depth of the worker", "gauge", m.queueDepth⟩,
    ⟨"xstreamroll_uptime_seconds", "Uptime of the worker in seconds", "gauge", m.uptimeSeconds⟩,
    ⟨"xstreamroll_lock_acquisitions_total", "Total lock acquisitions attempted", "counter",
      m.locks.lockAcquisitionsTotal⟩,
    ⟨"xstreamroll_lock_acquisitions_denied",
      "Total lock acquisitions denied (another worker owns stream)", "counter",
      m.locks.lockAcquisitionsDenied⟩,
    ⟨"xstreamroll_lock_renewals_total", "Total lock renewals attempted", "counter",
      m.locks.lockRenewalsTotal⟩,
    ⟨"xstreamroll_lock_renewals_failed", "Total lock renewals that failed (lock lost)", "counter",
      m.locks.lockRenewalsFailed⟩,
    ⟨"xstreamroll_lock_releases_total", "Total lock releases attempted", "counter",
      m.locks.lockReleasesTotal⟩,
    ⟨"xstreamroll_lock_releases_failed", "Total lock releases that failed", "counter",
      m.locks.lockReleasesFailed⟩,
    ⟨"xstreamroll_active_locks", "Current number of active locks held", "gauge",
      m.locks.activeLocks⟩,
    ⟨"xstreamroll_concurrent_route_dedupes", "Total concurrent route() calls deduplicated",
      "counter", m.locks.concurrentRouteDedupes⟩]

theorem repr_natCast (n : Nat) : (n : Int).repr = n.repr := rfl

section

-- A line that is one literal is put together from the characters of its parts: to have the
-- kernel append the texts themselves takes far longer.
variable {l a b c d : List Char}

theorem ofList_append_two (s : String) (h : l = a ++ b) :
    String.ofList l ++ s = String.ofList a ++ String.ofList b ++ s := by
  rw [h, String.ofList_append]

theorem ofList_append_three (s : String) (h : l = a ++ b ++ c) :
    String.ofList l ++ s = String.ofList a ++ String.ofList b ++ String.ofList c ++ s := by
  rw [h, String.ofList_append, String.ofList_append]

theorem ofList_append_four (h : l = a ++ b ++ c ++ d) :
    String.ofList l = String.ofList a ++ String.ofList b ++ String.ofList c ++ String.ofList d := by
  rw [h, String.ofList_append, String.ofList_append, String.ofList_append]

end

theorem prometheus_eq (m : Metrics) : m.prometheus = Exposition.write (families m) := by
  simp only [Metrics.prometheus, Exposition.write, families, Exposition.Family.lines, repr_natCast,
    List.flatMap_cons, List.flatMap_nil, List.cons_append, List.nil_append, -String.reduceAppend]
  apply congrArg (· ++ "\n")
  apply congrArg joinLines
  simp only [List.cons.injEq, and_true, -String.reduceAppend, -String.reduceEq]
  and_intros
  all_goals with_reducible first
    | exact ofList_append_four (by decide +kernel)
    | exact ofList_append_two _ (by decide +kernel)
    | exact ofList_append_three _ (by decide +kernel)

theorem families_wellFormed (m : Metrics) : ∀ family ∈ families m, family.WellFormed := by
  simp only [families, List.forall_mem_cons]
  refine ⟨?_, ?_, ?_, ?_, ?_, ?_, ?_, ?_, ?_, ?_, ?_, ?_, List.forall_mem_nil _⟩
  all_goals exact Exposition.Family.wellFormed_ofList (by decide +kernel)

def sampled : Exposition.Entry → Option (String × Int)
  | .sample name value => some (name, value)
  | _ => none

theorem sampled_families (m : Metrics) :
    ((families m).flatMap Exposition.Family.entries).filterMap sampled =
      (families m).map fun family => (family.name, family.value) := rfl

theorem run_samples (h : run step (started now) as = some s) :
    ((families s.getMetrics).map fun family => (family.name, family.value)) = samples as := by
  have counted (call : Count) (counts : ∀ depth, call ≠ .setQueueDepth depth) :
      tally s.counters call = calls call as := by
    have start : tally (started now).counters call = 0 := by cases call <;> rfl
    rw [run_tally h counts, start, Nat.zero_add]
  have fresh : (started now).Balanced := rfl
  have locks : s.Balanced := run_invariant (fun _ _ _ hs hst => step_balanced hs hst) fresh h
  rw [Balanced] at locks
  obtain ⟨start, clock⟩ := run_clock h
  have uptime : s.getMetrics.uptimeSeconds = elapsed as / 1000 := by
    show (s.now.getTime - s.startTime.getTime) / 1000 = _
    rw [clock, start]
    have passed : now.getTime + elapsed as - now.getTime = elapsed as := by omega
    exact congrArg (· / 1000) passed
  have depth : s.counters.queueDepth = lastDepth as := run_queueDepth h
  have processed : s.counters.messagesProcessed = calls .incrementProcessed as :=
    counted .incrementProcessed nofun
  have errors : s.counters.errors = calls .incrementErrors as := counted .incrementErrors nofun
  have acquisitions : s.counters.locks.lockAcquisitionsTotal = calls .incrementLockAcquisitions as :=
    counted .incrementLockAcquisitions nofun
  have denied : s.counters.locks.lockAcquisitionsDenied =
      calls .incrementLockAcquisitionsDenied as := counted .incrementLockAcquisitionsDenied nofun
  have renewals : s.counters.locks.lockRenewalsTotal = calls .incrementLockRenewals as :=
    counted .incrementLockRenewals nofun
  have failed : s.counters.locks.lockRenewalsFailed = calls .incrementLockRenewalsFailed as :=
    counted .incrementLockRenewalsFailed nofun
  have releases : s.counters.locks.lockReleasesTotal = calls .incrementLockReleases as :=
    counted .incrementLockReleases nofun
  have unreleased : s.counters.locks.lockReleasesFailed = calls .incrementLockReleasesFailed as :=
    counted .incrementLockReleasesFailed nofun
  have dedupes : s.counters.locks.concurrentRouteDedupes =
      calls .incrementConcurrentRouteDedupes as := counted .incrementConcurrentRouteDedupes nofun
  have same : s.getMetrics.toCounters = s.counters := rfl
  simp only [families, List.map_cons, List.map_nil, samples, same, uptime, locks, depth, processed,
    errors, acquisitions, denied, renewals, failed, releases, unreleased, dedupes]

/-- A scrape, at the end of any history of the process, tells how often each function has been
called, what the depth of the queue was set to last, and how many seconds have passed. -/
theorem scrape_tells (h : run step (started now) as = some s) (request : MetricsRequest)
    (method : request.method = "GET")
    (url : request.url ∈ ["/metrics", "/metrics/", "/metrics/prometheus"])
    (text : wantsJson request = false) (deadLetters : Option (Except Unit (List Json))) :
    (handle deadLetters request s).status = 200 ∧
      (Exposition.read (handle deadLetters request s).body).map (List.filterMap sampled) =
        some (samples as) := by
  have answer : handle deadLetters request s =
      ⟨200, some "text/plain; version=0.0.4", s.getMetrics.prometheus⟩ := by
    simp only [List.mem_cons, List.not_mem_nil, or_false] at url
    rcases url with url | url | url <;> simp [handle, method, url, text]
  rw [answer]
  refine ⟨rfl, ?_⟩
  rw [prometheus_eq, Exposition.read_write (families_wellFormed s.getMetrics), Option.map_some,
    sampled_families, run_samples h]

/-- A worker that has taken a lock, lost it again, and processed one event in between. -/
def lockLost : List Action :=
  [.count .incrementLockAcquisitions, .count (.setQueueDepth 2), .tick 2500,
    .count .incrementProcessed, .count (.setQueueDepth 1), .markShuttingDown,
    .count .incrementLockRenewalsFailed]

theorem scrape_tells_lockLost :
    ∃ s, run step (started ⟨0⟩) lockLost = some s ∧
      (Exposition.read (handle none ⟨"GET", "/metrics", "*/*"⟩ s).body).map
          (List.filterMap sampled) =
        some [("xstreamroll_messages_processed_total", 1), ("xstreamroll_errors_total", 0),
          ("xstreamroll_queue_depth", 1), ("xstreamroll_uptime_seconds", 2),
          ("xstreamroll_lock_acquisitions_total", 1), ("xstreamroll_lock_acquisitions_denied", 0),
          ("xstreamroll_lock_renewals_total", 0), ("xstreamroll_lock_renewals_failed", 1),
          ("xstreamroll_lock_releases_total", 0), ("xstreamroll_lock_releases_failed", 0),
          ("xstreamroll_active_locks", 0), ("xstreamroll_concurrent_route_dedupes", 0)] := by
  have ends : ∃ s, run step (started ⟨0⟩) lockLost = some s := ⟨_, rfl⟩
  obtain ⟨s, h⟩ := ends
  exact ⟨s, h, (scrape_tells h _ rfl (by decide) (by decide) none).2⟩

end MetricsServer

end Processing
end XStreamRoll
