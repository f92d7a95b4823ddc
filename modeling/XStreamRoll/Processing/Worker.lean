/-
The worker process: the poll loop over `GET /streams/pending`, the filter and the
registry, beside the table that the API serves the pages from.

`pollOnce()` awaits its request and every `route()`, so it is a sequence of steps
that anything else of the process may come between.  A `PollFrame` says where it
stands.  The API reads the table in one statement, between the worker sending
the request and the worker getting the response.
-/
import Mathlib.Data.List.AList
import XStreamRoll.Api.PendingEvents
import XStreamRoll.Processing.SessionRegistry

namespace XStreamRoll
namespace Processing

variable {Data : Type}

/-- What the platform does with texts and payloads. -/
structure Platform (Data : Type) where
  /-- How Postgres reads the timestamp of a cursor. -/
  readTimestamptz : String → Option Timestamptz
  /-- `Date.parse`, `none` for `NaN`. -/
  parseDate : String → Option Int
  /-- `data["type"]`, when it is a string. -/
  typeOf : Data → Option String

/-! ## The filter -/

structure EventFilter where
  /-- The `blockedEventTypes` of each stream that has a config. -/
  configs : AList fun _ : String => List String

inductive FilterChange where
  | set (streamId : String) (blockedEventTypes : List String)
  | clear (streamId : String)

namespace EventFilter

def allow (platform : Platform Data) (event : StreamEvent Data) (filter : EventFilter) : Bool :=
  match filter.configs.lookup event.streamId with
  | none => true
  | some blockedEventTypes =>
    match platform.typeOf event.data with
    | none => true
    | some eventType => !blockedEventTypes.contains eventType

def applyChange (filter : EventFilter) : FilterChange → EventFilter
  | .set streamId blockedEventTypes => ⟨filter.configs.insert streamId blockedEventTypes⟩
  | .clear streamId => ⟨filter.configs.erase streamId⟩

end EventFilter

/-! ## The poll loop -/

/-- The body of a response: paginated, or the plain array of the old format. -/
inductive PendingResponse (Data : Type) where
  | paginated (data : List (Api.PendingStreamEvent Data)) (nextCursor : Option String)
  | legacy (data : List (Api.PendingStreamEvent Data))

def PendingResponse.read (pollBatchSize : Nat) :
    PendingResponse Data → List (Api.PendingStreamEvent Data) × Option String
  | .paginated data nextCursor => (data, nextCursor)
  | .legacy data => (data, if data.length < pollBatchSize then none else some "{}")

/-- An event of the response, as the worker uses it. -/
def StreamEvent.ofPending (platform : Platform Data) (e : Api.PendingStreamEvent Data) :
    StreamEvent Data where
  id := some e.id
  streamId := e.streamId
  data := e.data
  timestamp := ⟨e.timestamp, platform.parseDate e.timestamp⟩

/-- Where `pollOnce()` stands. -/
inductive PollFrame (Data : Type) where
  /-- The request for the page after the cursor is on its way. -/
  | requested (cursor : Option String)
  /-- The response is on its way. -/
  | responded (response : Except String (PendingResponse Data))
  /-- The loop over `events`, of which `remaining` are still to come. -/
  | routing (remaining events : List (StreamEvent Data)) (nextCursor : Option String)

structure WorkerSettings where
  pollBatchSize : Nat
  highWatermark : Nat
deriving DecidableEq, Repr

structure Worker (Data : Type) where
  settings : WorkerSettings
  filter : EventFilter
  registry : SessionRegistry Data
  shuttingDown : Bool
  /-- The `pollOnce()` under way. -/
  poll : Option (PollFrame Data)
  /-- The table `stream_data` of the API. -/
  table : Api.StreamData Data
  /-- Every event that a loop over a page has come to. -/
  seen : List (StreamEvent Data)

/-- The environment variables that `start()` reads. -/
structure Env where
  workerId : String
  maxConcurrentSessions : Nat
  maxQueueDepth : Nat
  pollBatchSize : Nat
  maxPublishRetries : Nat
  lockTtlMs : Nat

namespace Worker

/-- A worker before its first poll. -/
def initial (settings : WorkerSettings) (filter : EventFilter) (registry : SessionRegistry Data)
    (table : Api.StreamData Data) : Worker Data where
  settings := settings
  filter := filter
  registry := registry
  shuttingDown := false
  poll := none
  table := table
  seen := []

def start (env : Env) (filter : EventFilter) (table : Api.StreamData Data) :
    Except String (Worker Data) :=
  let maxConcurrentSessions := max 1 env.maxConcurrentSessions
  let maxQueueDepth := max 1 env.maxQueueDepth
  let options : SessionRegistryOptions := {
    maxConcurrentSessions := maxConcurrentSessions
    ttlMs := env.lockTtlMs
    heartbeatMs := none
    maxQueueDepth := some maxQueueDepth
    maxPublishRetries := some env.maxPublishRetries
    hasDeadLetter := true }
  (SessionRegistry.create env.workerId options).map fun registry =>
    initial ⟨env.pollBatchSize, maxConcurrentSessions * maxQueueDepth⟩ filter registry table

/-- The registry is at the high watermark. -/
def AtHighWatermark (w : Worker Data) : Prop :=
  w.settings.highWatermark ≤ w.registry.totalQueueDepth

instance (w : Worker Data) : Decidable w.AtHighWatermark := inferInstanceAs (Decidable (_ ≤ _))

/-- `pollOnce()` up to its first request. -/
def pollOnce (w : Worker Data) : Worker Data :=
  if w.AtHighWatermark then w else { w with poll := some (.requested none) }

/-- The API answers the request from the table as it is now. -/
def serve (platform : Platform Data) (w : Worker Data) : Option (Worker Data) :=
  match w.poll with
  | some (.requested cursor) =>
    let response := Api.getPending platform.readTimestamptz w.table w.settings.pollBatchSize cursor
    some { w with poll := some (.responded
      (response.map fun page => .paginated page.1 page.2)) }
  | _ => none

/-- The request fails on its way. -/
def failRequest (message : String) (w : Worker Data) : Option (Worker Data) :=
  match w.poll with
  | some (.requested _) => some { w with poll := some (.responded (.error message)) }
  | _ => none

/-- The response arrives.  An error ends the cycle. -/
def receive (platform : Platform Data) (w : Worker Data) : Option (Worker Data) :=
  match w.poll with
  | some (.responded (.error _)) => some { w with poll := none }
  | some (.responded (.ok response)) =>
    let page := response.read w.settings.pollBatchSize
    let events := page.1.map (.ofPending platform)
    some { w with poll := some (.routing events events page.2) }
  | _ => none

/-- The next event of the page, once the last `route()` is over: drop it when it is
malformed or filtered, and route it otherwise. -/
def routeNext (platform : Platform Data) (now : Date) (w : Worker Data) : Option (Worker Data) :=
  match w.poll, w.registry.routes with
  | some (.routing (event :: remaining) events nextCursor), [] =>
    let w := { w with
      poll := some (.routing remaining events nextCursor)
      seen := w.seen ++ [event] }
    if event.streamId = "" then some w
    else if w.filter.allow platform event = false then some w
    else some { w with registry := w.registry.route now event }
  | _, _ => none

/-- The end of the page: go on to the next one, or stop paging. -/
def turnPage (w : Worker Data) : Option (Worker Data) :=
  match w.poll, w.registry.routes with
  | some (.routing [] events nextCursor), [] =>
    if nextCursor = none ∨ events.length < w.settings.pollBatchSize ∨ w.AtHighWatermark then
      some { w with poll := none }
    else if w.shuttingDown then some { w with poll := none }
    else some { w with poll := some (.requested nextCursor) }
  | _, _ => none

/-- The steps that a registry takes on its own.  Nothing in the worker stops or fails
a session from outside, and only `pollOnce()` routes. -/
def Internal : SessionRegistry.Action Data → Bool
  | .route .. | .stop .. | .fail .. | .drainAll _ => false
  | _ => true

/-- `INSERT INTO stream_data`, under a fresh id. -/
def insert (row : Api.StreamDataRow Data) (w : Worker Data) : Option (Worker Data) :=
  if h : row.id ∉ w.table.rows.map (·.id) then
    some { w with table := ⟨w.table.rows ++ [row], by
      rw [List.map_append, List.map_singleton]
      exact List.nodup_append_comm.mp (List.nodup_cons.mpr ⟨h, w.table.primaryKey⟩)⟩ }
  else none

inductive Action (Data : Type) where
  | pollOnce
  | serve
  | failRequest (message : String)
  | receive
  | routeNext (now : Date)
  | turnPage
  | registry (a : SessionRegistry.Action Data)
  | filterChange (change : FilterChange)
  | insert (row : Api.StreamDataRow Data)
  | shutdown
  /-- The drain hook, which waits for the poll loop to end. -/
  | drainAll (now : Date)

def step (platform : Platform Data) (w : Worker Data) : Action Data → Option (Worker Data)
  | .pollOnce => if w.poll.isNone ∧ w.shuttingDown = false then some w.pollOnce else none
  | .serve => w.serve platform
  | .failRequest message => w.failRequest message
  | .receive => w.receive platform
  | .routeNext now => w.routeNext platform now
  | .turnPage => w.turnPage
  | .registry a =>
    if Internal a then (w.registry.step a).map fun registry => { w with registry := registry }
    else none
  | .filterChange change => some { w with filter := w.filter.applyChange change }
  | .insert row => w.insert row
  | .shutdown => some { w with shuttingDown := true }
  | .drainAll now =>
    if w.poll.isNone ∧ w.shuttingDown = true then
      some { w with registry := w.registry.drainAll now }
    else none

/-- The event that the step hands to `route()`. -/
def routed (platform : Platform Data) (w : Worker Data) : Action Data → Option (StreamEvent Data)
  | .routeNext _ => match w.poll with
    | some (.routing (event :: _) _ _) =>
      if event.streamId = "" ∨ w.filter.allow platform event = false then none else some event
    | _ => none
  | _ => none

/-- What the step does to the registry, if anything. -/
def act (platform : Platform Data) (w : Worker Data) :
    Action Data → Option (SessionRegistry.Action Data)
  | .routeNext now => (w.routed platform (.routeNext now)).map (.route now)
  | .registry a => some a
  | .drainAll now => some (.drainAll now)
  | _ => none

theorem routeNext_cases {platform : Platform Data} {w w' : Worker Data} {now : Date}
    (h : w.routeNext platform now = some w') :
    ∃ event remaining events nextCursor,
      w.poll = some (.routing (event :: remaining) events nextCursor) ∧
      w.registry.routes = [] ∧ w'.poll = some (.routing remaining events nextCursor) ∧
      w'.seen = w.seen ++ [event] ∧ w'.table = w.table ∧ w'.settings = w.settings ∧
      w'.filter = w.filter ∧ w'.shuttingDown = w.shuttingDown ∧
      (w.routed platform (.routeNext now) = none ∧ w'.registry = w.registry ∨
        w.routed platform (.routeNext now) = some event ∧
          w'.registry = w.registry.route now event) := by
  unfold routeNext at h
  split at h
  · next event remaining events nextCursor hpoll hroutes =>
    refine ⟨event, remaining, events, nextCursor, hpoll, hroutes, ?_⟩
    simp only at h
    split at h
    · next hempty =>
      rw [Option.some.injEq] at h
      subst h
      refine ⟨rfl, rfl, rfl, rfl, rfl, rfl, .inl ⟨?_, rfl⟩⟩
      rw [routed, hpoll]
      exact if_pos (.inl hempty)
    · next hne =>
      split at h
      · next hblocked =>
        rw [Option.some.injEq] at h
        subst h
        refine ⟨rfl, rfl, rfl, rfl, rfl, rfl, .inl ⟨?_, rfl⟩⟩
        rw [routed, hpoll]
        exact if_pos (.inr hblocked)
      · next hallowed =>
        rw [Option.some.injEq] at h
        subst h
        refine ⟨rfl, rfl, rfl, rfl, rfl, rfl, .inr ⟨?_, rfl⟩⟩
        rw [routed, hpoll]
        exact if_neg (not_or.mpr ⟨hne, hallowed⟩)
  · cases h

/-- A step of the worker is at most one step of its registry. -/
theorem step_registry {platform : Platform Data} {w w' : Worker Data} {a : Action Data}
    (h : w.step platform a = some w') :
    w.act platform a = none ∧ w'.registry = w.registry ∨
      ∃ b, w.act platform a = some b ∧ w.registry.step b = some w'.registry := by
  cases a with
  | routeNext now =>
    obtain ⟨event, -, -, -, -, -, -, -, -, -, -, -, hcases⟩ := routeNext_cases h
    rcases hcases with ⟨hnone, hsame⟩ | ⟨hsome, hroute⟩
    · exact .inl ⟨by rw [act, hnone]; rfl, hsame⟩
    · refine .inr ⟨.route now event, by rw [act, hsome]; rfl, ?_⟩
      rw [hroute]
      rfl
  | registry b =>
    simp only [step] at h
    split at h
    · obtain ⟨r, hr, rfl⟩ := Option.map_eq_some_iff.mp h
      exact .inr ⟨b, rfl, hr⟩
    · cases h
  | drainAll now =>
    simp only [step] at h
    split at h
    · rw [Option.some.injEq] at h
      subst h
      exact .inr ⟨.drainAll now, rfl, rfl⟩
    · cases h
  | pollOnce =>
    simp only [step] at h
    split at h
    · rw [Option.some.injEq] at h
      subst h
      refine .inl ⟨rfl, ?_⟩
      unfold pollOnce
      split <;> rfl
    · cases h
  | serve | failRequest | receive | turnPage | insert =>
    refine .inl ⟨rfl, ?_⟩
    grind [step, serve, failRequest, receive, turnPage, insert]
  | filterChange | shutdown =>
    simp only [step, Option.some.injEq] at h
    subst h
    exact .inl ⟨rfl, rfl⟩

/-- The worker has just been started. -/
structure Initial (w : Worker Data) : Prop where
  registry : ∃ workerId options heartbeatMs,
    w.registry = SessionRegistry.initial workerId options heartbeatMs
  poll : w.poll = none
  seen : w.seen = []
  running : w.shuttingDown = false

theorem start_initial {env : Env} {filter : EventFilter} {table : Api.StreamData Data}
    {w : Worker Data} (h : start env filter table = .ok w) : w.Initial := by
  simp only [start, SessionRegistry.create] at h
  split at h
  · cases h
  · simp only [Except.map, Except.ok.injEq] at h
    subst h
    exact ⟨⟨_, _, _, rfl⟩, rfl, rfl, rfl⟩

end Worker

end Processing
end XStreamRoll
