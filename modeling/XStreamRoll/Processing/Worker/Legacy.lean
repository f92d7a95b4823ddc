/-
The poll loop against a server of the old format.

Such a server knows no cursor and answers every request with a plain array.  An array
as long as the batch makes the worker ask for another page, with a cursor that means
nothing, and the other page is the same array.  The loop then ends when the registry
is at its high watermark, which it never is when the events are dropped or their
streams are locked.  A shorter array ends it at the first page.

An item of the array that is no event stands for one with an empty stream id here,
which the loop treats in the same way.
-/
import XStreamRoll.Heap
import XStreamRoll.Lists
import XStreamRoll.Processing.Worker

namespace XStreamRoll
namespace Processing
namespace Worker

open Transition

variable {Data : Type}

/-- The old server answers the request. -/
def serveLegacy (array : List (Api.PendingStreamEvent Data)) (w : Worker Data) :
    Option (Worker Data) :=
  match w.poll with
  | some (.requested _) => some { w with poll := some (.responded (.ok (.legacy array))) }
  | _ => none

/-- The worker, with the old server in place of the API. -/
def stepLegacy (platform : Platform Data) (array : List (Api.PendingStreamEvent Data))
    (w : Worker Data) : Action Data → Option (Worker Data)
  | .serve => w.serveLegacy array
  | .failRequest _ => none
  | a => w.step platform a

def Action.isServe : Action Data → Bool
  | .serve => true
  | _ => false

def Action.isPollOnce : Action Data → Bool
  | .pollOnce => true
  | _ => false

/-- The events that the steps of a run hand to `route()`, in order. -/
def routedEvents (platform : Platform Data) (array : List (Api.PendingStreamEvent Data)) :
    Worker Data → List (Action Data) → List (StreamEvent Data)
  | _, [] => []
  | w, a :: as =>
    match w.stepLegacy platform array a with
    | none => []
    | some w' => (w.routed platform a).toList ++ routedEvents platform array w' as

/-- The array as the worker uses it. -/
def events (platform : Platform Data) (array : List (Api.PendingStreamEvent Data)) :
    List (StreamEvent Data) :=
  array.map (.ofPending platform)

/-- The cycle that begins in `w` makes a bounded number of requests, and routes each event of
the array at most once, whatever else the worker does meanwhile. -/
def CycleEnds (platform : Platform Data) (array : List (Api.PendingStreamEvent Data))
    (w : Worker Data) : Prop :=
  (∃ n, ∀ as w', run (stepLegacy platform array) w.pollOnce as = some w' →
    (∀ a ∈ as, a.isPollOnce = false) → as.countP Action.isServe ≤ n) ∧
  ∀ as w', run (stepLegacy platform array) w.pollOnce as = some w' →
    (∀ a ∈ as, a.isPollOnce = false) →
    (routedEvents platform array w.pollOnce as).Sublist (events platform array)

/-! ## A short array -/

/-- The responses and pages of a cycle are the array, without a next cursor. -/
def FirstPage (array : List (Api.PendingStreamEvent Data)) (w : Worker Data) : Prop :=
  w.settings.pollBatchSize > array.length ∧
    match w.poll with
    | some (.responded response) => response = .ok (.legacy array)
    | some (.routing _ _ nextCursor) => nextCursor = none
    | _ => True

/-- The requests that the cycle has still to make. -/
def requestsLeft (w : Worker Data) : Nat :=
  match w.poll with
  | some (.requested _) => 1
  | _ => 0

/-- The events that the cycle has still to come to. -/
def eventsLeft (platform : Platform Data) (array : List (Api.PendingStreamEvent Data))
    (w : Worker Data) : List (StreamEvent Data) :=
  match w.poll with
  | some (.requested _) | some (.responded _) => events platform array
  | some (.routing remaining _ _) => remaining
  | none => []

variable {platform : Platform Data} {array : List (Api.PendingStreamEvent Data)}
  {w w' : Worker Data} {a : Action Data}

/-- The steps that are none of the poll loop's leave it where it stands. -/
theorem stepLegacy_frame (hs : w.stepLegacy platform array a = some w')
    (ha : match a with
      | .pollOnce | .serve | .receive | .routeNext _ | .turnPage => False
      | _ => True) :
    w'.poll = w.poll ∧ w'.settings = w.settings ∧ w.routed platform a = none := by
  cases a with
  | pollOnce | serve | receive | routeNext | turnPage => exact ha.elim
  | failRequest => cases hs
  | registry b =>
    simp only [stepLegacy, step] at hs
    split at hs
    · obtain ⟨r, -, rfl⟩ := Option.map_eq_some_iff.mp hs
      exact ⟨rfl, rfl, rfl⟩
    · cases hs
  | filterChange | shutdown =>
    simp only [stepLegacy, step, Option.some.injEq] at hs
    subst hs
    exact ⟨rfl, rfl, rfl⟩
  | insert row =>
    simp only [stepLegacy, step, insert] at hs
    split at hs
    · rw [Option.some.injEq] at hs
      subst hs
      exact ⟨rfl, rfl, rfl⟩
    · cases hs
  | drainAll now =>
    simp only [stepLegacy, step] at hs
    split at hs
    · rw [Option.some.injEq] at hs
      subst hs
      exact ⟨rfl, rfl, rfl⟩
    · cases hs

/-- A step stays on the first page.  A request is one of those that were left, and an event
that is routed the next of those that were to come. -/
theorem FirstPage.step (h : w.FirstPage array) (hs : w.stepLegacy platform array a = some w')
    (ha : a.isPollOnce = false) :
    w'.FirstPage array ∧ a.isServe.toNat + w'.requestsLeft ≤ w.requestsLeft ∧
      ((w.routed platform a).toList ++ w'.eventsLeft platform array).Sublist
        (w.eventsLeft platform array) := by
  obtain ⟨hshort, hpage⟩ := h
  have hframe : w'.poll = w.poll → w'.settings = w.settings → w.routed platform a = none →
      a.isServe = false →
      w'.FirstPage array ∧ a.isServe.toNat + w'.requestsLeft ≤ w.requestsLeft ∧
        ((w.routed platform a).toList ++ w'.eventsLeft platform array).Sublist
          (w.eventsLeft platform array) := by
    intro hpoll hsettings hrouted hserve
    rw [FirstPage, requestsLeft, eventsLeft, hpoll, hsettings, hrouted, hserve]
    refine ⟨⟨hshort, hpage⟩, ?_, List.Sublist.refl _⟩
    simp [requestsLeft]
  cases a with
  | pollOnce => cases ha
  | failRequest => cases hs
  | registry | filterChange | insert | shutdown | drainAll =>
    obtain ⟨hpoll, hsettings, hrouted⟩ := stepLegacy_frame hs trivial
    exact hframe hpoll hsettings hrouted rfl
  | serve =>
    simp only [stepLegacy, serveLegacy] at hs
    split at hs
    · next cursor hpoll =>
      rw [Option.some.injEq] at hs
      subst hs
      refine ⟨⟨hshort, rfl⟩, ?_, ?_⟩
      · simp [requestsLeft, hpoll, Action.isServe]
      · simp [eventsLeft, hpoll, routed]
    · cases hs
  | receive =>
    simp only [stepLegacy, Worker.step, receive] at hs
    split at hs
    · next error hpoll =>
      rw [hpoll] at hpage
      cases hpage
    · next response hpoll =>
      rw [hpoll] at hpage
      simp only [Except.ok.injEq] at hpage
      subst hpage
      rw [Option.some.injEq] at hs
      subst hs
      refine ⟨⟨hshort, if_pos hshort⟩, ?_, ?_⟩
      · simp [requestsLeft, hpoll, Action.isServe]
      · simp [eventsLeft, hpoll, routed, events, PendingResponse.read]
    · cases hs
  | routeNext now =>
    obtain ⟨event, remaining, page, nextCursor, hpoll, -, hpoll', -, -, hsettings, -, -, hrouted⟩ :=
      routeNext_cases hs
    rw [hpoll] at hpage
    refine ⟨⟨by rw [hsettings]; exact hshort, by rw [hpoll']; exact hpage⟩, ?_, ?_⟩
    · simp [requestsLeft, hpoll', Action.isServe]
    · rw [eventsLeft, eventsLeft, hpoll, hpoll']
      rcases hrouted with ⟨hnone, -⟩ | ⟨hsome, -⟩
      · rw [hnone]
        exact List.sublist_cons_self event remaining
      · rw [hsome]
        exact List.Sublist.refl _
  | turnPage =>
    simp only [stepLegacy, Worker.step, turnPage] at hs
    split at hs
    · next page nextCursor hpoll hroutes =>
      rw [hpoll] at hpage
      simp only at hpage
      rw [if_pos (.inl hpage), Option.some.injEq] at hs
      subst hs
      refine ⟨⟨hshort, trivial⟩, ?_, ?_⟩
      · simp [requestsLeft, Action.isServe]
      · simp [eventsLeft, routed]
    · cases hs

theorem FirstPage.run {as : List (Action Data)} (h : w.FirstPage array)
    (hs : run (stepLegacy platform array) w as = some w') (ha : ∀ a ∈ as, a.isPollOnce = false) :
    as.countP Action.isServe ≤ w.requestsLeft ∧
      (routedEvents platform array w as).Sublist (w.eventsLeft platform array) := by
  induction as generalizing w with
  | nil => exact ⟨Nat.zero_le _, List.nil_sublist _⟩
  | cons a as ih =>
    obtain ⟨r, hr, hrest⟩ := run_cons_eq_some.mp hs
    obtain ⟨hfirst, hrequests, hevents⟩ := h.step hr (ha a List.mem_cons_self)
    obtain ⟨hlater, hrouted⟩ := ih hfirst hrest fun b hb => ha b (List.mem_cons_of_mem a hb)
    constructor
    · rw [List.countP_cons]
      cases hserve : a.isServe <;>
        simp only [hserve, Bool.toNat_false, Bool.toNat_true] at hrequests <;> simp <;> omega
    · rw [routedEvents, hr]
      exact (List.Sublist.append_left hrouted _).trans hevents

/-- With an array that is shorter than a batch every cycle ends at the first page. -/
theorem cycleEnds_of_short (h : array.length < w.settings.pollBatchSize) (hpoll : w.poll = none) :
    w.CycleEnds platform array := by
  have hfirst : w.pollOnce.FirstPage array := by
    unfold pollOnce
    split
    · exact ⟨h, by rw [hpoll]; trivial⟩
    · exact ⟨h, trivial⟩
  have hevents : (w.pollOnce.eventsLeft platform array).Sublist (events platform array) := by
    unfold pollOnce
    split
    · rw [eventsLeft, hpoll]
      exact List.nil_sublist _
    · exact List.Sublist.refl _
  refine ⟨⟨w.pollOnce.requestsLeft, ?_⟩, ?_⟩
  · exact fun as w' hrun has => (hfirst.run hrun has).1
  · exact fun as w' hrun has => (hfirst.run hrun has).2.trans hevents

end Worker

/-! ## A long array -/

namespace SessionRegistry

open Transition

variable {r : SessionRegistry Data}

/-- No session, no `route()` under way, and room for a session. -/
structure Unused (r : SessionRegistry Data) : Prop where
  sessions : r.sessions = ∅
  routes : r.routes = []
  inflight : ∀ streamId, r.inflightAcquires.lookup streamId = none
  room : 0 < r.options.maxConcurrentSessions

theorem Unused.totalQueueDepth_eq (h : r.Unused) : r.totalQueueDepth = 0 := by
  rw [totalQueueDepth, h.sessions]
  rfl

/-- Another worker has the lock of the stream. -/
def denied (call : Nat) : List (Action Data) :=
  [.acquireAnswered call (.ok none), .settleAcquire call, .resumeRoute ⟨0⟩ 0 ""]

/-- A `route()` that is denied the lock leaves the registry unused. -/
theorem Unused.denied (h : r.Unused) (now : Date) (event : StreamEvent Data) :
    ∃ r', run step (r.route now event) (denied r.acquires.length) = some r' ∧ r'.Unused := by
  have hroute : r.route now event = { r with
      acquires := r.acquires ++ [⟨event.streamId, now, none, false⟩]
      inflightAcquires := r.inflightAcquires.insert event.streamId r.acquires.length
      routes := [⟨event, r.acquires.length⟩] } := by
    have hroom : ¬r.options.maxConcurrentSessions ≤ r.size := by
      rw [size, h.sessions]
      exact Nat.not_le.mpr h.room
    simp only [route, h.sessions, AList.lookup_empty, hroom, if_false, acquireDeduplicated,
      h.inflight, h.routes, List.nil_append]
  let answered : SessionRegistry Data := { r.route now event with
    acquires := r.acquires ++ [⟨event.streamId, now, some (.ok none), false⟩] }
  have hanswered : step (r.route now event) (.acquireAnswered r.acquires.length (.ok none)) =
      some answered := by
    simp only [step, hroute, LockCall.arrive, Heap.getElem?_alloc_self, Option.isSome_none,
      Bool.false_eq_true, if_false, set_last, Option.map_some, answered]
  let settled : SessionRegistry Data := { answered with
    acquires := r.acquires ++ [⟨event.streamId, now, some (.ok none), true⟩]
    inflightAcquires :=
      (r.inflightAcquires.insert event.streamId r.acquires.length).erase event.streamId }
  have hsettled : step answered (.settleAcquire r.acquires.length) = some settled := by
    simp only [step, settleAcquire, hroute, Heap.getElem?_alloc_self, Option.isNone_some,
      Bool.false_eq_true, or_self, if_false, set_last, answered, settled]
  let locked : SessionRegistry Data := { settled with
    routes := []
    metrics := r.metrics.incrementLockAcquisitionsDenied
    results := r.results ++ [(event, .ok .locked)] }
  have hlocked : step settled (.resumeRoute ⟨0⟩ 0 "") = some locked := by
    simp only [step, resumeRoute, hroute, Heap.getElem?_alloc_self, List.getElem?_cons_zero,
      Bool.true_eq_false, if_false, finish, answered, settled, locked]
    rfl
  refine ⟨locked, ?_, ?_, rfl, ?_, ?_⟩
  · rw [SessionRegistry.denied, run_cons_eq_some]
    refine ⟨answered, hanswered, run_cons_eq_some.mpr ⟨settled, hsettled, ?_⟩⟩
    rw [run_singleton, hlocked]
  · show (r.route now event).sessions = ∅
    rw [hroute]
    exact h.sessions
  · intro streamId
    show ((r.inflightAcquires.insert event.streamId r.acquires.length).erase event.streamId).lookup
      streamId = none
    by_cases hs : streamId = event.streamId
    · rw [hs, AList.lookup_erase]
    · rw [AList.lookup_erase_ne hs, AList.lookup_insert_ne hs]
      exact h.inflight streamId
  · show 0 < (r.route now event).options.maxConcurrentSessions
    rw [hroute]
    exact h.room

end SessionRegistry

namespace Worker

open Transition

variable {platform : Platform Data} {array : List (Api.PendingStreamEvent Data)}
  {w w' : Worker Data}

/-- Nothing has filled the queues, and nobody has asked the worker to stop. -/
structure Stalled (w : Worker Data) : Prop where
  registry : w.registry.Unused
  running : w.shuttingDown = false
  watermark : 0 < w.settings.highWatermark

theorem Stalled.not_atHighWatermark (h : w.Stalled) : ¬w.AtHighWatermark := by
  rw [AtHighWatermark, h.registry.totalQueueDepth_eq]
  exact Nat.not_le.mpr h.watermark

/-- The run keeps the worker stalled, and makes `n` requests within the cycle. -/
def Goes (platform : Platform Data) (array : List (Api.PendingStreamEvent Data))
    (w : Worker Data) (n : Nat) (poll : PollFrame Data) : Prop :=
  ∃ as w', run (stepLegacy platform array) w as = some w' ∧ (∀ a ∈ as, a.isPollOnce = false) ∧
    as.countP Action.isServe = n ∧ w'.Stalled ∧ w'.settings = w.settings ∧ w'.poll = some poll

theorem Goes.trans {m n : Nat} {poll poll' : PollFrame Data}
    (h : w.Goes platform array m poll)
    (h' : ∀ w' : Worker Data, w'.Stalled → w'.settings = w.settings → w'.poll = some poll →
      w'.Goes platform array n poll') : w.Goes platform array (m + n) poll' := by
  obtain ⟨as, u, hrun, has, hcount, hstalled, hsettings, hpoll⟩ := h
  obtain ⟨bs, v, hrun', hbs, hcount', hstalled', hsettings', hpoll'⟩ := h' u hstalled hsettings hpoll
  refine ⟨as ++ bs, v, run_append_eq_some.mpr ⟨u, hrun, hrun'⟩, ?_, ?_, hstalled',
    hsettings'.trans hsettings, hpoll'⟩
  · intro a ha
    rcases List.mem_append.mp ha with hleft | hright
    · exact has a hleft
    · exact hbs a hright
  · rw [List.countP_append, hcount, hcount']

theorem Goes.step {a : Action Data} {poll : PollFrame Data}
    (hs : w.stepLegacy platform array a = some w') (ha : a.isPollOnce = false)
    (hstalled : w'.Stalled) (hsettings : w'.settings = w.settings) (hpoll : w'.poll = some poll) :
    w.Goes platform array a.isServe.toNat poll := by
  refine ⟨[a], w', by rw [run_singleton, hs], ?_, ?_, hstalled, hsettings, hpoll⟩
  · intro b hb
    rw [List.mem_singleton.mp hb, ha]
  · rw [List.countP_singleton]
    cases a.isServe <;> rfl

/-- The steps of the registry alone, taken in the worker. -/
theorem run_registry {bs : List (SessionRegistry.Action Data)} {r : SessionRegistry Data}
    (hinternal : ∀ b ∈ bs, Internal b = true)
    (hrun : run SessionRegistry.step w.registry bs = some r) :
    run (stepLegacy platform array) w (bs.map .registry) = some { w with registry := r } := by
  induction bs generalizing w with
  | nil =>
    rw [run_nil, Option.some.injEq] at hrun
    subst hrun
    rfl
  | cons b bs ih =>
    obtain ⟨q, hq, hrest⟩ := run_cons_eq_some.mp hrun
    rw [List.map_cons, run_cons_eq_some]
    refine ⟨{ w with registry := q }, ?_, ?_⟩
    · simp only [stepLegacy, Worker.step, hinternal b List.mem_cons_self, if_true, hq,
        Option.map_some]
    · exact @ih { w with registry := q } (fun c hc => hinternal c (List.mem_cons_of_mem b hc)) hrest

/-- The next event of the page is dropped, or its lock denied. -/
theorem Stalled.event (h : w.Stalled) {event : StreamEvent Data}
    {remaining page : List (StreamEvent Data)} {nextCursor : Option String}
    (hpoll : w.poll = some (.routing (event :: remaining) page nextCursor)) :
    w.Goes platform array 0 (.routing remaining page nextCursor) := by
  obtain ⟨u, hu⟩ : ∃ u, w.routeNext platform ⟨0⟩ = some u := by
    unfold routeNext
    rw [hpoll, h.registry.routes]
    simp only
    split
    · exact ⟨_, rfl⟩
    · split <;> exact ⟨_, rfl⟩
  obtain ⟨_, _, _, _, hpoll', -, hupoll, -, -, husettings, -, hushut, hrouted⟩ := routeNext_cases hu
  rw [hpoll, Option.some.injEq, PollFrame.routing.injEq, List.cons.injEq] at hpoll'
  obtain ⟨⟨rfl, rfl⟩, rfl, rfl⟩ := hpoll'
  rcases hrouted with ⟨-, hsame⟩ | ⟨-, hroute⟩
  · refine Goes.step (a := .routeNext ⟨0⟩) hu rfl ⟨?_, ?_, ?_⟩ husettings hupoll
    · rw [hsame]
      exact h.registry
    · rw [hushut]
      exact h.running
    · rw [husettings]
      exact h.watermark
  · obtain ⟨r, hrun, hunused⟩ := h.registry.denied ⟨0⟩ event
    rw [← hroute] at hrun
    refine ⟨.routeNext ⟨0⟩ :: (SessionRegistry.denied w.registry.acquires.length).map .registry,
      { u with registry := r }, run_cons_eq_some.mpr ⟨u, hu, run_registry ?_ hrun⟩, ?_, rfl,
      ⟨hunused, hushut.trans h.running, ?_⟩, husettings, hupoll⟩
    · intro b hb
      simp only [SessionRegistry.denied, List.mem_cons, List.not_mem_nil, or_false] at hb
      rcases hb with rfl | rfl | rfl <;> rfl
    · intro a ha
      simp only [SessionRegistry.denied, List.map_cons, List.map_nil, List.mem_cons,
        List.not_mem_nil, or_false] at ha
      rcases ha with rfl | rfl | rfl | rfl <;> rfl
    · show 0 < u.settings.highWatermark
      rw [husettings]
      exact h.watermark

theorem Stalled.page (h : w.Stalled) {remaining page : List (StreamEvent Data)}
    {nextCursor : Option String} (hpoll : w.poll = some (.routing remaining page nextCursor)) :
    w.Goes platform array 0 (.routing [] page nextCursor) := by
  induction remaining generalizing w with
  | nil => exact ⟨[], w, rfl, by simp, rfl, h, rfl, hpoll⟩
  | cons event remaining ih =>
    exact (h.event hpoll).trans fun u hstalled _ hpoll' => ih hstalled hpoll'

/-- A whole page of a long array leads to the next request. -/
theorem Stalled.round (h : w.Stalled) (hlong : w.settings.pollBatchSize ≤ array.length)
    {cursor : Option String} (hpoll : w.poll = some (.requested cursor)) :
    w.Goes platform array 1 (.requested (some "{}")) := by
  have hnext : ((.legacy array : PendingResponse Data).read w.settings.pollBatchSize).2 =
      some "{}" := if_neg (Nat.not_lt.mpr hlong)
  have hserve : w.Goes platform array 1 (.responded (.ok (.legacy array))) := by
    have hs : w.stepLegacy platform array .serve =
        some { w with poll := some (.responded (.ok (.legacy array))) } := by
      simp only [stepLegacy, serveLegacy, hpoll]
    exact Goes.step hs rfl ⟨h.registry, h.running, h.watermark⟩ rfl rfl
  refine hserve.trans (n := 0) fun u hu husettings hupoll => ?_
  have hreceive : u.Goes platform array 0
      (.routing (events platform array) (events platform array) (some "{}")) := by
    have hs : u.stepLegacy platform array .receive = some { u with
        poll := some (.routing (events platform array) (events platform array)
          (some "{}")) } := by
      simp only [stepLegacy, Worker.step, receive, hupoll]
      rw [husettings, hnext]
      rfl
    exact Goes.step hs rfl ⟨hu.registry, hu.running, hu.watermark⟩ rfl rfl
  refine hreceive.trans (n := 0) fun v hv hvsettings hvpoll => ?_
  refine (hv.page hvpoll).trans (n := 0) fun x hx hxsettings hxpoll => ?_
  have hfull : ¬(events platform array).length < x.settings.pollBatchSize := by
    rw [events, List.length_map, hxsettings, hvsettings, husettings]
    exact Nat.not_lt.mpr hlong
  have hs : x.stepLegacy platform array .turnPage =
      some { x with poll := some (.requested (some "{}")) } := by
    simp only [stepLegacy, Worker.step, turnPage, hxpoll, hx.registry.routes, hfull,
      hx.not_atHighWatermark, hx.running, reduceCtorEq, or_self, if_false, Bool.false_eq_true]
  exact Goes.step hs rfl ⟨hx.registry, hx.running, hx.watermark⟩ rfl rfl

theorem Stalled.rounds (h : w.Stalled) (hlong : w.settings.pollBatchSize ≤ array.length)
    {cursor : Option String} (hpoll : w.poll = some (.requested cursor)) (n : Nat) :
    w.Goes platform array (n + 1) (.requested (some "{}")) := by
  induction n generalizing w cursor with
  | zero => exact h.round hlong hpoll
  | succ n ih =>
    rw [Nat.add_comm]
    exact (h.round hlong hpoll).trans fun u hu hsettings hupoll => ih hu (hsettings ▸ hlong) hupoll

theorem not_cycleEnds_of_long (h : w.Stalled) (hlong : w.settings.pollBatchSize ≤ array.length) :
    ¬w.CycleEnds platform array := by
  rintro ⟨⟨n, hbound⟩, -⟩
  have hpoll : w.pollOnce = { w with poll := some (.requested none) } :=
    if_neg h.not_atHighWatermark
  have hstalled : w.pollOnce.Stalled := by
    rw [hpoll]
    exact ⟨h.registry, h.running, h.watermark⟩
  obtain ⟨as, w', hrun, has, hcount, -⟩ :=
    @Stalled.rounds _ platform array _ hstalled (by rw [hpoll]; exact hlong) none (by rw [hpoll]) n
  have hle := hbound as w' hrun has
  omega

/-! ## Every worker -/

theorem stepLegacy_settings {a : Action Data} (hs : w.stepLegacy platform array a = some w') :
    w'.settings = w.settings := by
  cases a with
  | failRequest => cases hs
  | registry | filterChange | insert | shutdown | drainAll => exact (stepLegacy_frame hs trivial).2.1
  | pollOnce =>
    simp only [stepLegacy, Worker.step] at hs
    split at hs
    · rw [Option.some.injEq] at hs
      subst hs
      unfold pollOnce
      split <;> rfl
    · cases hs
  | routeNext now =>
    obtain ⟨_, _, _, _, -, -, -, -, -, hsettings, -⟩ := routeNext_cases hs
    exact hsettings
  | serve | receive | turnPage =>
    simp only [stepLegacy, serveLegacy, Worker.step, receive, turnPage] at hs
    grind

theorem start_stalled {env : Env} {filter : EventFilter} {table : Api.StreamData Data}
    (h : start env filter table = .ok w) :
    w.Stalled ∧ w.settings.pollBatchSize = env.pollBatchSize ∧ w.poll = none := by
  simp only [start, SessionRegistry.create] at h
  split at h
  · cases h
  · simp only [Except.map, Except.ok.injEq] at h
    subst h
    refine ⟨⟨⟨rfl, rfl, fun _ => rfl, ?_⟩, rfl, ?_⟩, rfl, rfl⟩
    · exact Nat.le_max_left ..
    · exact Nat.mul_pos (Nat.le_max_left ..) (Nat.le_max_left ..)

/-- Against an old server every cycle of a worker ends, with each event routed at most once,
if and only if the array is shorter than a batch. -/
theorem legacy_cycles_end_iff (platform : Platform Data) (env : Env) (filter : EventFilter)
    (table : Api.StreamData Data) (array : List (Api.PendingStreamEvent Data)) {w₀ : Worker Data}
    (h : start env filter table = .ok w₀) :
    (∀ as w, run (stepLegacy platform array) w₀ as = some w → w.poll = none →
      w.shuttingDown = false → w.CycleEnds platform array) ↔
      array.length < env.pollBatchSize := by
  obtain ⟨hstalled, hbatch, hpoll⟩ := start_stalled h
  constructor
  · intro hends
    by_contra hlong
    rw [← hbatch, Nat.not_lt] at hlong
    exact not_cycleEnds_of_long hstalled hlong (hends [] w₀ rfl hpoll hstalled.running)
  · intro hshort as w hrun hidle _
    have hsettings : w.settings = w₀.settings := run_invariant
      (I := fun w => w.settings = w₀.settings)
      (fun _ _ _ h hs => (stepLegacy_settings hs).trans h) rfl hrun
    apply cycleEnds_of_short _ hidle
    rw [hsettings, hbatch]
    exact hshort

def oldPlatform : Platform Unit := ⟨fun _ => none, fun _ => none, fun _ => none⟩

def smallEnv (pollBatchSize : Nat) : Env := ⟨"worker-1", 1, 1, pollBatchSize, 3, 30000⟩

theorem noRows_nodup : (([] : List (Api.StreamDataRow Unit)).map Api.StreamDataRow.id).Nodup := .nil

/-- A worker that has just been started. -/
def startedWorker (pollBatchSize : Nat) : Worker Unit :=
  initial ⟨pollBatchSize, max 1 1 * max 1 1⟩ ⟨∅⟩
    (.initial "worker-1" ⟨max 1 1, 30000, none, some (max 1 1), some 3, true⟩
      (max 1000 (30000 / 3))) ⟨[], noRows_nodup⟩

theorem startedWorker_eq (pollBatchSize : Nat) :
    start (smallEnv pollBatchSize) ⟨∅⟩ ⟨[], noRows_nodup⟩ = .ok (startedWorker pollBatchSize) := by
  have hbeats : ¬30000 ≤ max 1000 (30000 / 3) := by decide
  simp only [start, SessionRegistry.create, smallEnv, Option.getD_none, hbeats, if_false, Except.map,
    startedWorker]

def oneEvent : List (Api.PendingStreamEvent Unit) := [⟨"1", "7", (), ""⟩]

theorem legacy_cycles_end_oneEvent : (startedWorker 2).CycleEnds oldPlatform oneEvent :=
  (legacy_cycles_end_iff oldPlatform (smallEnv 2) ⟨∅⟩ ⟨[], noRows_nodup⟩ oneEvent
    (startedWorker_eq 2)).mpr (by decide) [] _ rfl rfl rfl

/-- With batches of one, the same event comes back on every page. -/
theorem legacy_cycle_repeats : ¬∀ (pollBatchSize : Nat)
    (array : List (Api.PendingStreamEvent Unit)),
    (startedWorker pollBatchSize).CycleEnds oldPlatform array := by
  intro h
  have hlong : (startedWorker 1).settings.pollBatchSize ≤ oneEvent.length := Nat.le_refl 1
  exact not_cycleEnds_of_long (start_stalled (startedWorker_eq 1)).1 hlong (h 1 oneEvent)

end Worker

end Processing
end XStreamRoll
