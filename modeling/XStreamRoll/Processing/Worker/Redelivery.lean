/-
What the poll loop hands out a second time.

Nothing marks a row of `stream_data` as processed, and every poll cycle starts at
the oldest row again.  So a row that was published is routed once more as soon as
it is among the first rows of the table at a later poll.  The loop itself does
not repeat an event: what it hands to `route()` was on a page that the API
served, so a page without events that are published or wait in a session leads to
no second delivery, however the rest of the worker goes on in between.
-/
import XStreamRoll.Processing.SessionRegistry.Delivery
import XStreamRoll.Processing.Worker

namespace XStreamRoll
namespace Processing

open Transition

variable {Data : Type}

namespace Worker

/-- The page that the API serves in this step. -/
def servedPage (platform : Platform Data) (w : Worker Data) :
    Action Data → List (Api.PendingStreamEvent Data)
  | .serve => match w.poll with
    | some (.requested cursor) =>
      match Api.getPending platform.readTimestamptz w.table w.settings.pollBatchSize cursor with
      | .ok page => page.1
      | .error _ => []
    | _ => []
  | _ => []

/-- No event of the page is published, or waits in a session. -/
def ServesFresh (platform : Platform Data) (w : Worker Data) (a : Action Data) : Prop :=
  ∀ p ∈ w.servedPage platform a, ∀ e ∈ w.registry.workload.taken, e.id ≠ some p.id

/-- The step hands no event to `route()` that was published. -/
def RoutesFresh (platform : Platform Data) (w : Worker Data) (a : Action Data) : Prop :=
  ∀ event, w.routed platform a = some event → ∀ e, Published w.registry.log e → e.id ≠ event.id

/-- The events of the page that the loop has not come to yet. -/
def upcoming (platform : Platform Data) (w : Worker Data) : List (StreamEvent Data) :=
  match w.poll with
  | some (.responded (.ok response)) =>
    (response.read w.settings.pollBatchSize).1.map (.ofPending platform)
  | some (.routing remaining _ _) => remaining
  | _ => []

/-- Nothing that is still to come is published, waits in a session, or waits for a
lock. -/
structure Unrouted (platform : Platform Data) (w : Worker Data) : Prop where
  filed : w.registry.roster.Filed
  sourced : w.registry.workload.Sourced
  taken : ∀ e ∈ w.upcoming platform, ∀ e' ∈ w.registry.workload.taken, e'.id ≠ e.id
  waiting : ∀ e ∈ w.upcoming platform, ∀ f ∈ w.registry.routes, f.event.id ≠ e.id
  distinct : ((w.upcoming platform).map (·.id)).Nodup
  /-- `pollOnce()` waits for the routes of a page before it goes on. -/
  settled : w.registry.routes = [] ∨ ∃ remaining events nextCursor,
    w.poll = some (.routing remaining events nextCursor)

theorem Initial.unrouted {platform : Platform Data} {w : Worker Data} (h : w.Initial) :
    w.Unrouted platform := by
  obtain ⟨workerId, options, heartbeatMs, hreg⟩ := h.registry
  have hnone : w.upcoming platform = [] := by rw [upcoming, h.poll]
  refine ⟨?_, ?_, ?_, ?_, ?_, ?_⟩
  · intro stream o ho
    rw [hreg] at ho
    cases ho
  · rw [hreg]
    refine ⟨?_, ?_, ?_⟩
    · intro o s hs
      simp [SessionRegistry.workload, SessionRegistry.initial] at hs
    · intro o s hs
      simp [SessionRegistry.workload, SessionRegistry.initial] at hs
    · rintro e ⟨o, p, hp, -⟩
      cases hp
  · rw [hnone]
    intro e he
    cases he
  · rw [hnone]
    intro e he
    cases he
  · rw [hnone]
    exact List.nodup_nil
  · rw [hreg]
    exact .inl rfl

/-- A step of the poll loop that leaves the registry alone. -/
theorem Unrouted.polled {platform : Platform Data} {w w' : Worker Data}
    (h : w.Unrouted platform) (hreg : w'.registry = w.registry)
    (htaken : ∀ e ∈ w'.upcoming platform, ∀ e' ∈ w.registry.workload.taken, e'.id ≠ e.id)
    (hwaiting : ∀ e ∈ w'.upcoming platform, ∀ f ∈ w.registry.routes, f.event.id ≠ e.id)
    (hdistinct : ((w'.upcoming platform).map (·.id)).Nodup)
    (hsettled : w.registry.routes = [] ∨ ∃ remaining events nextCursor,
      w'.poll = some (.routing remaining events nextCursor)) : w'.Unrouted platform := by
  refine ⟨?_, ?_, ?_, ?_, hdistinct, ?_⟩
  · rw [hreg]
    exact h.filed
  · rw [hreg]
    exact h.sourced
  · rw [hreg]
    exact htaken
  · rw [hreg]
    exact hwaiting
  · rw [hreg]
    exact hsettled

/-- No event is to come. -/
theorem Unrouted.paused {platform : Platform Data} {w w' : Worker Data}
    (h : w.Unrouted platform) (hreg : w'.registry = w.registry)
    (hnone : w'.upcoming platform = []) (hroutes : w.registry.routes = []) :
    w'.Unrouted platform := by
  apply h.polled hreg
  · rw [hnone]
    intro e he
    cases he
  · rw [hnone]
    intro e he
    cases he
  · rw [hnone]
    exact List.nodup_nil
  · exact .inl hroutes

theorem Unrouted.routes_nil {platform : Platform Data} {w : Worker Data}
    (h : w.Unrouted platform)
    (hpoll : ∀ remaining events nextCursor, w.poll ≠ some (.routing remaining events nextCursor)) :
    w.registry.routes = [] := by
  rcases h.settled with hnil | ⟨remaining, events, nextCursor, heq⟩
  · exact hnil
  · exact absurd heq (hpoll remaining events nextCursor)

/-- A step of the registry, which may hand over an event but not one that is still to
come. -/
theorem Unrouted.registry_step {platform : Platform Data} {w : Worker Data}
    {r : SessionRegistry Data} {a : SessionRegistry.Action Data} (h : w.Unrouted platform)
    (hhands : ∀ event, w.registry.hands a = some event → ∀ e ∈ w.upcoming platform,
      event.id ≠ e.id)
    (hroute : ∀ now event, a = .route now event → (∀ e ∈ w.upcoming platform, event.id ≠ e.id) ∧
      ∃ remaining events nextCursor, w.poll = some (.routing remaining events nextCursor))
    (hs : w.registry.step a = some r) : { w with registry := r }.Unrouted platform := by
  refine ⟨SessionRegistry.step_filed h.filed hs, SessionRegistry.step_sourced h.sourced h.filed hs,
    ?_, ?_, h.distinct, ?_⟩
  · intro e he e' he'
    rcases SessionRegistry.step_taken h.sourced h.filed hs e' he' with hold | hnew
    · exact h.taken e he e' hold
    · exact hhands e' hnew e he
  · intro e he f hf
    rcases SessionRegistry.step_routes hs f hf with hold | ⟨now, rfl⟩
    · exact h.waiting e he f hold
    · exact (hroute now f.event rfl).1 e he
  · rcases h.settled with hnil | hrouting
    · by_cases hempty : r.routes = []
      · exact .inl hempty
      · obtain ⟨f, hf⟩ := List.exists_mem_of_ne_nil _ hempty
        rcases SessionRegistry.step_routes hs f hf with hold | ⟨now, rfl⟩
        · rw [hnil] at hold
          cases hold
        · exact .inr (hroute now f.event rfl).2
    · exact .inr hrouting

/-- An event that waits for a lock is not one that is still to come. -/
theorem Unrouted.hands {platform : Platform Data} {w : Worker Data} (h : w.Unrouted platform)
    {a : SessionRegistry.Action Data} (ha : Internal a = true) {event : StreamEvent Data}
    (hhands : w.registry.hands a = some event) :
    ∀ e ∈ w.upcoming platform, event.id ≠ e.id := by
  intro e he
  cases a with
  | resumeRoute now i suffix =>
    simp only [SessionRegistry.hands, Option.bind_eq_some_iff] at hhands
    obtain ⟨f, hf, call, -, hmatch⟩ := hhands
    split at hmatch
    · rw [Option.some.injEq] at hmatch
      rw [← hmatch]
      exact h.waiting e he f (List.mem_of_getElem? hf)
    · cases hmatch
  | route | stop | fail | drainAll => cases ha
  | settleAcquire | tick | resumeTick | resumeRelease | pump | stopWake | resumeDrain
  | resumeReleaseAll | acquireAnswered | renewAnswered | releaseAnswered | releaseAllAnswered =>
    cases hhands

theorem Unrouted.step_serve {platform : Platform Data} {w w' : Worker Data}
    (h : w.Unrouted platform) (hfresh : w.ServesFresh platform .serve)
    (hs : w.step platform .serve = some w') : w'.Unrouted platform := by
  simp only [Worker.step, serve] at hs
  split at hs
  · next cursor hpoll =>
    rw [Option.some.injEq] at hs
    subst hs
    have hroutes : w.registry.routes = [] := by
      apply h.routes_nil
      rw [hpoll]
      intro _ _ _ hc
      cases hc
    simp only [ServesFresh, servedPage, hpoll] at hfresh
    cases hpage : Api.getPending platform.readTimestamptz w.table w.settings.pollBatchSize
      cursor with
    | error message => exact h.paused rfl rfl hroutes
    | ok page =>
      simp only [hpage] at hfresh
      refine h.polled rfl ?_ ?_ ?_ (.inl hroutes)
      · intro e he e' he'
        obtain ⟨p, hp, rfl⟩ := List.mem_map.mp he
        exact hfresh p hp e' he'
      · rw [hroutes]
        intro e _ f hf
        cases hf
      · have hids := (Api.getPendingEvents_ids hpage).map (Option.some_injective String)
        rw [List.map_map] at hids
        show ((page.1.map (StreamEvent.ofPending platform)).map (·.id)).Nodup
        rw [List.map_map]
        exact hids
  · cases hs

theorem Unrouted.step_routeNext {platform : Platform Data} {w w' : Worker Data} {now : Date}
    (h : w.Unrouted platform) (hs : w.step platform (.routeNext now) = some w') :
    w'.Unrouted platform := by
  simp only [Worker.step, routeNext] at hs
  split at hs
  · next event remaining events nextCursor hpoll hroutes =>
    have hsame : w.upcoming platform = event :: remaining := by rw [upcoming, hpoll]
    have hdistinct := h.distinct
    rw [hsame, List.map_cons, List.nodup_cons] at hdistinct
    let popped : Worker Data := { w with
      poll := some (.routing remaining events nextCursor)
      seen := w.seen ++ [event] }
    have hpopped : popped.Unrouted platform := by
      refine h.polled rfl ?_ ?_ hdistinct.2 (.inr ⟨_, _, _, rfl⟩)
      · intro e he
        exact h.taken e (hsame ▸ List.mem_cons_of_mem _ he)
      · intro e he
        exact h.waiting e (hsame ▸ List.mem_cons_of_mem _ he)
    have hapart : ∀ e ∈ popped.upcoming platform, event.id ≠ e.id := by
      intro e he heq
      exact hdistinct.1 (heq ▸ List.mem_map_of_mem he)
    split at hs
    · rw [Option.some.injEq] at hs
      exact hs ▸ hpopped
    · split at hs
      · rw [Option.some.injEq] at hs
        exact hs ▸ hpopped
      · rw [Option.some.injEq] at hs
        subst hs
        refine hpopped.registry_step (a := .route now event) ?_ ?_ rfl
        · intro event' hhands
          simp only [SessionRegistry.hands] at hhands
          split at hhands
          · rw [Option.some.injEq] at hhands
            exact hhands ▸ hapart
          · cases hhands
        · intro now' event' heq
          rw [SessionRegistry.Action.route.injEq] at heq
          exact ⟨heq.2 ▸ hapart, _, _, _, rfl⟩
  · cases hs

theorem Unrouted.step {platform : Platform Data} {w w' : Worker Data} {a : Action Data}
    (h : w.Unrouted platform) (hfresh : w.ServesFresh platform a)
    (hs : w.step platform a = some w') : w'.Unrouted platform := by
  cases a with
  | pollOnce =>
    simp only [Worker.step] at hs
    split at hs
    · next hidle =>
      rw [Option.some.injEq] at hs
      subst hs
      have hpoll : w.poll = none := Option.isNone_iff_eq_none.mp hidle.1
      unfold pollOnce
      split
      · exact h
      · refine h.paused rfl rfl (h.routes_nil ?_)
        rw [hpoll]
        intro _ _ _ hc
        cases hc
    · cases hs
  | serve => exact h.step_serve hfresh hs
  | failRequest message =>
    simp only [Worker.step, failRequest] at hs
    split at hs
    · next cursor hpoll =>
      rw [Option.some.injEq] at hs
      subst hs
      refine h.paused rfl rfl (h.routes_nil ?_)
      rw [hpoll]
      intro _ _ _ hc
      cases hc
    · cases hs
  | receive =>
    simp only [Worker.step, receive] at hs
    split at hs
    · next message hpoll =>
      rw [Option.some.injEq] at hs
      subst hs
      refine h.paused rfl rfl (h.routes_nil ?_)
      rw [hpoll]
      intro _ _ _ hc
      cases hc
    · next response hpoll =>
      rw [Option.some.injEq] at hs
      subst hs
      have hsame : w.upcoming platform =
          (response.read w.settings.pollBatchSize).1.map (.ofPending platform) := by
        rw [upcoming, hpoll]
      refine h.polled rfl ?_ ?_ ?_ (.inr ⟨_, _, _, rfl⟩)
      · exact hsame ▸ h.taken
      · exact hsame ▸ h.waiting
      · exact hsame ▸ h.distinct
    · cases hs
  | routeNext now => exact h.step_routeNext hs
  | turnPage =>
    simp only [Worker.step, turnPage] at hs
    split at hs
    · next events nextCursor hpoll hroutes =>
      split at hs
      · rw [Option.some.injEq] at hs
        exact hs ▸ h.paused rfl rfl hroutes
      · split at hs
        · rw [Option.some.injEq] at hs
          exact hs ▸ h.paused rfl rfl hroutes
        · rw [Option.some.injEq] at hs
          exact hs ▸ h.paused rfl rfl hroutes
    · cases hs
  | registry a =>
    simp only [Worker.step] at hs
    split at hs
    · next ha =>
      obtain ⟨r, hr, rfl⟩ := Option.map_eq_some_iff.mp hs
      refine h.registry_step (fun event hhands => h.hands ha hhands) ?_ hr
      intro now event heq
      subst heq
      cases ha
    · cases hs
  | filterChange change =>
    simp only [Worker.step, Option.some.injEq] at hs
    subst hs
    exact h.polled rfl h.taken h.waiting h.distinct h.settled
  | insert row =>
    simp only [Worker.step, insert] at hs
    split at hs
    · rw [Option.some.injEq] at hs
      subst hs
      exact h.polled rfl h.taken h.waiting h.distinct h.settled
    · cases hs
  | shutdown =>
    simp only [Worker.step, Option.some.injEq] at hs
    subst hs
    exact h.polled rfl h.taken h.waiting h.distinct h.settled
  | drainAll now =>
    simp only [Worker.step] at hs
    split at hs
    · rw [Option.some.injEq] at hs
      subst hs
      refine h.registry_step (a := .drainAll now) ?_ ?_ rfl
      · intro event hhands
        cases hhands
      · intro now' event heq
        cases heq
    · cases hs

theorem Unrouted.routes_fresh {platform : Platform Data} {w : Worker Data} {a : Action Data}
    (h : w.Unrouted platform) : w.RoutesFresh platform a := by
  intro event hrouted e hpub
  have hin : event ∈ w.upcoming platform := by
    cases a with
    | routeNext now =>
      simp only [routed] at hrouted
      split at hrouted
      · next remaining events nextCursor hpoll =>
        split at hrouted
        · cases hrouted
        · rw [Option.some.injEq] at hrouted
          subst hrouted
          rw [upcoming, hpoll]
          exact List.mem_cons_self
      · cases hrouted
    | pollOnce | serve | failRequest | receive | turnPage | registry | filterChange | insert
    | shutdown | drainAll => cases hrouted
  exact h.taken event hin e (Workload.mem_taken.mpr (.inl hpub))

/-- While the API serves no event that is published or waits in a session, the loop
routes no event that was published. -/
theorem no_redelivery {platform : Platform Data} {w : Worker Data} {as : List (Action Data)}
    (hw : w.Initial)
    (hfresh : AllSteps (step platform) (fun w a _ => w.ServesFresh platform a) w as) :
    AllSteps (step platform) (fun w a _ => w.RoutesFresh platform a) w as :=
  AllSteps.of_invariant (fun _ _ _ h hfresh hs => h.step hfresh hs)
    (fun _ _ _ h _ _ => h.routes_fresh) hw.unrouted hfresh

/-! ## A row that is polled twice -/

instance (platform : Platform Data) (w : Worker Data) (a : Action Data) :
    Decidable (w.ServesFresh platform a) :=
  inferInstanceAs (Decidable (∀ p ∈ _, ∀ e ∈ _, _ ≠ _))

/-- Postgres and `Date.parse` on the first millisecond of 1970. -/
def epochPlatform : Platform Unit where
  readTimestamptz text := if text = "1970-01-01T00:00:00.000Z" then some ⟨0⟩ else none
  parseDate text := if text = "1970-01-01T00:00:00.000Z" then some 0 else none
  typeOf _ := none

/-- A worker over a table, with a batch size of four. -/
def polling (table : Api.StreamData Unit) : Worker Unit :=
  initial ⟨4, 1000⟩ ⟨∅⟩ (.initial "w" ⟨2, 30000, none, some 10, none, true⟩ 10000) table

theorem polling_initial (table : Api.StreamData Unit) : (polling table).Initial :=
  ⟨⟨_, _, _, rfl⟩, rfl, rfl, rfl⟩

/-- A row of another stream between two of one stream. -/
def threeRows : Api.StreamData Unit :=
  ⟨[⟨1, 7, (), ⟨0⟩⟩, ⟨2, 8, (), ⟨0⟩⟩, ⟨3, 7, (), ⟨0⟩⟩], by decide⟩

def oneRow : Api.StreamData Unit := ⟨[⟨1, 7, (), ⟨0⟩⟩], by decide⟩

/-- The lock manager grants the `i`th call its lock, and the route that waits for it
resumes. -/
def granted (i : Nat) (streamId token : String) : List (Action Unit) :=
  [.registry (.acquireAnswered i (.ok (some ⟨streamId, "w", token, ⟨30000⟩, ⟨0⟩⟩))),
    .registry (.settleAcquire i), .registry (.resumeRoute ⟨0⟩ 0 "x")]

/-- The page arrives, and its first row is routed into a session of its own. -/
def firstRow : List (Action Unit) :=
  [.pollOnce, .serve, .receive, .routeNext ⟨0⟩] ++ granted 0 "7" "k"

/-- The publish of the first row. -/
def firstPublish : Action Unit := .registry (.pump ⟨5⟩ 0 0 .resolved)

/-- The first row is published while the second one waits for its lock. -/
def secondRow : List (Action Unit) :=
  firstRow ++ [.routeNext ⟨0⟩, firstPublish] ++ granted 1 "8" "l"

theorem no_redelivery_thirdRow :
    AllSteps (step epochPlatform) (fun w a _ => w.RoutesFresh epochPlatform a) (polling threeRows)
        (secondRow ++ [.routeNext ⟨5⟩]) ∧
      (run (step epochPlatform) (polling threeRows) (secondRow ++ [.routeNext ⟨5⟩])).map (fun w =>
        ((publishedEvents w.registry.log).map (·.id), w.seen.map (·.id))) =
        some ([some "1"], [some "1", some "2", some "3"]) := by
  constructor
  · apply no_redelivery (polling_initial threeRows)
    decide +kernel
  · decide +kernel

/-- A cycle that publishes the only row. -/
def firstCycle : List (Action Unit) := firstRow ++ [firstPublish, .turnPage]

/-- The next cycle routes the published row again. -/
theorem published_row_routed_again :
    ¬∀ (platform : Platform Unit) (w : Worker Unit) (as : List (Action Unit)), w.Initial →
      AllSteps (step platform) (fun w a _ => w.RoutesFresh platform a) w as := by
  intro h
  have hall := h epochPlatform (polling oneRow)
    ((firstCycle ++ [.pollOnce, .serve, .receive]) ++ [.routeNext ⟨6⟩]) (polling_initial oneRow)
  have hrun : (run (step epochPlatform) (polling oneRow)
      (firstCycle ++ [.pollOnce, .serve, .receive])).map (fun w =>
        (w.step epochPlatform (.routeNext ⟨6⟩)).isSome &&
          (w.routed epochPlatform (.routeNext ⟨6⟩)).any fun event =>
            (publishedEvents w.registry.log).any fun e => e.id = event.id) = some true := by
    decide +kernel
  obtain ⟨w, hw, hagain⟩ := Option.map_eq_some_iff.mp hrun
  rw [Bool.and_eq_true, Option.any_eq_true] at hagain
  obtain ⟨hnext, event, hrouted, hany⟩ := hagain
  obtain ⟨w', hw'⟩ := Option.isSome_iff_exists.mp hnext
  obtain ⟨e, he, hid⟩ := List.any_eq_true.mp hany
  have hfresh := (hall.after_run hw w' hw').1
  exact hfresh event hrouted e (mem_publishedEvents.mp he) (of_decide_eq_true hid)

end Worker

end Processing
end XStreamRoll
