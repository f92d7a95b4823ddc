/-
The order in which one worker publishes the events of a stream.

The loop comes to the rows of a fixed table in the order of the table: whatever is
before a row was on an earlier page, or earlier on its page.  A cursor may fall
behind its row, and then a page repeats rows, but it never skips one.  So when a
session takes an event, the loop has come to everything before it.  That the
earlier events were taken as well is another matter: `route()` turns an event
away when its queue is full, and the loop goes on to the next one.
-/
import XStreamRoll.Processing.SessionRegistry.Delivery
import XStreamRoll.Processing.Worker

namespace XStreamRoll
namespace Processing

open Transition

variable {Data : Type}

namespace Worker

/-- A row as the worker gets it. -/
def eventOf (platform : Platform Data) (r : Api.StreamDataRow Data) : StreamEvent Data :=
  .ofPending platform r.toPendingEvent

theorem eventOf_id_inj {platform : Platform Data} {a b : Api.StreamDataRow Data}
    (h : (eventOf platform a).id = (eventOf platform b).id) : a.id = b.id := by
  have hrepr : a.id.repr = b.id.repr := Option.some.inj h
  have hint := congrArg String.toInt? hrepr
  rw [Int.toInt?_repr, Int.toInt?_repr, Option.some.injEq] at hint
  exact hint

/-- Two events of one stream, in the order of the table. -/
def Precedes (platform : Platform Data) (table : Api.StreamData Data)
    (e event : StreamEvent Data) : Prop :=
  ∃ a ∈ table.rows, ∃ b ∈ table.rows, a.streamId = b.streamId ∧ a.key < b.key ∧
    e = eventOf platform a ∧ event = eventOf platform b

theorem Precedes.streamId {platform : Platform Data} {table : Api.StreamData Data}
    {e event : StreamEvent Data} (h : Precedes platform table e event) :
    e.streamId = event.streamId := by
  obtain ⟨a, -, b, -, hstream, -, rfl, rfl⟩ := h
  exact congrArg Int.repr hstream

/-- The rows before a row are before it in the order of the table. -/
theorem Precedes.mem_before {platform : Platform Data} {table : Api.StreamData Data}
    {e : StreamEvent Data} {pre post : List (Api.StreamDataRow Data)}
    {r : Api.StreamDataRow Data} (htable : table.ordered = pre ++ r :: post)
    (h : Precedes platform table e (eventOf platform r)) :
    ∃ a ∈ pre, e = eventOf platform a := by
  obtain ⟨a, ha, b, hb, -, hlt, rfl, heq⟩ := h
  have hr : r ∈ table.rows := table.ordered_perm.subset (by rw [htable]; simp)
  have hsame : r = b := table.key_injOn hr hb (eventOf_id_inj (congrArg StreamEvent.id heq))
  subst hsame
  refine ⟨a, ?_, rfl⟩
  have hin : a ∈ pre ++ r :: post := htable ▸ table.ordered_perm.mem_iff.mpr ha
  have hsorted := table.ordered_sorted
  rw [htable, List.pairwise_append] at hsorted
  rcases List.mem_append.mp hin with hpre | hpost
  · exact hpre
  · rcases List.mem_cons.mp hpost with rfl | hpost
    · exact absurd hlt (lt_irrefl _)
    · exact absurd hlt (not_lt_of_gt ((List.pairwise_cons.mp hsorted.2.1).1 a hpost))

/-! ## The loop skips no row -/

/-- Every event of the rows has been come to. -/
def Seen (platform : Platform Data) (seen : List (StreamEvent Data))
    (rows : List (Api.StreamDataRow Data)) : Prop :=
  ∀ r ∈ rows, eventOf platform r ∈ seen

theorem Seen.mono {platform : Platform Data} {seen seen' : List (StreamEvent Data)}
    {rows : List (Api.StreamDataRow Data)} (h : Seen platform seen rows) (hsub : seen ⊆ seen') :
    Seen platform seen' rows :=
  fun r hr => hsub (h r hr)

/-- Where the loop stands in the table, between the rows it has come to and the rest.  A
cursor belongs to the last row of its page. -/
inductive Paged (platform : Platform Data) (table : Api.StreamData Data)
    (seen : List (StreamEvent Data)) : Option (PollFrame Data) → Prop where
  | idle : Paged platform table seen none
  | requested (row : Option (Api.StreamDataRow Data)) : (∀ x ∈ row, x ∈ table.rows) →
      (∀ r ∈ table.rows, (∃ x ∈ row, r.key ≤ x.key) → eventOf platform r ∈ seen) →
      Paged platform table seen (some (.requested (row.map Api.cursorOf)))
  | failed (message : String) : Paged platform table seen (some (.responded (.error message)))
  | responded (pre rows post : List (Api.StreamDataRow Data)) (nextCursor : Option String) :
      table.ordered = pre ++ rows ++ post → Seen platform seen pre →
      (∀ cursor, nextCursor = some cursor → ∃ x, rows.getLast? = some x ∧
        cursor = Api.cursorOf x) →
      Paged platform table seen (some (.responded
        (.ok (.paginated (rows.map Api.StreamDataRow.toPendingEvent) nextCursor))))
  | routing (pre done rows post : List (Api.StreamDataRow Data)) (events : List (StreamEvent Data))
      (nextCursor : Option String) :
      table.ordered = pre ++ (done ++ rows) ++ post → Seen platform seen (pre ++ done) →
      (∀ cursor, nextCursor = some cursor → ∃ x, (done ++ rows).getLast? = some x ∧
        cursor = Api.cursorOf x) →
      Paged platform table seen
        (some (.routing (rows.map (eventOf platform)) events nextCursor))

/-- The page that answers a request goes on where the loop stands. -/
theorem Paged.serve {platform : Platform Data} {table : Api.StreamData Data}
    {seen : List (StreamEvent Data)} {cursor : Option String} {limit : Nat}
    (hread : Api.ReadsIsoTexts platform.readTimestamptz table)
    (h : Paged platform table seen (some (.requested cursor))) :
    Paged platform table seen (some (.responded
      ((Api.getPending platform.readTimestamptz table limit cursor).map fun page =>
        .paginated page.1 page.2))) := by
  cases h with
  | requested row hrow hseen =>
    cases hpage : Api.getPending platform.readTimestamptz table limit (row.map Api.cursorOf) with
    | error message => exact .failed message
    | ok page =>
      obtain ⟨pre, rows, post, htable, hdata, hpre, -, hcursor, -⟩ :=
        Api.getPendingEvents_page hread hrow hpage
      show Paged platform table seen (some (.responded (.ok (.paginated page.1 page.2))))
      rw [hdata]
      refine .responded pre rows post page.2 htable ?_ hcursor
      intro r hr
      have hin : r ∈ table.ordered := by
        rw [htable]
        simp [hr]
      exact hseen r (table.ordered_perm.subset hin) (hpre r hr)

theorem Paged.receive {platform : Platform Data} {table : Api.StreamData Data}
    {seen : List (StreamEvent Data)} {response : PendingResponse Data} {limit : Nat}
    (h : Paged platform table seen (some (.responded (.ok response)))) :
    Paged platform table seen (some (.routing
      ((response.read limit).1.map (.ofPending platform))
      ((response.read limit).1.map (.ofPending platform)) (response.read limit).2)) := by
  cases h with
  | responded pre rows post nextCursor htable hpre hcursor =>
    show Paged platform table seen (some (.routing
      ((rows.map Api.StreamDataRow.toPendingEvent).map (StreamEvent.ofPending platform)) _
      nextCursor))
    rw [List.map_map]
    exact .routing pre [] rows post _ nextCursor (by simpa using htable)
      (by simpa using hpre) (by simpa using hcursor)

/-- The event that the loop comes to next, and what is before it. -/
theorem Paged.next {platform : Platform Data} {table : Api.StreamData Data}
    {seen : List (StreamEvent Data)} {event : StreamEvent Data}
    {remaining events : List (StreamEvent Data)} {nextCursor : Option String}
    (h : Paged platform table seen (some (.routing (event :: remaining) events nextCursor))) :
    (∀ e, Precedes platform table e event → e ∈ seen) ∧
      Paged platform table (seen ++ [event]) (some (.routing remaining events nextCursor)) := by
  generalize hframe : PollFrame.routing (event :: remaining) events nextCursor = frame at h
  cases h with
  | requested | failed | responded => cases hframe
  | routing pre done rows post events' nextCursor' htable hseen hcursor =>
    rw [PollFrame.routing.injEq] at hframe
    obtain ⟨hrows, rfl, rfl⟩ := hframe
    cases rows with
    | nil => cases hrows
    | cons r rows =>
      rw [List.map_cons, List.cons.injEq] at hrows
      obtain ⟨rfl, rfl⟩ := hrows
      constructor
      · intro e he
        have hsplit : table.ordered = (pre ++ done) ++ r :: (rows ++ post) := by
          rw [htable]
          simp
        obtain ⟨a, ha, rfl⟩ := he.mem_before hsplit
        exact hseen a ha
      · refine .routing pre (done ++ [r]) rows post events nextCursor ?_ ?_ ?_
        · rw [htable]
          simp
        · intro a ha
          rw [← List.append_assoc, List.mem_append, List.mem_singleton] at ha
          rcases ha with hold | rfl
          · exact List.mem_append_left _ (hseen a hold)
          · exact List.mem_append_right _ (List.mem_singleton.mpr rfl)
        · intro cursor hc
          rw [List.append_assoc, List.singleton_append]
          exact hcursor cursor hc

/-- At the end of a page, the loop has come to every row up to the cursor. -/
theorem Paged.turn {platform : Platform Data} {table : Api.StreamData Data}
    {seen : List (StreamEvent Data)} {events : List (StreamEvent Data)} {cursor : String}
    (h : Paged platform table seen (some (.routing [] events (some cursor)))) :
    Paged platform table seen (some (.requested (some cursor))) := by
  generalize hframe : PollFrame.routing [] events (some cursor) = frame at h
  cases h with
  | requested | failed | responded => cases hframe
  | routing pre done rows post events' nextCursor' htable hseen hcursor =>
    rw [PollFrame.routing.injEq] at hframe
    obtain ⟨hrows, rfl, rfl⟩ := hframe
    rw [eq_comm, List.map_eq_nil_iff] at hrows
    subst hrows
    rw [List.append_nil] at htable hcursor
    obtain ⟨x, hx, rfl⟩ := hcursor cursor rfl
    obtain ⟨front, hfront⟩ := List.getLast?_eq_some_iff.mp hx
    have hmem : x ∈ table.ordered := by
      rw [htable, hfront]
      simp
    refine .requested (some x) (fun y hy => Option.some.inj hy ▸ table.ordered_perm.subset hmem) ?_
    rintro r hr ⟨y, hy, hle⟩
    rw [Option.mem_def, Option.some.injEq] at hy
    subst hy
    have hin : r ∈ pre ++ done ++ post := htable ▸ table.ordered_perm.mem_iff.mpr hr
    rcases List.mem_append.mp hin with hbefore | hafter
    · exact hseen r hbefore
    · have hsorted := table.ordered_sorted
      rw [htable, List.pairwise_append] at hsorted
      have hlt := hsorted.2.2 x (by rw [hfront]; simp) r hafter
      exact absurd hle (not_le_of_gt hlt)

/-! ## The queues keep the order -/

def keepsTable : Action Data → Bool
  | .insert _ => false
  | _ => true

/-- The table stays as it is, every publish goes through, and a session that takes an
event has accepted whatever the loop came to before it in its stream. -/
structure InTurn (platform : Platform Data) (w : Worker Data) (a : Action Data) : Prop where
  fixed : keepsTable a = true
  delivers : ∀ b ∈ w.act platform a, SessionRegistry.Delivers b
  keepsLocks : ∀ b ∈ w.act platform a, w.registry.KeepsLocks b
  accepted : ∀ b ∈ w.act platform a, ∀ event, w.registry.Takes b event → ∀ e ∈ w.seen,
    Precedes platform w.table e event → e ∈ w.registry.workload.accepted

structure Orderly (platform : Platform Data) (table : Api.StreamData Data) (w : Worker Data) :
    Prop where
  table_eq : w.table = table
  paged : Paged platform table w.seen w.poll
  /-- Everything before an event that waits for a lock has been come to. -/
  led : ∀ f ∈ w.registry.routes, ∀ e, Precedes platform table e f.event → e ∈ w.seen
  /-- `pollOnce()` waits for the routes of a page before it goes on. -/
  settled : w.registry.routes = [] ∨ ∃ remaining events nextCursor,
    w.poll = some (.routing remaining events nextCursor)
  filed : w.registry.roster.Filed
  /-- Sessions leave the map alive only in a drain, and nothing is routed from then on. -/
  closing : w.registry.drains = [] ∧ w.registry.roster.Mapped ∨
    w.poll = none ∧ w.shuttingDown = true
  delivering : w.registry.workload.Delivering (Precedes platform table)

theorem Initial.orderly {platform : Platform Data} {w : Worker Data} (h : w.Initial) :
    w.Orderly platform w.table := by
  obtain ⟨workerId, options, heartbeatMs, hreg⟩ := h.registry
  refine ⟨rfl, ?_, ?_, ?_, ?_, .inl ⟨?_, ?_⟩, ⟨⟨?_, ?_, ?_⟩, ⟨?_, ?_, ?_⟩, ?_, ?_⟩⟩
  · rw [h.poll]
    exact .idle
  all_goals rw [hreg]
  · intro f hf
    cases hf
  · exact .inl rfl
  · intro stream o ho
    cases ho
  · rfl
  · intro o m ho
    simp [SessionRegistry.roster, SessionRegistry.initial] at ho
  · intro o s ho
    simp [SessionRegistry.workload, SessionRegistry.initial] at ho
  · intro o s ho
    simp [SessionRegistry.workload, SessionRegistry.initial] at ho
  · rintro e ⟨o, p, hp, -⟩
    cases hp
  · intro o s ho
    simp [SessionRegistry.workload, SessionRegistry.initial] at ho
  · intro o s ho
    simp [SessionRegistry.workload, SessionRegistry.initial] at ho
  · intro e he
    cases he
  · intro o s ho
    simp [SessionRegistry.workload, SessionRegistry.initial] at ho
  · intro pre o p post hlog
    simp [SessionRegistry.workload, SessionRegistry.initial] at hlog

theorem Orderly.routes_nil {platform : Platform Data} {table : Api.StreamData Data}
    {w : Worker Data} (h : w.Orderly platform table)
    (hpoll : ∀ remaining events nextCursor, w.poll ≠ some (.routing remaining events nextCursor)) :
    w.registry.routes = [] := by
  rcases h.settled with hnil | ⟨remaining, events, nextCursor, heq⟩
  · exact hnil
  · exact absurd heq (hpoll remaining events nextCursor)

/-- A step of the loop that leaves the registry alone. -/
theorem Orderly.polled {platform : Platform Data} {table : Api.StreamData Data}
    {w w' : Worker Data} (h : w.Orderly platform table) (hreg : w'.registry = w.registry)
    (htable : w'.table = w.table) (hpaged : Paged platform table w'.seen w'.poll)
    (hseen : w.seen ⊆ w'.seen)
    (hsettled : w.registry.routes = [] ∨ ∃ remaining events nextCursor,
      w'.poll = some (.routing remaining events nextCursor))
    (hclosing : w.poll = none ∧ w.shuttingDown = true →
      w'.poll = none ∧ w'.shuttingDown = true) : w'.Orderly platform table := by
  refine ⟨htable.trans h.table_eq, hpaged, ?_, ?_, ?_, ?_, ?_⟩
  · rw [hreg]
    exact fun f hf e he => hseen (h.led f hf e he)
  · rw [hreg]
    exact hsettled
  · rw [hreg]
    exact h.filed
  · rw [hreg]
    exact h.closing.imp id hclosing
  · rw [hreg]
    exact h.delivering

/-- A step of the registry.  What it hands to a session has been led up to. -/
theorem Orderly.registry_step {platform : Platform Data} {table : Api.StreamData Data}
    {w : Worker Data} {r : SessionRegistry Data} {a : SessionRegistry.Action Data}
    (h : w.Orderly platform table) (hdelivers : SessionRegistry.Delivers a)
    (hlocks : w.registry.KeepsLocks a)
    (haccepted : ∀ event, w.registry.Takes a event → ∀ e, Precedes platform table e event →
      e ∈ w.registry.workload.accepted)
    (hroute : ∀ now event, a = .route now event →
      (∀ e, Precedes platform table e event → e ∈ w.seen) ∧
      ∃ remaining events nextCursor, w.poll = some (.routing remaining events nextCursor))
    (hdrain : ∀ now, a = .drainAll now → w.poll = none ∧ w.shuttingDown = true)
    (hs : w.registry.step a = some r) : { w with registry := r }.Orderly platform table := by
  refine ⟨h.table_eq, h.paged, ?_, ?_, SessionRegistry.step_filed h.filed hs, ?_, ?_⟩
  · intro f hf e he
    rcases SessionRegistry.step_routes hs f hf with hold | ⟨now, rfl⟩
    · exact h.led f hold e he
    · exact (hroute now f.event rfl).1 e he
  · rcases h.settled with hnil | hrouting
    · by_cases hempty : r.routes = []
      · exact .inl hempty
      · obtain ⟨f, hf⟩ := List.exists_mem_of_ne_nil _ hempty
        rcases SessionRegistry.step_routes hs f hf with hold | ⟨now, rfl⟩
        · rw [hnil] at hold
          cases hold
        · exact .inr (hroute now f.event rfl).2
    · exact .inr hrouting
  · rcases h.closing with ⟨hdrains, hmapped⟩ | hclosed
    · by_cases hdrained : ∃ now, a = .drainAll now
      · obtain ⟨now, rfl⟩ := hdrained
        exact .inr (hdrain now rfl)
      · have hresume : ∀ now i, a ≠ .resumeDrain now i := by
          rintro now i rfl
          simp [SessionRegistry.step, SessionRegistry.resumeDrain, hdrains] at hs
        refine .inl ⟨?_, SessionRegistry.step_mapped hmapped hresume hs⟩
        rw [← hdrains]
        exact SessionRegistry.step_drains hs (fun now he => hdrained ⟨now, he⟩) hresume
    · exact .inr hclosed
  · refine SessionRegistry.step_delivering h.delivering h.filed (fun _ _ he => he.streamId) ?_
      hdelivers hlocks haccepted hs
    intro event hhands
    rcases h.closing with ⟨-, hmapped⟩ | ⟨hpoll, -⟩
    · exact hmapped
    · -- No route is left to hand anything over.
      exfalso
      have hroutes : w.registry.routes = [] := by
        apply h.routes_nil
        rw [hpoll]
        intro _ _ _ hc
        cases hc
      cases a with
      | route now event' =>
        obtain ⟨-, remaining, events, nextCursor, hrouting⟩ := hroute now event' rfl
        rw [hpoll] at hrouting
        cases hrouting
      | resumeRoute now i suffix => simp [SessionRegistry.hands, hroutes] at hhands
      | settleAcquire | tick | resumeTick | resumeRelease | pump | stop | stopWake | fail
      | drainAll | resumeDrain | resumeReleaseAll | acquireAnswered | renewAnswered
      | releaseAnswered | releaseAllAnswered => cases hhands

/-- What a step hands to a session has been led up to. -/
theorem Orderly.hands_led {platform : Platform Data} {table : Api.StreamData Data}
    {w : Worker Data} (h : w.Orderly platform table) {a : SessionRegistry.Action Data}
    (ha : Internal a = true) {event : StreamEvent Data}
    (hhands : w.registry.hands a = some event) :
    ∀ e, Precedes platform table e event → e ∈ w.seen := by
  cases a with
  | resumeRoute now i suffix =>
    simp only [SessionRegistry.hands, Option.bind_eq_some_iff] at hhands
    obtain ⟨f, hf, call, -, hmatch⟩ := hhands
    split at hmatch
    · rw [Option.some.injEq] at hmatch
      rw [← hmatch]
      exact h.led f (List.mem_of_getElem? hf)
    · cases hmatch
  | route | stop | fail | drainAll => cases ha
  | settleAcquire | tick | resumeTick | resumeRelease | pump | stopWake | resumeDrain
  | resumeReleaseAll | acquireAnswered | renewAnswered | releaseAnswered | releaseAllAnswered =>
    cases hhands

theorem Orderly.step_pollOnce {platform : Platform Data} {table : Api.StreamData Data}
    {w w' : Worker Data} (h : w.Orderly platform table)
    (hs : w.step platform .pollOnce = some w') : w'.Orderly platform table := by
  simp only [Worker.step] at hs
  split at hs
  · next hidle =>
    rw [Option.some.injEq] at hs
    subst hs
    have hpoll : w.poll = none := Option.isNone_iff_eq_none.mp hidle.1
    unfold pollOnce
    split
    · exact h
    · refine h.polled rfl rfl ?_ (List.Subset.refl _) (.inl (h.routes_nil ?_)) ?_
      · refine .requested none (fun x hx => by cases hx) ?_
        rintro r - ⟨x, hx, -⟩
        cases hx
      · rw [hpoll]
        intro _ _ _ hc
        cases hc
      · intro hclosed
        rw [hidle.2] at hclosed
        cases hclosed.2
  · cases hs

theorem Orderly.step_routeNext {platform : Platform Data} {table : Api.StreamData Data}
    {w w' : Worker Data} {now : Date} (h : w.Orderly platform table)
    (hturn : w.InTurn platform (.routeNext now)) (hs : w.step platform (.routeNext now) = some w') :
    w'.Orderly platform table := by
  obtain ⟨event, remaining, events, nextCursor, hpoll, -, hpoll', hseen', htable', hsettings',
    hfilter', hshut', hcases⟩ := routeNext_cases hs
  have hpaged := h.paged
  rw [hpoll] at hpaged
  obtain ⟨hled, hnext⟩ := hpaged.next
  let popped : Worker Data := { w with
    poll := some (.routing remaining events nextCursor)
    seen := w.seen ++ [event] }
  have hpopped : popped.Orderly platform table := by
    refine h.polled rfl rfl hnext (List.subset_append_left ..) (.inr ⟨_, _, _, rfl⟩) ?_
    intro hclosed
    rw [hpoll] at hclosed
    cases hclosed.1
  have hsame : w' = { popped with registry := w'.registry } := by
    cases w'
    simp only [Worker.mk.injEq, popped]
    exact ⟨hsettings', hfilter', trivial, hshut', hpoll', htable', hseen'⟩
  rw [hsame]
  rcases hcases with ⟨-, hreg⟩ | ⟨hrouted, hreg⟩
  · rw [hreg]
    exact hpopped
  · have hact : .route now event ∈ w.act platform (.routeNext now) := by
      rw [act, hrouted]
      rfl
    refine hpopped.registry_step (a := .route now event) (hturn.delivers _ hact)
      (hturn.keepsLocks _ hact) ?_ ?_ ?_ (congrArg some hreg.symm)
    · intro event' htakes e he
      have hevent : event' = event := by
        have hhands := htakes.1
        simp only [SessionRegistry.hands] at hhands
        split at hhands
        · exact (Option.some.inj hhands).symm
        · cases hhands
      refine hturn.accepted _ hact event' htakes e (hled e (hevent ▸ he)) ?_
      rw [h.table_eq]
      exact he
    · intro now' event' heq
      rw [SessionRegistry.Action.route.injEq] at heq
      refine ⟨?_, _, _, _, rfl⟩
      intro e he
      exact List.mem_append_left _ (hled e (heq.2 ▸ he))
    · intro now' heq
      cases heq

theorem Orderly.step_turnPage {platform : Platform Data} {table : Api.StreamData Data}
    {w w' : Worker Data} (h : w.Orderly platform table)
    (hs : w.step platform .turnPage = some w') : w'.Orderly platform table := by
  simp only [Worker.step, turnPage] at hs
  split at hs
  · next events nextCursor hpoll hroutes =>
    have hclosed : ¬(w.poll = none ∧ w.shuttingDown = true) := by
      rintro ⟨hnone, -⟩
      rw [hpoll] at hnone
      cases hnone
    split at hs
    · rw [Option.some.injEq] at hs
      subst hs
      exact h.polled rfl rfl .idle (List.Subset.refl _) (.inl hroutes) (fun hc => absurd hc hclosed)
    · next hmore =>
      split at hs
      · rw [Option.some.injEq] at hs
        subst hs
        exact h.polled rfl rfl .idle (List.Subset.refl _) (.inl hroutes)
          (fun hc => absurd hc hclosed)
      · rw [Option.some.injEq] at hs
        subst hs
        have hpaged := h.paged
        rw [hpoll] at hpaged
        cases nextCursor with
        | none => exact absurd (.inl rfl) hmore
        | some cursor =>
          exact h.polled rfl rfl hpaged.turn (List.Subset.refl _) (.inl hroutes)
            (fun hc => absurd hc hclosed)
  · cases hs

theorem Orderly.step {platform : Platform Data} {table : Api.StreamData Data}
    {w w' : Worker Data} {a : Action Data}
    (hread : Api.ReadsIsoTexts platform.readTimestamptz table) (h : w.Orderly platform table)
    (hturn : w.InTurn platform a) (hs : w.step platform a = some w') :
    w'.Orderly platform table := by
  cases a with
  | pollOnce => exact h.step_pollOnce hs
  | serve =>
    simp only [Worker.step, serve] at hs
    split at hs
    · next cursor hpoll =>
      rw [Option.some.injEq] at hs
      subst hs
      have hpaged := h.paged
      rw [hpoll] at hpaged
      refine h.polled rfl rfl ?_ (List.Subset.refl _) (.inl (h.routes_nil ?_)) ?_
      · rw [h.table_eq]
        exact hpaged.serve hread
      · rw [hpoll]
        intro _ _ _ hc
        cases hc
      · intro hclosed
        rw [hpoll] at hclosed
        cases hclosed.1
    · cases hs
  | failRequest message =>
    simp only [Worker.step, failRequest] at hs
    split at hs
    · next cursor hpoll =>
      rw [Option.some.injEq] at hs
      subst hs
      refine h.polled rfl rfl (.failed message) (List.Subset.refl _) (.inl (h.routes_nil ?_)) ?_
      · rw [hpoll]
        intro _ _ _ hc
        cases hc
      · intro hclosed
        rw [hpoll] at hclosed
        cases hclosed.1
    · cases hs
  | receive =>
    simp only [Worker.step, receive] at hs
    split at hs
    · next message hpoll =>
      rw [Option.some.injEq] at hs
      subst hs
      refine h.polled rfl rfl .idle (List.Subset.refl _) (.inl (h.routes_nil ?_)) ?_
      · rw [hpoll]
        intro _ _ _ hc
        cases hc
      · exact fun hclosed => ⟨rfl, hclosed.2⟩
    · next response hpoll =>
      rw [Option.some.injEq] at hs
      subst hs
      have hpaged := h.paged
      rw [hpoll] at hpaged
      refine h.polled rfl rfl hpaged.receive (List.Subset.refl _) (.inr ⟨_, _, _, rfl⟩) ?_
      intro hclosed
      rw [hpoll] at hclosed
      cases hclosed.1
    · cases hs
  | routeNext now => exact h.step_routeNext hturn hs
  | turnPage => exact h.step_turnPage hs
  | registry a =>
    simp only [Worker.step] at hs
    split at hs
    · next ha =>
      obtain ⟨r, hr, rfl⟩ := Option.map_eq_some_iff.mp hs
      have hact : a ∈ w.act platform (.registry a) := rfl
      refine h.registry_step (hturn.delivers _ hact) (hturn.keepsLocks _ hact) ?_ ?_ ?_ hr
      · intro event htakes e he
        refine hturn.accepted _ hact event htakes e (h.hands_led ha htakes.1 e he) ?_
        rw [h.table_eq]
        exact he
      · intro now event heq
        subst heq
        cases ha
      · intro now heq
        subst heq
        cases ha
    · cases hs
  | filterChange change =>
    simp only [Worker.step, Option.some.injEq] at hs
    subst hs
    exact h.polled rfl rfl h.paged (List.Subset.refl _) h.settled id
  | insert row => exact absurd hturn.fixed Bool.false_ne_true
  | shutdown =>
    simp only [Worker.step, Option.some.injEq] at hs
    subst hs
    exact h.polled rfl rfl h.paged (List.Subset.refl _) h.settled (fun hc => ⟨hc.1, rfl⟩)
  | drainAll now =>
    simp only [Worker.step] at hs
    split at hs
    · next hclosed =>
      rw [Option.some.injEq] at hs
      subst hs
      refine h.registry_step (a := .drainAll now) (by trivial) ?_ ?_ ?_ ?_ rfl
      · intro o ho
        cases ho
      · rintro event ⟨hhands, -⟩
        cases hhands
      · intro now' event heq
        cases heq
      · exact fun _ _ => ⟨Option.isNone_iff_eq_none.mp hclosed.1, hclosed.2⟩
    · cases hs

/-- When a session starts to publish a row, every row before it in its stream has been
published. -/
theorem publishes_in_order {platform : Platform Data} {w w' : Worker Data}
    {as : List (Action Data)} (hw : w.Initial)
    (hread : Api.ReadsIsoTexts platform.readTimestamptz w.table)
    (hturn : AllSteps (step platform) (fun w a _ => w.InTurn platform a) w as)
    (hrun : run (step platform) w as = some w') {pre post : List (Nat × Effect Data)} {o : Nat}
    {p : ProcessedStreamEvent Data} (hlog : w'.registry.log = pre ++ (o, .publish p) :: post)
    {a b : Api.StreamDataRow Data} (ha : a ∈ w.table.rows) (hb : b ∈ w.table.rows)
    (hstream : a.streamId = b.streamId) (hlt : a.key < b.key)
    (hp : p.event = eventOf platform b) : Published pre (eventOf platform a) := by
  have h : w'.Orderly platform w.table :=
    hturn.invariant (fun _ _ _ h hturn hs => h.step hread hturn hs) hw.orderly hrun
  have hbefore : Precedes platform w.table (eventOf platform a) p.event :=
    ⟨a, ha, b, hb, hstream, hlt, rfl, hp⟩
  rcases h.delivering.ordered.published pre o p post hlog _ hbefore with hpub | hin
  · exact hpub
  · cases hin

/-! ## Rows of one stream -/

theorem inTurn_iff {platform : Platform Data} {w : Worker Data} {a : Action Data} :
    w.InTurn platform a ↔ keepsTable a = true ∧
      (∀ b ∈ w.act platform a, SessionRegistry.Delivers b) ∧
      (∀ b ∈ w.act platform a, w.registry.KeepsLocks b) ∧
      ∀ b ∈ w.act platform a, ∀ event ∈ w.registry.hands b,
        w.registry.hasRoomFor event.streamId = true → ∀ e ∈ w.seen,
          Precedes platform w.table e event → e ∈ w.registry.workload.accepted := by
  constructor
  · intro h
    exact ⟨h.fixed, h.delivers, h.keepsLocks,
      fun b hb event he hroom => h.accepted b hb event ⟨he, hroom⟩⟩
  · rintro ⟨hfixed, hdelivers, hlocks, haccepted⟩
    exact ⟨hfixed, hdelivers, hlocks,
      fun b hb event htakes => haccepted b hb event htakes.1 htakes.2⟩

/-- The table stays as it is, every publish goes through, and no lock is lost. -/
def Smooth (platform : Platform Data) (w : Worker Data) (a : Action Data) : Prop :=
  keepsTable a = true ∧
    ∀ b ∈ w.act platform a, SessionRegistry.Delivers b ∧ w.registry.loses b = none

section Decide

variable [DecidableEq Data]

instance (platform : Platform Data) (table : Api.StreamData Data) (e event : StreamEvent Data) :
    Decidable (Precedes platform table e event) :=
  inferInstanceAs (Decidable (∃ a ∈ _, ∃ b ∈ _, _))

instance : ∀ a : SessionRegistry.Action Data, Decidable (SessionRegistry.Delivers a)
  | .pump _ _ _ answer => inferInstanceAs (Decidable (answer = .resolved))
  | .fail .. => isFalse id
  | .route .. | .settleAcquire _ | .resumeRoute .. | .tick .. | .resumeTick .. | .resumeRelease _
  | .stop .. | .stopWake .. | .drainAll _ | .resumeDrain .. | .resumeReleaseAll _
  | .acquireAnswered .. | .renewAnswered .. | .releaseAnswered .. | .releaseAllAnswered .. =>
    isTrue trivial

instance (r : SessionRegistry Data) (a : SessionRegistry.Action Data) :
    Decidable (r.KeepsLocks a) :=
  inferInstanceAs
    (Decidable (∀ o ∈ r.loses a, ∀ obj ∈ r.objects[o]?, Session.unsettled obj.session = []))

instance (platform : Platform Data) (w : Worker Data) (a : Action Data) :
    Decidable (w.InTurn platform a) :=
  decidable_of_iff _ inTurn_iff.symm

instance (platform : Platform Data) (w : Worker Data) (a : Action Data) :
    Decidable (w.Smooth platform a) :=
  inferInstanceAs (Decidable (_ ∧ ∀ b ∈ w.act platform a, _))

end Decide

/-- Postgres and `Date.parse` on the first milliseconds of 1970. -/
def millisPlatform : Platform Unit where
  readTimestamptz text :=
    if text = "1970-01-01T00:00:00.000Z" then some ⟨0⟩
    else if text = "1970-01-01T00:00:00.001Z" then some ⟨1000⟩
    else if text = "1970-01-01T00:00:00.002Z" then some ⟨2000⟩
    else if text = "1970-01-01T00:00:00.003Z" then some ⟨3000⟩
    else none
  parseDate _ := none
  typeOf _ := none

/-- Four rows of one stream, a millisecond apart. -/
def fourRows : Api.StreamData Unit :=
  ⟨[⟨1, 7, (), ⟨0⟩⟩, ⟨2, 7, (), ⟨1000⟩⟩, ⟨3, 7, (), ⟨2000⟩⟩, ⟨4, 7, (), ⟨3000⟩⟩], by decide⟩

theorem fourRows_read : Api.ReadsIsoTexts millisPlatform.readTimestamptz fourRows := by
  have hall : ∀ r ∈ fourRows.rows, millisPlatform.readTimestamptz r.timestamp.toDate.toISOString =
      some r.timestamp.toDate.toTimestamptz := by decide +kernel
  intro r hr timestamp ht
  rw [hall r hr, Option.some.injEq] at ht
  exact ht.symm

/-- A worker over these rows that polls three at a time, with queues that hold so many
events. -/
def worker (maxQueueDepth : Nat) : Worker Unit :=
  initial ⟨3, 4 * max 1 maxQueueDepth⟩ ⟨∅⟩
    (.initial "w" ⟨4, 30000, none, some (max 1 maxQueueDepth), some 3, true⟩ 10000) fourRows

theorem worker_started (maxQueueDepth : Nat) :
    start ⟨"w", 4, maxQueueDepth, 3, 3, 30000⟩ ⟨∅⟩ fourRows = .ok (worker maxQueueDepth) := by
  have hkept : ¬30000 ≤ max 1000 (30000 / 3) := by decide
  simp only [start, SessionRegistry.create, Option.getD_none, if_neg hkept]
  rfl

theorem worker_initial (maxQueueDepth : Nat) : (worker maxQueueDepth).Initial :=
  start_initial (worker_started maxQueueDepth)

/-- The lock is granted to the first row's route, and the second row is queued behind it. -/
def opening : List (Action Unit) :=
  [.pollOnce, .serve, .receive, .routeNext ⟨0⟩,
    .registry (.acquireAnswered 0 (.ok (some ⟨"7", "w", "k", ⟨30000⟩, ⟨0⟩⟩))),
    .registry (.settleAcquire 0), .registry (.resumeRoute ⟨0⟩ 0 "x"), .routeNext ⟨0⟩]

/-- The pump publishes the event at its head. -/
def publishHead : Action Unit := .registry (.pump ⟨5⟩ 0 0 .resolved)

/-- The last entry of the worker's log, when it is a publish. -/
def lastPublish (w : Worker Unit) : Option (Nat × ProcessedStreamEvent Unit) :=
  match w.registry.log.getLast? with
  | some (o, .publish p) => some (o, p)
  | _ => none

theorem log_of_lastPublish {w : Worker Unit} {o : Nat} {p : ProcessedStreamEvent Unit}
    (h : w.lastPublish = some (o, p)) : ∃ pre, w.registry.log = pre ++ [(o, .publish p)] := by
  unfold lastPublish at h
  split at h
  · next hlog =>
    cases h
    exact List.getLast?_eq_some_iff.mp hlog
  · cases h

theorem publishes_in_order_opening : ∃ w' pre o p,
    run (step millisPlatform) (worker 10) (opening ++ [publishHead]) = some w' ∧
      w'.registry.log = pre ++ [(o, .publish p)] ∧
      p.event = eventOf millisPlatform ⟨2, 7, (), ⟨1000⟩⟩ ∧
      Published pre (eventOf millisPlatform ⟨1, 7, (), ⟨0⟩⟩) := by
  have hturn : AllSteps (step millisPlatform) (fun w a _ => w.InTurn millisPlatform a) (worker 10)
      (opening ++ [publishHead]) := by decide +kernel
  have hrun : (run (step millisPlatform) (worker 10) (opening ++ [publishHead])).map (fun w' =>
      w'.lastPublish.any fun x => decide (x.2.event = eventOf millisPlatform ⟨2, 7, (), ⟨1000⟩⟩)) =
      some true := by decide +kernel
  obtain ⟨w', hw', hlast⟩ := Option.map_eq_some_iff.mp hrun
  obtain ⟨⟨o, p⟩, hpublish, hevent⟩ := (Option.any_eq_true _ _).mp hlast
  obtain ⟨pre, hpre⟩ := log_of_lastPublish hpublish
  have hp := of_decide_eq_true hevent
  refine ⟨w', pre, o, p, hw', hpre, hp, ?_⟩
  exact publishes_in_order (a := ⟨1, 7, (), ⟨0⟩⟩) (b := ⟨2, 7, (), ⟨1000⟩⟩) (worker_initial 10)
    fourRows_read hturn hw' hpre (by decide) (by decide) rfl (by decide) hp

/-- The third row is turned away, the first page ends with it, and the pump makes room. -/
def firstPage : List (Action Unit) :=
  opening ++ [.routeNext ⟨0⟩, .turnPage, publishHead]

/-- The worker with one place in the queue, as it waits for the second page. -/
def askingAgain : Worker Unit :=
  (run (step millisPlatform) (worker 1) firstPage).get (by decide +kernel)

/-- The second page holds the fourth row alone. -/
def answered : Worker Unit :=
  { askingAgain with
    poll := some (.responded (.ok (.paginated
      [Api.StreamDataRow.toPendingEvent ⟨4, 7, (), ⟨3000⟩⟩] none))) }

theorem askingAgain_serve : askingAgain.step millisPlatform .serve = some answered := by
  have hpoll : askingAgain.poll =
      some (.requested (some (Api.cursorOf (⟨3, 7, (), ⟨2000⟩⟩ : Api.StreamDataRow Unit)))) := rfl
  have htable : fourRows.ordered =
      [⟨1, 7, (), ⟨0⟩⟩, ⟨2, 7, (), ⟨1000⟩⟩, ⟨3, 7, (), ⟨2000⟩⟩] ++ [⟨4, 7, (), ⟨3000⟩⟩] := by
    decide +kernel
  have hexact : ∀ r ∈ fourRows.rows.take 3, r.timestamp.micros % 1000 = 0 ∧
      (millisPlatform.readTimestamptz r.timestamp.toDate.toISOString).isSome = true := by
    decide +kernel
  have hpage := Api.getPendingEvents_exact (show 0 < min (max 1 3) 1000 by decide) fourRows_read
    htable hexact
  have hanswer : Api.getPending millisPlatform.readTimestamptz askingAgain.table
      askingAgain.settings.pollBatchSize
      (some (Api.cursorOf (⟨3, 7, (), ⟨2000⟩⟩ : Api.StreamDataRow Unit))) =
      .ok ([Api.StreamDataRow.toPendingEvent ⟨4, 7, (), ⟨3000⟩⟩], none) := hpage
  rw [Worker.step, serve, hpoll]
  simp only [hanswer]
  rfl

/-- With one place in the queue, the third row is turned away while the second one waits, and
the fourth, which comes with the next page, is taken after the pump has made room: it is
published before the third. -/
theorem published_out_of_order :
    ¬∀ (platform : Platform Unit) (w w' : Worker Unit) (as : List (Action Unit)), w.Initial →
      Api.ReadsIsoTexts platform.readTimestamptz w.table →
      AllSteps (step platform) (fun w a _ => w.Smooth platform a) w as →
      run (step platform) w as = some w' →
      ∀ pre o p post, w'.registry.log = pre ++ (o, .publish p) :: post →
      ∀ a ∈ w.table.rows, ∀ b ∈ w.table.rows, a.streamId = b.streamId → a.key < b.key →
        p.event = eventOf platform b → Published pre (eventOf platform a) := by
  intro h
  let secondPage : List (Action Unit) := [.receive, .routeNext ⟨6⟩, publishHead]
  have hfirst : run (step millisPlatform) (worker 1) firstPage = some askingAgain :=
    (Option.some_get _).symm
  have hsmooth : AllSteps (step millisPlatform) (fun w a _ => w.Smooth millisPlatform a) (worker 1)
      (firstPage ++ .serve :: secondPage) := by
    refine AllSteps.append (by decide +kernel) hfirst ?_
    exact (allSteps_cons_iff askingAgain_serve).mpr ⟨by decide +kernel, by decide +kernel⟩
  have hrun : (run (step millisPlatform) answered secondPage).map (fun w' =>
      (w'.lastPublish.any fun x => decide (x.2.event = eventOf millisPlatform ⟨4, 7, (), ⟨3000⟩⟩)) &&
        decide (eventOf millisPlatform ⟨3, 7, (), ⟨2000⟩⟩ ∉ publishedEvents w'.registry.log)) =
      some true := by decide +kernel
  obtain ⟨w', hsecond, hlast⟩ := Option.map_eq_some_iff.mp hrun
  have hw' : run (step millisPlatform) (worker 1) (firstPage ++ .serve :: secondPage) = some w' :=
    run_append_eq_some.mpr ⟨_, hfirst, run_cons_eq_some.mpr ⟨_, askingAgain_serve, hsecond⟩⟩
  rw [Bool.and_eq_true, Option.any_eq_true, decide_eq_true_eq] at hlast
  obtain ⟨⟨⟨o, p⟩, hpublish, hevent⟩, hmissing⟩ := hlast
  obtain ⟨pre, hpre⟩ := log_of_lastPublish hpublish
  have hpub := h millisPlatform (worker 1) w' _ (worker_initial 1) fourRows_read hsmooth
    hw' pre o p [] hpre ⟨3, 7, (), ⟨2000⟩⟩ (by decide) ⟨4, 7, (), ⟨3000⟩⟩ (by decide) rfl
    (by decide) (of_decide_eq_true hevent)
  apply hmissing
  rw [mem_publishedEvents, hpre]
  exact hpub.append [(o, .publish p)]

end Worker

end Processing
end XStreamRoll
