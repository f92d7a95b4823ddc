/-
The order in which the sessions of a registry publish.

What is published was accepted, an event that was accepted waits in a live session
until it is published, and what is ahead of an event in its queue is published
first.  The last of these is stated for any relation `before` between events.  It
asks that an event joins a queue only when everything before it is published
already or waits ahead of it in the same queue.
-/
import XStreamRoll.Processing.SessionRegistry.Workload

namespace XStreamRoll
namespace Processing

open Transition

variable {Data : Type}

/-- The event was published: the session said so. -/
def Published (log : List (Nat × Effect Data)) (event : StreamEvent Data) : Prop :=
  ∃ o p, (o, .emitProcessed p) ∈ log ∧ p.event = event

theorem Published.append {log : List (Nat × Effect Data)} {event : StreamEvent Data}
    (h : Published log event) (more : List (Nat × Effect Data)) :
    Published (log ++ more) event := by
  obtain ⟨o, p, hp, hevent⟩ := h
  exact ⟨o, p, List.mem_append_left _ hp, hevent⟩

def publishedEvents (log : List (Nat × Effect Data)) : List (StreamEvent Data) :=
  log.filterMap fun
    | (_, .emitProcessed p) => some p.event
    | _ => none

theorem mem_publishedEvents {log : List (Nat × Effect Data)} {event : StreamEvent Data} :
    event ∈ publishedEvents log ↔ Published log event := by
  rw [publishedEvents, List.mem_filterMap]
  constructor
  · rintro ⟨⟨o, effect⟩, hin, heq⟩
    split at heq
    · next o' p heffect =>
      rw [Prod.mk.injEq] at heffect
      obtain ⟨rfl, rfl⟩ := heffect
      exact ⟨o, p, hin, Option.some.inj heq⟩
    · cases heq
  · rintro ⟨o, p, hp, rfl⟩
    exact ⟨(o, .emitProcessed p), hp, rfl⟩

namespace Workload

open Session

/-- A call, seen from the session. -/
theorem step_call_move {w w' : Workload Data} {o : Nat} {action : Session.Action Data}
    (hpump : ∀ (o : Nat) s, w.sessions[o]? = some s → PumpInv s)
    (h : w.step (.call o action) = some w') :
    ∃ s s' accepted observed, w.sessions[o]? = some s ∧
      Session.Move s action.kind accepted observed s' ∧
      (∀ e ∈ accepted, ∃ now, action = .enqueue now e) ∧
      (∀ p answer, .publishSettled p answer ∈ observed → ∃ now i, action = .resume now i answer) ∧
      w' = ⟨w.sessions.set o s', w.accepted ++ accepted,
        w.log ++ (effectsOf observed).map fun e => (o, e)⟩ := by
  rw [step] at h
  split at h
  · cases h
  · next s ho =>
    obtain ⟨t, ht, rfl⟩ := Option.map_eq_some_iff.mp h
    obtain ⟨accepted, observed, hm, haccepted, hlog⟩ :=
      step_move (t := .init s) (hpump o s ho) ht
    have haccepted' : t.accepted = accepted := haccepted
    have hlog' : t.log = observed := hlog
    refine ⟨s, t.session, accepted, observed, ho, hm, ?_, ?_, by rw [haccepted', hlog']⟩
    · rw [← haccepted']
      exact Session.step_accepted ht
    · rw [← hlog']
      intro p answer hp
      exact step_settled ht hp

/-- A session is spawned with an empty queue, and given events of its own stream. -/
def Fits (w : Workload Data) : Move Data → Prop
  | .spawn session => PumpInv session ∧ unsettled session = []
  | .call o (.enqueue _ event) => ∀ s, w.sessions[o]? = some s → event.streamId = s.streamId
  | _ => True

/-- Where the events of a workload come from. -/
structure Sourced (w : Workload Data) : Prop where
  pump : ∀ (o : Nat) s, w.sessions[o]? = some s → PumpInv s
  waiting : ∀ (o : Nat) s, w.sessions[o]? = some s → ∀ e ∈ unsettled s,
    e ∈ w.accepted ∧ e.streamId = s.streamId
  published : ∀ e, Published w.log e → e ∈ w.accepted

theorem Sourced.step {w w' : Workload Data} {m : Move Data} (h : w.Sourced) (hm : w.Fits m)
    (hs : w.step m = some w') : w'.Sourced := by
  cases m with
  | spawn session =>
    simp only [Workload.step, Option.some.injEq] at hs
    subst hs
    refine ⟨?_, ?_, h.published⟩
    · intro o s ho
      rcases Heap.getElem?_alloc.mp ho with hold | ⟨-, rfl⟩
      · exact h.pump o s hold
      · exact hm.1
    · intro o s ho e he
      rcases Heap.getElem?_alloc.mp ho with hold | ⟨-, rfl⟩
      · exact h.waiting o s hold e he
      · rw [hm.2] at he
        cases he
  | call o action =>
    obtain ⟨s, s', accepted, observed, ho, hmove, haccepted, -, rfl⟩ := step_call_move h.pump hs
    have hflow := hmove.flow (h.pump o s ho)
    have hlt := Heap.lt_of_getElem?_eq_some ho
    refine ⟨?_, ?_, ?_⟩
    · intro o' q hq
      rcases (Heap.getElem?_write hlt).mp hq with ⟨-, rfl⟩ | ⟨-, hold⟩
      · exact hmove.pumpInv (h.pump o s ho)
      · exact h.pump o' q hold
    · intro o' q hq e he
      rcases (Heap.getElem?_write hlt).mp hq with ⟨-, rfl⟩ | ⟨-, hold⟩
      · rcases hflow.unsettled_subset he with hin | hin
        · obtain ⟨hold, hstream⟩ := h.waiting o s ho e hin
          exact ⟨List.mem_append_left _ hold, hstream.trans hmove.streamId.symm⟩
        · refine ⟨List.mem_append_right _ hin, ?_⟩
          obtain ⟨now, rfl⟩ := haccepted e hin
          rw [hmove.streamId]
          exact hm s ho
      · obtain ⟨hin, hstream⟩ := h.waiting o' q hold e he
        exact ⟨List.mem_append_left _ hin, hstream⟩
    · rintro e ⟨o', p, hp, rfl⟩
      apply List.mem_append_left
      rcases List.mem_append.mp hp with hold | hnew
      · exact h.published _ ⟨o', p, hold, rfl⟩
      · obtain ⟨effect, heffect, heq⟩ := List.mem_map.mp hnew
        simp only [Prod.mk.injEq] at heq
        rw [heq.2] at heffect
        exact (h.waiting o s ho _ (hflow.emitted heffect)).1

/-- The events that are published, or wait in a session. -/
def taken (w : Workload Data) : List (StreamEvent Data) :=
  publishedEvents w.log ++ w.sessions.flatMap unsettled

theorem mem_taken {w : Workload Data} {e : StreamEvent Data} :
    e ∈ w.taken ↔ Published w.log e ∨
      ∃ (o : Nat) (s : StreamSession Data), w.sessions[o]? = some s ∧ e ∈ unsettled s := by
  rw [taken, List.mem_append, mem_publishedEvents, List.mem_flatMap]
  constructor
  · rintro (hpub | ⟨s, hs, he⟩)
    · exact .inl hpub
    · obtain ⟨o, ho⟩ := List.mem_iff_getElem?.mp hs
      exact .inr ⟨o, s, ho, he⟩
  · rintro (hpub | ⟨o, s, ho, he⟩)
    · exact .inl hpub
    · exact .inr ⟨s, List.mem_of_getElem? ho, he⟩

/-- Only what is enqueued is taken. -/
theorem step_taken {w w' : Workload Data} {m : Move Data} (h : w.Sourced) (hm : w.Fits m)
    (hs : w.step m = some w') : ∀ e ∈ w'.taken, e ∈ w.taken ∨
      ∃ o now, m = .call o (.enqueue now e) := by
  intro e he
  rw [mem_taken] at he
  rw [mem_taken]
  cases m with
  | spawn session =>
    simp only [Workload.step, Option.some.injEq] at hs
    subst hs
    rcases he with hpub | ⟨o, s, ho, hin⟩
    · exact .inl (.inl hpub)
    · rcases Heap.getElem?_alloc.mp ho with hold | ⟨-, rfl⟩
      · exact .inl (.inr ⟨o, s, hold, hin⟩)
      · rw [hm.2] at hin
        cases hin
  | call o action =>
    obtain ⟨s, s', accepted, observed, ho, hmove, haccepted, -, rfl⟩ := step_call_move h.pump hs
    have hflow := hmove.flow (h.pump o s ho)
    rcases he with ⟨o', p, hp, rfl⟩ | ⟨o', q, hq, hin⟩
    · apply Or.inl
      rcases List.mem_append.mp hp with hold | hnew
      · exact .inl ⟨o', p, hold, rfl⟩
      · obtain ⟨effect, heffect, heq⟩ := List.mem_map.mp hnew
        rw [Prod.mk.injEq] at heq
        rw [heq.2] at heffect
        exact .inr ⟨o, s, ho, hflow.emitted heffect⟩
    · rcases (Heap.getElem?_write (Heap.lt_of_getElem?_eq_some ho)).mp hq with ⟨-, rfl⟩ | ⟨-, hold⟩
      · rcases hflow.unsettled_subset hin with hold | hnew
        · exact .inl (.inr ⟨o, s, ho, hold⟩)
        · obtain ⟨now, rfl⟩ := haccepted e hnew
          exact .inr ⟨o, now, rfl⟩
      · exact .inl (.inr ⟨o', q, hold, hin⟩)

/-! ## Nothing accepted is lost -/

/-- The move fails no session with events waiting, and answers no publish with an
error. -/
def Spares (w : Workload Data) : Move Data → Prop
  | .call o (.fail _) => ∀ s, w.sessions[o]? = some s → unsettled s = []
  | .call _ (.resume _ _ answer) => answer = .resolved
  | _ => True

theorem Spares.unfailed {w : Workload Data} {o : Nat} {action : Session.Action Data}
    (h : w.Spares (.call o action)) {s : StreamSession Data} (ho : w.sessions[o]? = some s)
    (hkind : action.kind = .failure) : unsettled s = [] := by
  cases action with
  | fail error => exact h s ho
  | start | enqueue | stop | stopWake | resume => cases hkind

/-- The publishes that a call settles went through. -/
theorem Spares.resolved {w : Workload Data} {o : Nat} {action : Session.Action Data}
    (h : w.Spares (.call o action)) {observed : List (Observation Data)}
    (hobserved : ∀ p answer, .publishSettled p answer ∈ observed →
      ∃ now i, action = .resume now i answer) :
    ∀ p answer, .publishSettled p answer ∈ observed → answer = .resolved := by
  intro p answer hp
  obtain ⟨now, i, rfl⟩ := hobserved p answer hp
  exact h

/-- Every accepted event is published, or waits in a session that is live. -/
structure Kept (w : Workload Data) : Prop where
  prompt : ∀ (o : Nat) s, w.sessions[o]? = some s → Prompt s
  idle : ∀ (o : Nat) s, w.sessions[o]? = some s → s.state.live = false → unsettled s = []
  kept : ∀ e ∈ w.accepted, Published w.log e ∨
    ∃ (o : Nat) (s : StreamSession Data), w.sessions[o]? = some s ∧ e ∈ unsettled s

theorem Kept.step {w w' : Workload Data} {m : Move Data} (h : w.Kept) (hsourced : w.Sourced)
    (hfits : w.Fits m) (hm : w.Spares m) (hs : w.step m = some w') : w'.Kept := by
  cases m with
  | spawn session =>
    simp only [Workload.step, Option.some.injEq] at hs
    subst hs
    have hpumps : session.pumps = [] := by
      have hnone := hfits.2
      simp only [unsettled, List.append_eq_nil_iff, List.map_eq_nil_iff] at hnone
      exact hnone.1
    refine ⟨?_, ?_, ?_⟩
    · intro o s ho
      rcases Heap.getElem?_alloc.mp ho with hold | ⟨-, rfl⟩
      · exact h.prompt o s hold
      · intro f hf
        rw [hpumps] at hf
        cases hf
    · intro o s ho hdead
      rcases Heap.getElem?_alloc.mp ho with hold | ⟨-, rfl⟩
      · exact h.idle o s hold hdead
      · exact hfits.2
    · intro e he
      rcases h.kept e he with hpub | ⟨o, s, ho, hin⟩
      · exact .inl hpub
      · exact .inr ⟨o, s, Heap.getElem?_alloc_of_some ho, hin⟩
  | call o action =>
    obtain ⟨s, s', accepted, observed, ho, hmove, -, hobserved, rfl⟩ :=
      step_call_move hsourced.pump hs
    have hpump := hsourced.pump o s ho
    have hflow := hmove.flow hpump
    have hlt := Heap.lt_of_getElem?_eq_some ho
    have hunfailed := hm.unfailed ho
    obtain ⟨hprompt, hkeep⟩ := hmove.prompt (h.prompt o s ho) (hm.resolved hobserved)
    refine ⟨?_, ?_, ?_⟩
    · intro o' q hq
      rcases (Heap.getElem?_write hlt).mp hq with ⟨-, rfl⟩ | ⟨-, hold⟩
      · exact hprompt
      · exact h.prompt o' q hold
    · intro o' q hq hdead
      rcases (Heap.getElem?_write hlt).mp hq with ⟨-, rfl⟩ | ⟨-, hold⟩
      · exact hmove.idle hpump (h.idle o s ho) hunfailed hdead
      · exact h.idle o' q hold hdead
    · intro e he
      rcases List.mem_append.mp he with hold | hnew
      · rcases h.kept e hold with hpub | ⟨o', q, hq, hin⟩
        · exact .inl (hpub.append _)
        · by_cases hsame : o' = o
          · subst hsame
            rw [ho, Option.some.injEq] at hq
            subst hq
            rcases hflow.remains hunfailed hkeep hin with hstill | ⟨p, hp, hevent⟩
            · exact .inr ⟨o', s', Heap.getElem?_write_self hlt s', hstill⟩
            · refine .inl ⟨o', p, List.mem_append_right _ ?_, hevent⟩
              exact List.mem_map_of_mem hp
          · exact .inr ⟨o', q, (Heap.getElem?_write_ne hsame _).trans hq, hin⟩
      · exact .inr ⟨o, s', Heap.getElem?_write_self hlt s', hflow.accepted_subset hnew⟩

/-! ## What is ahead is published first -/

variable {before : StreamEvent Data → StreamEvent Data → Prop}

/-- Everything before the event is published, or waits in this session. -/
def Clear (before : StreamEvent Data → StreamEvent Data → Prop) (log : List (Nat × Effect Data))
    (ahead : List (StreamEvent Data)) (event : StreamEvent Data) : Prop :=
  ∀ e, before e event → Published log e ∨ e ∈ ahead

theorem Clear.append {log : List (Nat × Effect Data)} {ahead : List (StreamEvent Data)}
    {event : StreamEvent Data} (h : Clear before log ahead event)
    (more : List (Nat × Effect Data)) : Clear before (log ++ more) ahead event := by
  intro e he
  rcases h e he with hpub | hin
  · exact .inl (hpub.append more)
  · exact .inr hin

/-- An event that a session takes is clear of the events before it. -/
def Follows (before : StreamEvent Data → StreamEvent Data → Prop) (w : Workload Data) :
    Move Data → Prop
  | .call o (.enqueue _ event) => ∀ s, w.sessions[o]? = some s → HasRoom s →
      Clear before w.log (unsettled s) event
  | _ => True

/-- Queues and publishes respect the order. -/
structure Ordered (before : StreamEvent Data → StreamEvent Data → Prop) (w : Workload Data) :
    Prop where
  queued : ∀ (o : Nat) s, w.sessions[o]? = some s → ∀ ahead event rest,
    unsettled s = ahead ++ event :: rest → Clear before w.log ahead event
  published : ∀ pre o p post, w.log = pre ++ (o, .publish p) :: post →
    Clear before pre [] p.event

/-- A publish is new, or was in the log. -/
theorem published_append {log more : List (Nat × Effect Data)}
    (h : ∀ pre o p post, log = pre ++ (o, .publish p) :: post → Clear before pre [] p.event)
    (hmore : ∀ pre o p post, more = pre ++ (o, .publish p) :: post →
      Clear before (log ++ pre) [] p.event) :
    ∀ pre o p post, log ++ more = pre ++ (o, .publish p) :: post →
      Clear before pre [] p.event := by
  intro pre o p post heq
  rcases List.append_eq_append_iff.mp heq with ⟨mid, rfl, hsplit⟩ | ⟨mid, hlog, hsplit⟩
  · exact hmore mid o p post hsplit
  · cases mid with
    | nil =>
      rw [List.append_nil] at hlog
      subst hlog
      have hclear := hmore [] o p post hsplit.symm
      rw [List.append_nil] at hclear
      exact hclear
    | cons x mid =>
      rw [List.cons_append, List.cons.injEq] at hsplit
      obtain ⟨rfl, rfl⟩ := hsplit
      exact h pre o p mid hlog

/-- Only a publish of the head of the queue can be among these effects. -/
theorem publish_starts {s : StreamSession Data} {next : List (Effect Data)} (h : Starts s next)
    {o o' : Nat} {pre post : List (Nat × Effect Data)} {p : ProcessedStreamEvent Data}
    (heq : (next.map fun e => (o, e)) = pre ++ (o', .publish p) :: post) :
    pre = [] ∧ ∃ rest, unsettled s = p.event :: rest := by
  cases h with
  | nothing => simp at heq
  | head q hq =>
    rw [List.map_singleton] at heq
    cases pre with
    | nil =>
      simp only [List.nil_append, List.cons.injEq, Prod.mk.injEq, Effect.publish.injEq] at heq
      obtain ⟨rest, hrest⟩ := List.head?_eq_some_iff.mp hq
      exact ⟨rfl, rest, by rw [hrest, heq.1.2]⟩
    | cons x pre => simp at heq

theorem aside_no_publish {effects : List (Effect Data)} (h : ∀ e ∈ effects, Aside e) {o o' : Nat}
    {pre post : List (Nat × Effect Data)} {p : ProcessedStreamEvent Data} :
    (effects.map fun e => (o, e)) ≠ pre ++ (o', .publish p) :: post := by
  intro heq
  have hmem : (o', Effect.publish p) ∈ effects.map fun e => (o, e) := by
    rw [heq]
    simp
  obtain ⟨e, he, hsame⟩ := List.mem_map.mp hmem
  rw [Prod.mk.injEq] at hsame
  exact (h e he).1 p hsame.2

/-- What one session does to the order. -/
theorem Flow.ordered {s s' : StreamSession Data} {kind : Kind}
    {accepted : List (StreamEvent Data)} {effects : List (Effect Data)}
    (h : Flow s s' kind accepted effects) {log : List (Nat × Effect Data)} (o : Nat)
    (hqueued : ∀ ahead event rest, unsettled s = ahead ++ event :: rest →
      Clear before log ahead event)
    (hfollows : ∀ e ∈ accepted, Clear before log (unsettled s) e)
    (hsingle : accepted.length ≤ 1)
    (hkeep : ∀ event error, .emitDeadLetter event error ∉ effects) :
    (∀ ahead event rest, unsettled s' = ahead ++ event :: rest →
      Clear before (log ++ effects.map fun e => (o, e)) ahead event) ∧
    ∀ pre o' p post, (effects.map fun e => (o, e)) = pre ++ (o', .publish p) :: post →
      Clear before (log ++ pre) [] p.event := by
  -- Events that join the queue are clear where they stand.
  have hjoined : unsettled s' = unsettled s ++ accepted → ∀ ahead event rest,
      unsettled s' = ahead ++ event :: rest → Clear before log ahead event := by
    intro hq ahead event rest heq
    rw [hq] at heq
    rcases List.append_eq_append_iff.mp heq with ⟨mid, rfl, hsplit⟩ | ⟨mid, hold, hsplit⟩
    · cases mid with
      | nil =>
        rw [List.append_nil]
        exact hfollows event (by rw [hsplit]; simp)
      | cons x mid =>
        rw [hsplit] at hsingle
        simp at hsingle
    · cases mid with
      | nil =>
        rw [List.append_nil] at hold
        rw [← hold]
        exact hfollows event (by rw [← List.nil_append accepted, ← hsplit]; simp)
      | cons x mid =>
        rw [List.cons_append, List.cons.injEq] at hsplit
        obtain ⟨rfl, -⟩ := hsplit
        exact hqueued ahead event mid hold
  cases h with
  | waits _ accepted effects hq haside =>
    constructor
    · intro ahead event rest heq
      exact (hjoined hq ahead event rest heq).append _
    · intro pre o' p post heq
      exact absurd heq (aside_no_publish haside)
  | starts _ accepted effects hq hstarts =>
    constructor
    · intro ahead event rest heq
      exact (hjoined hq ahead event rest heq).append _
    · intro pre o' p post heq
      obtain ⟨rfl, rest, hhead⟩ := publish_starts hstarts heq
      rw [List.append_nil]
      exact hjoined hq [] p.event rest hhead
  | drops effects hq haside =>
    constructor
    · intro ahead event rest heq
      obtain ⟨dropped, hdropped⟩ := hq
      apply Clear.append
      apply hqueued ahead event (rest ++ dropped)
      rw [← hdropped, heq, List.append_assoc, List.cons_append]
    · intro pre o' p post heq
      exact absurd heq (aside_no_publish haside)
  | settles _ event done next hq hdone hstarts =>
    cases hdone with
    | deadLettered error => exact absurd (by simp) (hkeep event error)
    | published q hevent =>
      -- The event in flight is published now, so nothing ahead is lost with it.
      have hpublished : ∀ more, Published (log ++ ((o, .incrementProcessed) ::
          (o, .emitProcessed q) :: more)) event := by
        intro more
        exact ⟨o, q, by simp, hevent⟩
      have hrest : ∀ more ahead e rest, unsettled s' = ahead ++ e :: rest →
          Clear before (log ++ ((o, .incrementProcessed) :: (o, .emitProcessed q) :: more))
            ahead e := by
        intro more ahead e rest heq a ha
        have hall : unsettled s = (event :: ahead) ++ e :: rest := by
          rw [hq, heq, List.cons_append]
        rcases hqueued (event :: ahead) e rest hall a ha with hpub | hin
        · exact .inl (hpub.append _)
        · rcases List.mem_cons.mp hin with rfl | hahead
          · exact .inl (hpublished more)
          · exact .inr hahead
      constructor
      · exact hrest _
      · intro pre o' p post heq
        cases pre with
        | nil => simp at heq
        | cons x pre =>
          cases pre with
          | nil => simp at heq
          | cons y pre =>
            simp only [List.map_cons, List.cons_append, List.nil_append, List.cons.injEq] at heq
            obtain ⟨rfl, rfl, heq⟩ := heq
            obtain ⟨rfl, rest, hhead⟩ := publish_starts hstarts heq
            exact hrest [] [] p.event rest hhead

theorem Ordered.step {w w' : Workload Data} {m : Move Data} (h : w.Ordered before)
    (hsourced : w.Sourced) (hkept : w.Kept) (hfits : w.Fits m) (hm : w.Spares m)
    (hfollows : w.Follows before m) (hs : w.step m = some w') : w'.Ordered before := by
  cases m with
  | spawn session =>
    simp only [Workload.step, Option.some.injEq] at hs
    subst hs
    refine ⟨?_, h.published⟩
    intro o s ho ahead event rest heq
    rcases Heap.getElem?_alloc.mp ho with hold | ⟨-, rfl⟩
    · exact h.queued o s hold ahead event rest heq
    · rw [hfits.2] at heq
      simp at heq
  | call o action =>
    obtain ⟨s, s', accepted, observed, ho, hmove, haccepted, hobserved, rfl⟩ :=
      step_call_move hsourced.pump hs
    have hflow := hmove.flow (hsourced.pump o s ho)
    have hlt := Heap.lt_of_getElem?_eq_some ho
    have hkeep := (hmove.prompt (hkept.prompt o s ho) (hm.resolved hobserved)).2
    have hclear : ∀ e ∈ accepted, Clear before w.log (unsettled s) e := by
      intro e he
      have hroom := hmove.hasRoom (List.ne_nil_of_mem he)
      obtain ⟨now, rfl⟩ := haccepted e he
      exact hfollows s ho hroom
    obtain ⟨hqueue, hlog⟩ := Flow.ordered hflow o (h.queued o s ho) hclear
      hmove.accepted_length hkeep
    constructor
    · intro o' q hq ahead event rest heq
      rcases (Heap.getElem?_write hlt).mp hq with ⟨-, rfl⟩ | ⟨-, hold⟩
      · exact hqueue ahead event rest heq
      · exact (h.queued o' q hold ahead event rest heq).append _
    · exact published_append h.published hlog

/-- Every event comes from somewhere, is kept, and goes in order. -/
structure Delivering (before : StreamEvent Data → StreamEvent Data → Prop) (w : Workload Data) :
    Prop where
  sourced : w.Sourced
  kept : w.Kept
  ordered : w.Ordered before

theorem Delivering.step {w w' : Workload Data} {m : Move Data} (h : w.Delivering before)
    (hfits : w.Fits m) (hm : w.Spares m) (hfollows : w.Follows before m)
    (hs : w.step m = some w') : w'.Delivering before :=
  ⟨h.sourced.step hfits hs, h.kept.step h.sourced hfits hm hs,
    h.ordered.step h.sourced h.kept hfits hm hfollows hs⟩

end Workload

/-! ## The sessions in the map -/

namespace Roster

/-- What the map has for a stream is a session of that stream. -/
def Filed (ro : Roster) : Prop :=
  ∀ stream o, ro.sessions stream = some o → ∃ m, ro.objects[o]? = some m ∧ m.stream = stream

/-- A live session is the one that the map has for its stream. -/
def Mapped (ro : Roster) : Prop :=
  ∀ (o : Nat) m, ro.objects[o]? = some m → m.live = true → ro.sessions m.stream = some o

theorem Filed.step {ro ro' : Roster} {m : Move} (h : ro.Filed) (hs : ro.step m = some ro') :
    ro'.Filed := by
  rcases step_sessions hs with ⟨hsessions, hobjects⟩ | ⟨s, k, -, hsessions, hobjects⟩ |
    ⟨o, obj, hobj, rfl⟩ | ⟨-, hsessions, -⟩
  · rw [Filed, hsessions, hobjects]
    exact h
  · intro stream o ho
    rw [hsessions] at ho
    rw [hobjects]
    by_cases he : stream = s
    · subst he
      rw [Function.update_self, Option.some.injEq] at ho
      subst ho
      exact ⟨_, Heap.getElem?_alloc_self .., rfl⟩
    · rw [Function.update_of_ne he] at ho
      obtain ⟨m, hm, hstream⟩ := h stream o ho
      exact ⟨m, Heap.getElem?_alloc_of_some hm, hstream⟩
  · intro stream o' ho'
    have hold : ro.sessions stream = some o' := by
      rw [endSession_sessions] at ho'
      split at ho'
      · by_cases he : stream = obj.stream
        · rw [he, Function.update_self] at ho'
          cases ho'
        · rwa [Function.update_of_ne he] at ho'
      · exact ho'
    obtain ⟨m, hm, hstream⟩ := h stream o' hold
    rw [endSession_objects]
    by_cases he : o' = o
    · subst he
      rw [hobj, Option.some.injEq] at hm
      subst hm
      exact ⟨_, Heap.getElem?_write_self (Heap.lt_of_getElem?_eq_some hobj) _, hstream⟩
    · exact ⟨m, (Heap.getElem?_write_ne he _).trans hm, hstream⟩
  · intro stream o ho
    rw [hsessions] at ho
    cases ho

theorem Mapped.step {ro ro' : Roster} {m : Move} (h : ro.Mapped) (hm : m ≠ .drained)
    (hs : ro.step m = some ro') : ro'.Mapped := by
  rcases step_sessions hs with ⟨hsessions, hobjects⟩ | ⟨s, k, hnone, hsessions, hobjects⟩ |
    ⟨o, obj, hobj, rfl⟩ | ⟨hdrained, -, -⟩
  · rw [Mapped, hsessions, hobjects]
    exact h
  · intro o m ho hlive
    rw [hobjects] at ho
    rw [hsessions]
    rcases Heap.getElem?_alloc.mp ho with hold | ⟨rfl, rfl⟩
    · have hmapped := h o m hold hlive
      have hne : m.stream ≠ s := by
        rintro rfl
        rw [hnone] at hmapped
        cases hmapped
      rw [Function.update_of_ne hne]
      exact hmapped
    · exact Function.update_self ..
  · intro o' m ho' hlive
    rw [endSession_objects] at ho'
    rcases (Heap.getElem?_write (Heap.lt_of_getElem?_eq_some hobj)).mp ho' with ⟨-, rfl⟩ |
      ⟨hne, hold⟩
    · cases hlive
    · have hmapped := h o' m hold hlive
      rw [endSession_sessions]
      split
      · next hreg =>
        have hother : m.stream ≠ obj.stream := by
          intro he
          rw [he, hreg, Option.some.injEq] at hmapped
          exact hne hmapped.symm
        rw [Function.update_of_ne hother]
        exact hmapped
      · exact hmapped
  · exact absurd hdrained hm

end Roster

namespace SessionRegistry

open Session

theorem step_filed {r r' : SessionRegistry Data} {a : Action Data} (h : r.roster.Filed)
    (hs : r.step a = some r') : r'.roster.Filed := by
  obtain ⟨ms, -, hr⟩ := step_moves hs
  exact run_invariant (fun _ _ _ h hs => Roster.Filed.step h hs) h hr

theorem step_mapped {r r' : SessionRegistry Data} {a : Action Data} (h : r.roster.Mapped)
    (ha : ∀ now i, a ≠ .resumeDrain now i) (hs : r.step a = some r') : r'.roster.Mapped := by
  obtain ⟨ms, hms, hr⟩ := step_moves hs
  apply run_invariant_of (K := fun m => m ≠ .drained) (fun _ _ _ h hm hs => h.step hm hs) h ?_ hr
  intro m hm
  cases hms with
  | drained now i => exact absurd rfl (ha now i)
  | ends _ os =>
    obtain ⟨o, -, rfl⟩ := List.mem_map.mp hm
    intro he
    cases he
  | asks | joins | answers | settles | leaves | shares | surplus | spawns =>
    rw [List.mem_singleton] at hm
    subst hm
    intro he
    cases he

theorem Filed.session {r : SessionRegistry Data} (h : r.roster.Filed) {streamId : String} {o : Nat}
    (ho : r.sessions.lookup streamId = some o) {s : StreamSession Data}
    (hs : r.workload.sessions[o]? = some s) : s.streamId = streamId := by
  obtain ⟨m, hm, hstream⟩ := h streamId o ho
  simp only [roster, List.getElem?_map, Option.map_eq_some_iff] at hm
  obtain ⟨obj, hobj, rfl⟩ := hm
  simp only [workload, List.getElem?_map, hobj, Option.map_some, Option.some.injEq] at hs
  rw [← hs]
  exact hstream

/-- The session that a route spawns, once it is started. -/
theorem started_session (now : Date) (suffix streamId : String) {r : SessionRegistry Data}
    {w : Workload Data}
    (hw : run Workload.step r.workload [.spawn (r.newSession suffix streamId),
      .call r.objects.length (.start now)] = some w) :
    w.accepted = r.workload.accepted ∧ (∃ more, w.log = r.workload.log ++ more) ∧
    ∃ s, w.sessions = r.workload.sessions ++ [s] ∧ s.streamId = streamId ∧ unsettled s = [] ∧
      s.maxQueueDepth = r.options.maxQueueDepth.getD 1000 := by
  have hlength : r.workload.sessions.length = r.objects.length := by simp [workload]
  rw [run_cons_eq_some] at hw
  obtain ⟨spawned, hspawn, hstart⟩ := hw
  simp only [Workload.step, Option.some.injEq] at hspawn
  subst hspawn
  rw [run_singleton] at hstart
  have hget : (r.workload.sessions ++ [r.newSession suffix streamId])[r.objects.length]? =
      some (r.newSession suffix streamId) := by
    rw [← hlength]
    exact Heap.getElem?_alloc_self ..
  have ht : Session.step (.init (r.newSession suffix streamId)) (.start now) =
      some ((Trace.init (r.newSession suffix streamId)).after []
        ((r.newSession suffix streamId).start now)) := rfl
  rw [Workload.step_call (by exact hget) ht, Option.some.injEq] at hstart
  subst hstart
  refine ⟨by simp [Trace.after, Trace.init], ⟨_, rfl⟩,
    ((r.newSession suffix streamId).start now).1, ?_, rfl, rfl, rfl⟩
  show List.set _ _ _ = _
  rw [← hlength, List.set_append_right _ _ (Nat.le_refl _), Nat.sub_self]
  rfl

theorem newSession_fits (suffix streamId : String) (r : SessionRegistry Data) (w : Workload Data) :
    w.Fits (.spawn (r.newSession suffix streamId)) :=
  ⟨create_pumpInv .., rfl⟩

/-- A fact about workloads that every fitting move keeps, when an enqueue is of the
event that the step hands over, is kept by the step. -/
theorem step_workload {I : Workload Data → Prop} {r r' : SessionRegistry Data} {a : Action Data}
    (hfiled : r.roster.Filed)
    (hI : ∀ w m w', I w → w.Fits m →
      (∀ o now e, m = .call o (.enqueue now e) → r.hands a = some e) → w.step m = some w' → I w')
    (h : I r.workload) (hs : r.step a = some r') : I r'.workload := by
  obtain ⟨ms, hms, hr⟩ := step_schedules hs
  cases hms with
  | idle =>
    rw [run_nil, Option.some.injEq] at hr
    exact hr ▸ h
  | enqueues _ now event o hhands ho =>
    rw [run_singleton] at hr
    refine hI _ (.call o (.enqueue now event)) _ h ?_ ?_ hr
    · intro s hget
      exact (Filed.session hfiled ho hget).symm
    · intro o' now' e heq
      rw [Workload.Move.call.injEq, Session.Action.enqueue.injEq] at heq
      rw [hhands, heq.2.2]
  | spawns _ now suffix event hhands _ =>
    obtain ⟨w, hw, henqueue⟩ := (@run_append_eq_some _ _ _ _ _ [_, _] _).mp hr
    obtain ⟨-, -, s, hsessions, hstream, -, -⟩ := started_session now suffix event.streamId hw
    rw [run_cons_eq_some] at hw
    obtain ⟨spawned, hspawn, hstart⟩ := hw
    rw [run_singleton] at hstart henqueue
    have hspawned : I spawned := by
      refine hI _ _ _ h (newSession_fits suffix event.streamId r _) ?_ hspawn
      intro o now' e heq
      cases heq
    have hstarted : I w := by
      refine hI _ (.call r.objects.length (.start now)) _ hspawned (by trivial) ?_ hstart
      intro o now' e heq
      rw [Workload.Move.call.injEq] at heq
      cases heq.2
    refine hI _ (.call r.objects.length (.enqueue now event)) _ hstarted ?_ ?_ henqueue
    · intro q hq
      have hlast : r.objects.length = r.workload.sessions.length := by simp [workload]
      rw [hsessions, hlast, Heap.getElem?_alloc_self, Option.some.injEq] at hq
      rw [← hq, hstream]
    · intro o' now' e heq
      rw [Workload.Move.call.injEq, Session.Action.enqueue.injEq] at heq
      rw [hhands, heq.2.2]
  | pumps | stops | wakes | fails | loses =>
    rw [run_singleton] at hr
    refine hI _ _ _ h (by trivial) ?_ hr
    intro o now e heq
    rw [Workload.Move.call.injEq] at heq
    cases heq.2
  | drains now stops =>
    refine run_invariant_of (K := fun m => ∃ o c, m = .call o (.stop c)) ?_ h ?_ hr
    · rintro w m w' hw ⟨o, c, rfl⟩ hstep
      refine hI _ _ _ hw (by trivial) ?_ hstep
      intro o' now' e heq
      rw [Workload.Move.call.injEq] at heq
      cases heq.2
    · intro m hm
      obtain ⟨stop, -, rfl⟩ := List.mem_map.mp hm
      exact ⟨_, _, rfl⟩

theorem step_sourced {r r' : SessionRegistry Data} {a : Action Data} (h : r.workload.Sourced)
    (hfiled : r.roster.Filed) (hs : r.step a = some r') : r'.workload.Sourced :=
  step_workload hfiled (fun _ _ _ hw hm _ hstep => hw.step hm hstep) h hs

/-- Only the event that a step hands over is taken in it. -/
theorem step_taken {r r' : SessionRegistry Data} {a : Action Data} (h : r.workload.Sourced)
    (hfiled : r.roster.Filed) (hs : r.step a = some r') :
    ∀ e ∈ r'.workload.taken, e ∈ r.workload.taken ∨ r.hands a = some e := by
  have hboth := step_workload (I := fun w => w.Sourced ∧
    ∀ e ∈ w.taken, e ∈ r.workload.taken ∨ r.hands a = some e) hfiled ?_
    ⟨h, fun e he => .inl he⟩ hs
  · exact hboth.2
  · rintro w m w' ⟨hw, hall⟩ hm henqueue hstep
    refine ⟨hw.step hm hstep, ?_⟩
    intro e he
    rcases Workload.step_taken hw hm hstep e he with hold | ⟨o, now, heq⟩
    · exact hall e hold
    · exact .inr (henqueue o now e heq)

/-! ## Orderly delivery -/

/-- There is room for an event of the stream: in the queue of its session, or in that
of a new one. -/
def hasRoomFor (r : SessionRegistry Data) (streamId : String) : Bool :=
  match r.sessions.lookup streamId with
  | some o => (r.objects[o]?).any fun obj =>
      obj.session.state = .running ∧ obj.session.queue.length < obj.session.maxQueueDepth
  | none => 0 < r.options.maxQueueDepth.getD 1000

/-- The step hands the event to a session that has room for it. -/
def Takes (r : SessionRegistry Data) (a : Action Data) (event : StreamEvent Data) : Prop :=
  r.hands a = some event ∧ r.hasRoomFor event.streamId = true

/-- The publishes that the step settles go through. -/
def Delivers : Action Data → Prop
  | .pump _ _ _ answer => answer = .resolved
  | .fail .. => False
  | _ => True

/-- The step fails no session that has events waiting. -/
def KeepsLocks (r : SessionRegistry Data) (a : Action Data) : Prop :=
  ∀ o, r.loses a = some o → ∀ obj, r.objects[o]? = some obj → unsettled obj.session = []

variable {before : StreamEvent Data → StreamEvent Data → Prop}

/-- What was accepted of the stream is published, or waits in the session that the map
has for it. -/
theorem accepted_waits {r : SessionRegistry Data} (h : r.workload.Delivering before)
    (hmapped : r.roster.Mapped) {e : StreamEvent Data} (he : e ∈ r.workload.accepted) :
    Published r.log e ∨ ∃ o s, r.sessions.lookup e.streamId = some o ∧
      r.workload.sessions[o]? = some s ∧ e ∈ unsettled s := by
  rcases h.kept.kept e he with hpub | ⟨o, s, hs, hin⟩
  · exact .inl hpub
  · refine .inr ⟨o, s, ?_, hs, hin⟩
    have hlive : s.state.live = true := by
      by_contra hdead
      rw [Bool.not_eq_true] at hdead
      rw [h.kept.idle o s hs hdead] at hin
      cases hin
    rw [(h.sourced.waiting o s hs e hin).2]
    simp only [workload, List.getElem?_map, Option.map_eq_some_iff] at hs
    obtain ⟨obj, hobj, rfl⟩ := hs
    have hget : r.roster.objects[o]? = some obj.member := by simp [roster, hobj]
    exact hmapped o obj.member hget hlive

theorem hasRoomFor_session {r : SessionRegistry Data} {streamId : String} {o : Nat}
    (ho : r.sessions.lookup streamId = some o) {s : StreamSession Data}
    (hs : r.workload.sessions[o]? = some s) (hroom : HasRoom s) :
    r.hasRoomFor streamId = true := by
  simp only [workload, List.getElem?_map, Option.map_eq_some_iff] at hs
  obtain ⟨obj, hobj, rfl⟩ := hs
  simp only [hasRoomFor, ho, hobj, Option.any_some, decide_eq_true_eq]
  exact hroom

theorem step_delivering {r r' : SessionRegistry Data} {a : Action Data}
    (h : r.workload.Delivering before) (hfiled : r.roster.Filed)
    (hsame : ∀ e event, before e event → e.streamId = event.streamId)
    (hmapped : ∀ event, r.hands a = some event → r.roster.Mapped) (ha : Delivers a)
    (hlocks : r.KeepsLocks a)
    (htakes : ∀ event, r.Takes a event → ∀ e, before e event → e ∈ r.workload.accepted)
    (hs : r.step a = some r') : r'.workload.Delivering before := by
  obtain ⟨ms, hms, hr⟩ := step_schedules hs
  cases hms with
  | idle =>
    rw [run_nil, Option.some.injEq] at hr
    exact hr ▸ h
  | enqueues _ now event o hhands ho =>
    rw [run_singleton] at hr
    have hfits : r.workload.Fits (.call o (.enqueue now event)) :=
      fun s hget => (Filed.session hfiled ho hget).symm
    refine h.step hfits (by trivial) ?_ hr
    intro s hget hroom e he
    have haccepted := htakes event ⟨hhands, hasRoomFor_session ho hget hroom⟩ e he
    rcases accepted_waits h (hmapped event hhands) haccepted with hpub | ⟨o', q, ho', hq, hin⟩
    · exact .inl hpub
    · rw [hsame e event he, ho, Option.some.injEq] at ho'
      subst ho'
      rw [hget, Option.some.injEq] at hq
      exact .inr (hq ▸ hin)
  | spawns _ now suffix event hhands hnone =>
    obtain ⟨w, hw, henqueue⟩ := (@run_append_eq_some _ _ _ _ _ [_, _] _).mp hr
    obtain ⟨haccepted, ⟨more, hlog⟩, s, hsessions, hstream, -, hdepth⟩ :=
      started_session now suffix event.streamId hw
    rw [run_cons_eq_some] at hw
    obtain ⟨spawned, hspawn, hstart⟩ := hw
    rw [run_singleton] at hstart henqueue
    have hlast : w.sessions[r.objects.length]? = some s := by
      have hlength : r.objects.length = r.workload.sessions.length := by simp [workload]
      rw [hsessions, hlength, Heap.getElem?_alloc_self]
    have hstarted : w.Delivering before :=
      (h.step (newSession_fits ..) (by trivial) (by trivial) hspawn).step (by trivial)
        (by trivial) (by trivial) hstart
    refine hstarted.step ?_ (by trivial) ?_ henqueue
    · intro q hq
      rw [hlast, Option.some.injEq] at hq
      rw [← hq, hstream]
    · intro q hq hroom e he
      rw [hlast, Option.some.injEq] at hq
      subst hq
      have hroomFor : r.hasRoomFor event.streamId = true := by
        have hpos : 0 < r.options.maxQueueDepth.getD 1000 := by
          rw [← hdepth]
          exact Nat.zero_lt_of_lt hroom.2
        simp only [hasRoomFor, hnone]
        exact decide_eq_true hpos
      have hin := htakes event ⟨hhands, hroomFor⟩ e he
      rcases accepted_waits h (hmapped event hhands) hin with hpub | ⟨o, q, ho, -, -⟩
      · refine .inl ?_
        rw [hlog]
        exact hpub.append more
      · rw [hsame e event he, hnone] at ho
        cases ho
  | pumps now o i answer =>
    rw [run_singleton] at hr
    have hspares : r.workload.Spares (.call o (.resume now i answer)) := ha
    exact h.step (by trivial) hspares (by trivial) hr
  | fails => exact ha.elim
  | loses _ o error ho =>
    rw [run_singleton] at hr
    refine h.step (by trivial) ?_ (by trivial) hr
    intro s hget
    simp only [workload, List.getElem?_map, Option.map_eq_some_iff] at hget
    obtain ⟨obj, hobj, rfl⟩ := hget
    exact hlocks o ho obj hobj
  | stops | wakes =>
    rw [run_singleton] at hr
    exact h.step (by trivial) (by trivial) (by trivial) hr
  | drains now stops =>
    refine run_invariant_of (K := fun m => ∃ o c, m = .call o (.stop c)) ?_ h ?_ hr
    · rintro w m w' hw ⟨o, c, rfl⟩ hstep
      exact hw.step (by trivial) (by trivial) (by trivial) hstep
    · intro m hm
      obtain ⟨stop, -, rfl⟩ := List.mem_map.mp hm
      exact ⟨_, _, rfl⟩

end SessionRegistry

end Processing
end XStreamRoll
