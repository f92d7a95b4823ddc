/-
A session as a queue, with the event in flight at the head.

`Flow` lists what a step can do to the queue and which publishes go with it.  It
is coarser than `Move`: a retry is not told from an event that keeps waiting, and
a back-off leaves the queue as it is.  What is published was in the queue, what
is in the queue was accepted, and an event leaves the queue as published unless
the session fails or dead-letters it.
-/
import XStreamRoll.Processing.Session.Outcome

namespace XStreamRoll
namespace Processing
namespace Session

open Transition

variable {Data : Type}

/-- The effects among what was observed of a session. -/
def effectsOf (observed : List (Session.Observation Data)) : List (Effect Data) :=
  observed.filterMap fun
    | .effect e => some e
    | .publishSettled .. => none

theorem effectsOf_effects (effects : List (Effect Data)) :
    effectsOf (effects.map .effect) = effects := by
  rw [effectsOf, List.filterMap_map]
  exact List.filterMap_some

/-- The effect neither publishes nor reports that a publish went through. -/
def Aside (e : Effect Data) : Prop :=
  (∀ p, e ≠ .publish p) ∧ ∀ p, e ≠ .emitProcessed p

theorem aside_lifecycle {e : Effect Data} (h : Effect.isLifecycle e = true) : Aside e := by
  constructor
  · rintro p rfl
    cases h
  · rintro p rfl
    cases h

/-- The last effects of a settled event, which was published or dead-lettered. -/
inductive Done (event : StreamEvent Data) : List (Effect Data) → Prop where
  | published (p : ProcessedStreamEvent Data) : p.event = event →
      Done event [.incrementProcessed, .emitProcessed p]
  | deadLettered (error : String) : Done event [.emitDeadLetter event error]

/-- The pump publishes the head of the queue, or stops at its end. -/
inductive Starts (s : StreamSession Data) : List (Effect Data) → Prop where
  | nothing : Starts s []
  | head (p : ProcessedStreamEvent Data) : (unsettled s).head? = some p.event →
      Starts s [.publish p]

/-- `Flow s s' kind accepted effects`: what a step from `s` to `s'` does to the queue. -/
inductive Flow (s s' : StreamSession Data) :
    Kind → List (StreamEvent Data) → List (Effect Data) → Prop where
  | waits (kind : Kind) (accepted : List (StreamEvent Data)) (effects : List (Effect Data)) :
      unsettled s' = unsettled s ++ accepted → (∀ e ∈ effects, Aside e) →
      Flow s s' kind accepted effects
  | starts (kind : Kind) (accepted : List (StreamEvent Data)) (effects : List (Effect Data)) :
      unsettled s' = unsettled s ++ accepted → Starts s' effects →
      Flow s s' kind accepted effects
  | settles (kind : Kind) (event : StreamEvent Data) (done next : List (Effect Data)) :
      unsettled s = event :: unsettled s' → Done event done → Starts s' next →
      Flow s s' kind [] (done ++ next)
  | drops (effects : List (Effect Data)) :
      unsettled s' <+: unsettled s → (∀ e ∈ effects, Aside e) → Flow s s' .failure [] effects

theorem settles_done {f : PumpFrame Data} {observed : List (Observation Data)}
    (hevent : f.processed.event = f.next) (h : Settles f observed) :
    Done f.next (effectsOf observed) := by
  cases h with
  | published => exact .published f.processed hevent
  | deadLettered error => exact .deadLettered error

theorem effectsOf_append (observed more : List (Observation Data)) :
    effectsOf (observed ++ more) =
      effectsOf observed ++ effectsOf more :=
  List.filterMap_append

theorem Move.flow {s s' : StreamSession Data} {kind : Kind}
    {accepted : List (StreamEvent Data)} {observed : List (Observation Data)} (h : PumpInv s)
    (hm : Move s kind accepted observed s') :
    Flow s s' kind accepted (effectsOf observed) := by
  cases hm with
  | lifecycle next stops effects _ hlife =>
    rw [effectsOf_effects]
    exact .waits _ [] effects (List.append_nil _).symm fun e he => aside_lifecycle (hlife e he)
  | push event _ _ _ =>
    refine .waits _ [event] [] ?_ (fun e he => by cases he)
    simp [unsettled]
  | wake now event _ _ hp =>
    refine .starts _ [event] _ ?_ (.head _ ?_)
    · simp [unsettled, h.pumps_nil hp, h.drained hp]
    · simp [unsettled, StreamSession.process]
  | fail next effects _ hlife =>
    rw [effectsOf_effects]
    refine .drops effects ?_ fun e he => aside_lifecycle (hlife e he)
    simp [unsettled]
  | next f observed now event rest hf hset hq _ =>
    have hdone := settles_done (h.event f (by simp [hf])) hset
    rw [effectsOf_append]
    refine .settles _ f.next _ _ ?_ hdone (.head _ ?_)
    · simp [unsettled, hf, hq]
    · simp [unsettled, StreamSession.process]
  | finish f observed hf hset hq =>
    have hdone := settles_done (h.event f (by simp [hf])) hset
    have hflow : Flow s { s with processing := false, pumps := [] } .resumption [] (_ ++ []) :=
      .settles _ f.next _ [] (by simp [unsettled, hf, hq]) hdone .nothing
    rw [List.append_nil] at hflow
    exact hflow
  | exhaust f error hf _ _ =>
    refine .waits _ [] _ (by simp [unsettled, hf]) ?_
    intro e he
    have hsome : e = .deadLetter f.next error (f.attempts + 1) := by
      by_cases hd : s.hasDeadLetter = true
      · simpa [effectsOf, hd] using he
      · simp [effectsOf, hd] at he
    subst hsome
    constructor
    · intro p hp
      cases hp
    · intro p hp
      cases hp
  | backoff f error hf _ _ =>
    exact .waits _ [] [] (by simp [unsettled, hf]) (fun e he => by cases he)
  | retry f ms hf _ =>
    have hevent := h.event f (by simp [hf])
    refine .starts _ [] _ (by simp [unsettled, hf]) (.head f.processed ?_)
    simp [unsettled, hevent]

/-- The events that a step reports as published were in the queue. -/
theorem Flow.emitted {s s' : StreamSession Data} {kind : Kind} {accepted : List (StreamEvent Data)}
    {effects : List (Effect Data)} (h : Flow s s' kind accepted effects)
    {p : ProcessedStreamEvent Data} (hp : .emitProcessed p ∈ effects) :
    p.event ∈ unsettled s := by
  have hstarts : ∀ next : List (Effect Data), Starts s' next → .emitProcessed p ∉ next := by
    rintro next (_ | ⟨q, -⟩) hmem
    · cases hmem
    · simp at hmem
  cases h with
  | waits _ accepted effects _ haside => exact absurd rfl ((haside _ hp).2 p)
  | starts _ accepted effects _ hs => exact absurd hp (hstarts _ hs)
  | drops effects _ haside => exact absurd rfl ((haside _ hp).2 p)
  | settles _ event done next hq hdone hs =>
    rcases List.mem_append.mp hp with hin | hin
    · cases hdone with
      | published q hevent =>
        simp only [List.mem_cons, reduceCtorEq, Effect.emitProcessed.injEq, List.not_mem_nil,
          or_false, false_or] at hin
        rw [hq, hin, hevent]
        exact List.mem_cons_self
      | deadLettered error => simp at hin
    · exact absurd hin (hstarts _ hs)

/-- Nothing enters the queue but what is accepted. -/
theorem Flow.unsettled_subset {s s' : StreamSession Data} {kind : Kind} {accepted : List (StreamEvent Data)}
    {effects : List (Effect Data)} (h : Flow s s' kind accepted effects) {e : StreamEvent Data}
    (he : e ∈ unsettled s') : e ∈ unsettled s ∨ e ∈ accepted := by
  cases h with
  | waits _ accepted effects hq _ | starts _ accepted effects hq _ =>
    rw [hq, List.mem_append] at he
    exact he
  | settles _ event done next hq _ _ =>
    rw [hq]
    exact .inl (List.mem_cons_of_mem _ he)
  | drops effects hq _ => exact .inl (hq.subset he)

/-- What is accepted waits at the end of the queue. -/
theorem Flow.accepted_subset {s s' : StreamSession Data} {kind : Kind}
    {accepted : List (StreamEvent Data)} {effects : List (Effect Data)}
    (h : Flow s s' kind accepted effects) : accepted ⊆ unsettled s' := by
  cases h with
  | waits _ accepted effects hq _ | starts _ accepted effects hq _ =>
    rw [hq]
    exact List.subset_append_right ..
  | settles _ event done next _ _ _ | drops effects _ _ => exact List.nil_subset _

/-- An event leaves the queue as published, unless it is dropped or dead-lettered. -/
theorem Flow.remains {s s' : StreamSession Data} {kind : Kind}
    {accepted : List (StreamEvent Data)} {effects : List (Effect Data)}
    (h : Flow s s' kind accepted effects) (hfail : kind = .failure → unsettled s = [])
    (hkeep : ∀ event error, .emitDeadLetter event error ∉ effects) {e : StreamEvent Data}
    (he : e ∈ unsettled s) : e ∈ unsettled s' ∨ ∃ p, .emitProcessed p ∈ effects ∧ p.event = e := by
  cases h with
  | waits _ accepted effects hq _ | starts _ accepted effects hq _ =>
    rw [hq]
    exact .inl (List.mem_append_left _ he)
  | settles _ event done next hq hdone _ =>
    rw [hq, List.mem_cons] at he
    rcases he with rfl | hin
    · cases hdone with
      | published p hevent => exact .inr ⟨p, by simp, hevent⟩
      | deadLettered error => exact absurd (by simp) (hkeep e error)
    · exact .inl hin
  | drops effects _ _ =>
    rw [hfail rfl] at he
    cases he

theorem Move.streamId {s s' : StreamSession Data} {kind : Kind}
    {accepted : List (StreamEvent Data)} {observed : List (Observation Data)}
    (hm : Move s kind accepted observed s') : s'.streamId = s.streamId := by
  cases hm <;> rfl

/-- A session that neither runs nor drains has nothing left to do, unless it failed
with events waiting. -/
theorem Move.idle {s s' : StreamSession Data} {kind : Kind}
    {accepted : List (StreamEvent Data)} {observed : List (Observation Data)} (h : PumpInv s)
    (hm : Move s kind accepted observed s') (hidle : s.state.live = false → unsettled s = [])
    (hfail : kind = .failure → unsettled s = []) (hdead : s'.state.live = false) :
    unsettled s' = [] := by
  cases hm with
  | lifecycle next stops effects hnext _ =>
    rcases hnext with rfl | ⟨-, rfl⟩ | ⟨-, rfl⟩ | ⟨-, hp⟩
    · exact hidle hdead
    · cases hdead
    · cases hdead
    · simp [unsettled, h.pumps_nil hp, h.drained hp]
  | push event hrun _ _ | wake now event hrun _ _ =>
    have hlive : s.state.live = true := by rw [hrun]; rfl
    rw [hlive] at hdead
    cases hdead
  | fail next effects _ _ =>
    have hnone := hfail rfl
    simp only [unsettled, List.append_eq_nil_iff] at hnone
    simp [unsettled, hnone.1]
  | next f observed now event rest hf _ _ _ | finish f observed hf _ _ | exhaust f error hf _ _
  | backoff f error hf _ _ | retry f ms hf _ =>
    have hsome := hidle hdead
    simp [unsettled, hf] at hsome

/-- The pump waits for a publish whenever it waits. -/
def Prompt (s : StreamSession Data) : Prop :=
  ∀ f ∈ s.pumps, f.await = .publish

/-- While no publish fails, no event is dead-lettered. -/
theorem Move.prompt {s s' : StreamSession Data} {kind : Kind}
    {accepted : List (StreamEvent Data)} {observed : List (Observation Data)} (h : Prompt s)
    (hm : Move s kind accepted observed s')
    (hresolved : ∀ p answer, .publishSettled p answer ∈ observed → answer = .resolved) :
    Prompt s' ∧ ∀ event error, .emitDeadLetter event error ∉ effectsOf observed := by
  have hsettled : ∀ (f : PumpFrame Data) (done : List (Observation Data)), s.pumps = [f] →
      Settles f done → effectsOf done =
        [.incrementProcessed, .emitProcessed f.processed] := by
    intro f done hf hdone
    cases hdone with
    | published => rfl
    | deadLettered error hawait =>
      have hpublish := h f (by simp [hf])
      rw [hawait] at hpublish
      cases hpublish
  cases hm with
  | lifecycle next stops effects _ hlife | fail next effects _ hlife =>
    refine ⟨h, ?_⟩
    intro event error he
    rw [effectsOf_effects] at he
    cases hlife _ he
  | push event _ _ _ =>
    refine ⟨h, ?_⟩
    intro event error he
    cases he
  | wake now event _ _ _ =>
    refine ⟨by simp [Prompt], ?_⟩
    intro event error he
    simp [effectsOf] at he
  | next f observed now event rest hf hset _ _ =>
    refine ⟨by simp [Prompt], ?_⟩
    intro event error he
    rw [effectsOf_append, hsettled f observed hf hset] at he
    simp [effectsOf] at he
  | finish f observed hf hset _ =>
    refine ⟨by simp [Prompt], ?_⟩
    intro event error he
    rw [hsettled f observed hf hset] at he
    simp at he
  | exhaust f error _ _ _ | backoff f error _ _ _ =>
    cases hresolved f.processed (.rejected error) (by simp)
  | retry f ms hf hawait =>
    have hpublish := h f (by simp [hf])
    rw [hawait] at hpublish
    cases hpublish

/-- `enqueue` takes an event. -/
def HasRoom (s : StreamSession Data) : Prop :=
  s.state = .running ∧ s.queue.length < s.maxQueueDepth

theorem Move.hasRoom {s s' : StreamSession Data} {kind : Kind}
    {accepted : List (StreamEvent Data)} {observed : List (Observation Data)}
    (hm : Move s kind accepted observed s') (h : accepted ≠ []) : HasRoom s := by
  cases hm with
  | push event hrun hroom _ | wake now event hrun hroom _ => exact ⟨hrun, hroom⟩
  | lifecycle | fail | next | finish | exhaust | backoff | retry => exact absurd rfl h

theorem Move.accepted_length {s s' : StreamSession Data} {kind : Kind}
    {accepted : List (StreamEvent Data)} {observed : List (Observation Data)}
    (hm : Move s kind accepted observed s') : accepted.length ≤ 1 := by
  cases hm <;> simp

/-! ## What an action accounts for -/

/-- The `enqueue` of a session is that of its history. -/
theorem enqueue_trace (now : Date) (event : StreamEvent Data) (s : StreamSession Data) :
    step (.init s) (.enqueue now event) = some
      ⟨(s.enqueue now event).2.1, if (s.enqueue now event).1 then [event] else [],
        (s.enqueue now event).2.2.map .effect⟩ := by
  show some (if (s.enqueue now event).1 = true then _ else _ : Trace Data) = _
  by_cases hok : (s.enqueue now event).1 = true
  · rw [if_pos hok, if_pos hok]
    rfl
  · rw [if_neg hok, if_neg hok]
    rfl

/-- Only `enqueue` has an event accepted. -/
theorem step_accepted {s : StreamSession Data} {a : Action Data} {t : Trace Data}
    (h : step (.init s) a = some t) : ∀ e ∈ t.accepted, ∃ now, a = .enqueue now e := by
  intro e he
  cases a with
  | enqueue now event =>
    rw [enqueue_trace, Option.some.injEq] at h
    subst h
    split at he
    · rw [List.mem_singleton] at he
      exact ⟨now, by rw [he]⟩
    · cases he
  | start now | stop call | fail error =>
    simp only [step, Option.some.injEq] at h
    subst h
    cases he
  | stopWake call =>
    simp only [step] at h
    split at h
    · rw [Option.some.injEq] at h
      subst h
      cases he
    · cases h
  | resume now i answer =>
    obtain ⟨ran, -, rfl⟩ := Option.map_eq_some_iff.mp h
    cases he

/-- Only a resumption settles a publish. -/
theorem step_settled {s : StreamSession Data} {a : Action Data} {t : Trace Data}
    (h : step (.init s) a = some t) {p : ProcessedStreamEvent Data} {answer : Settlement}
    (hp : .publishSettled p answer ∈ t.log) : ∃ now i, a = .resume now i answer := by
  cases a with
  | enqueue now event =>
    rw [enqueue_trace, Option.some.injEq] at h
    subst h
    simp at hp
  | start now | stop call | fail error =>
    simp only [step, Option.some.injEq] at h
    subst h
    simp [Trace.after, Trace.init] at hp
  | stopWake call =>
    simp only [step] at h
    split at h
    · rw [Option.some.injEq] at h
      subst h
      simp [Trace.after, Trace.init] at hp
    · cases h
  | resume now i answer' =>
    obtain ⟨ran, -, rfl⟩ := Option.map_eq_some_iff.mp h
    simp only [Trace.after, Trace.init, List.nil_append, List.mem_append, List.mem_map,
      reduceCtorEq, and_false, exists_false, or_false] at hp
    unfold answered at hp
    split at hp
    · split at hp
      · rw [List.mem_singleton, Observation.publishSettled.injEq] at hp
        exact ⟨now, i, by rw [hp.2]⟩
      · cases hp
    · cases hp

end Session
end Processing
end XStreamRoll
