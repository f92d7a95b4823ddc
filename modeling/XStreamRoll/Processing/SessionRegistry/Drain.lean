/-
What `drainAll()` does to the sessions of a registry.

It calls `stop()` on every session in the map and waits.  From that call on the
session winds down: it drains, with that `stop()` asleep, until its pump is done
or it fails.  So when all those calls have returned no session runs, as long as
no route has spawned another one meanwhile.

A session that failed before has left the map, and nobody waits for it.  Its pump
may still have a retry to make.
-/
import XStreamRoll.Lists
import XStreamRoll.Processing.Session.Silence
import XStreamRoll.Processing.Session.Terminal
import XStreamRoll.Processing.SessionRegistry.Coherence
import XStreamRoll.Processing.SessionRegistry.Delivery

namespace XStreamRoll
namespace Processing

open Transition

variable {Data : Type}

/-! ## A session that winds down -/

namespace Session

/-- The session is over, or drains with this `stop()` asleep. -/
def Winding (call : Nat) (s : StreamSession Data) : Prop :=
  terminal s.state = true ∨ s.state = .draining ∧ call ∈ s.stops

theorem Winding.closed {call : Nat} {s : StreamSession Data} (h : Winding call s) :
    s.state ≠ .idle ∧ s.state ≠ .running := by
  rcases h with hend | ⟨hdraining, -⟩
  · constructor
    · intro hs
      rw [hs] at hend
      cases hend
    · intro hs
      rw [hs] at hend
      cases hend
  · rw [hdraining]
    exact ⟨by simp, by simp⟩

theorem transition_stopped (s : StreamSession Data) : (s.transition .stopped).1.state = .stopped := by
  unfold StreamSession.transition
  split
  · assumption
  · rfl

/-- `stop()` starts to wind the session down. -/
theorem stop_winding {s : StreamSession Data} (h : PumpInv s) (call : Nat) :
    Winding call (s.stop call).1 := by
  unfold StreamSession.stop
  by_cases hend : s.state = .stopped ∨ s.state = .errored
  · rw [if_pos hend]
    left
    rcases hend with hs | hs
    · rw [hs]
      rfl
    · rw [hs]
      rfl
  · rw [if_neg hend]
    by_cases hp : s.processing = true
    · -- An idle session has no pump.
      right
      have hstate : s.state = .running ∨ s.state = .draining := by
        cases hs : s.state with
        | running => exact .inl rfl
        | draining => exact .inr rfl
        | idle =>
          rw [h.quiet (.inl hs)] at hp
          cases hp
        | stopped => exact absurd (.inl hs) hend
        | errored => exact absurd (.inr hs) hend
      rcases hstate with hs | hs
      · simp [hs, hp, StreamSession.transition]
      · simp [hs, hp]
    · left
      have hstopped : ∀ q : StreamSession Data, q.processing = false →
          terminal (if q.processing then ({ q with stops := q.stops ++ [call] }, [])
            else q.transition .stopped : StreamSession Data × List (Effect Data)).1.state =
              true := by
        intro q hq
        rw [hq, if_neg Bool.false_ne_true, transition_stopped]
        rfl
      have hoff : s.processing = false := Bool.not_eq_true _ ▸ hp
      by_cases hs : s.state = .running
      · simp only [hs, if_true, StreamSession.transition, reduceCtorEq, if_false, hoff,
          Bool.false_eq_true]
        rfl
      · simp only [hs, if_false, hoff, Bool.false_eq_true]
        rw [transition_stopped]
        rfl

theorem Move.ended {s s' : StreamSession Data} {kind : Kind} {accepted : List (StreamEvent Data)}
    {observed : List (Observation Data)} (h : terminal s.state = true)
    (hm : Move s kind accepted observed s') : terminal s'.state = true := by
  cases hm with
  | lifecycle next stops effects hnext _ =>
    rcases hnext with rfl | ⟨hs, -⟩ | ⟨hs, -⟩ | ⟨rfl, -⟩
    · exact h
    · rw [hs] at h
      cases h
    · rw [hs] at h
      cases h
    · rfl
  | fail next effects hnext _ =>
    show terminal next = true
    rw [hnext]
    split
    · rfl
    · exact h
  | push event hs _ _ | wake now event hs _ _ =>
    rw [hs] at h
    cases h
  | next | finish | exhaust | backoff | retry => exact h

theorem resume_stops {s : StreamSession Data} {now : Date} {i : Nat} {answer : Settlement}
    {ran : StreamSession Data × List (Effect Data)} (h : s.resume now i answer = some ran) :
    ran.1.stops = s.stops := by
  have hloop : ∀ q : StreamSession Data, (q.pumpLoop now).1.stops = q.stops := by
    intro q
    rcases pumpLoop_cases now q with ⟨event, rest, -, -, heq⟩ | ⟨-, heq⟩
    · rw [heq]
    · rw [heq]
  unfold StreamSession.resume at h
  split at h
  · cases h
  · next f hf =>
    split at h
    · rw [Option.some.injEq] at h
      rw [← h]
      exact hloop (s.resumePump i)
    · rw [Option.some.injEq] at h
      rw [← h]
      simp only [StreamSession.publishRejected]
      split <;> rfl
    · rw [Option.some.injEq] at h
      rw [← h]
      rfl
    · cases h
    · rw [Option.some.injEq] at h
      rw [← h]
      exact hloop (s.resumePump i)

/-- It keeps winding down, whatever is called on it. -/
theorem step_winding {s : StreamSession Data} {a : Action Data} {t : Trace Data} {call : Nat}
    (hinv : PumpInv s) (h : Winding call s) (hs : step (.init s) a = some t) :
    Winding call t.session := by
  rcases h with hend | ⟨hdraining, hmem⟩
  · obtain ⟨accepted, observed, hm, -⟩ := step_move (t := .init s) hinv hs
    exact .inl (hm.ended hend)
  · cases a with
    | start now =>
      simp only [step, Option.some.injEq] at hs
      subst hs
      show Winding call (s.start now).1
      rw [StreamSession.start, if_pos (by rw [hdraining]; simp)]
      exact .inr ⟨hdraining, hmem⟩
    | enqueue now event =>
      rw [step, Option.some.injEq] at hs
      subst hs
      have hclosed : s.state ≠ .running := by
        rw [hdraining]
        simp
      have hsame : (Trace.init s).session.enqueue now event = (false, s, []) :=
        enqueue_closed hclosed now event
      rw [hsame]
      exact .inr ⟨hdraining, hmem⟩
    | stop other =>
      simp only [step, Option.some.injEq] at hs
      subst hs
      show Winding call (s.stop other).1
      rw [StreamSession.stop, if_neg (by simp [hdraining])]
      simp only [hdraining, reduceCtorEq, if_false]
      split
      · exact .inr ⟨rfl, List.mem_append_left _ hmem⟩
      · left
        show terminal (s.transition .stopped).1.state = true
        rw [transition_stopped]
        rfl
    | stopWake other =>
      simp only [step] at hs
      split at hs
      · rw [Option.some.injEq] at hs
        subst hs
        show Winding call (s.stopWake other).1
        rw [StreamSession.stopWake]
        split
        · exact .inr ⟨hdraining, hmem⟩
        · left
          rw [transition_stopped]
          rfl
      · cases hs
    | fail error =>
      simp only [step, Option.some.injEq] at hs
      subst hs
      show Winding call (s.fail error).1
      rw [fail_session]
      cases s.errorListener with
      | true => exact .inl rfl
      | false => exact .inr ⟨hdraining, hmem⟩
    | resume now i answer =>
      simp only [step] at hs
      obtain ⟨ran, hran, rfl⟩ := Option.map_eq_some_iff.mp hs
      right
      constructor
      · show ran.1.state = .draining
        rw [resume_state hran]
        exact hdraining
      · show call ∈ ran.1.stops
        rw [resume_stops hran]
        exact hmem

/-- A session that is over publishes nothing more, unless its pump has a retry left. -/
theorem silent_of_over {s : StreamSession Data} (hinv : PumpInv s) (h : terminal s.state = true)
    (hretry : ¬RetryLeft s) : Silent s := by
  have hclosed : Winding 0 s := .inl h
  refine ⟨.inl hclosed.closed, hinv.closed hclosed.closed.2 ?_, hretry⟩
  intro hs
  rw [hs] at h
  cases h

theorem Move.started {s s' : StreamSession Data} {kind : Kind}
    {accepted : List (StreamEvent Data)} {observed : List (Observation Data)}
    (h : s.state ≠ .idle) (hm : Move s kind accepted observed s') : s'.state ≠ .idle := by
  cases hm with
  | lifecycle next stops effects hnext _ =>
    rcases hnext with rfl | ⟨-, rfl⟩ | ⟨-, rfl⟩ | ⟨rfl, -⟩
    · exact h
    · simp
    · simp
    · simp
  | fail next effects hnext _ =>
    show next ≠ .idle
    rw [hnext]
    split
    · simp
    · exact h
  | push | wake | next | finish | exhaust | backoff | retry => exact h

theorem effectsOf_publishes (log : List (Observation Data)) :
    (effectsOf log).countP Effect.isPublish = publishCalls log := by
  induction log with
  | nil => rfl
  | cons x log ih =>
    rw [publishCalls, List.countP_cons, ← publishCalls, ← ih]
    cases x with
    | publishSettled => rfl
    | effect e =>
      show (e :: effectsOf log).countP Effect.isPublish = _
      rw [List.countP_cons]
      cases e <;> rfl

end Session

/-! ## The sessions of a workload -/

namespace Workload

open Session

/-- Every session has been started, and its pump is in order. -/
def Started (w : Workload Data) : Prop := ∀ s ∈ w.sessions, PumpInv s ∧ s.state ≠ .idle

/-- Every session is over, or winds down under one of these `stop()` calls. -/
def WindsDown (stops : List (Nat × Nat)) (w : Workload Data) : Prop :=
  ∀ (o : Nat) s, w.sessions[o]? = some s →
    terminal s.state = true ∨ ∃ call, (o, call) ∈ stops ∧ Winding call s

/-- Every session is over, and no pump has a retry left. -/
def Quiet (w : Workload Data) : Prop := ∀ s ∈ w.sessions, terminal s.state = true ∧ ¬RetryLeft s

/-- How often a publish has been started. -/
def publishes (w : Workload Data) : Nat := w.log.countP fun e => e.2.isPublish

theorem Started.call {w w' : Workload Data} {o : Nat} {action : Session.Action Data}
    (h : w.Started) (hs : w.step (.call o action) = some w') : w'.Started := by
  rw [Workload.step] at hs
  split at hs
  · cases hs
  · next s ho =>
    obtain ⟨t, ht, rfl⟩ := Option.map_eq_some_iff.mp hs
    obtain ⟨hinv, hstarted⟩ := h s (List.mem_of_getElem? ho)
    obtain ⟨accepted, observed, hm, -⟩ := step_move (t := .init s) hinv ht
    exact forall_mem_set h ⟨hm.pumpInv hinv, hm.started hstarted⟩

theorem WindsDown.call {w w' : Workload Data} {stops : List (Nat × Nat)} {o : Nat}
    {action : Session.Action Data} (h : w.WindsDown stops) (hstarted : w.Started)
    (hs : w.step (.call o action) = some w') : w'.WindsDown stops := by
  rw [Workload.step] at hs
  split at hs
  · cases hs
  · next s ho =>
    obtain ⟨t, ht, rfl⟩ := Option.map_eq_some_iff.mp hs
    have hinv := (hstarted s (List.mem_of_getElem? ho)).1
    intro o' q hq
    rcases (Heap.getElem?_write (Heap.lt_of_getElem?_eq_some ho)).mp hq with ⟨rfl, rfl⟩ | ⟨-, hold⟩
    · rcases h o' s ho with hend | ⟨call, hcall, hwinding⟩
      · obtain ⟨accepted, observed, hm, -⟩ := step_move (t := .init s) hinv ht
        exact .inl (hm.ended hend)
      · exact .inr ⟨call, hcall, step_winding hinv hwinding ht⟩
    · exact h o' q hold

theorem Quiet.call {w w' : Workload Data} {o : Nat} {action : Session.Action Data}
    (h : w.Quiet) (hstarted : w.Started) (hs : w.step (.call o action) = some w') :
    w'.Quiet ∧ w'.publishes = w.publishes := by
  rw [Workload.step] at hs
  split at hs
  · cases hs
  · next s ho =>
    obtain ⟨t, ht, rfl⟩ := Option.map_eq_some_iff.mp hs
    have hmem := List.mem_of_getElem? ho
    have hinv := (hstarted s hmem).1
    obtain ⟨hend, hretry⟩ := h s hmem
    obtain ⟨accepted, observed, hm, -, hlog⟩ := step_move (t := .init s) hinv ht
    obtain ⟨hsilent, hnone⟩ := hm.silent (silent_of_over hinv hend hretry)
    constructor
    · exact forall_mem_set h ⟨hm.ended hend, hsilent.exhausted⟩
    · have hlog' : t.log = observed := hlog
      have hcount : (((effectsOf t.log).map fun e => (o, e)).countP fun e => e.2.isPublish) =
          (effectsOf t.log).countP Effect.isPublish := by
        rw [List.countP_map]
        rfl
      rw [publishes, List.countP_append, hcount, effectsOf_publishes, hlog', hnone, Nat.add_zero]
      rfl

end Workload

/-! ## The routes that await a claim -/

namespace Roster

/-- Some route waits for every claim that is not answered and settled. -/
def Awaited (ro : Roster) : Prop :=
  ∀ (i : Nat) (c : Claim), ro.claims[i]? = some c → c.settled = false ∨ c.grant = none →
    ∃ stream, (stream, i) ∈ ro.waiting

/-- A route waits for a claim that was granted this token. -/
def Pending (ro : Roster) (k : String) : Prop :=
  ∃ (i : Nat) (c : Claim) (stream : String), ro.claims[i]? = some c ∧ c.grant = some (some k) ∧
    (stream, i) ∈ ro.waiting

/-- A route that resumes was waiting for a claim that is answered and settled. -/
theorem Awaited.resumed {ro : Roster} (h : ro.Awaited) {j : Nat} {stream : String}
    {grant : Option String} (hr : ro.resuming j = some (stream, some grant)) :
    Awaited { ro with waiting := ro.waiting.eraseIdx j } := by
  obtain ⟨i, c, hw, hc, hset, hgrant⟩ := resuming_eq_some.mp hr
  intro i' c' hc' hopen
  obtain ⟨stream', hmem⟩ := h i' c' hc' hopen
  rcases mem_eraseIdx_or hmem j with hkept | hj
  · exact ⟨stream', hkept⟩
  · rw [hw, Option.some.injEq, Prod.mk.injEq] at hj
    obtain ⟨-, rfl⟩ := hj
    have hsame : c = c' := Option.some.inj (hc.symm.trans hc')
    subst hsame
    rcases hopen with hopen | hopen
    · rw [hset] at hopen
      cases hopen
    · rw [hgrant] at hopen
      cases hopen

/-- The claim `i` is answered or settled. -/
theorem Awaited.claim_written {ro : Roster} (h : ro.Awaited) {i : Nat} {c d : Claim}
    (hc : ro.claims[i]? = some c)
    (hopen : d.settled = false ∨ d.grant = none → c.settled = false ∨ c.grant = none)
    (i' : Nat) (c' : Claim) (hc' : (ro.claims.set i d)[i']? = some c')
    (hopen' : c'.settled = false ∨ c'.grant = none) : ∃ stream, (stream, i') ∈ ro.waiting := by
  rcases (Heap.getElem?_write (Heap.lt_of_getElem?_eq_some hc)).mp hc' with ⟨rfl, rfl⟩ | ⟨-, hold⟩
  · exact h i' c hc (hopen hopen')
  · exact h i' c' hold hopen'

theorem Awaited.step {ro ro' : Roster} {m : Move} (h : ro.Awaited) (hs : ro.step m = some ro') :
    ro'.Awaited := by
  cases m with
  | ask stream =>
    simp only [Roster.step] at hs
    split at hs
    · rw [Option.some.injEq] at hs
      subst hs
      intro i c hc hopen
      rcases Heap.getElem?_alloc.mp hc with hold | ⟨rfl, -⟩
      · obtain ⟨stream', hmem⟩ := h i c hold hopen
        exact ⟨stream', List.mem_append_left _ hmem⟩
      · exact ⟨stream, List.mem_append_right _ List.mem_cons_self⟩
    · cases hs
  | join stream i =>
    simp only [Roster.step] at hs
    split at hs
    · rw [Option.some.injEq] at hs
      subst hs
      intro i' c hc hopen
      obtain ⟨stream', hmem⟩ := h i' c hc hopen
      exact ⟨stream', List.mem_append_left _ hmem⟩
    · cases hs
  | answer i grant =>
    simp only [Roster.step] at hs
    split at hs
    · cases hs
    · next c hc =>
      split at hs
      · cases hs
      · rw [Option.some.injEq] at hs
        subst hs
        refine h.claim_written hc ?_
        rintro (hopen | hopen)
        · exact .inl hopen
        · cases hopen
  | settle i =>
    simp only [Roster.step] at hs
    split at hs
    · cases hs
    · next c hc =>
      split at hs
      · cases hs
      · rw [Option.some.injEq] at hs
        subst hs
        refine h.claim_written hc ?_
        rintro (hopen | hopen)
        · cases hopen
        · exact .inr hopen
  | leave j =>
    simp only [Roster.step] at hs
    split at hs
    · next hg =>
      rw [Option.some.injEq] at hs
      subst hs
      obtain ⟨⟨stream, grant⟩, hr, hgrant⟩ := Option.map_eq_some_iff.mp hg
      simp only at hgrant
      subst hgrant
      exact h.resumed hr
    · cases hs
  | share j | surplus j | spawn j =>
    simp only [Roster.step] at hs
    split at hs
    · next hr =>
      split at hs
      · rw [Option.some.injEq] at hs
        subst hs
        exact h.resumed hr
      · cases hs
    · cases hs
  | ended o =>
    simp only [Roster.step] at hs
    split at hs
    · cases hs
    · rw [Option.some.injEq] at hs
      subst hs
      intro i c hc hopen
      rw [endSession_claims] at hc
      rw [endSession_waiting]
      exact h i c hc hopen
  | drained =>
    simp only [Roster.step, Option.some.injEq] at hs
    subst hs
    exact h

/-- Without a session in the map, only a spawn takes a granted claim off the waiting
routes. -/
theorem Pending.step {ro ro' : Roster} {m : Move} {k : String} (h : ro.Pending k)
    (hempty : ∀ stream, ro.sessions stream = none) (hm : ∀ j, m ≠ .spawn j)
    (hs : ro.step m = some ro') : ro'.Pending k := by
  obtain ⟨i, c, stream, hc, hgrant, hmem⟩ := h
  cases m with
  | ask stream' =>
    simp only [Roster.step] at hs
    split at hs
    · rw [Option.some.injEq] at hs
      subst hs
      exact ⟨i, c, stream, Heap.getElem?_alloc_of_some hc, hgrant, List.mem_append_left _ hmem⟩
    · cases hs
  | join stream' i' =>
    simp only [Roster.step] at hs
    split at hs
    · rw [Option.some.injEq] at hs
      subst hs
      exact ⟨i, c, stream, hc, hgrant, List.mem_append_left _ hmem⟩
    · cases hs
  | answer i' grant =>
    simp only [Roster.step] at hs
    split at hs
    · cases hs
    · next c' hc' =>
      split at hs
      · cases hs
      · next hnone =>
        rw [Option.some.injEq] at hs
        subst hs
        have hne : i ≠ i' := by
          rintro rfl
          rw [hc, Option.some.injEq] at hc'
          subst hc'
          rw [hgrant] at hnone
          exact hnone rfl
        exact ⟨i, c, stream, (Heap.getElem?_write_ne hne _).trans hc, hgrant, hmem⟩
  | settle i' =>
    simp only [Roster.step] at hs
    split at hs
    · cases hs
    · next c' hc' =>
      split at hs
      · cases hs
      · rw [Option.some.injEq] at hs
        subst hs
        by_cases he : i = i'
        · subst he
          rw [hc, Option.some.injEq] at hc'
          subst hc'
          exact ⟨i, _, stream, Heap.getElem?_write_self (Heap.lt_of_getElem?_eq_some hc) _,
            hgrant, hmem⟩
        · exact ⟨i, c, stream, (Heap.getElem?_write_ne he _).trans hc, hgrant, hmem⟩
  | leave j =>
    simp only [Roster.step] at hs
    split at hs
    · next hg =>
      rw [Option.some.injEq] at hs
      subst hs
      refine ⟨i, c, stream, hc, hgrant, ?_⟩
      rcases mem_eraseIdx_or hmem j with hkept | hj
      · exact hkept
      · -- The route that leaves was refused, so it is another one.
        obtain ⟨⟨stream', grant'⟩, hr, hrefused⟩ := Option.map_eq_some_iff.mp hg
        simp only at hrefused
        subst hrefused
        obtain ⟨i', c', hw, hc', -, hgrant'⟩ := resuming_eq_some.mp hr
        rw [hw, Option.some.injEq, Prod.mk.injEq] at hj
        obtain ⟨-, rfl⟩ := hj
        rw [hc, Option.some.injEq] at hc'
        subst hc'
        rw [hgrant] at hgrant'
        cases hgrant'
    · cases hs
  | share j | surplus j =>
    simp only [Roster.step] at hs
    split at hs
    · split at hs
      · next hg => exact absurd (hempty _) hg.1
      · cases hs
    · cases hs
  | spawn j => exact absurd rfl (hm j)
  | ended o =>
    simp only [Roster.step] at hs
    split at hs
    · cases hs
    · rw [Option.some.injEq] at hs
      subst hs
      refine ⟨i, c, stream, ?_, hgrant, ?_⟩
      · rw [endSession_claims]
        exact hc
      · rw [endSession_waiting]
        exact hmem
  | drained =>
    simp only [Roster.step, Option.some.injEq] at hs
    subst hs
    exact ⟨i, c, stream, hc, hgrant, hmem⟩

end Roster

namespace SessionRegistry

open Session

/-- The step resumes a route whose claim was granted, and there is no session for it. -/
def Spawns (r : SessionRegistry Data) (a : Action Data) : Prop :=
  ∃ event, r.hands a = some event ∧ r.sessions.lookup event.streamId = none

instance (r : SessionRegistry Data) (a : Action Data) : Decidable (r.Spawns a) :=
  match h : r.hands a with
  | none => isFalse fun ⟨_, hhands, _⟩ => by rw [h] at hhands; cases hhands
  | some event => decidable_of_iff (r.sessions.lookup event.streamId = none)
    ⟨fun hnone => ⟨event, h, hnone⟩, fun ⟨event', hhands, hnone⟩ => by
      rw [h, Option.some.injEq] at hhands
      exact hhands ▸ hnone⟩

/-- What every call keeps is kept by a step, if a spawn in it keeps it too. -/
theorem step_calls {I : Workload Data → Prop} {r r' : SessionRegistry Data} {a : Action Data}
    (hI : ∀ w o action w', I w → w.step (.call o action) = some w' → I w')
    (hspawn : r.Spawns a → ∀ now suffix streamId w,
      run Workload.step r.workload [.spawn (r.newSession suffix streamId),
        .call r.objects.length (.start now)] = some w → I w)
    (h : I r.workload) (hs : r.step a = some r') : I r'.workload := by
  obtain ⟨ms, hms, hr⟩ := step_schedules hs
  cases hms with
  | idle =>
    rw [run_nil, Option.some.injEq] at hr
    exact hr ▸ h
  | spawns _ now suffix event hhands hnone =>
    obtain ⟨w, hw, henqueue⟩ := (@run_append_eq_some _ _ _ _ _ [_, _] _).mp hr
    rw [run_singleton] at henqueue
    exact hI _ _ _ _ (hspawn ⟨event, hhands, hnone⟩ now suffix event.streamId w hw) henqueue
  | drains now stops =>
    refine run_invariant_of (K := fun m => ∃ o action, m = .call o action) ?_ h ?_ hr
    · rintro w m w' hw ⟨o, action, rfl⟩ hstep
      exact hI w o action w' hw hstep
    · intro m hm
      obtain ⟨stop, -, rfl⟩ := List.mem_map.mp hm
      exact ⟨_, _, rfl⟩
  | enqueues | pumps | stops | wakes | fails | loses =>
    rw [run_singleton] at hr
    exact hI _ _ _ _ h hr

theorem newSession_started (now : Date) (suffix streamId : String) {r : SessionRegistry Data}
    {w : Workload Data} (h : r.workload.Started)
    (hw : run Workload.step r.workload [.spawn (r.newSession suffix streamId),
      .call r.objects.length (.start now)] = some w) : w.Started := by
  have hlength : r.workload.sessions.length = r.objects.length := by simp [workload]
  rw [run_cons_eq_some] at hw
  obtain ⟨spawned, hspawn, hstart⟩ := hw
  simp only [Workload.step, Option.some.injEq] at hspawn
  subst hspawn
  rw [run_singleton] at hstart
  have hget : (r.workload.sessions ++ [r.newSession suffix streamId])[r.objects.length]? =
      some (r.newSession suffix streamId) := by
    rw [← hlength]
    exact Heap.getElem?_alloc_self ..
  have hinv : PumpInv (r.newSession suffix streamId) := create_pumpInv ..
  have ht : Session.step (.init (r.newSession suffix streamId)) (.start now) =
      some ((Trace.init (r.newSession suffix streamId)).after []
        ((r.newSession suffix streamId).start now)) := rfl
  have hrunning : ((r.newSession suffix streamId).start now).1 =
      { r.newSession suffix streamId with state := .running } := by
    rw [start_idle rfl rfl rfl now]
  rw [Workload.step_call (by exact hget) ht, Option.some.injEq] at hstart
  subst hstart
  show ∀ s ∈ (r.workload.sessions ++ [r.newSession suffix streamId]).set r.objects.length
    ((r.newSession suffix streamId).start now).1, PumpInv s ∧ s.state ≠ .idle
  rw [← hlength, List.set_append_right _ _ (Nat.le_refl _), Nat.sub_self]
  intro s hs
  rcases List.mem_append.mp hs with hold | hnew
  · exact h s hold
  · obtain ⟨accepted, observed, hm, -⟩ := step_move (t := .init (r.newSession suffix streamId)) hinv ht
    rw [List.mem_singleton.mp hnew]
    refine ⟨hm.pumpInv hinv, ?_⟩
    rw [hrunning]
    simp

theorem step_started {r r' : SessionRegistry Data} {a : Action Data} (h : r.workload.Started)
    (hs : r.step a = some r') : r'.workload.Started :=
  step_calls (fun _ _ _ _ hw hstep => hw.call hstep)
    (fun _ now suffix streamId _ hw => newSession_started now suffix streamId h hw) h hs

/-! ## `drainAll()` -/

theorem stopOn_workload (now : Date) {o : Nat} {r : SessionRegistry Data} {obj : SessionObject Data}
    (ho : r.objects[o]? = some obj) :
    r.workload.step (.call o (.stop r.stopCalls)) = some (r.stopOn now o).workload ∧
      (r.stopOn now o).stopCalls = r.stopCalls + 1 := by
  rw [stopOn, ho]
  constructor
  · have hstop : Session.step (.init obj.session) (.stop r.stopCalls) =
        some ⟨(obj.session.stop r.stopCalls).1, [],
          (obj.session.stop r.stopCalls).2.map .effect⟩ := rfl
    have hstep := sessionRan_step (r := { r with stopCalls := r.stopCalls + 1 }) ho hstop rfl now
    rw [Session.effectsOf_effects] at hstep
    exact hstep
  · simp only [sessionRan, notify_foldl]
    split
    · obtain ⟨_, _, _, _, _, hframe⟩ := deregister_frame now o obj.session.streamId
        ({ r with
          stopCalls := r.stopCalls + 1
          objects := r.objects.set o { obj with session := (obj.session.stop r.stopCalls).1 }
          log := r.log ++ (obj.session.stop r.stopCalls).2.map fun e => (o, e) } :
            SessionRegistry Data)
      rw [Nat.add_sub_cancel, hframe]
    · rfl

/-- What every call keeps, all the calls of `drainAll()` keep. -/
theorem stopAll_calls {I : Workload Data → Prop}
    (hI : ∀ w o action w', I w → w.step (.call o action) = some w' → I w') (now : Date)
    (all : List Nat) {r : SessionRegistry Data} (h : I r.workload) :
    I (all.foldl (stopOn now) r).workload := by
  obtain ⟨stops, hstops⟩ := stopAll_steps now all r
  refine run_invariant_of (K := fun m => ∃ o action, m = .call o action) ?_ h ?_ hstops
  · rintro w m w' hw ⟨o, action, rfl⟩ hstep
    exact hI w o action w' hw hstep
  · intro m hm
    obtain ⟨stop, -, rfl⟩ := List.mem_map.mp hm
    exact ⟨_, _, rfl⟩

/-- The session at `o` stays over, or keeps winding down. -/
theorem stopAll_keeps {p : StreamSession Data → Prop}
    (hp : ∀ s a t, PumpInv s → p s → Session.step (.init s) a = some t → p t.session) (now : Date)
    (all : List Nat) {r : SessionRegistry Data} (hstarted : r.workload.Started) {o : Nat}
    (h : ∀ s, r.workload.sessions[o]? = some s → p s) :
    ∀ s, (all.foldl (stopOn now) r).workload.sessions[o]? = some s → p s := by
  refine (stopAll_calls (I := fun w => w.Started ∧ ∀ s, w.sessions[o]? = some s → p s) ?_ now all
    ⟨hstarted, h⟩).2
  rintro w o' action w' ⟨hw, hkept⟩ hstep
  refine ⟨hw.call hstep, ?_⟩
  rw [Workload.step] at hstep
  split at hstep
  · cases hstep
  · next s ho =>
    obtain ⟨t, ht, rfl⟩ := Option.map_eq_some_iff.mp hstep
    intro q hq
    rcases (Heap.getElem?_write (Heap.lt_of_getElem?_eq_some ho)).mp hq with ⟨rfl, rfl⟩ | ⟨-, hold⟩
    · exact hp s action t (hw s (List.mem_of_getElem? ho)).1 (hkept s ho) ht
    · exact hkept q hold

theorem stopAll_windsDown (now : Date) (all : List Nat) {r : SessionRegistry Data}
    (hstarted : r.workload.Started) (hall : ∀ o ∈ all, o < r.objects.length) :
    ∀ stop ∈ all.zip (List.range' r.stopCalls all.length), ∀ s,
      (all.foldl (stopOn now) r).workload.sessions[stop.1]? = some s → Winding stop.2 s := by
  induction all generalizing r with
  | nil =>
    intro stop hstop
    cases hstop
  | cons o all ih =>
    have hlt := hall o List.mem_cons_self
    have ho : r.objects[o]? = some r.objects[o] := List.getElem?_eq_getElem hlt
    obtain ⟨hstep, hcalls⟩ := stopOn_workload now ho
    have hstarted₁ : (r.stopOn now o).workload.Started := hstarted.call hstep
    have hlength : (r.stopOn now o).objects.length = r.objects.length := by
      rw [stopOn, ho]
      exact sessionRan_objects ..
    intro stop hstop
    rw [List.length_cons, List.range'_succ, List.zip_cons_cons, List.mem_cons] at hstop
    rw [List.foldl_cons]
    rcases hstop with rfl | hlater
    · refine stopAll_keeps (fun _ _ _ hinv hw hs => step_winding hinv hw hs) now all hstarted₁ ?_
      have hget : r.workload.sessions[o]? = some r.objects[o].session := by simp [workload, ho]
      have hinv := (hstarted _ (List.mem_of_getElem? hget)).1
      rw [Workload.step, hget] at hstep
      obtain ⟨t, ht, hw⟩ := Option.map_eq_some_iff.mp hstep
      rw [← hw]
      intro s hs
      rcases (Heap.getElem?_write (Heap.lt_of_getElem?_eq_some hget)).mp hs with ⟨-, rfl⟩ | ⟨hne, -⟩
      · simp only [Session.step, Option.some.injEq] at ht
        subst ht
        exact stop_winding hinv r.stopCalls
      · exact absurd rfl hne
    · rw [← hcalls] at hlater
      refine ih hstarted₁ ?_ stop hlater
      intro o' ho'
      rw [hlength]
      exact hall o' (List.mem_cons_of_mem o ho')

theorem stopAll_drains (now : Date) (all : List Nat) (r : SessionRegistry Data) :
    (all.foldl (stopOn now) r).drains = r.drains := by
  induction all generalizing r with
  | nil => rfl
  | cons o all ih =>
    rw [List.foldl_cons, ih, stopOn]
    cases r.objects[o]? with
    | none => rfl
    | some obj => exact sessionRan_drains ..

theorem mem_zip_range' {all : List Nat} {o : Nat} (h : o ∈ all) (n : Nat) :
    ∃ call, (o, call) ∈ all.zip (List.range' n all.length) := by
  induction all generalizing n with
  | nil => cases h
  | cons o' all ih =>
    rw [List.length_cons, List.range'_succ, List.zip_cons_cons]
    rcases List.mem_cons.mp h with rfl | hlater
    · exact ⟨n, List.mem_cons_self⟩
    · obtain ⟨call, hcall⟩ := ih hlater (n + 1)
      exact ⟨call, List.mem_cons_of_mem _ hcall⟩

/-- When every live session is in the map, `drainAll()` winds all of them down. -/
theorem drainAll_windsDown (now : Date) {r : SessionRegistry Data}
    (hstarted : r.workload.Started) (hmapped : r.roster.Mapped) (hfiled : r.roster.Filed) :
    ∃ stops, (r.drainAll now).drains = r.drains ++ [⟨stops⟩] ∧
      (r.drainAll now).workload.WindsDown stops := by
  let all := r.sessions.entries.map (·.2)
  have hall : ∀ o ∈ all, o < r.objects.length := by
    intro o ho
    obtain ⟨⟨streamId, o'⟩, hentry, rfl⟩ := List.mem_map.mp ho
    obtain ⟨m, hm, -⟩ := hfiled streamId o' (AList.mem_lookup_iff.mpr hentry)
    simpa [roster] using Heap.lt_of_getElem?_eq_some hm
  refine ⟨all.zip (List.range' r.stopCalls all.length), ?_, ?_⟩
  · show (all.foldl (stopOn now) r).drains ++ _ = _
    rw [stopAll_drains]
  · intro o s hs
    have hs' : (all.foldl (stopOn now) r).workload.sessions[o]? = some s := hs
    by_cases ho : o ∈ all
    · obtain ⟨call, hcall⟩ := mem_zip_range' ho r.stopCalls
      exact .inr ⟨call, hcall, stopAll_windsDown now all hstarted hall _ hcall s hs'⟩
    · left
      refine stopAll_keeps (p := fun q => terminal q.state = true) ?_ now all hstarted ?_ s hs'
      · intro q a t hinv hend ht
        obtain ⟨accepted, observed, hm, -⟩ := step_move (t := .init q) hinv ht
        exact hm.ended hend
      · intro q hq
        have hidle := (hstarted q (List.mem_of_getElem? hq)).2
        simp only [workload, List.getElem?_map, Option.map_eq_some_iff] at hq
        obtain ⟨obj, hobj, rfl⟩ := hq
        have hmember : r.roster.objects[o]? = some obj.member := by simp [roster, hobj]
        have hdead : obj.session.state.live ≠ true := by
          intro hlive
          have hreg := hmapped o obj.member hmember hlive
          exact ho (List.mem_map.mpr ⟨_, AList.mem_lookup_iff.mp hreg, rfl⟩)
        cases hstate : obj.session.state with
        | idle => exact absurd hstate hidle
        | running | draining =>
          rw [hstate] at hdead
          exact absurd rfl hdead
        | stopped | errored => rfl

/-- When its calls have returned, every session is over. -/
theorem resumeDrain_over {now : Date} {i : Nat} {r r' : SessionRegistry Data} {f : DrainFrame}
    (hf : r.drains[i]? = some f) (hwinds : r.workload.WindsDown f.stops)
    (h : r.resumeDrain now i = some r') : ∀ s ∈ r'.workload.sessions, terminal s.state = true := by
  rw [resumeDrain_workload h]
  intro s hs
  obtain ⟨o, ho⟩ := List.mem_iff_getElem?.mp hs
  rcases hwinds o s ho with hend | ⟨call, hcall, hend | ⟨-, hasleep⟩⟩
  · exact hend
  · exact hend
  · simp only [workload, List.getElem?_map, Option.map_eq_some_iff] at ho
    obtain ⟨obj, hobj, rfl⟩ := ho
    rw [resumeDrain, hf] at h
    simp only at h
    split at h
    · next hall =>
      have hreturned := List.all_eq_true.mp hall (o, call) hcall
      simp [stopped, hobj, hasleep] at hreturned
    · cases h

/-! ## The stages of a drain -/

/-- Which of the `releaseAll()` calls have been answered. -/
def released (r : SessionRegistry Data) : List Bool := r.releaseAlls.map fun c => c.answer.isSome

theorem sessionRan_released (now : Date) (o : Nat) (obj : SessionObject Data)
    (ran : StreamSession Data × List (Effect Data)) (r : SessionRegistry Data) :
    (r.sessionRan now o obj ran).released = r.released := by
  rw [sessionRan, notify_foldl]
  split
  · obtain ⟨_, _, _, _, _, hframe⟩ := deregister_frame now o obj.session.streamId
      ({ r with
        objects := r.objects.set o { obj with session := ran.1 }
        log := r.log ++ ran.2.map fun e => (o, e) } : SessionRegistry Data)
    rw [hframe]
    rfl
  · rfl

theorem enqueueAndReturn_released (now : Date) (o : Nat) (event : StreamEvent Data)
    (r : SessionRegistry Data) : (r.enqueueAndReturn now o event).released = r.released := by
  unfold enqueueAndReturn enqueueOn
  cases r.objects[o]? with
  | none => rfl
  | some obj => exact sessionRan_released ..

theorem scheduleNext_released (now : Date) (streamId : String) (token : LockToken)
    (r : SessionRegistry Data) : (r.scheduleNext now streamId token).released = r.released := by
  unfold scheduleNext
  split
  · rfl
  · split <;> rfl

theorem stopOn_released (now : Date) (o : Nat) (r : SessionRegistry Data) :
    (r.stopOn now o).released = r.released := by
  unfold stopOn
  cases r.objects[o]? with
  | none => rfl
  | some obj => exact sessionRan_released ..

theorem spawnAndStart_released (now : Date) (suffix : String) (event : StreamEvent Data)
    (token : LockToken) (r : SessionRegistry Data) :
    (r.spawnAndStart now suffix event token).released = r.released := by
  have hstart : ∀ (o : Nat) (q : SessionRegistry Data),
      (q.startOn now o).released = q.released := by
    intro o q
    unfold startOn
    cases q.objects[o]? with
    | none => rfl
    | some obj => exact sessionRan_released ..
  rw [spawnAndStart]
  simp only [enqueueAndReturn_released, hstart, startHeartbeat]
  exact scheduleNext_released ..

theorem joinRaced_released (now : Date) (raced : Nat) (event : StreamEvent Data)
    (token : LockToken) (r : SessionRegistry Data) :
    (r.joinRaced now raced event token).released = r.released := by
  rw [joinRaced]
  simp only [enqueueAndReturn_released]
  split <;> rfl

theorem resumeRoute_released {now : Date} {i : Nat} {suffix : String} {r r' : SessionRegistry Data}
    (h : r.resumeRoute now i suffix = some r') : r'.released = r.released := by
  unfold resumeRoute at h
  split at h
  · cases h
  · split at h
    · cases h
    · split at h
      · cases h
      · simp only at h
        split at h
        · cases h
        · rw [Option.some.injEq] at h
          rw [← h]
          rfl
        · rw [Option.some.injEq] at h
          rw [← h]
          rfl
        · split at h
          · rw [Option.some.injEq] at h
            rw [← h, joinRaced_released]
            rfl
          · rw [Option.some.injEq] at h
            rw [← h, spawnAndStart_released]
            rfl

/-- Only the end of a drain calls `releaseAll()`. -/
theorem step_released {r r' : SessionRegistry Data} {a : Action Data} (h : r.step a = some r')
    (hresume : ∀ now i, a ≠ .resumeDrain now i)
    (hanswer : ∀ i answer, a ≠ .releaseAllAnswered i answer) : r'.released = r.released := by
  cases a with
  | route now event =>
    simp only [step, Option.some.injEq] at h
    subst h
    unfold route
    split
    · exact enqueueAndReturn_released ..
    · split
      · rfl
      · unfold acquireDeduplicated
        cases r.inflightAcquires.lookup event.streamId <;> rfl
  | resumeRoute now i suffix => exact resumeRoute_released h
  | resumeTick now i =>
    have hextend : ∀ streamId token (q : SessionRegistry Data),
        (q.extendToken now streamId token).released = q.released := by
      intro streamId token q
      grind [extendToken, released]
    have hlost : ∀ streamId (q : SessionRegistry Data),
        (q.lockLost now streamId).released = q.released := by
      intro streamId q
      unfold lockLost
      grind [sessionRan_released, released]
    simp only [step, resumeTick] at h
    grind [scheduleNext_released, released]
  | drainAll now =>
    simp only [step, Option.some.injEq] at h
    subst h
    have hall : ∀ (all : List Nat) (q : SessionRegistry Data),
        (all.foldl (stopOn now) q).released = q.released := by
      intro all
      induction all with
      | nil => exact fun _ => rfl
      | cons o all ih =>
        intro q
        rw [List.foldl_cons, ih, stopOn_released]
    exact hall (r.sessions.entries.map (·.2)) r
  | resumeDrain now i => exact absurd rfl (hresume now i)
  | releaseAllAnswered i answer => exact absurd rfl (hanswer i answer)
  | settleAcquire i => grind [step, settleAcquire, released]
  | tick now timer => grind [step, tick, clearTimeout, released]
  | resumeRelease i => grind [step, resumeRelease, released]
  | pump now o i answer =>
    simp only [step] at h
    split at h
    · cases h
    · obtain ⟨ran, -, rfl⟩ := Option.map_eq_some_iff.mp h
      exact sessionRan_released ..
  | stop now o => grind [step, stopOn_released]
  | stopWake now o call => grind [step, sessionRan_released]
  | fail now o error => grind [step, sessionRan_released]
  | resumeReleaseAll i =>
    simp only [step, resumeReleaseAll] at h
    split at h
    · cases h
    · next call hc =>
      split at h
      · cases h
      · rw [Option.some.injEq] at h
        subst h
        rw [released, released, List.map_set]
        apply Heap.write_self
        simp [hc]
  | acquireAnswered i answer | renewAnswered i answer | releaseAnswered i answer =>
    obtain ⟨calls, -, rfl⟩ := Option.map_eq_some_iff.mp h
    rfl

/-- Before `drainAll()`. -/
structure Undrained (r : SessionRegistry Data) : Prop where
  started : r.workload.Started
  mapped : r.roster.Mapped
  filed : r.roster.Filed
  awaited : r.roster.Awaited
  drains : r.drains = []
  released : r.released = []

/-- `drainAll()` waits for its sessions. -/
structure Draining (r : SessionRegistry Data) : Prop where
  started : r.workload.Started
  awaited : r.roster.Awaited
  drains : ∃ stops, r.drains = [⟨stops⟩] ∧ r.workload.WindsDown stops
  released : r.released = []

/-- `drainAll()` has cleared the maps and called `releaseAll()`. -/
structure Drained (r : SessionRegistry Data) : Prop where
  started : r.workload.Started
  awaited : r.roster.Awaited
  quiet : r.workload.Quiet
  empty : ∀ streamId, r.sessions.lookup streamId = none
  drains : r.drains = []
  released : r.released ≠ []

theorem step_awaited {r r' : SessionRegistry Data} {a : Action Data} (h : r.roster.Awaited)
    (hs : r.step a = some r') : r'.roster.Awaited := by
  obtain ⟨ms, -, hr⟩ := step_moves hs
  exact run_invariant (fun _ _ _ h hs => Roster.Awaited.step h hs) h hr

theorem create_undrained {workerId : String} {options : SessionRegistryOptions}
    {r : SessionRegistry Data} (h : create workerId options = .ok r) : r.Undrained := by
  unfold create at h
  simp only at h
  split at h
  · cases h
  · rw [Except.ok.injEq] at h
    subst h
    refine ⟨?_, ?_, ?_, ?_, rfl, rfl⟩
    · intro s hs
      cases hs
    · intro o m ho
      cases ho
    · intro stream o ho
      cases ho
    · intro i c hc
      cases hc

/-- There is no drain to end, and no release to be answered. -/
theorem Undrained.step {r r' : SessionRegistry Data} {a : Action Data} (h : r.Undrained)
    (ha : ∀ now, a ≠ .drainAll now) (hs : r.step a = some r') : r'.Undrained := by
  have hresume : ∀ now i, a ≠ .resumeDrain now i := by
    rintro now i rfl
    simp [SessionRegistry.step, resumeDrain, h.drains] at hs
  have hanswer : ∀ i answer, a ≠ .releaseAllAnswered i answer := by
    rintro i answer rfl
    have hnone : r.releaseAlls = [] := List.map_eq_nil_iff.mp h.released
    simp [SessionRegistry.step, LockCall.arrive, hnone] at hs
  exact ⟨step_started h.started hs, step_mapped h.mapped hresume hs, step_filed h.filed hs,
    step_awaited h.awaited hs, (step_drains hs ha hresume).trans h.drains,
    (step_released hs hresume hanswer).trans h.released⟩

theorem Undrained.drainAll {r : SessionRegistry Data} (h : r.Undrained) (now : Date) :
    (r.drainAll now).Draining := by
  have hs : r.step (.drainAll now) = some (r.drainAll now) := rfl
  obtain ⟨stops, hdrains, hwinds⟩ := drainAll_windsDown now h.started h.mapped h.filed
  rw [h.drains, List.nil_append] at hdrains
  refine ⟨step_started h.started hs, step_awaited h.awaited hs, ⟨stops, hdrains, hwinds⟩, ?_⟩
  rw [step_released hs (by simp) (by simp), h.released]

theorem step_windsDown {r r' : SessionRegistry Data} {a : Action Data} {stops : List (Nat × Nat)}
    (h : r.workload.WindsDown stops) (hstarted : r.workload.Started) (hno : ¬r.Spawns a)
    (hs : r.step a = some r') : r'.workload.WindsDown stops :=
  (step_calls (I := fun w => w.Started ∧ w.WindsDown stops)
    (fun _ _ _ _ hw hstep => ⟨hw.1.call hstep, hw.2.call hw.1 hstep⟩)
    (fun hspawns => absurd hspawns hno) ⟨hstarted, h⟩ hs).2

theorem resumeDrain_clears {now : Date} {i : Nat} {r r' : SessionRegistry Data}
    (h : r.resumeDrain now i = some r') : (∀ streamId, r'.sessions.lookup streamId = none) ∧
      r'.drains = r.drains.eraseIdx i ∧ r'.released = r.released ++ [false] := by
  have hclear : ∀ (entries : List (Sigma fun _ : String => Nat)) (q : SessionRegistry Data),
      (entries.foldl (fun q entry => q.clearTimeout entry.2) q).drains = q.drains ∧
        (entries.foldl (fun q entry => q.clearTimeout entry.2) q).releaseAlls = q.releaseAlls := by
    intro entries q
    obtain ⟨_, hframe⟩ := clearTimeouts_frame entries q
    rw [hframe]
    exact ⟨rfl, rfl⟩
  unfold resumeDrain at h
  split at h
  · cases h
  · split at h
    · simp only [Option.some.injEq] at h
      subst h
      obtain ⟨hdrains, hreleaseAlls⟩ := hclear r.heartbeats.entries r
      refine ⟨fun _ => rfl, ?_, ?_⟩
      · simp only
        rw [hdrains]
      · simp only [released, hreleaseAlls, List.map_append]
        rfl
    · cases h

/-- While no route spawns, the drain goes on until every session is over.  Then
what is left to publish is what failed pumps have to retry. -/
theorem Draining.step {r r' : SessionRegistry Data} {a : Action Data} (h : r.Draining)
    (ha : ∀ now, a ≠ .drainAll now) (hno : ¬r.Spawns a)
    (hretry : ∀ now i, a = .resumeDrain now i → ∀ obj ∈ r.objects,
      terminal obj.session.state = true → ¬RetryLeft obj.session)
    (hs : r.step a = some r') : r'.Draining ∨ r'.Drained ∧ true ∉ r'.released := by
  have hstarted := step_started h.started hs
  have hawaited := step_awaited h.awaited hs
  obtain ⟨stops, hdrains, hwinds⟩ := h.drains
  by_cases hresume : ∃ now i, a = .resumeDrain now i
  · obtain ⟨now, i, rfl⟩ := hresume
    right
    obtain ⟨hempty, hleft, hreleased⟩ := resumeDrain_clears hs
    have hi : i = 0 := by
      by_contra hi
      have hout : r.drains[i]? = none := by
        rw [hdrains, List.getElem?_eq_none]
        simp only [List.length_singleton]
        omega
      simp [SessionRegistry.step, resumeDrain, hout] at hs
    subst hi
    have hover := resumeDrain_over (f := ⟨stops⟩) (by rw [hdrains]; rfl) hwinds hs
    rw [h.released, List.nil_append] at hreleased
    refine ⟨⟨hstarted, hawaited, ?_, hempty, ?_, by simp [hreleased]⟩, by simp [hreleased]⟩
    · intro s hmem
      refine ⟨hover s hmem, ?_⟩
      have hend := hover s hmem
      rw [resumeDrain_workload hs] at hmem
      obtain ⟨obj, hobj, rfl⟩ := List.mem_map.mp hmem
      exact hretry now 0 rfl obj hobj hend
    · rw [hleft, hdrains]
      rfl
  · left
    have hresume' : ∀ now i, a ≠ .resumeDrain now i := fun now i he => hresume ⟨now, i, he⟩
    have hanswer : ∀ i answer, a ≠ .releaseAllAnswered i answer := by
      rintro i answer rfl
      have hnone : r.releaseAlls = [] := List.map_eq_nil_iff.mp h.released
      simp [SessionRegistry.step, LockCall.arrive, hnone] at hs
    exact ⟨hstarted, hawaited, ⟨stops, (step_drains hs ha hresume').trans hdrains,
      step_windsDown hwinds h.started hno hs⟩, (step_released hs hresume' hanswer).trans h.released⟩

theorem released_length {r r' : SessionRegistry Data} {a : Action Data}
    (hresume : ∀ now i, a ≠ .resumeDrain now i) (hs : r.step a = some r') :
    r'.released.length = r.released.length := by
  by_cases hanswer : ∃ i answer, a = .releaseAllAnswered i answer
  · obtain ⟨i, answer, rfl⟩ := hanswer
    obtain ⟨calls, hcalls, rfl⟩ := Option.map_eq_some_iff.mp hs
    unfold LockCall.arrive at hcalls
    split at hcalls
    · cases hcalls
    · split at hcalls
      · cases hcalls
      · rw [Option.some.injEq] at hcalls
        subst hcalls
        simp [released]
  · rw [step_released hs hresume fun i answer he => hanswer ⟨i, answer, he⟩]

/-- A spawn among the moves is a spawn of the step. -/
theorem spawns_of_move {r : SessionRegistry Data} {ro : Roster} {i : Nat}
    (hs : r.roster.step (.spawn i) = some ro) (now : Date) (suffix : String) :
    r.Spawns (.resumeRoute now i suffix) := by
  simp only [Roster.step] at hs
  split at hs
  · next stream k hr =>
    split at hs
    · next hnone =>
      obtain ⟨call, c, hw, hc, hset, hgrant⟩ := Roster.resuming_eq_some.mp hr
      simp only [roster, List.getElem?_map, Option.map_eq_some_iff] at hw hc
      obtain ⟨f, hf, heq⟩ := hw
      obtain ⟨acquired, hacquired, rfl⟩ := hc
      rw [Prod.mk.injEq] at heq
      obtain ⟨rfl, rfl⟩ := heq
      obtain ⟨answer, hanswer, hgranted⟩ := Option.map_eq_some_iff.mp hgrant
      have hset' : acquired.settled = true := hset
      refine ⟨f.event, ?_, hnone⟩
      unfold granted at hgranted
      split at hgranted
      · simp [hands, hf, hacquired, hset', hanswer]
      · cases hgranted
    · cases hs
  · cases hs

theorem moves_without_spawn {r r' : SessionRegistry Data} {a : Action Data}
    {ms : List Roster.Move} (hexp : Explains r a ms)
    (hr : run Roster.step r.roster ms = some r'.roster) (hno : ¬r.Spawns a) :
    ∀ m ∈ ms, ∀ j, m ≠ .spawn j := by
  intro m hm j he
  subst he
  cases hexp with
  | spawns now i suffix =>
    rw [run_singleton] at hr
    exact hno (spawns_of_move hr now suffix)
  | ends _ os =>
    obtain ⟨o, -, heq⟩ := List.mem_map.mp hm
    cases heq
  | asks | joins | answers | settles | leaves | shares | surplus | drained =>
    rw [List.mem_singleton] at hm
    cases hm

theorem move_empty {ro ro' : Roster} {m : Roster.Move}
    (h : ∀ stream, ro.sessions stream = none) (hm : ∀ j, m ≠ .spawn j)
    (hs : ro.step m = some ro') : ∀ stream, ro'.sessions stream = none := by
  rcases Roster.step_sessions hs with ⟨hsame, -⟩ | ⟨stream, k, -, -, hobjects⟩ | ⟨o, obj, -, rfl⟩ |
    ⟨-, hnone, -⟩
  · rw [hsame]
    exact h
  · have hlength := Roster.objects_length hm hs
    rw [hobjects, List.length_append, List.length_singleton] at hlength
    omega
  · intro stream
    rw [Roster.endSession_sessions, if_neg]
    · exact h stream
    · rw [h]
      simp
  · rw [hnone]
    exact fun _ => rfl

/-- With the map empty and no spawn, the map stays empty, and no route takes a granted
claim. -/
theorem step_empty {r r' : SessionRegistry Data} {a : Action Data}
    (h : ∀ streamId, r.sessions.lookup streamId = none) (hno : ¬r.Spawns a)
    (hs : r.step a = some r') : (∀ streamId, r'.sessions.lookup streamId = none) ∧
      ∀ k, r.roster.Pending k → r'.roster.Pending k := by
  obtain ⟨ms, hexp, hr⟩ := step_moves hs
  have hms := moves_without_spawn hexp hr hno
  have hkept : ∀ k, r.roster.Pending k → r'.roster.Pending k ∧
      ∀ streamId, r'.roster.sessions streamId = none := by
    intro k hk
    exact run_invariant_of (I := fun ro => ro.Pending k ∧ ∀ streamId, ro.sessions streamId = none)
      (K := fun m => ∀ j, m ≠ .spawn j)
      (fun _ _ _ hi hm hs => ⟨hi.1.step hi.2 hm hs, move_empty hi.2 hm hs⟩) ⟨hk, h⟩ hms hr
  constructor
  · exact run_invariant_of (I := fun ro : Roster => ∀ streamId, ro.sessions streamId = none)
      (K := fun m => ∀ j, m ≠ .spawn j) (fun _ _ _ hi hm hs => move_empty hi hm hs) h hms hr
  · exact fun k hk => (hkept k hk).1

/-- From then on nothing is published. -/
theorem Drained.step {r r' : SessionRegistry Data} {a : Action Data} (h : r.Drained)
    (ha : ∀ now, a ≠ .drainAll now) (hno : ¬r.Spawns a) (hs : r.step a = some r') :
    r'.Drained ∧ r'.workload.publishes = r.workload.publishes ∧
      ∀ k, r.roster.Pending k → r'.roster.Pending k := by
  have hresume : ∀ now i, a ≠ .resumeDrain now i := by
    rintro now i rfl
    simp [SessionRegistry.step, resumeDrain, h.drains] at hs
  obtain ⟨hempty, hpending⟩ := step_empty h.empty hno hs
  have hquiet := step_calls (I := fun w => w.Started ∧ w.Quiet ∧
      w.publishes = r.workload.publishes) ?_ (fun hspawns => absurd hspawns hno)
    ⟨h.started, h.quiet, rfl⟩ hs
  · refine ⟨⟨hquiet.1, step_awaited h.awaited hs, hquiet.2.1, hempty,
      (step_drains hs ha hresume).trans h.drains, ?_⟩, hquiet.2.2, hpending⟩
    intro hnil
    have hlength := released_length hresume hs
    rw [hnil] at hlength
    exact h.released (List.length_eq_zero_iff.mp hlength.symm)
  · rintro w o action w' ⟨hw, hq, hp⟩ hstep
    obtain ⟨hq', hp'⟩ := hq.call hw hstep
    exact ⟨hw.call hstep, hq', hp'.trans hp⟩

/-- A granted claim is awaited when its answer arrives. -/
theorem answered_pending {r r' : SessionRegistry Data} {i : Nat} {token : LockToken}
    (h : r.roster.Awaited) (hs : r.step (.acquireAnswered i (.ok (some token))) = some r') :
    r'.roster.Pending token.token := by
  obtain ⟨calls, hcalls, rfl⟩ := Option.map_eq_some_iff.mp hs
  have hmove := arrive_claims hcalls
  simp only [Roster.step] at hmove
  split at hmove
  · cases hmove
  · next c hc =>
    split at hmove
    · cases hmove
    · next hnone =>
      obtain ⟨stream, hmem⟩ := h i c hc (.inr (Option.not_isSome_iff_eq_none.mp hnone))
      rw [Option.some.injEq] at hmove
      rw [← hmove]
      exact ⟨i, _, stream, Heap.getElem?_write_self (Heap.lt_of_getElem?_eq_some hc) _, rfl, hmem⟩

/-- Without routes that wait there is no spawn. -/
theorem not_spawns_of_routes {r : SessionRegistry Data} {a : Action Data} (h : r.routes = []) :
    ¬r.Spawns a := by
  rintro ⟨event, hhands, hnone⟩
  cases a with
  | route now e =>
    simp only [hands] at hhands
    split at hhands
    · next hsome =>
      rw [Option.some.injEq] at hhands
      rw [hhands, hnone] at hsome
      cases hsome
    · cases hhands
  | resumeRoute now i suffix => simp [hands, h] at hhands
  | _ => cases hhands

end SessionRegistry

end Processing
end XStreamRoll
