/-
When the end of a session is final.

`start()`, `enqueue()` and `stop()` look at the state first and leave a session
that is stopped or errored alone, and the pump never writes the state.  Two calls
do not look: `fail()` marks a stopped session errored, and a `stop()` that slept
while the pump was running marks an errored session stopped.
-/
import XStreamRoll.Processing.Session.Pump

namespace XStreamRoll
namespace Processing
namespace Session

open Transition

variable {Data : Type}

def terminal : SessionState → Bool
  | .stopped | .errored => true
  | _ => false

/-- The call does not write over the end of the session: a session that has stopped is not
failed, or the failure throws before it gets to the state, and a `stop()` that slept does not
wake after a failure, or goes back to sleep because the pump is still running. -/
def Absorbs (s : StreamSession Data) : Action Data → Prop
  | .fail _ => s.state = .stopped → s.errorListener = false
  | .stopWake _ => s.state = .errored → s.processing = true
  | _ => True

theorem absorbs_of_not_terminal {s : StreamSession Data} (h : terminal s.state = false)
    (a : Action Data) : Absorbs s a := by
  cases a with
  | fail error =>
    intro hstate
    rw [hstate] at h
    cases h
  | stopWake call =>
    intro hstate
    rw [hstate] at h
    cases h
  | start | enqueue | stop | resume => trivial

/-! ## The pump leaves the state alone -/

theorem pumpLoop_state (now : Date) (s : StreamSession Data) :
    (s.pumpLoop now).1.state = s.state := by
  rcases pumpLoop_cases now s with ⟨event, rest, -, -, heq⟩ | ⟨-, heq⟩
  · rw [heq]
  · rw [heq]

theorem resume_state {s : StreamSession Data} {now : Date} {i : Nat} {answer : Settlement}
    {ran : StreamSession Data × List (Effect Data)} (h : s.resume now i answer = some ran) :
    ran.1.state = s.state := by
  unfold StreamSession.resume at h
  split at h
  · cases h
  · next f hf =>
    split at h
    · rw [Option.some.injEq] at h
      rw [← h]
      exact pumpLoop_state now (s.resumePump i)
    · rw [Option.some.injEq] at h
      rw [← h]
      simp only [StreamSession.publishRejected]
      split <;> rfl
    · rw [Option.some.injEq] at h
      rw [← h]
      rfl
    · cases h
    · rw [Option.some.injEq] at h
      rw [← h]
      exact pumpLoop_state now (s.resumePump i)

/-! ## One step after the end -/

theorem fail_state {s : StreamSession Data} (error : String) (h : terminal s.state = true) :
    (s.fail error).1.state = s.state ↔ Absorbs s (.fail error) := by
  cases hlistener : s.errorListener with
  | false => simp [StreamSession.fail, Absorbs, hlistener]
  | true =>
    cases hstate : s.state with
    | stopped => simp [StreamSession.fail, StreamSession.transition, Absorbs, hlistener, hstate]
    | errored => simp [StreamSession.fail, StreamSession.transition, Absorbs, hlistener, hstate]
    | idle | running | draining =>
      rw [hstate] at h
      cases h

theorem stopWake_state {s : StreamSession Data} (call : Nat) (h : terminal s.state = true) :
    (s.stopWake call).1.state = s.state ↔ Absorbs s (.stopWake call) := by
  cases hprocessing : s.processing with
  | true => simp [StreamSession.stopWake, Absorbs, hprocessing]
  | false =>
    cases hstate : s.state with
    | stopped => simp [StreamSession.stopWake, StreamSession.transition, Absorbs, hprocessing, hstate]
    | errored => simp [StreamSession.stopWake, StreamSession.transition, Absorbs, hprocessing, hstate]
    | idle | running | draining =>
      rw [hstate] at h
      cases h

theorem step_terminal {t t' : Trace Data} {a : Action Data}
    (h : terminal t.session.state = true) (hs : step t a = some t') :
    t'.session.state = t.session.state ↔ Absorbs t.session a := by
  have hclosed : t.session.state = .stopped ∨ t.session.state = .errored := by
    cases hstate : t.session.state with
    | stopped => exact .inl rfl
    | errored => exact .inr rfl
    | idle | running | draining =>
      rw [hstate] at h
      cases h
  cases a with
  | start now =>
    rw [step, Option.some.injEq] at hs
    subst hs
    have hidle : t.session.state ≠ .idle := by
      intro hidle
      rw [hidle] at h
      cases h
    exact iff_of_true (by simp [Trace.after, StreamSession.start, hidle]) trivial
  | enqueue now event =>
    have hrunning : t.session.state ≠ .running := by
      intro hrunning
      rw [hrunning] at h
      cases h
    rw [step, enqueue_closed hrunning, Option.some.injEq] at hs
    subst hs
    exact iff_of_true rfl trivial
  | stop call =>
    rw [step, Option.some.injEq] at hs
    subst hs
    exact iff_of_true (by simp [Trace.after, StreamSession.stop, hclosed]) trivial
  | stopWake call =>
    rw [step] at hs
    split at hs
    · rw [Option.some.injEq] at hs
      subst hs
      exact stopWake_state call h
    · cases hs
  | fail error =>
    rw [step, Option.some.injEq] at hs
    subst hs
    exact fail_state error h
  | resume now i answer =>
    rw [step] at hs
    obtain ⟨ran, hran, rfl⟩ := Option.map_eq_some_iff.mp hs
    exact iff_of_true (resume_state hran) trivial

/-! ## Whole histories -/

/-- Wherever the history ends the session, the state is the same from there on. -/
def Final (t : Trace Data) (as : List (Action Data)) : Prop :=
  ∀ pre post rest ended later, as = pre ++ post ++ rest → run step t pre = some ended →
    terminal ended.session.state = true → run step ended post = some later →
      later.session.state = ended.session.state

theorem run_terminal {t u : Trace Data} {as bs : List (Action Data)}
    (h : terminal t.session.state = true)
    (hall : AllSteps step (fun t a _ => Absorbs t.session a) t (as ++ bs))
    (hrun : run step t as = some u) : u.session.state = t.session.state := by
  induction as generalizing t with
  | nil =>
    rw [run_nil, Option.some.injEq] at hrun
    rw [hrun]
  | cons a as ih =>
    obtain ⟨r, hr, hrest⟩ := run_cons_eq_some.mp hrun
    obtain ⟨habsorbs, hlater⟩ := hall r hr
    have hsame := (step_terminal h hr).mpr habsorbs
    exact (ih (hsame ▸ h) hlater hrest).trans hsame

theorem Final.allSteps {t : Trace Data} {as : List (Action Data)} (h : Final t as) :
    AllSteps step (fun t a _ => Absorbs t.session a) t as := by
  induction as generalizing t with
  | nil => trivial
  | cons a as ih =>
    intro r hr
    constructor
    · cases hend : terminal t.session.state with
      | false => exact absorbs_of_not_terminal hend a
      | true =>
        apply (step_terminal hend hr).mp
        exact h [] [a] as t r rfl rfl hend (by rw [run_singleton, hr])
    · apply ih
      intro pre post rest ended later has hpre
      exact h (a :: pre) post rest ended later (by rw [has]; rfl)
        (run_cons_eq_some.mpr ⟨r, hr, hpre⟩)

/-- The end of a session is final in exactly the histories none of whose calls writes over
it. -/
theorem terminal_absorbing_iff (s : StreamSession Data) (as : List (Action Data)) :
    Final (.init s) as ↔ AllSteps step (fun t a _ => Absorbs t.session a) (.init s) as := by
  constructor
  · exact Final.allSteps
  · intro hall pre post rest ended later has hpre hend hpost
    rw [has, List.append_assoc] at hall
    exact run_terminal hend (hall.after_run hpre) hpost

/-- A session that has stopped is failed. -/
theorem stopped_session_errored : ¬∀ as : List (Action Unit),
    Final (.init (.create "x" "7" "w" 10 3 true true)) as := by
  intro h
  let stopped : Trace Unit :=
    Trace.after (.init (.create "x" "7" "w" 10 3 true true)) []
      (StreamSession.stop 0 (.create "x" "7" "w" 10 3 true true))
  have hlater := h [.stop 0, .fail "boom"] [.stop 0] [.fail "boom"] [] stopped
    (stopped.after [] (stopped.session.fail "boom")) rfl rfl rfl rfl
  exact absurd hlater (by decide)

end Session
end Processing
end XStreamRoll
