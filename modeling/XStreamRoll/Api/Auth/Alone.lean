/-
A call that runs on its own.

The request is made, and nothing else takes a step until its call has returned or thrown.
Time passes at each `await` of it, which then goes through or rejects.  Other calls may be
under way, and rest meanwhile.
-/
import XStreamRoll.Api.Auth.Calls
import XStreamRoll.Lists

namespace XStreamRoll
namespace Api

open Transition

/-- One `await` of a call. -/
structure Await where
  /-- the time that it takes -/
  micros : Nat
  fresh : Fresh
  /-- the message with which it rejects, if it does -/
  failure : Option String
deriving DecidableEq, Repr

/-- It goes through at once, and draws nothing. -/
def Await.atOnce : Await := ⟨0, ⟨"", "", "", ""⟩, none⟩

namespace Auth

def awaitActions (i : Nat) (w : Await) : List Action :=
  [.advance w.micros, match w.failure with
    | none => .resume i w.fresh
    | some message => .reject i message]

/-- The request, and then nothing but its call. -/
def alone (request : Request) (awaits : List Await) (s : Auth) : List Action :=
  .call request :: awaits.flatMap (awaitActions s.calls.length)

/-- The request that is made in `s` is answered so, which leaves `t`. -/
structure Answers (p : Platform) (request : Request) (awaits : List Await) (s : Auth)
    (response : Except HttpError Response) (t : Auth) : Prop where
  ran : run (step p) s (s.alone request awaits) = some t
  answered : t.responses = s.responses ++ [response]

/-! ## From one `await` to the next -/

def later (micros : Nat) (s : Auth) : Auth := { s with now := ⟨s.now.micros + micros⟩ }

/-- One more call is under way. -/
def waiting (call : Call) (s : Auth) : Auth := { s with calls := s.calls ++ [call] }

def answering (response : Except HttpError Response) (s : Auth) : Auth :=
  { s with responses := s.responses ++ [response] }

/-- The same from an `await` of the call on. -/
structure Goes (p : Platform) (call : Call) (awaits : List Await) (s : Auth)
    (response : Except HttpError Response) (t : Auth) : Prop where
  ran : run (step p) (s.waiting call) (awaits.flatMap (awaitActions s.calls.length)) = some t
  answered : t.responses = s.responses ++ [response]

variable {p : Platform} {request : Request} {call next : Call} {awaits : List Await} {w : Await}
  {s t u : Auth} {response answer : Except HttpError Response}

theorem Answers.goes (h : Answers p request awaits s response t)
    (hstart : start p s.now.toDate request = .ok call) : Goes p call awaits s response t := by
  obtain ⟨u, hu, hrun⟩ := run_cons_eq_some.mp h.ran
  rw [step, hstart, Option.some.injEq] at hu
  subst hu
  exact ⟨hrun, h.answered⟩

@[simp] theorem wait_waiting (call next : Call) (s : Auth) :
    (s.waiting call).wait s.calls.length next = s.waiting next := by
  unfold wait waiting
  rw [set_last]

@[simp] theorem finish_waiting (call : Call) (answer : Except HttpError Response) (s : Auth) :
    (s.waiting call).finish s.calls.length answer = s.answering answer := by
  unfold finish waiting answering
  rw [eraseIdx_last]

@[simp] theorem fail_waiting (call : Call) (error : HttpError) (s : Auth) :
    (s.waiting call).fail s.calls.length error = s.answering (.error error) :=
  finish_waiting call (.error error) s

/-- What happens at an `await` that goes through. -/
def passed (p : Platform) (w : Await) (call : Call) (s : Auth) : Auth :=
  ((s.later w.micros).waiting call).resume p w.fresh s.calls.length call

/-- Once the call has ended there is nothing more to wait for. -/
theorem run_ended (h : run (step p) u (awaits.flatMap (awaitActions u.calls.length)) = some t) :
    awaits = [] ∧ t = u := by
  cases awaits with
  | nil =>
    rw [List.flatMap_nil, run_nil, Option.some.injEq] at h
    exact ⟨rfl, h.symm⟩
  | cons w awaits =>
    rw [List.flatMap_cons] at h
    obtain ⟨v, hv, -⟩ := run_append_eq_some.mp h
    obtain ⟨v', hadvance, hstep⟩ := run_cons_eq_some.mp hv
    cases hadvance
    obtain ⟨v'', hstep, -⟩ := run_cons_eq_some.mp hstep
    split at hstep
    · obtain ⟨found, hfound, -⟩ := Option.map_eq_some_iff.mp hstep
      exact absurd (List.getElem?_eq_some_iff.mp hfound).1 (Nat.lt_irrefl _)
    · rw [step, if_neg (Nat.lt_irrefl _)] at hstep
      cases hstep

namespace Goes

/-- A call waits at least once. -/
theorem cons (h : Goes p call awaits s response t) : ∃ w rest, awaits = w :: rest := by
  cases awaits with
  | nil =>
    have same := h.ran
    rw [List.flatMap_nil, run_nil, Option.some.injEq] at same
    have lengths := congrArg List.length (same ▸ h.answered)
    rw [List.length_append, List.length_singleton] at lengths
    exact absurd lengths (Nat.ne_of_lt (Nat.lt_succ_self _))
  | cons w rest => exact ⟨w, rest, rfl⟩

/-- An `await` that goes through. -/
theorem passes (h : Goes p call (w :: awaits) s response t) (hw : w.failure = none) :
    run (step p) (s.passed p w call) (awaits.flatMap (awaitActions s.calls.length)) = some t := by
  have hrun := h.ran
  rw [List.flatMap_cons, awaitActions, hw] at hrun
  obtain ⟨u, hu, hrest⟩ := run_append_eq_some.mp hrun
  obtain ⟨v, hadvance, hstep⟩ := run_cons_eq_some.mp hu
  cases hadvance
  rw [run_singleton] at hstep
  have here : (s.calls ++ [call])[s.calls.length]? = some call := List.getElem?_concat_length
  obtain ⟨found, hfound, rfl⟩ := Option.map_eq_some_iff.mp hstep
  have same : found = call := Option.some.inj (hfound.symm.trans here)
  subst same
  exact hrest

/-- The call has ended with the answer. -/
theorem ended (h : Goes p call (w :: awaits) s response t) (hcalls : u.calls = s.calls)
    (hresponses : u.responses = s.responses)
    (hrest : run (step p) (u.answering answer)
      (awaits.flatMap (awaitActions s.calls.length)) = some t) :
    awaits = [] ∧ t = u.answering answer ∧ response = answer := by
  have same : (u.answering answer).calls = s.calls := hcalls
  rw [← same] at hrest
  obtain ⟨hnil, rfl⟩ := run_ended hrest
  have answered := h.answered
  rw [answering, hresponses, List.append_cancel_left_eq, List.cons.injEq] at answered
  exact ⟨hnil, rfl, answered.1.symm⟩

/-- The `await` rejects. -/
theorem fails {message : String} (h : Goes p call (w :: awaits) s response t)
    (hw : w.failure = some message) :
    awaits = [] ∧ t = (s.later w.micros).answering (.error (.error message)) ∧
      response = .error (.error message) := by
  have hrun := h.ran
  rw [List.flatMap_cons, awaitActions, hw] at hrun
  obtain ⟨u, hu, hrest⟩ := run_append_eq_some.mp hrun
  obtain ⟨v, hadvance, hstep⟩ := run_cons_eq_some.mp hu
  cases hadvance
  have inside : s.calls.length < (s.calls ++ [call]).length := by
    rw [List.length_append, List.length_singleton]
    exact Nat.lt_succ_self _
  rw [run_singleton, step] at hstep
  split at hstep
  · have failed : u = (s.later w.micros).answering (.error (.error message)) :=
      (Option.some.inj hstep).symm.trans (fail_waiting call _ (s.later w.micros))
    subst failed
    exact h.ended rfl rfl hrest
  · next outside => exact absurd inside outside

/-- The call goes on to its next `await`. -/
theorem waits (h : Goes p call (w :: awaits) s response t) (hw : w.failure = none)
    (hnext : s.passed p w call = u.waiting next) (hcalls : u.calls = s.calls)
    (hresponses : u.responses = s.responses) : Goes p next awaits u response t := by
  have hrest := h.passes hw
  rw [hnext, ← hcalls] at hrest
  exact ⟨hrest, by rw [hresponses, h.answered]⟩

/-- The call ends. -/
theorem ends (h : Goes p call (w :: awaits) s response t) (hw : w.failure = none)
    (hend : s.passed p w call = u.answering answer) (hcalls : u.calls = s.calls)
    (hresponses : u.responses = s.responses) :
    awaits = [] ∧ t = u.answering answer ∧ response = answer := by
  have hrest := h.passes hw
  rw [hend] at hrest
  exact h.ended hcalls hresponses hrest

/-- The next `await` rejects and ends the call, or it goes through. -/
theorem rejects_or_passes (h : Goes p call awaits s response t) :
    (∃ w message, awaits = [w] ∧ w.failure = some message ∧
        t = (s.later w.micros).answering (.error (.error message)) ∧
        response = .error (.error message)) ∨
      ∃ w rest, awaits = w :: rest ∧ w.failure = none := by
  obtain ⟨w, rest, rfl⟩ := h.cons
  cases hw : w.failure with
  | some message =>
    obtain ⟨rfl, hend⟩ := h.fails hw
    exact .inl ⟨w, message, rfl, hw, hend⟩
  | none => exact .inr ⟨w, rest, rfl, hw⟩

end Goes

end Auth
end Api
end XStreamRoll
