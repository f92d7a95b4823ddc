/-
Histories of one session, and the invariant of its pump.

A history interleaves calls of `start`, `enqueue`, `stop` and `fail` with the
resumptions of suspended pumps and stops, in any order, with any answer to each
`publish` and `deadLetter`.  `PumpInv` is what every history keeps: at most one
pump is suspended, exactly while `processing` is set, its attempts are within
the budget, and the queue is empty whenever no pump runs or the session is
closed to the pump.

Under that invariant a step has one of nine shapes.  `Move` lists them and
`step_move` is the only proof that looks into the methods: the invariant itself,
the ledger of outcomes and the silence after a failure are read off the shapes.
-/
import XStreamRoll.Processing.Session

namespace XStreamRoll
namespace Processing
namespace Session

open Transition

variable {Data : Type}

inductive Action (Data : Type) where
  | start (now : Date)
  | enqueue (now : Date) (event : StreamEvent Data)
  | stop (call : Nat)
  | stopWake (call : Nat)
  | fail (error : String)
  | resume (now : Date) (i : Nat) (answer : Settlement)

/-- The three kinds of action: an ordinary call (or the waking of a `stop`), a
failure, and the resumption of a pump. -/
inductive Kind where
  | call
  | failure
  | resumption
deriving DecidableEq

def Action.kind : Action Data → Kind
  | .fail _ => .failure
  | .resume .. => .resumption
  | _ => .call

/-- A record of what the session did and of the answers it got to `publish`. -/
inductive Observation (Data : Type) where
  | effect (e : Effect Data)
  | publishSettled (event : ProcessedStreamEvent Data) (answer : Settlement)

def answered (s : StreamSession Data) (i : Nat) (answer : Settlement) : List (Observation Data) :=
  match s.pumps[i]? with
  | some f => if f.await = .publish then [.publishSettled f.processed answer] else []
  | none => []

/-- A session beside its history: the events `enqueue` accepted, and the log. -/
structure Trace (Data : Type) where
  session : StreamSession Data
  accepted : List (StreamEvent Data)
  log : List (Observation Data)

def Trace.init (s : StreamSession Data) : Trace Data := ⟨s, [], []⟩

def Trace.after (t : Trace Data) (observed : List (Observation Data))
    (r : StreamSession Data × List (Effect Data)) : Trace Data :=
  { t with session := r.1, log := t.log ++ observed ++ r.2.map .effect }

def step (t : Trace Data) : Action Data → Option (Trace Data)
  | .start now => some (t.after [] (t.session.start now))
  | .enqueue now event =>
    let (ok, r) := t.session.enqueue now event
    let t := t.after [] r
    some (if ok then { t with accepted := t.accepted ++ [event] } else t)
  | .stop call => some (t.after [] (t.session.stop call))
  | .stopWake call =>
    if call ∈ t.session.stops then some (t.after [] (t.session.stopWake call)) else none
  | .fail error => some (t.after [] (t.session.fail error))
  | .resume now i answer =>
    (t.session.resume now i answer).map fun r => t.after (answered t.session i answer) r

/-! ## The pump invariant -/

/-- The attempts counted so far, against the budget. -/
def Within (maxRetries : Nat) (f : PumpFrame Data) : Prop :=
  match f.await with
  | .publish => f.attempts ≤ maxRetries
  | .backoff _ => 1 ≤ f.attempts ∧ f.attempts ≤ maxRetries
  | .deadLetter _ => f.attempts = maxRetries + 1

structure PumpInv (s : StreamSession Data) : Prop where
  flag : s.processing = false ∧ s.pumps = [] ∨ s.processing = true ∧ ∃ f, s.pumps = [f]
  budget : ∀ f ∈ s.pumps, Within s.maxPublishRetries f
  event : ∀ f ∈ s.pumps, f.processed.event = f.next
  drained : s.processing = false → s.queue = []
  closed : s.state ≠ .running → s.state ≠ .draining → s.queue = []
  quiet : s.state = .idle ∨ s.state = .stopped → s.processing = false

theorem create_pumpInv (suffix streamId workerId : String) (depth retries : Nat)
    (deadLetter listener : Bool) :
    PumpInv (StreamSession.create suffix streamId workerId depth retries deadLetter listener :
      StreamSession Data) where
  flag := .inl ⟨rfl, rfl⟩
  budget := by intro f hf; simp [StreamSession.create] at hf
  event := by intro f hf; simp [StreamSession.create] at hf
  drained := fun _ => rfl
  closed := fun _ _ => rfl
  quiet := fun _ => rfl

theorem PumpInv.pumps_nil {s : StreamSession Data} (h : PumpInv s) (hp : s.processing = false) :
    s.pumps = [] := by
  rcases h.flag with ⟨_, hnil⟩ | ⟨hon, _⟩
  · exact hnil
  · rw [hp] at hon
    cases hon

theorem PumpInv.pumps_single {s : StreamSession Data} (h : PumpInv s) {i : Nat}
    {f : PumpFrame Data} (hf : s.pumps[i]? = some f) :
    i = 0 ∧ s.pumps = [f] ∧ s.processing = true := by
  rcases h.flag with ⟨_, hnil⟩ | ⟨hon, g, hg⟩
  · rw [hnil] at hf
    simp at hf
  · rw [hg] at hf
    cases i with
    | zero =>
      rw [List.getElem?_cons_zero, Option.some.injEq] at hf
      exact ⟨rfl, hf ▸ hg, hon⟩
    | succ i => simp at hf

/-! ## The shapes of a step -/

/-- Effects that only report the lifecycle. -/
def Effect.isLifecycle : Effect Data → Bool
  | .emitState .. | .emitError _ | .throws _ => true
  | _ => false

/-- The frame is done with its event, with what the log gets to say about it. -/
inductive Settles (f : PumpFrame Data) : List (Observation Data) → Prop where
  | published : f.await = .publish →
      Settles f [.publishSettled f.processed .resolved, .effect .incrementProcessed,
        .effect (.emitProcessed f.processed)]
  | deadLettered (error : String) : f.await = .deadLetter error →
      Settles f [.effect (.emitDeadLetter f.next error)]

/-- What `stop`, `stopWake` and `start` may do to the state. -/
def LifecycleStep (s : StreamSession Data) (next : SessionState) : Prop :=
  next = s.state ∨ s.state = .idle ∧ next = .running ∨
    s.state = .running ∧ next = .draining ∨ next = .stopped ∧ s.processing = false

/-- `Move s kind accepted observed s'`: one step from `s` to `s'`. -/
inductive Move (s : StreamSession Data) :
    Kind → List (StreamEvent Data) → List (Observation Data) → StreamSession Data → Prop where
  | lifecycle (next : SessionState) (stops : List Nat) (effects : List (Effect Data)) :
      LifecycleStep s next → (∀ e ∈ effects, Effect.isLifecycle e = true) →
      Move s .call [] (effects.map .effect) { s with state := next, stops := stops }
  | push (event : StreamEvent Data) : s.state = .running → s.queue.length < s.maxQueueDepth →
      s.processing = true →
      Move s .call [event] [] { s with queue := s.queue ++ [event] }
  | wake (now : Date) (event : StreamEvent Data) : s.state = .running →
      s.queue.length < s.maxQueueDepth → s.processing = false →
      Move s .call [event] [.effect (.publish (s.process now event))]
        { s with processing := true, pumps := [⟨event, s.process now event, 0, .publish⟩] }
  | fail (next : SessionState) (effects : List (Effect Data)) :
      next = (if s.errorListener then .errored else s.state) →
      (∀ e ∈ effects, Effect.isLifecycle e = true) →
      Move s .failure [] (effects.map .effect) { s with state := next, queue := [] }
  | next (f : PumpFrame Data) (observed : List (Observation Data)) (now : Date)
      (event : StreamEvent Data) (rest : List (StreamEvent Data)) :
      s.pumps = [f] → Settles f observed → s.queue = event :: rest →
      s.state = .running ∨ s.state = .draining →
      Move s .resumption [] (observed ++ [.effect (.publish (s.process now event))])
        { s with queue := rest, pumps := [⟨event, s.process now event, 0, .publish⟩] }
  | finish (f : PumpFrame Data) (observed : List (Observation Data)) :
      s.pumps = [f] → Settles f observed → s.queue = [] →
      Move s .resumption [] observed { s with processing := false, pumps := [] }
  | exhaust (f : PumpFrame Data) (error : String) :
      s.pumps = [f] → f.await = .publish → s.maxPublishRetries < f.attempts + 1 →
      Move s .resumption []
        (.publishSettled f.processed (.rejected error) ::
          if s.hasDeadLetter then [.effect (.deadLetter f.next error (f.attempts + 1))] else [])
        { s with pumps := [{ f with attempts := f.attempts + 1, await := .deadLetter error }] }
  | backoff (f : PumpFrame Data) (error : String) :
      s.pumps = [f] → f.await = .publish → f.attempts + 1 ≤ s.maxPublishRetries →
      Move s .resumption [] [.publishSettled f.processed (.rejected error)]
        { s with pumps := [{ f with attempts := f.attempts + 1,
                                    await := .backoff (backoffMs (f.attempts + 1)) }] }
  | retry (f : PumpFrame Data) (ms : Nat) :
      s.pumps = [f] → f.await = .backoff ms →
      Move s .resumption [] [.effect (.publish f.processed)]
        { s with pumps := [{ f with await := .publish }] }

/-- The queue loop takes the next event, or ends with `processing` cleared. -/
theorem pumpLoop_cases (now : Date) (s : StreamSession Data) :
    (∃ event rest, s.queue = event :: rest ∧ (s.state = .running ∨ s.state = .draining) ∧
      s.pumpLoop now =
        ({ s with queue := rest,
                  pumps := s.pumps ++ [⟨event, s.process now event, 0, .publish⟩] },
          [.publish (s.process now event)])) ∨
    ((s.queue = [] ∨ s.state ≠ .running ∧ s.state ≠ .draining) ∧
      s.pumpLoop now = ({ s with processing := false }, [])) := by
  unfold StreamSession.pumpLoop
  cases hq : s.queue with
  | nil => exact .inr ⟨.inl rfl, rfl⟩
  | cons event rest =>
    by_cases hs : s.state = .running ∨ s.state = .draining
    · exact .inl ⟨event, rest, rfl, hs, by simp only [hs, if_true]⟩
    · refine .inr ⟨.inr (not_or.mp hs), ?_⟩
      simp only [hs, if_false]

/-- A frame that settles leaves the loop to the next event or to the end. -/
theorem pumpLoop_move {s : StreamSession Data} (h : PumpInv s) {f : PumpFrame Data}
    (hf : s.pumps = [f]) {observed : List (Observation Data)} (hset : Settles f observed)
    (now : Date) :
    Move s .resumption [] (observed ++ ((s.resumePump 0).pumpLoop now).2.map .effect)
      ((s.resumePump 0).pumpLoop now).1 := by
  have hnil : (s.resumePump 0).pumps = [] := by simp [StreamSession.resumePump, hf]
  rcases pumpLoop_cases now (s.resumePump 0) with ⟨event, rest, hq, hs, heq⟩ | ⟨hend, heq⟩
  · rw [heq, hnil]
    exact .next f observed now event rest hf hset hq hs
  · have hq : s.queue = [] := by
      rcases hend with hq | ⟨h₁, h₂⟩
      · exact hq
      · exact h.closed h₁ h₂
    rw [heq, List.map_nil, List.append_nil]
    have hmove := Move.finish f observed hf hset hq
    simpa only [StreamSession.resumePump, hf, List.eraseIdx_zero, List.tail_cons] using hmove

/-! ## One equation for each branch of a method -/

theorem transition_self (s : StreamSession Data) : s.transition s.state = (s, []) := by
  rw [StreamSession.transition, if_pos rfl]

theorem transition_ne {s : StreamSession Data} {next : SessionState} (h : s.state ≠ next) :
    s.transition next = ({ s with state := next }, [.emitState next s.state]) := by
  rw [StreamSession.transition, if_neg h]

theorem enqueue_closed {s : StreamSession Data} (h : s.state ≠ .running) (now : Date)
    (event : StreamEvent Data) : s.enqueue now event = (false, s, []) := by
  rw [StreamSession.enqueue, if_pos h]

theorem enqueue_full {s : StreamSession Data} (h : s.maxQueueDepth ≤ s.queue.length) (now : Date)
    (event : StreamEvent Data) : s.enqueue now event = (false, s, []) := by
  rw [StreamSession.enqueue, if_pos h]
  split <;> rfl

theorem enqueue_push {s : StreamSession Data} (hs : s.state = .running)
    (hroom : s.queue.length < s.maxQueueDepth) (hp : s.processing = true) (now : Date)
    (event : StreamEvent Data) :
    s.enqueue now event = (true, { s with queue := s.queue ++ [event] }, []) := by
  rw [StreamSession.enqueue, if_neg (not_not.mpr hs), if_neg (Nat.not_le.mpr hroom)]
  simp only [hp, if_true]

theorem enqueue_wake {s : StreamSession Data} (hs : s.state = .running)
    (hroom : s.queue.length < s.maxQueueDepth) (hp : s.processing = false) (hq : s.queue = [])
    (hnil : s.pumps = []) (now : Date) (event : StreamEvent Data) :
    s.enqueue now event =
      (true, { s with processing := true, pumps := [⟨event, s.process now event, 0, .publish⟩] },
        [.publish (s.process now event)]) := by
  rw [StreamSession.enqueue, if_neg (not_not.mpr hs), if_neg (Nat.not_le.mpr hroom)]
  simp [hp, StreamSession.pump, StreamSession.pumpLoop, hs, hq, hnil, StreamSession.process]

theorem start_idle {s : StreamSession Data} (hs : s.state = .idle) (hp : s.processing = false)
    (hq : s.queue = []) (now : Date) :
    s.start now = ({ s with state := .running }, [.emitState .running .idle]) := by
  rw [StreamSession.start, if_neg (not_not.mpr hs), transition_ne (by simp [hs])]
  simp [StreamSession.pump, StreamSession.pumpLoop, hp, hq, hs]

/-! ## Every step has one of the shapes -/

theorem Move.unchanged (s : StreamSession Data) : Move s .call [] [] s :=
  Move.lifecycle s.state s.stops [] (.inl rfl) (by simp)

theorem transition_move {s : StreamSession Data} (next : SessionState) (stops : List Nat)
    (hnext : LifecycleStep s next) :
    Move s .call []
      ((({ s with stops := stops } : StreamSession Data).transition next).2.map .effect)
      (({ s with stops := stops } : StreamSession Data).transition next).1 := by
  by_cases he : s.state = next
  · subst he
    rw [show s.state = ({ s with stops := stops } : StreamSession Data).state from rfl,
      transition_self]
    exact Move.lifecycle s.state stops [] hnext (by simp)
  · rw [transition_ne (s := { s with stops := stops }) he]
    exact Move.lifecycle next stops [.emitState next s.state] hnext (by simp [Effect.isLifecycle])

theorem start_move {s : StreamSession Data} (h : PumpInv s) (now : Date) :
    Move s .call [] ((s.start now).2.map .effect) (s.start now).1 := by
  by_cases hi : s.state = .idle
  · have hoff := h.quiet (.inl hi)
    rw [start_idle hi hoff (h.drained hoff)]
    exact Move.lifecycle .running s.stops [.emitState .running .idle] (.inr (.inl ⟨hi, rfl⟩))
      (by simp [Effect.isLifecycle])
  · rw [StreamSession.start, if_pos hi]
    exact .unchanged s

theorem enqueue_move {s : StreamSession Data} (h : PumpInv s) (now : Date)
    (event : StreamEvent Data) :
    Move s .call (if (s.enqueue now event).1 then [event] else [])
      ((s.enqueue now event).2.2.map .effect) (s.enqueue now event).2.1 := by
  by_cases hs : s.state = .running
  · rcases Nat.lt_or_ge s.queue.length s.maxQueueDepth with hroom | hfull
    · by_cases hp : s.processing = true
      · rw [enqueue_push hs hroom hp]
        exact .push event hs hroom hp
      · have hoff : s.processing = false := Bool.eq_false_iff.mpr hp
        rw [enqueue_wake hs hroom hoff (h.drained hoff) (h.pumps_nil hoff)]
        exact .wake now event hs hroom hoff
    · rw [enqueue_full hfull]
      exact .unchanged s
  · rw [enqueue_closed hs]
    exact .unchanged s

/-- `stop()` of an open session: it drains behind a running pump and stops at
once otherwise. -/
theorem stop_sleep {s : StreamSession Data} (hs : ¬(s.state = .stopped ∨ s.state = .errored))
    (hp : s.processing = true) (call : Nat) :
    ∃ next effects, LifecycleStep s next ∧ (∀ e ∈ effects, Effect.isLifecycle e = true) ∧
      s.stop call = ({ s with state := next, stops := s.stops ++ [call] }, effects) := by
  by_cases hr : s.state = .running
  · refine ⟨.draining, [.emitState .draining .running], .inr (.inr (.inl ⟨hr, rfl⟩)),
      by simp [Effect.isLifecycle], ?_⟩
    simp [StreamSession.stop, StreamSession.transition, hr, hp]
  · refine ⟨s.state, [], .inl rfl, by simp, ?_⟩
    rw [StreamSession.stop, if_neg hs, if_neg hr]
    simp [hp]

theorem stop_now {s : StreamSession Data} (hs : ¬(s.state = .stopped ∨ s.state = .errored))
    (hp : s.processing = false) (call : Nat) :
    ∃ effects, (∀ e ∈ effects, Effect.isLifecycle e = true) ∧
      s.stop call = ({ s with state := .stopped }, effects) := by
  have hne : s.state ≠ .stopped := (not_or.mp hs).1
  by_cases hr : s.state = .running
  · refine ⟨[.emitState .draining .running, .emitState .stopped .draining],
      by simp [Effect.isLifecycle], ?_⟩
    simp [StreamSession.stop, StreamSession.transition, hr, hp]
  · refine ⟨[.emitState .stopped s.state], by simp [Effect.isLifecycle], ?_⟩
    rw [StreamSession.stop, if_neg hs, if_neg hr]
    simp [hp, transition_ne hne]

theorem stop_move (s : StreamSession Data) (call : Nat) :
    Move s .call [] ((s.stop call).2.map .effect) (s.stop call).1 := by
  by_cases hs : s.state = .stopped ∨ s.state = .errored
  · rw [StreamSession.stop, if_pos hs]
    exact .unchanged s
  · by_cases hp : s.processing = true
    · obtain ⟨next, effects, hnext, hlife, heq⟩ := stop_sleep hs hp call
      rw [heq]
      exact Move.lifecycle next _ effects hnext hlife
    · have hoff : s.processing = false := Bool.eq_false_iff.mpr hp
      obtain ⟨effects, hlife, heq⟩ := stop_now hs hoff call
      rw [heq]
      exact Move.lifecycle .stopped s.stops effects (.inr (.inr (.inr ⟨rfl, hoff⟩))) hlife

theorem stopWake_move (s : StreamSession Data) (call : Nat) :
    Move s .call [] ((s.stopWake call).2.map .effect) (s.stopWake call).1 := by
  unfold StreamSession.stopWake
  by_cases hp : s.processing = true
  · rw [if_pos hp]
    exact .unchanged s
  · rw [if_neg hp]
    exact transition_move .stopped _ (.inr (.inr (.inr ⟨rfl, Bool.eq_false_iff.mpr hp⟩)))

theorem fail_move (s : StreamSession Data) (error : String) :
    Move s .failure [] ((s.fail error).2.map .effect) (s.fail error).1 := by
  unfold StreamSession.fail
  by_cases hl : s.errorListener = true
  · simp only [hl, if_true]
    by_cases he : s.state = .errored
    · have hmove := Move.fail (s := s) .errored [.emitError error] (by simp [hl])
        (by simp [Effect.isLifecycle])
      simpa [StreamSession.transition, he, hl] using hmove
    · have hmove := Move.fail (s := s) .errored [.emitError error, .emitState .errored s.state]
        (by simp [hl]) (by simp [Effect.isLifecycle])
      simpa [StreamSession.transition, he, hl] using hmove
  · have hmove := Move.fail (s := s) s.state [.throws error] (by rw [if_neg hl])
      (by simp [Effect.isLifecycle])
    simpa [hl] using hmove

theorem resume_move {s : StreamSession Data} (h : PumpInv s) {now : Date} {i : Nat}
    {answer : Settlement} {r : StreamSession Data × List (Effect Data)}
    (hr : s.resume now i answer = some r) :
    Move s .resumption [] (answered s i answer ++ r.2.map .effect) r.1 := by
  unfold StreamSession.resume at hr
  cases hi : s.pumps[i]? with
  | none => rw [hi] at hr; cases hr
  | some f =>
    obtain ⟨rfl, hf, -⟩ := h.pumps_single hi
    rw [hi] at hr
    have hans : answered s 0 answer =
        if f.await = .publish then [.publishSettled f.processed answer] else [] := by
      simp [answered, hi]
    rw [hans]
    cases hawait : f.await with
    | publish =>
      cases answer with
      | resolved =>
        simp only [hawait, Option.some.injEq] at hr
        subst hr
        have hmove := pumpLoop_move h hf (.published hawait) now
        simpa [StreamSession.publishResolved, hawait] using hmove
      | rejected error =>
        simp only [hawait, Option.some.injEq] at hr
        subst hr
        unfold StreamSession.publishRejected
        by_cases hb : s.maxPublishRetries < f.attempts + 1
        · have hmove := Move.exhaust f error hf hawait hb
          rw [if_pos hb, if_pos rfl]
          by_cases hd : s.hasDeadLetter = true
          · simpa [hd, StreamSession.setPump, hf] using hmove
          · simpa [hd, StreamSession.setPump, hf] using hmove
        · have hmove := Move.backoff f error hf hawait (Nat.not_lt.mp hb)
          rw [if_neg hb, if_pos rfl]
          simpa [StreamSession.setPump, hf] using hmove
    | backoff ms =>
      cases answer with
      | resolved =>
        simp only [hawait, Option.some.injEq] at hr
        subst hr
        have hmove := Move.retry f ms hf hawait
        simpa [StreamSession.backoffElapsed, StreamSession.setPump, hf] using hmove
      | rejected error => simp [hawait] at hr
    | deadLetter error =>
      simp only [hawait, Option.some.injEq] at hr
      subst hr
      have hmove := pumpLoop_move h hf (.deadLettered error hawait) now
      simpa [StreamSession.deadLetterSettled] using hmove

theorem step_move {t t' : Trace Data} {a : Action Data} (h : PumpInv t.session)
    (hs : step t a = some t') :
    ∃ accepted observed, Move t.session a.kind accepted observed t'.session ∧
      t'.accepted = t.accepted ++ accepted ∧ t'.log = t.log ++ observed := by
  cases a with
  | start now =>
    simp only [step, Option.some.injEq] at hs
    subst hs
    exact ⟨[], _, start_move h now, by simp [Trace.after], by simp [Trace.after]⟩
  | enqueue now event =>
    simp only [step, Option.some.injEq] at hs
    subst hs
    have hmove := enqueue_move h now event
    cases hok : (t.session.enqueue now event).1 with
    | true =>
      simp only [hok, if_true] at hmove ⊢
      exact ⟨[event], _, hmove, by simp [Trace.after], by simp [Trace.after]⟩
    | false =>
      simp only [hok, Bool.false_eq_true, if_false] at hmove ⊢
      exact ⟨[], _, hmove, by simp [Trace.after], by simp [Trace.after]⟩
  | stop call =>
    simp only [step, Option.some.injEq] at hs
    subst hs
    exact ⟨[], _, stop_move t.session call, by simp [Trace.after], by simp [Trace.after]⟩
  | stopWake call =>
    simp only [step] at hs
    split at hs
    · rw [Option.some.injEq] at hs
      subst hs
      exact ⟨[], _, stopWake_move t.session call, by simp [Trace.after], by simp [Trace.after]⟩
    · cases hs
  | fail error =>
    simp only [step, Option.some.injEq] at hs
    subst hs
    exact ⟨[], _, fail_move t.session error, by simp [Trace.after], by simp [Trace.after]⟩
  | resume now i answer =>
    simp only [step, Option.map_eq_some_iff] at hs
    obtain ⟨r, hr, rfl⟩ := hs
    exact ⟨[], _, resume_move h hr, by simp [Trace.after], by simp [Trace.after]⟩

/-! ## The invariant along a history -/

theorem Move.pumpInv {s s' : StreamSession Data} {kind : Kind}
    {accepted : List (StreamEvent Data)} {observed : List (Observation Data)} (h : PumpInv s)
    (hm : Move s kind accepted observed s') : PumpInv s' := by
  cases hm with
  | lifecycle next stops effects hnext _ =>
    refine ⟨h.flag, h.budget, h.event, h.drained, ?_, ?_⟩
    · intro h₁ h₂
      rcases hnext with rfl | ⟨_, rfl⟩ | ⟨_, rfl⟩ | ⟨_, hp⟩
      · exact h.closed h₁ h₂
      · exact absurd rfl h₁
      · exact absurd rfl h₂
      · exact h.drained hp
    · intro hq
      rcases hnext with rfl | ⟨_, rfl⟩ | ⟨_, rfl⟩ | ⟨_, hp⟩
      · exact h.quiet hq
      · simp at hq
      · simp at hq
      · exact hp
  | push event hs _ hp =>
    refine ⟨h.flag, h.budget, h.event, ?_, ?_, ?_⟩
    · intro hoff
      exact absurd (hp.symm.trans hoff) (by decide)
    · intro h₁ _
      exact absurd hs h₁
    · intro hq
      simp [hs] at hq
  | wake now event hs _ hp =>
    refine ⟨.inr ⟨rfl, _, rfl⟩, ?_, ?_, ?_, fun _ _ => h.drained hp, ?_⟩
    · simp [Within]
    · simp [StreamSession.process]
    · intro hoff
      cases hoff
    · intro hq
      simp [hs] at hq
  | fail next effects hnext _ =>
    refine ⟨h.flag, h.budget, h.event, fun _ => rfl, fun _ _ => rfl, ?_⟩
    intro hq
    by_cases hl : s.errorListener = true
    · simp [hnext, hl] at hq
    · simp only [hnext, hl, Bool.false_eq_true, if_false] at hq
      exact h.quiet hq
  | next f observed now event rest hf hset hq hs =>
    have hon : s.processing = true := (h.pumps_single (i := 0) (by rw [hf]; rfl)).2.2
    refine ⟨.inr ⟨hon, _, rfl⟩, ?_, ?_, ?_, ?_, ?_⟩
    · simp [Within]
    · simp [StreamSession.process]
    · intro hoff
      exact absurd (hon.symm.trans hoff) (by decide)
    · intro h₁ h₂
      exact absurd hs (not_or.mpr ⟨h₁, h₂⟩)
    · intro hidle
      rw [h.quiet hidle] at hon
      cases hon
  | finish f observed hf hset hq =>
    exact ⟨.inl ⟨rfl, rfl⟩, by simp, by simp, fun _ => hq, fun _ _ => hq, fun _ => rfl⟩
  | exhaust f error hf hawait hb =>
    have hon := (h.pumps_single (i := 0) (by rw [hf]; rfl)).2.2
    have hle : f.attempts ≤ s.maxPublishRetries := by
      have := h.budget f (by simp [hf])
      simpa [Within, hawait] using this
    refine ⟨.inr ⟨hon, _, rfl⟩, ?_, ?_, h.drained, h.closed, h.quiet⟩
    · simp only [List.mem_singleton, forall_eq, Within]
      omega
    · simpa using h.event f (by simp [hf])
  | backoff f error hf hawait hb =>
    have hon := (h.pumps_single (i := 0) (by rw [hf]; rfl)).2.2
    refine ⟨.inr ⟨hon, _, rfl⟩, ?_, ?_, h.drained, h.closed, h.quiet⟩
    · simpa [Within] using hb
    · simpa using h.event f (by simp [hf])
  | retry f ms hf hawait =>
    have hon := (h.pumps_single (i := 0) (by rw [hf]; rfl)).2.2
    refine ⟨.inr ⟨hon, _, rfl⟩, ?_, ?_, h.drained, h.closed, h.quiet⟩
    · have hle := h.budget f (by simp [hf])
      simp only [Within, hawait] at hle
      simpa [Within] using hle.2
    · simpa using h.event f (by simp [hf])

theorem step_pumpInv {t t' : Trace Data} {a : Action Data} (h : PumpInv t.session)
    (hs : step t a = some t') : PumpInv t'.session := by
  obtain ⟨_, _, hm, -, -⟩ := step_move h hs
  exact hm.pumpInv h

theorem run_pumpInv {t t' : Trace Data} {as : List (Action Data)} (h : PumpInv t.session)
    (hr : run step t as = some t') : PumpInv t'.session :=
  run_invariant (I := fun t => PumpInv t.session) (fun _ _ _ h hs => step_pumpInv h hs) h hr

end Session
end Processing
end XStreamRoll
