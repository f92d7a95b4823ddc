/-
What a session publishes after `fail()`.

`fail` clears the queue and closes the session, and the queue loop looks at the
state before each event.  The retry loop inside it does not: an event whose
publish is in flight, or asleep before its next attempt, keeps its retry budget.
So a failed session is silent exactly when the pump has no retry left to make,
and in every other state there is a history in which it publishes again.

Without a listener for `"error"` there is a second way.  `emit("error")` throws
before the transition, and a session that was open stays open.
-/
import XStreamRoll.Processing.Session.Pump

namespace XStreamRoll
namespace Processing
namespace Session

open Transition

variable {Data : Type}

def Observation.isPublish : Observation Data → Bool
  | .effect (.publish _) => true
  | _ => false

/-- The calls of `handlers.publish` in a log. -/
def publishCalls (log : List (Observation Data)) : Nat := log.countP Observation.isPublish

@[simp] theorem publishCalls_append (log observed : List (Observation Data)) :
    publishCalls (log ++ observed) = publishCalls log + publishCalls observed :=
  List.countP_append

/-- The retry loop may publish again: it is asleep before an attempt, or its
attempt in flight would leave a retry if it failed. -/
def RetryLeft (s : StreamSession Data) : Prop :=
  ∃ f ∈ s.pumps, (∃ ms, f.await = .backoff ms) ∨
    f.await = .publish ∧ f.attempts < s.maxPublishRetries

instance (f : PumpFrame Data) : Decidable (∃ ms, f.await = .backoff ms) := by
  cases hawait : f.await with
  | backoff ms => exact isTrue ⟨ms, rfl⟩
  | publish => exact isFalse fun ⟨_, h⟩ => nomatch h
  | deadLetter error => exact isFalse fun ⟨_, h⟩ => nomatch h

instance (s : StreamSession Data) : Decidable (RetryLeft s) :=
  inferInstanceAs (Decidable (∃ f ∈ s.pumps, _ ∨ _ ∧ _))

/-- `enqueue` can accept an event, now or after `start`, whatever `fail` does. -/
def StaysOpen (s : StreamSession Data) : Prop :=
  s.errorListener = false ∧ (s.state = .idle ∨ s.state = .running) ∧ 0 < s.maxQueueDepth

/-- A session that will not publish: nothing queued, nothing to retry, and no
way for a new event to get in. -/
structure Silent (s : StreamSession Data) : Prop where
  shut : s.state ≠ .idle ∧ s.state ≠ .running ∨ s.maxQueueDepth = 0
  empty : s.queue = []
  exhausted : ¬RetryLeft s

theorem retryLeft_iff {s : StreamSession Data} {f : PumpFrame Data} (hf : s.pumps = [f]) :
    RetryLeft s ↔ (∃ ms, f.await = .backoff ms) ∨
      f.await = .publish ∧ f.attempts < s.maxPublishRetries := by
  simp [RetryLeft, hf]

theorem lifecycle_publishCalls {effects : List (Effect Data)}
    (h : ∀ e ∈ effects, Effect.isLifecycle e = true) :
    publishCalls (effects.map Observation.effect) = 0 := by
  rw [publishCalls, List.countP_eq_zero]
  intro o ho
  obtain ⟨e, he, rfl⟩ := List.mem_map.mp ho
  have hlife := h e he
  cases e <;> simp_all [Observation.isPublish, Effect.isLifecycle]

theorem settles_publishCalls {f : PumpFrame Data} {observed : List (Observation Data)}
    (h : Settles f observed) : publishCalls observed = 0 := by
  cases h <;> rfl

/-! ## Silence lasts -/

theorem Silent.noRoom {s : StreamSession Data} (h : Silent s) (hrun : s.state = .running) :
    ¬s.queue.length < s.maxQueueDepth := by
  rcases h.shut with ⟨-, hr⟩ | hzero
  · exact absurd hrun hr
  · omega

/-- A silent session stays silent and publishes nothing. -/
theorem Move.silent {s s' : StreamSession Data} {kind : Kind}
    {accepted : List (StreamEvent Data)} {observed : List (Observation Data)}
    (h : Silent s) (hm : Move s kind accepted observed s') :
    Silent s' ∧ publishCalls observed = 0 := by
  cases hm with
  | lifecycle next stops effects hnext hlife =>
    refine ⟨⟨?_, h.empty, h.exhausted⟩, lifecycle_publishCalls hlife⟩
    rcases h.shut with ⟨hidle, hrun⟩ | hzero
    · rcases hnext with rfl | ⟨hi, _⟩ | ⟨hr, _⟩ | ⟨rfl, _⟩
      · exact .inl ⟨hidle, hrun⟩
      · exact absurd hi hidle
      · exact absurd hr hrun
      · exact .inl ⟨by simp, by simp⟩
    · exact .inr hzero
  | push event hr hroom hp => exact absurd hroom (h.noRoom hr)
  | wake now event hr hroom hp => exact absurd hroom (h.noRoom hr)
  | fail next effects hnext hlife =>
    refine ⟨⟨?_, rfl, h.exhausted⟩, lifecycle_publishCalls hlife⟩
    by_cases hl : s.errorListener = true
    · exact .inl ⟨by simp [hnext, hl], by simp [hnext, hl]⟩
    · have hsame : next = s.state := by rw [hnext, if_neg hl]
      exact hsame ▸ h.shut
  | next f observed now event rest hf hset hq hs =>
    rw [h.empty] at hq
    cases hq
  | finish f observed hf hset hq =>
    refine ⟨⟨h.shut, h.empty, ?_⟩, settles_publishCalls hset⟩
    simp [RetryLeft]
  | exhaust f error hf hawait hb =>
    refine ⟨⟨h.shut, h.empty, ?_⟩, ?_⟩
    · simp [RetryLeft]
    · split <;> rfl
  | backoff f error hf hawait hb =>
    -- A rejected attempt sleeps only while a retry is left.
    have hleft : RetryLeft s := (retryLeft_iff hf).mpr (.inr ⟨hawait, hb⟩)
    exact absurd hleft h.exhausted
  | retry f ms hf hawait =>
    have hleft : RetryLeft s := (retryLeft_iff hf).mpr (.inl ⟨ms, hawait⟩)
    exact absurd hleft h.exhausted

theorem run_silent {t t' : Trace Data} {as : List (Action Data)} (hinv : PumpInv t.session)
    (h : Silent t.session) (hr : run step t as = some t') :
    publishCalls t'.log = publishCalls t.log := by
  have hall := run_invariant
    (I := fun r : Trace Data => PumpInv r.session ∧ Silent r.session ∧
      publishCalls r.log = publishCalls t.log) ?_ ⟨hinv, h, rfl⟩ hr
  · exact hall.2.2
  · intro r a r' ⟨hri, hrs, hrp⟩ hs
    obtain ⟨accepted, observed, hm, -, hlog⟩ := step_move hri hs
    obtain ⟨hsilent, hnone⟩ := hm.silent hrs
    refine ⟨hm.pumpInv hri, hsilent, ?_⟩
    rw [hlog, publishCalls_append, hrp, hnone, Nat.add_zero]

/-! ## What `fail` leaves behind -/

/-- The session as `fail()` leaves it. -/
theorem fail_session (s : StreamSession Data) (error : String) :
    (s.fail error).1 =
      { s with state := if s.errorListener then .errored else s.state, queue := [] } := by
  by_cases hl : s.errorListener = true
  · by_cases he : s.state = .errored
    · simp [StreamSession.fail, StreamSession.transition, hl, he]
    · simp [StreamSession.fail, StreamSession.transition, hl, he]
  · simp [StreamSession.fail, hl]

theorem fail_silent {s : StreamSession Data} (error : String) (hretry : ¬RetryLeft s)
    (hopen : ¬StaysOpen s) : Silent (s.fail error).1 := by
  rw [fail_session]
  refine ⟨?_, rfl, hretry⟩
  by_cases hl : s.errorListener = true
  · exact .inl ⟨by simp [hl], by simp [hl]⟩
  · have hoff : s.errorListener = false := Bool.eq_false_iff.mpr hl
    by_cases hs : s.state = .idle ∨ s.state = .running
    · have hzero : ¬0 < s.maxQueueDepth := fun hpos => hopen ⟨hoff, hs, hpos⟩
      exact .inr (Nat.eq_zero_of_not_pos hzero)
    · rw [if_neg hl]
      exact .inl (not_or.mp hs)

/-! ## And how the others publish again -/

/-- Some history from here publishes once more. -/
def PublishesAgain (t : Trace Data) : Prop :=
  ∃ as t', run step t as = some t' ∧ publishCalls t'.log = publishCalls t.log + 1

theorem publishesAgain_of_step {t t' : Trace Data} {a : Action Data} (hs : step t a = some t')
    (hone : publishCalls t'.log = publishCalls t.log + 1) : PublishesAgain t :=
  ⟨[a], t', by rw [run_singleton, hs], hone⟩

theorem PublishesAgain.before {t r : Trace Data} {a : Action Data} (h : PublishesAgain r)
    (hs : step t a = some r) (hsame : publishCalls r.log = publishCalls t.log) :
    PublishesAgain t := by
  obtain ⟨as, t', has, hone⟩ := h
  refine ⟨a :: as, t', run_cons_eq_some.mpr ⟨r, hs, has⟩, ?_⟩
  rw [hone, hsame]

/-- A sleeping retry loop wakes and publishes. -/
theorem backoff_publishes {t : Trace Data} {f : PumpFrame Data} (hf : t.session.pumps = [f])
    {ms : Nat} (hawait : f.await = .backoff ms) : PublishesAgain t := by
  have hi : t.session.pumps[0]? = some f := by rw [hf]; rfl
  have hs : step t (.resume ⟨0⟩ 0 .resolved) =
      some (t.after [] (t.session.backoffElapsed 0 f)) := by
    simp [step, StreamSession.resume, hi, hawait, answered]
  apply publishesAgain_of_step hs
  simp [Trace.after, StreamSession.backoffElapsed, publishCalls, Observation.isPublish]

theorem retry_publishes {t : Trace Data} (hinv : PumpInv t.session) (h : RetryLeft t.session) :
    PublishesAgain t := by
  obtain ⟨f, hmem, hleft⟩ := h
  obtain ⟨i, hi⟩ := List.mem_iff_getElem?.mp hmem
  obtain ⟨rfl, hf, -⟩ := hinv.pumps_single hi
  rcases hleft with ⟨ms, hawait⟩ | ⟨hawait, hb⟩
  · exact backoff_publishes hf hawait
  · -- The attempt in flight fails first, and leaves the pump asleep.
    have hnot : ¬t.session.maxPublishRetries < f.attempts + 1 := by omega
    let asleep : PumpFrame Data :=
      { f with attempts := f.attempts + 1, await := .backoff (backoffMs (f.attempts + 1)) }
    have hs : step t (.resume ⟨0⟩ 0 (.rejected "")) =
        some (t.after [.publishSettled f.processed (.rejected "")]
          (t.session.setPump 0 asleep, [])) := by
      simp [step, StreamSession.resume, StreamSession.publishRejected, answered, hi, hawait, hnot,
        asleep]
    have hagain : PublishesAgain (t.after [.publishSettled f.processed (.rejected "")]
        (t.session.setPump 0 asleep, [])) := by
      apply backoff_publishes (f := asleep)
      · simp [Trace.after, StreamSession.setPump, hf]
      · rfl
    apply hagain.before hs
    simp [Trace.after, publishCalls, Observation.isPublish]

/-- An open session with an event behind a pump publishes it once the pump is done. -/
theorem queued_publishes {t : Trace Data} {f : PumpFrame Data} (hf : t.session.pumps = [f])
    {event : StreamEvent Data} {rest : List (StreamEvent Data)}
    (hq : t.session.queue = event :: rest) (hrun : t.session.state = .running) :
    PublishesAgain t := by
  have hi : t.session.pumps[0]? = some f := by rw [hf]; rfl
  have hnext : (t.session.resumePump 0).pumpLoop ⟨0⟩ =
      ({ t.session.resumePump 0 with
          queue := rest,
          pumps := (t.session.resumePump 0).pumps ++
            [⟨event, t.session.process ⟨0⟩ event, 0, .publish⟩] },
        [.publish (t.session.process ⟨0⟩ event)]) := by
    simp [StreamSession.pumpLoop, StreamSession.resumePump, StreamSession.process, hq, hrun]
  cases hawait : f.await with
  | publish =>
    have hs : step t (.resume ⟨0⟩ 0 .resolved) =
        some (t.after [.publishSettled f.processed .resolved]
          (t.session.publishResolved ⟨0⟩ 0 f)) := by
      simp [step, StreamSession.resume, answered, hi, hawait]
    apply publishesAgain_of_step hs
    simp [Trace.after, StreamSession.publishResolved, hnext, publishCalls, Observation.isPublish]
  | backoff ms => exact backoff_publishes hf hawait
  | deadLetter error =>
    have hs : step t (.resume ⟨0⟩ 0 .resolved) =
        some (t.after [] (t.session.deadLetterSettled ⟨0⟩ 0 f error)) := by
      simp [step, StreamSession.resume, answered, hi, hawait]
    apply publishesAgain_of_step hs
    simp [Trace.after, StreamSession.deadLetterSettled, hnext, publishCalls,
      Observation.isPublish]

/-- A running session with room publishes the next event it is given. -/
theorem running_publishes {t : Trace Data} (hinv : PumpInv t.session)
    (hrun : t.session.state = .running) (hempty : t.session.queue = [])
    (hroom : 0 < t.session.maxQueueDepth) (event : StreamEvent Data) : PublishesAgain t := by
  have hlt : t.session.queue.length < t.session.maxQueueDepth := by rw [hempty]; exact hroom
  rcases hinv.flag with ⟨hoff, hnil⟩ | ⟨hon, f, hf⟩
  · have hs : step t (.enqueue ⟨0⟩ event) =
        some { t.after [] (t.session.enqueue ⟨0⟩ event).2 with
                accepted := t.accepted ++ [event] } := by
      simp [step, enqueue_wake hrun hlt hoff hempty hnil, Trace.after]
    apply publishesAgain_of_step hs
    simp [Trace.after, enqueue_wake hrun hlt hoff hempty hnil, publishCalls,
      Observation.isPublish]
  · have hs : step t (.enqueue ⟨0⟩ event) =
        some { t.after [] ({ t.session with queue := [event] }, []) with
                accepted := t.accepted ++ [event] } := by
      simp [step, enqueue_push hrun hlt hon, hempty, Trace.after]
    have hagain : PublishesAgain
        { t.after [] (({ t.session with queue := [event] } : StreamSession Data), []) with
            accepted := t.accepted ++ [event] } :=
      queued_publishes hf rfl hrun
    apply hagain.before hs
    simp [Trace.after]

theorem open_publishes {t : Trace Data} (hinv : PumpInv t.session)
    (hopen : t.session.state = .idle ∨ t.session.state = .running)
    (hempty : t.session.queue = []) (hroom : 0 < t.session.maxQueueDepth)
    (event : StreamEvent Data) : PublishesAgain t := by
  rcases hopen with hidle | hrun
  · have hoff := hinv.quiet (.inl hidle)
    have hs : step t (.start ⟨0⟩) =
        some (t.after [] ({ t.session with state := .running }, [.emitState .running .idle])) := by
      rw [step, start_idle hidle hoff hempty]
    have hagain : PublishesAgain (t.after []
        (({ t.session with state := .running } : StreamSession Data),
          [.emitState .running .idle])) :=
      running_publishes (step_pumpInv hinv hs) rfl hempty hroom event
    apply hagain.before hs
    simp [Trace.after, publishCalls, Observation.isPublish]
  · exact running_publishes hinv hrun hempty hroom event

/-- In every reachable state of a session, `fail()` silences it for good exactly
when its pump has no retry left and the failure closes the session. -/
theorem failed_session_silent_iff [Inhabited Data] (suffix streamId workerId : String)
    (depth retries : Nat) (deadLetter listener : Bool) {as : List (Action Data)}
    {t t' : Trace Data} (error : String)
    (hr : run step (Trace.init (StreamSession.create suffix streamId workerId depth retries
      deadLetter listener)) as = some t)
    (hfail : step t (.fail error) = some t') :
    (∀ bs t'', run step t' bs = some t'' → publishCalls t''.log = publishCalls t'.log) ↔
      ¬RetryLeft t.session ∧ ¬StaysOpen t.session := by
  have hinv : PumpInv t.session := run_pumpInv (create_pumpInv ..) hr
  have hinv' : PumpInv t'.session := step_pumpInv hinv hfail
  have hsession : t'.session =
      { t.session with state := if t.session.errorListener then .errored else t.session.state,
                       queue := [] } := by
    rw [step, Option.some.injEq] at hfail
    rw [← hfail]
    exact fail_session t.session error
  constructor
  · intro hsilent
    have hnot : ¬PublishesAgain t' := by
      rintro ⟨bs, t'', hbs, hone⟩
      have hsame := hsilent bs t'' hbs
      omega
    constructor
    · intro hretry
      apply hnot
      apply retry_publishes hinv'
      rw [hsession]
      exact hretry
    · rintro ⟨hoff, hopen, hroom⟩
      apply hnot
      apply open_publishes hinv' _ (by rw [hsession]) (by rw [hsession]; exact hroom)
        ⟨none, "", default, ⟨"", none⟩⟩
      rw [hsession]
      simpa [hoff] using hopen
  · rintro ⟨hretry, hopen⟩ bs t'' hbs
    have hsilent : Silent t'.session := by
      have := fail_silent error hretry hopen
      rwa [fail_session, ← hsession] at this
    exact run_silent hinv' hsilent hbs

/-- `fail()` while the only event sleeps before its first retry. -/
def failHistory : List (Action Unit) :=
  [.start ⟨0⟩, .enqueue ⟨0⟩ ⟨some "1", "s", (), ⟨"", none⟩⟩, .resume ⟨1⟩ 0 (.rejected "503"),
    .fail "lost lock for stream s"]

theorem failed_session_publishes :
    ¬∀ as bs (t t' : Trace Unit),
      run step (Trace.init (StreamSession.create "x" "s" "w" 1000 3 true true)) as = some t →
      (∃ error cs, as = cs ++ [.fail error]) → run step t bs = some t' →
      publishCalls t'.log = publishCalls t.log := by
  intro h
  have hfail : (run step (Trace.init (StreamSession.create "x" "s" "w" 1000 3 true true))
      failHistory).isSome := by decide
  have hagain : ((run step (Trace.init (StreamSession.create "x" "s" "w" 1000 3 true true))
      failHistory).bind fun t => (run step t [.resume ⟨101⟩ 0 .resolved]).map fun t' =>
        (publishCalls t.log, publishCalls t'.log)) = some (1, 2) := by decide
  obtain ⟨t, ht⟩ := Option.isSome_iff_exists.mp hfail
  rw [ht, Option.bind_some, Option.map_eq_some_iff] at hagain
  obtain ⟨t', ht', hcounts⟩ := hagain
  have hsame := h failHistory _ t t' ht ⟨_, failHistory.take 3, rfl⟩ ht'
  have hone := congrArg Prod.fst hcounts
  have htwo := congrArg Prod.snd hcounts
  simp only at hone htwo
  omega

theorem failed_session_silent_iff_failHistory :
    ∃ t t', run step (Trace.init (StreamSession.create "x" "s" "w" 1000 3 true true))
        (failHistory.take 3) = some t ∧ step t (.fail "lost lock for stream s") = some t' ∧
      ¬∀ bs t'', run step t' bs = some t'' → publishCalls t''.log = publishCalls t'.log := by
  have hsome : (run step (Trace.init (StreamSession.create "x" "s" "w" 1000 3 true true))
      (failHistory.take 3)).isSome := by decide
  obtain ⟨t, ht⟩ := Option.isSome_iff_exists.mp hsome
  refine ⟨t, _, ht, rfl, ?_⟩
  have hasleep : (run step (Trace.init (StreamSession.create "x" "s" "w" 1000 3 true true))
      (failHistory.take 3)).map (fun t => t.session.pumps.map (·.await)) =
        some [.backoff 100] := by decide
  rw [ht, Option.map_some, Option.some.injEq] at hasleep
  have hretry : RetryLeft t.session := by
    obtain ⟨f, hf, hawait⟩ := List.map_eq_singleton_iff.mp hasleep
    exact (retryLeft_iff hf).mpr (.inl ⟨100, hawait⟩)
  intro hsilent
  exact ((failed_session_silent_iff "x" "s" "w" 1000 3 true true _ ht rfl).mp hsilent).1 hretry

end Session
end Processing
end XStreamRoll
