/-
Every event a session accepts ends in exactly one outcome.

The history of a session that is never failed is a ledger: the outcomes so far,
in the order the events were accepted, then the event in flight, then the queue.
The log is the concatenation of the outcomes' own logs and what the event in
flight has logged so far, so nothing is published twice, skipped, or published
out of order.  A rank on the suspended pump bounds the resumptions after which
an accepted event has its outcome, whatever else happens between them.
-/
import XStreamRoll.Processing.Session.Pump

namespace XStreamRoll
namespace Processing
namespace Session

open Transition

variable {Data : Type}

/-- How an accepted event ends, with the errors of its failed attempts. -/
inductive Outcome (Data : Type) where
  | published (event : ProcessedStreamEvent Data) (failures : List String)
  | deadLettered (event : ProcessedStreamEvent Data) (failures : List String) (last : String)

namespace Outcome

def event : Outcome Data → StreamEvent Data
  | published p _ | deadLettered p _ _ => p.event

def isPublished : Outcome Data → Bool
  | published .. => true
  | deadLettered .. => false

/-- A publish succeeds within the budget; a dead letter follows one attempt more
than the retries. -/
def Within (maxRetries : Nat) : Outcome Data → Prop
  | published _ failures => failures.length ≤ maxRetries
  | deadLettered _ failures last => (failures ++ [last]).length = maxRetries + 1

end Outcome

def failedAttempt (p : ProcessedStreamEvent Data) (error : String) : List (Observation Data) :=
  [.effect (.publish p), .publishSettled p (.rejected error)]

def handOff (hasDeadLetter : Bool) (p : ProcessedStreamEvent Data) (error : String)
    (attempts : Nat) : List (Observation Data) :=
  if hasDeadLetter then [.effect (.deadLetter p.event error attempts)] else []

/-- All that an outcome leaves in the log. -/
def Outcome.log (hasDeadLetter : Bool) : Outcome Data → List (Observation Data)
  | .published p failures =>
    failures.flatMap (failedAttempt p) ++
      [.effect (.publish p), .publishSettled p .resolved, .effect .incrementProcessed,
        .effect (.emitProcessed p)]
  | .deadLettered p failures last =>
    (failures ++ [last]).flatMap (failedAttempt p) ++
      handOff hasDeadLetter p last (failures.length + 1) ++
      [.effect (.emitDeadLetter p.event last)]

/-- What the event in flight has left in the log so far. -/
def frameLog (hasDeadLetter : Bool) (f : PumpFrame Data) (failures : List String) :
    List (Observation Data) :=
  match f.await with
  | .publish => failures.flatMap (failedAttempt f.processed) ++ [.effect (.publish f.processed)]
  | .backoff _ => failures.flatMap (failedAttempt f.processed)
  | .deadLetter last =>
    (failures ++ [last]).flatMap (failedAttempt f.processed) ++
      handOff hasDeadLetter f.processed last (failures.length + 1)

def FrameFailures (f : PumpFrame Data) (failures : List String) : Prop :=
  match f.await with
  | .publish | .backoff _ => failures.length = f.attempts
  | .deadLetter _ => failures.length + 1 = f.attempts

/-- The part of the log that the suspended pumps account for. -/
def InProgress (hasDeadLetter : Bool) (pumps : List (PumpFrame Data))
    (current : List (Observation Data)) : Prop :=
  match pumps with
  | [] => current = []
  | f :: _ => ∃ failures, FrameFailures f failures ∧ current = frameLog hasDeadLetter f failures

namespace Observation

def isPump : Observation Data → Bool
  | effect e => !Effect.isLifecycle e
  | publishSettled .. => true

def isIncrement : Observation Data → Bool
  | effect .incrementProcessed => true
  | _ => false

def isSuccess : Observation Data → Bool
  | publishSettled _ .resolved => true
  | _ => false

end Observation

def pumpLog (log : List (Observation Data)) : List (Observation Data) :=
  log.filter Observation.isPump

/-- The worker's `messagesProcessed` counter, as far as this session moved it. -/
def messagesProcessed (log : List (Observation Data)) : Nat := log.countP Observation.isIncrement

/-- The publishes that resolved. -/
def successes (log : List (Observation Data)) : Nat := log.countP Observation.isSuccess

/-- The accepted events without an outcome yet, oldest first. -/
def unsettled (s : StreamSession Data) : List (StreamEvent Data) :=
  s.pumps.map PumpFrame.next ++ s.queue

/-- The publishes in flight. -/
def publishesInFlight (s : StreamSession Data) : Nat :=
  s.pumps.countP fun f => f.await = .publish

structure Ledger (t : Trace Data) (outcomes : List (Outcome Data)) : Prop where
  accepted : t.accepted = outcomes.map Outcome.event ++ unsettled t.session
  within : ∀ o ∈ outcomes, o.Within t.session.maxPublishRetries
  log : ∃ current, InProgress t.session.hasDeadLetter t.session.pumps current ∧
    pumpLog t.log = outcomes.flatMap (Outcome.log t.session.hasDeadLetter) ++ current
  processed : messagesProcessed t.log = outcomes.countP Outcome.isPublished
  succeeded : successes t.log = outcomes.countP Outcome.isPublished

/-! ## The log of one step -/

theorem pumpLog_append (log more : List (Observation Data)) :
    pumpLog (log ++ more) = pumpLog log ++ pumpLog more :=
  List.filter_append ..

theorem pumpLog_lifecycle {effects : List (Effect Data)}
    (h : ∀ e ∈ effects, Effect.isLifecycle e = true) :
    pumpLog (effects.map Observation.effect) = [] := by
  rw [pumpLog, List.filter_eq_nil_iff]
  intro o ho
  obtain ⟨e, he, rfl⟩ := List.mem_map.mp ho
  simp [Observation.isPump, h e he]

theorem countP_lifecycle {effects : List (Effect Data)} {p : Observation Data → Bool}
    (hp : ∀ e, Effect.isLifecycle e = true → p (.effect e) = false)
    (h : ∀ e ∈ effects, Effect.isLifecycle e = true) :
    (effects.map Observation.effect).countP p = 0 := by
  rw [List.countP_eq_zero]
  intro o ho
  obtain ⟨e, he, rfl⟩ := List.mem_map.mp ho
  rw [hp e (h e he)]
  decide

theorem isIncrement_lifecycle (e : Effect Data) (h : Effect.isLifecycle e = true) :
    Observation.isIncrement (.effect e) = false := by
  cases e <;> first | rfl | cases h

/-- A frame that settles becomes the outcome its log spells out. -/
theorem settles_outcome {f : PumpFrame Data} {observed : List (Observation Data)}
    {failures : List String} {maxRetries : Nat} (hset : Settles f observed)
    (hevent : f.processed.event = f.next) (hwithin : Within maxRetries f)
    (hfail : FrameFailures f failures) (hasDeadLetter : Bool) :
    ∃ o : Outcome Data, o.event = f.next ∧ o.Within maxRetries ∧
      o.log hasDeadLetter = frameLog hasDeadLetter f failures ++ observed ∧
      pumpLog observed = observed ∧
      messagesProcessed observed = [o].countP Outcome.isPublished ∧
      successes observed = [o].countP Outcome.isPublished := by
  cases hset with
  | published hawait =>
    simp only [Within, FrameFailures, hawait] at hwithin hfail
    refine ⟨.published f.processed failures, hevent, ?_, ?_, rfl, rfl, rfl⟩
    · rw [Outcome.Within, hfail]
      exact hwithin
    · simp [Outcome.log, frameLog, hawait]
  | deadLettered error hawait =>
    simp only [Within, FrameFailures, hawait] at hwithin hfail
    refine ⟨.deadLettered f.processed failures error, hevent, ?_, ?_, rfl, rfl, rfl⟩
    · rw [Outcome.Within, List.length_append, List.length_singleton, hfail, hwithin]
    · simp [Outcome.log, frameLog, hawait, hevent]

/-! ## The ledger along a history -/

theorem init_ledger (suffix streamId workerId : String) (depth retries : Nat)
    (deadLetter listener : Bool) :
    Ledger (Trace.init (StreamSession.create suffix streamId workerId depth retries deadLetter
      listener : StreamSession Data)) [] where
  accepted := rfl
  within := by simp
  log := ⟨[], rfl, rfl⟩
  processed := rfl
  succeeded := rfl

/-- A step that settles nothing: the same outcomes, a longer log. -/
theorem Ledger.extend {t t' : Trace Data} {outcomes : List (Outcome Data)}
    {more : List (StreamEvent Data)} {observed : List (Observation Data)} (h : Ledger t outcomes)
    (haccepted : t'.accepted = t.accepted ++ more) (hlog : t'.log = t.log ++ observed)
    (hunsettled : unsettled t'.session = unsettled t.session ++ more)
    (hretries : t'.session.maxPublishRetries = t.session.maxPublishRetries)
    (hdead : t'.session.hasDeadLetter = t.session.hasDeadLetter)
    (hcurrent : ∀ current, InProgress t.session.hasDeadLetter t.session.pumps current →
      InProgress t.session.hasDeadLetter t'.session.pumps (current ++ pumpLog observed))
    (hinc : messagesProcessed observed = 0) (hsucc : successes observed = 0) :
    Ledger t' outcomes := by
  constructor
  · rw [haccepted, h.accepted, hunsettled, List.append_assoc]
  · rw [hretries]
    exact h.within
  · obtain ⟨current, hin, heq⟩ := h.log
    refine ⟨current ++ pumpLog observed, hdead ▸ hcurrent current hin, ?_⟩
    rw [hlog, pumpLog_append, heq, hdead, List.append_assoc]
  · have h0 : observed.countP Observation.isIncrement = 0 := hinc
    rw [messagesProcessed, hlog, List.countP_append, h0, Nat.add_zero]
    exact h.processed
  · have h0 : observed.countP Observation.isSuccess = 0 := hsucc
    rw [successes, hlog, List.countP_append, h0, Nat.add_zero]
    exact h.succeeded

/-- A step that settles the event in flight, and perhaps publishes the next. -/
theorem Ledger.settle {t t' : Trace Data} {outcomes : List (Outcome Data)} {f : PumpFrame Data}
    {observed started : List (Observation Data)} (h : Ledger t outcomes)
    (hinv : PumpInv t.session) (hf : t.session.pumps = [f]) (hset : Settles f observed)
    (haccepted : t'.accepted = t.accepted) (hlog : t'.log = t.log ++ (observed ++ started))
    (hunsettled : unsettled t'.session = t.session.queue)
    (hretries : t'.session.maxPublishRetries = t.session.maxPublishRetries)
    (hdead : t'.session.hasDeadLetter = t.session.hasDeadLetter)
    (hcurrent : InProgress t.session.hasDeadLetter t'.session.pumps (pumpLog started))
    (hinc : messagesProcessed started = 0) (hsucc : successes started = 0) :
    ∃ o, Ledger t' (outcomes ++ [o]) := by
  obtain ⟨current, hin, heq⟩ := h.log
  rw [hf] at hin
  obtain ⟨failures, hfail, rfl⟩ := hin
  obtain ⟨o, hevent, hwithin, holog, hpump, hoinc, hosucc⟩ :=
    settles_outcome hset (hinv.event f (by simp [hf])) (hinv.budget f (by simp [hf])) hfail
      t.session.hasDeadLetter
  refine ⟨o, ?_, ?_, ⟨pumpLog started, hdead ▸ hcurrent, ?_⟩, ?_, ?_⟩
  · rw [haccepted, h.accepted, hunsettled]
    simp [unsettled, hf, hevent]
  · rw [hretries]
    intro o' ho'
    rcases List.mem_append.mp ho' with ho' | ho'
    · exact h.within o' ho'
    · rw [List.mem_singleton.mp ho']
      exact hwithin
  · rw [hlog, pumpLog_append, pumpLog_append, heq, hpump, hdead, List.flatMap_append,
      List.flatMap_singleton, holog]
    simp only [List.append_assoc]
  · have h0 : started.countP Observation.isIncrement = 0 := hinc
    rw [messagesProcessed, hlog, List.countP_append, List.countP_append, h0, Nat.add_zero,
      List.countP_append, ← hoinc, ← h.processed]
    rfl
  · have h0 : started.countP Observation.isSuccess = 0 := hsucc
    rw [successes, hlog, List.countP_append, List.countP_append, h0, Nat.add_zero,
      List.countP_append, ← hosucc, ← h.succeeded]
    rfl

theorem step_ledger {t t' : Trace Data} {a : Action Data} {outcomes : List (Outcome Data)}
    (hinv : PumpInv t.session) (h : Ledger t outcomes) (ha : a.kind ≠ .failure)
    (hs : step t a = some t') : ∃ more, Ledger t' (outcomes ++ more) := by
  obtain ⟨accepted, observed, hm, haccepted, hlog⟩ := step_move hinv hs
  generalize a.kind = kind at hm ha
  generalize hS : t'.session = s' at hm
  -- The moves that settle nothing keep the outcomes.
  have same : Ledger t' outcomes → ∃ more, Ledger t' (outcomes ++ more) := fun h' =>
    ⟨[], by rw [List.append_nil]; exact h'⟩
  cases hm with
  | lifecycle next stops effects hnext hlife =>
    refine same (h.extend haccepted hlog (by simp [hS, unsettled]) (by rw [hS]) (by rw [hS])
      ?_ ?_ ?_)
    · intro current hin
      rw [pumpLog_lifecycle hlife, List.append_nil, hS]
      exact hin
    · exact countP_lifecycle isIncrement_lifecycle hlife
    · exact countP_lifecycle (fun _ _ => rfl) hlife
  | push event hrun _ hp =>
    refine same (h.extend haccepted hlog (by simp [hS, unsettled]) (by rw [hS]) (by rw [hS])
      ?_ rfl rfl)
    intro current hin
    simpa [pumpLog, hS] using hin
  | wake now event hrun _ hp =>
    have hnil := hinv.pumps_nil hp
    have hq := hinv.drained hp
    refine same (h.extend haccepted hlog (by simp [hS, unsettled, hnil, hq]) (by rw [hS])
      (by rw [hS]) ?_ rfl rfl)
    intro current hin
    rw [hnil] at hin
    rw [hS]
    exact ⟨[], rfl, by rw [show current = [] from hin]; rfl⟩
  | fail => exact absurd rfl ha
  | next f observed now event rest hf hset hq hrun =>
    rw [List.append_nil] at haccepted
    obtain ⟨o, ho⟩ := h.settle hinv hf hset haccepted hlog (by simp [hS, unsettled, hq])
      (by rw [hS]) (by rw [hS]) (by rw [hS]; exact ⟨[], rfl, rfl⟩) rfl rfl
    exact ⟨[o], ho⟩
  | finish f observed hf hset hq =>
    rw [List.append_nil] at haccepted
    have hlog' : t'.log = t.log ++ (observed ++ []) := by rw [hlog, List.append_nil]
    obtain ⟨o, ho⟩ := h.settle hinv hf hset haccepted hlog' (by simp [hS, unsettled])
      (by rw [hS]) (by rw [hS]) (by rw [hS]; rfl) rfl rfl
    exact ⟨[o], ho⟩
  | exhaust f error hf hawait hb =>
    refine same (h.extend haccepted hlog (by simp [hS, unsettled, hf]) (by rw [hS]) (by rw [hS])
      ?_ ?_ ?_)
    · intro current hin
      rw [hf] at hin
      obtain ⟨failures, hfail, rfl⟩ := hin
      simp only [FrameFailures, hawait] at hfail
      rw [hS]
      refine ⟨failures, ?_, ?_⟩
      · simp only [FrameFailures]
        omega
      · have hevent := hinv.event f (by simp [hf])
        by_cases hd : t.session.hasDeadLetter = true
        · simp [frameLog, hawait, hd, pumpLog, Observation.isPump, Effect.isLifecycle, handOff,
            failedAttempt, hfail, hevent]
        · simp [frameLog, hawait, hd, pumpLog, Observation.isPump, handOff, failedAttempt]
    · split <;> rfl
    · split <;> rfl
  | backoff f error hf hawait hb =>
    refine same (h.extend haccepted hlog (by simp [hS, unsettled, hf]) (by rw [hS]) (by rw [hS])
      ?_ rfl rfl)
    intro current hin
    rw [hf] at hin
    obtain ⟨failures, hfail, rfl⟩ := hin
    simp only [FrameFailures, hawait] at hfail
    rw [hS]
    refine ⟨failures ++ [error], ?_, ?_⟩
    · simp [FrameFailures, hfail]
    · simp [frameLog, hawait, pumpLog, Observation.isPump, failedAttempt]
  | retry f ms hf hawait =>
    refine same (h.extend haccepted hlog (by simp [hS, unsettled, hf]) (by rw [hS]) (by rw [hS])
      ?_ rfl rfl)
    intro current hin
    rw [hf] at hin
    obtain ⟨failures, hfail, rfl⟩ := hin
    simp only [FrameFailures, hawait] at hfail
    rw [hS]
    refine ⟨failures, hfail, ?_⟩
    simp [frameLog, hawait, pumpLog, Observation.isPump, Effect.isLifecycle]

theorem run_ledger {t t' : Trace Data} {as : List (Action Data)} {outcomes : List (Outcome Data)}
    (hinv : PumpInv t.session) (h : Ledger t outcomes) (has : ∀ a ∈ as, a.kind ≠ .failure)
    (hr : run step t as = some t') : ∃ more, Ledger t' (outcomes ++ more) := by
  induction as generalizing t outcomes with
  | nil =>
    rw [run_nil, Option.some.injEq] at hr
    exact ⟨[], by rw [List.append_nil, ← hr]; exact h⟩
  | cons a as ih =>
    obtain ⟨r, hs, hrt⟩ := run_cons_eq_some.mp hr
    obtain ⟨more, hmore⟩ := step_ledger hinv h (has a List.mem_cons_self) hs
    obtain ⟨later, hlater⟩ := ih (step_pumpInv hinv hs) hmore
      (fun b hb => has b (List.mem_cons_of_mem a hb)) hrt
    exact ⟨more ++ later, by rw [← List.append_assoc]; exact hlater⟩

/-! ## How long an outcome can take -/

/-- The resumptions left to the event in flight. -/
def frameRank (maxRetries : Nat) (f : PumpFrame Data) : Nat :=
  match f.await with
  | .publish => 2 * (maxRetries - f.attempts) + 2
  | .backoff _ => 2 * (maxRetries - f.attempts) + 3
  | .deadLetter _ => 1

def pumpRank (s : StreamSession Data) : Nat :=
  match s.pumps with
  | [] => 0
  | f :: _ => frameRank s.maxPublishRetries f

/-- The accepted events that have their outcome. -/
def settledCount (t : Trace Data) : Nat := t.accepted.length - (unsettled t.session).length

/-- An upper bound on the resumptions until `n` events are settled, when
`settled` of them are, the one in flight has `rank` to go, and each event after
it at most `cap`. -/
def workOf (n settled rank cap : Nat) : Nat :=
  if n ≤ settled then 0 else rank + (n - settled - 1) * cap

def work (n : Nat) (t : Trace Data) : Nat :=
  workOf n (settledCount t) (pumpRank t.session) (2 * t.session.maxPublishRetries + 2)

theorem workOf_lower {n settled rank rank' cap : Nat} (h : rank' < rank) :
    workOf n settled rank' cap ≤ workOf n settled rank cap ∧
      (0 < workOf n settled rank cap → workOf n settled rank' cap < workOf n settled rank cap) := by
  unfold workOf
  split <;> omega

theorem workOf_settle {n settled rank rank' cap : Nat} (hpos : 1 ≤ rank) (hle : rank' ≤ cap) :
    workOf n (settled + 1) rank' cap ≤ workOf n settled rank cap ∧
      (0 < workOf n settled rank cap →
        workOf n (settled + 1) rank' cap < workOf n settled rank cap) := by
  unfold workOf
  by_cases hn : n ≤ settled
  · rw [if_pos (by omega), if_pos hn]
    omega
  · rw [if_neg hn]
    by_cases hn' : n ≤ settled + 1
    · rw [if_pos hn']
      omega
    · obtain ⟨d, hd⟩ : ∃ d, n - settled - 1 = d + 1 := ⟨n - settled - 2, by omega⟩
      have hd' : n - (settled + 1) - 1 = d := by omega
      rw [if_neg hn', hd, hd', Nat.succ_mul]
      omega

theorem Ledger.settledCount_eq {t : Trace Data} {outcomes : List (Outcome Data)}
    (h : Ledger t outcomes) : settledCount t = outcomes.length := by
  rw [settledCount, h.accepted, List.length_append, List.length_map]
  omega

theorem frameRank_bounds {maxRetries : Nat} {f : PumpFrame Data} (h : Within maxRetries f) :
    1 ≤ frameRank maxRetries f ∧ frameRank maxRetries f ≤ 2 * maxRetries + 2 := by
  rw [Within] at h
  rw [frameRank]
  cases hawait : f.await with
  | publish =>
    rw [hawait] at h
    show 1 ≤ 2 * (maxRetries - f.attempts) + 2 ∧
      2 * (maxRetries - f.attempts) + 2 ≤ 2 * maxRetries + 2
    omega
  | backoff delay =>
    rw [hawait] at h
    have hattempts : 1 ≤ f.attempts ∧ f.attempts ≤ maxRetries := h
    show 1 ≤ 2 * (maxRetries - f.attempts) + 3 ∧
      2 * (maxRetries - f.attempts) + 3 ≤ 2 * maxRetries + 2
    omega
  | deadLetter error =>
    rw [hawait] at h
    show 1 ≤ 1 ∧ 1 ≤ 2 * maxRetries + 2
    omega

/-- What a step does to the settled events and to the rank of the pump.  Only a
resumption moves either of them, and it moves one of them down. -/
theorem Move.progress {s s' : StreamSession Data} {kind : Kind}
    {accepted : List (StreamEvent Data)} {observed : List (Observation Data)} (h : PumpInv s)
    (hm : Move s kind accepted observed s') (hkind : kind ≠ .failure) :
    s'.maxPublishRetries = s.maxPublishRetries ∧
    ((unsettled s').length = (unsettled s).length + accepted.length ∧
        (kind = .call ∧ pumpRank s' = pumpRank s ∨ kind = .call ∧ unsettled s = [] ∨
          kind = .resumption ∧ accepted = [] ∧ pumpRank s' < pumpRank s) ∨
      kind = .resumption ∧ accepted = [] ∧ (unsettled s').length + 1 = (unsettled s).length ∧
        1 ≤ pumpRank s ∧ pumpRank s' ≤ 2 * s.maxPublishRetries + 2) := by
  cases hm with
  | lifecycle => exact ⟨rfl, .inl ⟨rfl, .inl ⟨rfl, rfl⟩⟩⟩
  | push => exact ⟨rfl, .inl ⟨by simp [unsettled]; omega, .inl ⟨rfl, rfl⟩⟩⟩
  | wake now event hrun _ hp =>
    have hnil := h.pumps_nil hp
    have hq := h.drained hp
    exact ⟨rfl, .inl ⟨by simp [unsettled, hnil, hq], .inr (.inl ⟨rfl, by simp [unsettled, hnil, hq]⟩)⟩⟩
  | fail => exact absurd rfl hkind
  | next f observed now event rest hf hset hq hrun =>
    have hb := frameRank_bounds (h.budget f (by simp [hf]))
    refine ⟨rfl, .inr ⟨rfl, rfl, by simp [unsettled, hf, hq], ?_, ?_⟩⟩
    · simpa [pumpRank, hf] using hb.1
    · simp [pumpRank, frameRank]
  | finish f observed hf hset hq =>
    have hb := frameRank_bounds (h.budget f (by simp [hf]))
    refine ⟨rfl, .inr ⟨rfl, rfl, by simp [unsettled, hf, hq], ?_, ?_⟩⟩
    · simpa [pumpRank, hf] using hb.1
    · simp [pumpRank]
  | exhaust f error hf hawait hb =>
    refine ⟨rfl, .inl ⟨by simp [unsettled, hf], .inr (.inr ⟨rfl, rfl, ?_⟩)⟩⟩
    simp only [pumpRank, hf, frameRank, hawait]
    omega
  | backoff f error hf hawait hb =>
    refine ⟨rfl, .inl ⟨by simp [unsettled, hf], .inr (.inr ⟨rfl, rfl, ?_⟩)⟩⟩
    simp only [pumpRank, hf, frameRank, hawait]
    omega
  | retry f ms hf hawait =>
    refine ⟨rfl, .inl ⟨by simp [unsettled, hf], .inr (.inr ⟨rfl, rfl, ?_⟩)⟩⟩
    simp only [pumpRank, hf, frameRank, hawait]
    omega

/-- The facts that make `work` a measure. -/
structure Underway (n : Nat) (t : Trace Data) : Prop where
  pump : PumpInv t.session
  ledger : ∃ outcomes, Ledger t outcomes
  accepted : n ≤ t.accepted.length

theorem step_underway {t t' : Trace Data} {a : Action Data} {n : Nat} (h : Underway n t)
    (ha : a.kind ≠ .failure) (hs : step t a = some t') : Underway n t' := by
  obtain ⟨outcomes, hl⟩ := h.ledger
  obtain ⟨more, hmore⟩ := step_ledger h.pump hl ha hs
  obtain ⟨accepted, observed, -, hacc, -⟩ := step_move h.pump hs
  refine ⟨step_pumpInv h.pump hs, ⟨_, hmore⟩, ?_⟩
  rw [hacc, List.length_append]
  exact Nat.le_trans h.accepted (Nat.le_add_right _ _)

theorem step_work {t t' : Trace Data} {a : Action Data} {n : Nat} (h : Underway n t)
    (ha : a.kind ≠ .failure) (hs : step t a = some t') :
    work n t' ≤ work n t ∧ (a.kind = .resumption → 0 < work n t → work n t' < work n t) := by
  obtain ⟨outcomes, hl⟩ := h.ledger
  obtain ⟨accepted, observed, hm, hacc, -⟩ := step_move h.pump hs
  have hlen : t.accepted.length = settledCount t + (unsettled t.session).length := by
    rw [hl.settledCount_eq, hl.accepted, List.length_append, List.length_map]
  have hlen' : t'.accepted.length = t.accepted.length + accepted.length := by
    rw [hacc, List.length_append]
  have hn := h.accepted
  obtain ⟨hr, hcase⟩ := hm.progress h.pump ha
  unfold work
  rw [hr]
  rcases hcase with ⟨hu, hcall⟩ | ⟨_, hnil, hu, hpos, hle⟩
  · -- Nothing is settled: a call leaves the rank alone, or finds nothing pending.
    have hsame : settledCount t' = settledCount t := by
      rw [show settledCount t' = t'.accepted.length - (unsettled t'.session).length from rfl]
      omega
    rw [hsame]
    rcases hcall with ⟨hk, hrank⟩ | ⟨hk, hidle⟩ | ⟨_, _, hlt⟩
    · rw [hrank, hk]
      exact ⟨Nat.le_refl _, fun hk' => by cases hk'⟩
    · have hz : (unsettled t.session).length = 0 := by rw [hidle]; rfl
      rw [workOf, if_pos (by omega), hk]
      exact ⟨Nat.zero_le _, fun hk' => by cases hk'⟩
    · exact ⟨(workOf_lower hlt).1, fun _ => (workOf_lower hlt).2⟩
  · have hz : accepted.length = 0 := by rw [hnil]; rfl
    have hone : settledCount t' = settledCount t + 1 := by
      rw [show settledCount t' = t'.accepted.length - (unsettled t'.session).length from rfl]
      omega
    rw [hone]
    exact ⟨(workOf_settle hpos hle).1, fun _ => (workOf_settle hpos hle).2⟩

theorem pumpRank_le {s : StreamSession Data} (h : PumpInv s) :
    pumpRank s ≤ 2 * s.maxPublishRetries + 2 := by
  unfold pumpRank
  split
  · exact Nat.zero_le _
  · rename_i f rest hf
    exact (frameRank_bounds (h.budget f (by simp [hf]))).2

/-- While an accepted event is unsettled, a pump is suspended. -/
theorem exists_pump {s : StreamSession Data} (h : PumpInv s) (hu : unsettled s ≠ []) :
    ∃ f, s.pumps = [f] := by
  rcases h.flag with ⟨hoff, hnil⟩ | ⟨_, f, hf⟩
  · exact absurd (by simp [unsettled, hnil, h.drained hoff]) hu
  · exact ⟨f, hf⟩

theorem work_le {t : Trace Data} {n : Nat} (h : Underway n t) :
    work n t ≤ (2 * t.session.maxPublishRetries + 2) * (unsettled t.session).length := by
  obtain ⟨outcomes, hl⟩ := h.ledger
  have hlen : t.accepted.length = settledCount t + (unsettled t.session).length := by
    rw [hl.settledCount_eq, hl.accepted, List.length_append, List.length_map]
  have hn := h.accepted
  have hrank := pumpRank_le h.pump
  unfold work workOf
  split
  · exact Nat.zero_le _
  · obtain ⟨u, hu⟩ : ∃ u, (unsettled t.session).length = u + 1 :=
      ⟨(unsettled t.session).length - 1, by omega⟩
    have hle : n - settledCount t - 1 ≤ u := by omega
    have hmul := Nat.mul_le_mul_right (2 * t.session.maxPublishRetries + 2) hle
    have hcap : (2 * t.session.maxPublishRetries + 2) * (u + 1) =
        u * (2 * t.session.maxPublishRetries + 2) + (2 * t.session.maxPublishRetries + 2) := by
      rw [Nat.mul_comm, Nat.succ_mul]
    rw [hu, hcap]
    omega

theorem settled_of_work_eq_zero {t : Trace Data} {n : Nat} (h : Underway n t)
    (hz : work n t = 0) : n ≤ settledCount t := by
  by_contra hlt
  have hne : unsettled t.session ≠ [] := by
    intro hnil
    have hacc := h.accepted
    rw [settledCount, hnil, List.length_nil, Nat.sub_zero] at hlt
    exact hlt hacc
  obtain ⟨f, hf⟩ := exists_pump h.pump hne
  have hpos := (frameRank_bounds (h.pump.budget f (by simp [hf]))).1
  rw [work, workOf, if_neg hlt] at hz
  have hrank : pumpRank t.session = frameRank t.session.maxPublishRetries f := by
    simp [pumpRank, hf]
  omega

/-- After enough resumptions, however they interleave with calls, every event
accepted so far has its outcome. -/
theorem settles_within {t t' : Trace Data} {bs : List (Action Data)}
    (h : Underway t.accepted.length t) (hbs : ∀ b ∈ bs, b.kind ≠ .failure)
    (hr : run step t bs = some t')
    (hlong : (2 * t.session.maxPublishRetries + 2) * (unsettled t.session).length ≤
      bs.countP fun b => b.kind = .resumption) :
    t.accepted.length ≤ settledCount t' := by
  have hmeasure := run_measure (μ := work t.accepted.length)
    (p := fun b : Action Data => decide (b.kind = .resumption))
    (I := Underway t.accepted.length) (K := fun b => b.kind ≠ .failure)
    (fun s b r hi hb hs => step_underway hi hb hs)
    (fun s b r hi hb hs => (step_work hi hb hs).1)
    (fun s b r hi hb hs hp => (step_work hi hb hs).2 (of_decide_eq_true hp))
    h hbs hr
  have hle := work_le h
  have h' := run_invariant_of (K := fun b : Action Data => b.kind ≠ .failure)
    (fun s b r hi hb hs => step_underway hi hb hs) h hbs hr
  exact settled_of_work_eq_zero h' (by omega)

theorem accepted_prefix {t t' : Trace Data} {bs : List (Action Data)}
    (hr : run step t bs = some t') : t.accepted <+: t'.accepted := by
  refine run_relates (R := fun t t' => t.accepted <+: t'.accepted)
    (fun _ => List.prefix_rfl) (fun _ _ _ => List.IsPrefix.trans) ?_ hr
  intro s b r hs
  cases b with
  | start | stop | fail =>
    simp only [step, Option.some.injEq] at hs
    rw [← hs]
    exact List.prefix_rfl
  | enqueue now event =>
    simp only [step, Option.some.injEq] at hs
    rw [← hs]
    split
    · exact List.prefix_append _ _
    · exact List.prefix_rfl
  | stopWake call =>
    simp only [step] at hs
    split at hs
    · rw [Option.some.injEq] at hs
      rw [← hs]
      exact List.prefix_rfl
    · cases hs
  | resume now i answer =>
    simp only [step, Option.map_eq_some_iff] at hs
    obtain ⟨r', -, rfl⟩ := hs
    exact List.prefix_rfl

theorem resume_enabled {s : StreamSession Data} (h : PumpInv s) (hu : unsettled s ≠ [])
    (now : Date) : (s.resume now 0 .resolved).isSome := by
  obtain ⟨f, hf⟩ := exists_pump h hu
  cases hawait : f.await <;> simp [StreamSession.resume, hf, hawait]

/-- A session that is never failed settles every accepted event exactly once. -/
theorem exactly_one_outcome (suffix streamId workerId : String) (depth retries : Nat)
    (deadLetter listener : Bool) {as : List (Action Data)} {t : Trace Data}
    (has : ∀ a ∈ as, a.kind ≠ .failure)
    (hr : run step (Trace.init (StreamSession.create suffix streamId workerId depth retries
      deadLetter listener)) as = some t) :
    -- one outcome for each settled event, in the order of `enqueue`, and nothing else
    (∃ outcomes, Ledger t outcomes) ∧
    publishesInFlight t.session ≤ 1 ∧
    messagesProcessed t.log = successes t.log ∧
    (t.session.state = .stopped → unsettled t.session = []) ∧
    -- an event without an outcome has a pump to resume, and gets its outcome by resuming it
    (unsettled t.session ≠ [] → ∀ now, (t.session.resume now 0 .resolved).isSome) ∧
    (∀ bs t', (∀ b ∈ bs, b.kind ≠ .failure) → run step t bs = some t' →
      (2 * t.session.maxPublishRetries + 2) * (unsettled t.session).length ≤
        bs.countP (fun b => b.kind = .resumption) →
      ∃ outcomes, Ledger t' outcomes ∧ t.accepted <+: outcomes.map Outcome.event) := by
  have hinit : PumpInv (StreamSession.create suffix streamId workerId depth retries deadLetter
      listener : StreamSession Data) := create_pumpInv ..
  have hinv : PumpInv t.session := run_pumpInv (t := Trace.init _) hinit hr
  obtain ⟨outcomes, hl⟩ := run_ledger (t := Trace.init _) hinit (init_ledger ..) has hr
  rw [List.nil_append] at hl
  refine ⟨⟨outcomes, hl⟩, ?_, ?_, ?_, ?_, ?_⟩
  · have hle := List.countP_le_length (p := fun f : PumpFrame Data => f.await = .publish)
      (l := t.session.pumps)
    rcases hinv.flag with ⟨_, hnil⟩ | ⟨_, f, hf⟩
    · rw [publishesInFlight, hnil]
      exact Nat.zero_le _
    · rw [hf] at hle
      rw [publishesInFlight, hf]
      exact hle
  · rw [hl.processed, hl.succeeded]
  · intro hstop
    have hoff := hinv.quiet (.inr hstop)
    rw [unsettled, hinv.pumps_nil hoff, hinv.drained hoff]
    rfl
  · intro hu now
    exact resume_enabled hinv hu now
  · intro bs t' hbs hbr hlong
    obtain ⟨more, hl'⟩ := run_ledger hinv hl hbs hbr
    have hcount := settles_within ⟨hinv, ⟨outcomes, hl⟩, Nat.le_refl _⟩ hbs hbr hlong
    refine ⟨_, hl', ?_⟩
    rw [hl'.settledCount_eq] at hcount
    obtain ⟨accepted, hacc⟩ := accepted_prefix hbr
    rw [hl'.accepted] at hacc
    exact List.prefix_of_prefix_length_le ⟨accepted, hacc⟩ (List.prefix_append _ _)
      (by rw [List.length_map]; exact hcount)

/-- One event published at its second attempt, one dead-lettered, one still queued. -/
def retryHistory : List (Action Unit) :=
  let event (id : String) : StreamEvent Unit := ⟨some id, "s", (), ⟨"", none⟩⟩
  [.start ⟨0⟩, .enqueue ⟨0⟩ (event "1"), .enqueue ⟨0⟩ (event "2"), .resume ⟨1⟩ 0 (.rejected "503"),
    .resume ⟨101⟩ 0 .resolved, .resume ⟨102⟩ 0 .resolved, .stop 0,
    .resume ⟨103⟩ 0 (.rejected "503"), .resume ⟨203⟩ 0 .resolved,
    .resume ⟨204⟩ 0 (.rejected "503"), .resume ⟨205⟩ 0 .resolved, .stopWake 0]

theorem exactly_one_outcome_retryHistory :
    ∃ t, run step (Trace.init (StreamSession.create "x" "s" "w" 2 1 true true)) retryHistory =
        some t ∧
      (∃ outcomes, Ledger t outcomes) ∧ messagesProcessed t.log = successes t.log := by
  have hsome : (run step (Trace.init (StreamSession.create "x" "s" "w" 2 1 true true))
      retryHistory).isSome := by decide
  obtain ⟨t, ht⟩ := Option.isSome_iff_exists.mp hsome
  have h := exactly_one_outcome "x" "s" "w" 2 1 true true (by decide) ht
  exact ⟨t, ht, h.1, h.2.2.1⟩

end Session
end Processing
end XStreamRoll
