/-
Loops over deliveries that end with the first that throws.

`dispatchStreamEvent` and `sweepRetries` go through a list and await the storage in each
round, with no `catch` in the loop.  What is behind a round that throws is left out.  In a
sweep a round throws only after its POST, when the record of the `catch` rejects; in a
dispatch it throws at its INSERT, before the POST.

The sweep asks for the subscription of a delivery after the batch was read, so a batch may
hold nothing but deliveries of subscriptions that are not active.  Such a delivery is left
as it was, and the next sweep reads it again.

The other statements are taken to answer.  What the first attempts of a dispatch record is
left out, since they run on their own and create nothing.
-/
import XStreamRoll.Api.Webhooks.Records
import XStreamRoll.Loop

namespace XStreamRoll
namespace Api
namespace Webhooks

open Transition

variable {σ Payload : Type}

/-! ## `sweepRetries` -/

/-- How an attempt goes, and when its result is recorded. -/
structure Fate where
  exchange : Exchange
  recordedAt : Timestamptz
  first : Write
  caughtAt : Timestamptz
  second : Write

def Write.rejects : Write → Bool
  | .resolved => false
  | .rejected _ => true

/-- The record of the `catch` is reached, and rejects. -/
def Fate.unrecorded (fate : Fate) : Bool :=
  match fate.exchange, fate.first with
  | .answered _ (.ok _), .resolved => false
  | _, _ => fate.second.rejects

def Fate.attempt (fate : Fate) (delivery : WebhookDelivery Payload) : Attempt :=
  attemptDelivery fate.recordedAt.toDate fate.caughtAt.toDate delivery fate.exchange fate.first
    fate.second

/-- What the attempt leaves of the store. -/
def Fate.record (R : DeliveryStore σ Payload) (fate : Fate) (delivery : WebhookDelivery Payload)
    (s : σ) : σ :=
  (fate.attempt delivery).stored.foldl
    (fun s result => R.recordAttempt fate.recordedAt delivery.id result s) s

/-- The subscription of the delivery is there and active. -/
def isActive (subscriptions : List WebhookSubscription) (delivery : WebhookDelivery Payload) :
    Bool :=
  (subscriptions.find? fun subscription =>
    subscription.id = delivery.webhookSubscriptionId).any (·.active)

/-- What a sweep leaves of the store, the deliveries it has attempted, and what it throws. -/
structure Sweep (σ Payload : Type) where
  store : σ
  attempted : List (WebhookDelivery Payload)
  thrown : Option String

def sweepLoop (R : DeliveryStore σ Payload) (subscriptions : List WebhookSubscription)
    (fate : WebhookDelivery Payload → Fate) : List (WebhookDelivery Payload) → σ → Sweep σ Payload
  | [], s => ⟨s, [], none⟩
  | delivery :: rest, s =>
    match subscriptions.find? fun subscription =>
      subscription.id = delivery.webhookSubscriptionId with
    | none => sweepLoop R subscriptions fate rest s
    | some subscription =>
      if subscription.active then
        let recorded := (fate delivery).record R delivery s
        match ((fate delivery).attempt delivery).thrown with
        | some error => ⟨recorded, [delivery], some error⟩
        | none =>
          let sweep := sweepLoop R subscriptions fate rest recorded
          { sweep with attempted := delivery :: sweep.attempted }
      else sweepLoop R subscriptions fate rest s

def sweepRetries (R : DeliveryStore σ Payload) (now : Timestamptz)
    (subscriptions : List WebhookSubscription) (fate : WebhookDelivery Payload → Fate) (s : σ) :
    Sweep σ Payload :=
  sweepLoop R subscriptions fate (R.findDuePending now retrySweepBatchSize s) s

theorem Fate.thrown_attempt (fate : Fate) (delivery : WebhookDelivery Payload) :
    (fate.attempt delivery).thrown = if fate.unrecorded then some handleDbError else none := by
  obtain ⟨exchange, recordedAt, first, caughtAt, second⟩ := fate
  have ofCatch (stored : List RecordAttemptInput) (message : String) :
      (catchAttempt caughtAt.toDate delivery second stored message).thrown =
        if second.rejects then some handleDbError else none := by
    cases second <;> rfl
  cases exchange with
  | refused message => exact ofCatch _ _
  | answered status body =>
    cases body with
    | error message => exact ofCatch _ _
    | ok body =>
      cases first with
      | resolved => rfl
      | rejected executed => exact ofCatch _ _

section

variable {R : DeliveryStore σ Payload} {subscriptions : List WebhookSubscription}
  {fate : WebhookDelivery Payload → Fate}

theorem sweepLoop_cons_of_inactive {delivery : WebhookDelivery Payload}
    (inactive : isActive subscriptions delivery = false) (rest : List (WebhookDelivery Payload))
    (s : σ) :
    sweepLoop R subscriptions fate (delivery :: rest) s =
      sweepLoop R subscriptions fate rest s := by
  rw [sweepLoop]
  unfold isActive at inactive
  split
  next absent => rfl
  next subscription found =>
    rw [found, Option.any_some] at inactive
    rw [inactive, if_neg Bool.false_ne_true]

theorem sweepLoop_cons_of_active {delivery : WebhookDelivery Payload}
    (active : isActive subscriptions delivery = true) (rest : List (WebhookDelivery Payload))
    (s : σ) :
    sweepLoop R subscriptions fate (delivery :: rest) s =
      let recorded := (fate delivery).record R delivery s
      if (fate delivery).unrecorded then ⟨recorded, [delivery], some handleDbError⟩
      else
        let sweep := sweepLoop R subscriptions fate rest recorded
        { sweep with attempted := delivery :: sweep.attempted } := by
  rw [sweepLoop]
  unfold isActive at active
  split
  next absent => simp [absent] at active
  next subscription found =>
    rw [found, Option.any_some] at active
    simp only [active, if_true, Fate.thrown_attempt]
    cases (fate delivery).unrecorded <;> rfl

/-- A sweep attempts the deliveries of active subscriptions up to the first that is not
recorded. -/
theorem sweepLoop_attempted (batch : List (WebhookDelivery Payload)) (s : σ) :
    (sweepLoop R subscriptions fate batch s).attempted =
      Loop.through (fun delivery => (fate delivery).unrecorded)
        (batch.filter (isActive subscriptions)) := by
  induction batch generalizing s with
  | nil => rfl
  | cons delivery rest ih =>
    rw [List.filter_cons]
    cases active : isActive subscriptions delivery with
    | false =>
      rw [sweepLoop_cons_of_inactive active, ih, if_neg Bool.false_ne_true]
    | true =>
      rw [sweepLoop_cons_of_active active, if_pos rfl, Loop.through]
      cases (fate delivery).unrecorded with
      | true => rfl
      | false => exact congrArg (delivery :: ·) (ih _)

/-- A batch of deliveries whose subscriptions are not active is left as it is. -/
theorem sweepLoop_of_inactive {batch : List (WebhookDelivery Payload)}
    (inactive : ∀ delivery ∈ batch, isActive subscriptions delivery = false) (s : σ) :
    sweepLoop R subscriptions fate batch s = ⟨s, [], none⟩ := by
  induction batch with
  | nil => rfl
  | cons delivery rest ih =>
    rw [List.forall_mem_cons] at inactive
    rw [sweepLoop_cons_of_inactive inactive.1, ih inactive.2]

end

/-! ### Progress -/

/-- One sweep attempts a delivery of an active subscription, if one is due. -/
def Progresses (R : DeliveryStore σ Payload) (now : Timestamptz)
    (subscriptions : List WebhookSubscription) (fate : WebhookDelivery Payload → Fate) (s : σ) :
    Prop :=
  (∃ delivery ∈ R.duePending now s, isActive subscriptions delivery = true) →
    ∃ delivery ∈ (sweepRetries R now subscriptions fate s).attempted,
      isActive subscriptions delivery = true

/-- The due deliveries that are older than the oldest one of an active subscription. -/
def dormant (R : DeliveryStore σ Payload) (now : Timestamptz)
    (subscriptions : List WebhookSubscription) (s : σ) : List (WebhookDelivery Payload) :=
  (R.duePending now s).takeWhile fun delivery => !isActive subscriptions delivery

theorem sweepRetries_attempts_iff (R : DeliveryStore σ Payload) (now : Timestamptz)
    (subscriptions : List WebhookSubscription) (fate : WebhookDelivery Payload → Fate) (s : σ) :
    (∃ delivery ∈ (sweepRetries R now subscriptions fate s).attempted,
        isActive subscriptions delivery = true) ↔
      ∃ delivery ∈ (R.duePending now s).take retrySweepBatchSize,
        isActive subscriptions delivery = true := by
  rw [sweepRetries, sweepLoop_attempted, R.findDuePending_eq]
  constructor
  · rintro ⟨delivery, attempted, active⟩
    exact ⟨delivery, List.mem_of_mem_filter (Loop.mem_of_mem_through attempted), active⟩
  · rintro ⟨delivery, inBatch, active⟩
    have wanted := List.mem_filter.mpr ⟨inBatch, active⟩
    obtain ⟨first, attempted⟩ := Loop.exists_mem_through
      (fun delivery => (fate delivery).unrecorded) (List.ne_nil_of_mem wanted)
    exact ⟨first, attempted, (List.mem_filter.mp (Loop.mem_of_mem_through attempted)).2⟩

/-- A sweep makes progress exactly when its batch reaches the oldest due delivery of an
active subscription. -/
theorem sweepRetries_progresses_iff (R : DeliveryStore σ Payload) (now : Timestamptz)
    (subscriptions : List WebhookSubscription) (fate : WebhookDelivery Payload → Fate) (s : σ) :
    Progresses R now subscriptions fate s ↔
      ((∃ delivery ∈ R.duePending now s, isActive subscriptions delivery = true) →
        (dormant R now subscriptions s).length < retrySweepBatchSize) := by
  unfold Progresses
  rw [sweepRetries_attempts_iff]
  exact forall_congr' fun wanted => Loop.exists_mem_take_iff wanted

/-- Where it makes none it changes nothing, so the next sweep finds the same. -/
theorem sweepRetries_of_dormant (R : DeliveryStore σ Payload) (now : Timestamptz)
    (subscriptions : List WebhookSubscription) (fate : WebhookDelivery Payload → Fate) (s : σ)
    (full : retrySweepBatchSize ≤ (dormant R now subscriptions s).length) :
    sweepRetries R now subscriptions fate s = ⟨s, [], none⟩ := by
  rw [sweepRetries, R.findDuePending_eq]
  refine sweepLoop_of_inactive ?_ s
  intro delivery inBatch
  have first := List.prefix_iff_eq_take.mp
    (show dormant R now subscriptions s <+: R.duePending now s from List.takeWhile_prefix _)
  have early : delivery ∈ dormant R now subscriptions s :=
    first ▸ (List.take_sublist_take_left full).subset inBatch
  have inactive := List.all_eq_true.mp
    (show (dormant R now subscriptions s).all _ = true from List.all_takeWhile) delivery early
  simpa using inactive

/-- Fifty deliveries wait for a subscription that was deactivated, and one for another. -/
theorem sweepRetries_stalls : ¬∀ (now : Timestamptz) (subscriptions : List WebhookSubscription)
    (fate : WebhookDelivery String → Fate) (r : WebhookDeliveriesRepository String),
    Progresses memoryDeliveries now subscriptions fate r := by
  intro always
  let waiting : WebhookDeliveriesRepository String :=
    (List.replicate retrySweepBatchSize 1).foldl
      (fun r id => r.create ⟨0⟩ id "stream:started" "{}") .empty
  let r := waiting.create ⟨1⟩ 2 "stream:started" "{}"
  let subscriptions : List WebhookSubscription :=
    [⟨1, 1, "https://one.example", ["stream:started"], "secret", false⟩,
      ⟨2, 1, "https://two.example", ["stream:started"], "secret", true⟩]
  let fate : WebhookDelivery String → Fate :=
    fun _ => ⟨.answered 200 (.ok ""), ⟨0⟩, .resolved, ⟨0⟩, .resolved⟩
  have progress := always ⟨1000⟩ subscriptions fate r (by decide +kernel)
  have stalled : (sweepRetries memoryDeliveries ⟨1000⟩ subscriptions fate r).attempted = [] :=
    congrArg Sweep.attempted (sweepRetries_of_dormant _ _ _ _ _ (by decide +kernel))
  rw [stalled] at progress
  simp at progress

/-! ## `dispatchStreamEvent` -/

/-- `stream_id = $1 AND active = true AND $2 = ANY(events)`. -/
def activeByStreamAndEvent (streamId : Nat) (event : String)
    (subscriptions : List WebhookSubscription) : List WebhookSubscription :=
  subscriptions.filter fun subscription =>
    subscription.streamId = streamId && subscription.active && subscription.events.contains event

/-- What a dispatch leaves of the store, the first attempts it has started, and what it
throws. -/
structure Dispatch (σ Payload : Type) where
  store : σ
  started : List (WebhookSubscription × WebhookDelivery Payload)
  thrown : Option String

/-- `inserted` says how the INSERT for a subscription ends. -/
def dispatchLoop (R : DeliveryStore σ Payload) (now : Timestamptz) (event : String)
    (data : Payload) (inserted : WebhookSubscription → Write) :
    List WebhookSubscription → σ → Dispatch σ Payload
  | [], s => ⟨s, [], none⟩
  | subscription :: rest, s =>
    let created := R.create now subscription.id event data s
    match inserted subscription with
    | .rejected executed => ⟨if executed then created.2 else s, [], some handleDbError⟩
    | .resolved =>
      let dispatch := dispatchLoop R now event data inserted rest created.2
      { dispatch with started := (subscription, created.1) :: dispatch.started }

def dispatchStreamEvent (R : DeliveryStore σ Payload) (now : Timestamptz)
    (subscriptions : List WebhookSubscription) (streamId : Nat) (event : String) (data : Payload)
    (inserted : WebhookSubscription → Write) (s : σ) : Dispatch σ Payload :=
  dispatchLoop R now event data inserted (activeByStreamAndEvent streamId event subscriptions) s

/-- The new rows of the store are those of the first attempts, one for each, and those of
the INSERTs that were executed and rejected. -/
structure Logged (R : DeliveryStore σ Payload) (event : String) (data : Payload)
    (inserted : WebhookSubscription → Write) (matching : List WebhookSubscription) (s : σ)
    (dispatch : Dispatch σ Payload) : Prop where
  kept : ∀ id, R.findById id s ≠ none → R.findById id dispatch.store = R.findById id s
  rows : ∀ attempt ∈ dispatch.started,
    attempt.2.webhookSubscriptionId = attempt.1.id ∧ attempt.2.event = event ∧
      attempt.2.payload = data ∧ attempt.2.status = .pending ∧ R.findById attempt.2.id s = none ∧
      R.findById attempt.2.id dispatch.store = some attempt.2
  distinct : (dispatch.started.map fun attempt => attempt.2.id).Nodup
  others : ∀ id delivery, R.findById id s = none →
    R.findById id dispatch.store = some delivery →
      (∃ attempt ∈ dispatch.started, attempt.2.id = id) ∨
      ∃ subscription ∈ matching, (inserted subscription).rejects = true ∧
        delivery.webhookSubscriptionId = subscription.id

section

variable {R : DeliveryStore σ Payload} {now : Timestamptz} {event : String} {data : Payload}
  {inserted : WebhookSubscription → Write}

/-- The first attempts are those up to the first INSERT that rejects. -/
theorem dispatchLoop_started (matching : List WebhookSubscription) (s : σ) :
    (dispatchLoop R now event data inserted matching s).started.map (·.1) =
      matching.takeWhile fun subscription => !(inserted subscription).rejects := by
  induction matching generalizing s with
  | nil => rfl
  | cons subscription rest ih =>
    rw [dispatchLoop, List.takeWhile_cons]
    cases inserted subscription with
    | resolved => exact congrArg (subscription :: ·) (ih _)
    | rejected executed => rfl

theorem Logged.unchanged (matching : List WebhookSubscription) (s : σ)
    (thrown : Option String) : Logged R event data inserted matching s ⟨s, [], thrown⟩ := by
  refine ⟨fun _ _ => rfl, List.forall_mem_nil _, List.nodup_nil, ?_⟩
  intro id delivery absent found
  rw [absent] at found
  cases found

/-- What an INSERT leaves of another delivery. -/
theorem findById_create_of_ne_none {id : Nat} {s : σ} (there : R.findById id s ≠ none)
    (now : Timestamptz) (subscriptionId : Nat) (event : String) (data : Payload) :
    R.findById id (R.create now subscriptionId event data s).2 = R.findById id s := by
  rw [R.findById_create, if_neg]
  rintro rfl
  exact there (R.create_new now subscriptionId event data s).2

theorem Logged.executed {matching : List WebhookSubscription}
    {subscription : WebhookSubscription} (isMatching : subscription ∈ matching)
    (rejects : (inserted subscription).rejects = true) (s : σ) (thrown : Option String) :
    Logged R event data inserted matching s
      ⟨(R.create now subscription.id event data s).2, [], thrown⟩ := by
  refine ⟨fun id there => findById_create_of_ne_none there _ _ _ _, List.forall_mem_nil _,
    List.nodup_nil, ?_⟩
  intro id delivery absent found
  rw [R.findById_create] at found
  split at found
  · cases found
    refine .inr ⟨subscription, isMatching, rejects, ?_⟩
    rw [(R.create_new now subscription.id event data s).1]
  · rw [absent] at found
    cases found

theorem Logged.cons {subscription : WebhookSubscription} {rest : List WebhookSubscription}
    {s : σ} {dispatch : Dispatch σ Payload}
    (later : Logged R event data inserted rest (R.create now subscription.id event data s).2
      dispatch) :
    Logged R event data inserted (subscription :: rest) s { dispatch with
      started := (subscription, (R.create now subscription.id event data s).1) ::
        dispatch.started } := by
  obtain ⟨new, absent⟩ := R.create_new now subscription.id event data s
  generalize hdelivery : (R.create now subscription.id event data s).1 = delivery at *
  have created (id : Nat) : R.findById id (R.create now subscription.id event data s).2 =
      if id = delivery.id then some delivery else R.findById id s := by
    rw [R.findById_create, hdelivery]
  have there : R.findById delivery.id (R.create now subscription.id event data s).2 =
      some delivery := by rw [created, if_pos rfl]
  have apart : ∀ attempt ∈ dispatch.started, attempt.2.id ≠ delivery.id := by
    intro attempt started same
    obtain ⟨-, -, -, -, fresh, -⟩ := later.rows attempt started
    rw [same, there] at fresh
    cases fresh
  refine ⟨?_, ?_, ?_, ?_⟩
  · intro id old
    have next := findById_create_of_ne_none old now subscription.id event data
    rw [later.kept id (next ▸ old), next]
  · rw [List.forall_mem_cons]
    constructor
    · refine ⟨by rw [new], by rw [new], by rw [new], by rw [new], absent, ?_⟩
      rw [later.kept _ (by rw [there]; exact Option.some_ne_none _), there]
    · intro attempt started
      obtain ⟨owner, ofEvent, ofData, pending, fresh, found⟩ := later.rows attempt started
      rw [created, if_neg (apart attempt started)] at fresh
      exact ⟨owner, ofEvent, ofData, pending, fresh, found⟩
  · rw [List.map_cons, List.nodup_cons]
    refine ⟨?_, later.distinct⟩
    intro again
    obtain ⟨attempt, started, same⟩ := List.mem_map.mp again
    exact apart attempt started same
  · intro id found absent' stored
    by_cases own : id = delivery.id
    · exact .inl ⟨_, List.mem_cons_self, own.symm⟩
    · have fresh : R.findById id (R.create now subscription.id event data s).2 = none := by
        rw [created, if_neg own, absent']
      rcases later.others id found fresh stored with ⟨attempt, started, same⟩ | failed
      · exact .inl ⟨attempt, List.mem_cons_of_mem _ started, same⟩
      · obtain ⟨other, isMatching, rest⟩ := failed
        exact .inr ⟨other, List.mem_cons_of_mem _ isMatching, rest⟩

theorem dispatchLoop_logged (matching : List WebhookSubscription) (s : σ) :
    Logged R event data inserted matching s
      (dispatchLoop R now event data inserted matching s) := by
  induction matching generalizing s with
  | nil => exact .unchanged [] s none
  | cons subscription rest ih =>
    rw [dispatchLoop]
    split
    next executed write =>
      cases executed with
      | false => exact .unchanged _ s _
      | true => exact .executed List.mem_cons_self (by rw [write]; rfl) s _
    next => exact .cons (ih _)

/-! ## Failures -/

/-- Every subscription whose INSERT does not reject has its first attempt, and its row. -/
structure DispatchIsolated (R : DeliveryStore σ Payload) (event : String) (data : Payload)
    (inserted : WebhookSubscription → Write) (matching : List WebhookSubscription) (s : σ)
    (dispatch : Dispatch σ Payload) : Prop where
  started : dispatch.started.map (·.1) =
    matching.filter fun subscription => !(inserted subscription).rejects
  logged : Logged R event data inserted matching s dispatch

/-- Of the deliveries that are recorded, those of active subscriptions are attempted, each
of them once. -/
def SweepIsolated (subscriptions : List WebhookSubscription)
    (fate : WebhookDelivery Payload → Fate) (batch : List (WebhookDelivery Payload))
    (sweep : Sweep σ Payload) : Prop :=
  (sweep.attempted.filter fun delivery => !(fate delivery).unrecorded) =
    (batch.filter (isActive subscriptions)).filter fun delivery => !(fate delivery).unrecorded

theorem sweepLoop_isolated_iff {subscriptions : List WebhookSubscription}
    {fate : WebhookDelivery Payload → Fate} (batch : List (WebhookDelivery Payload)) (s : σ) :
    SweepIsolated subscriptions fate batch (sweepLoop R subscriptions fate batch s) ↔
      (batch.filter (isActive subscriptions)).Pairwise fun a b =>
        (fate a).unrecorded = true → (fate b).unrecorded = true := by
  rw [SweepIsolated, sweepLoop_attempted, Loop.filter_through, Loop.takeWhile_eq_filter_iff]

theorem dispatchLoop_isolated_iff (matching : List WebhookSubscription) (s : σ) :
    DispatchIsolated R event data inserted matching s
        (dispatchLoop R now event data inserted matching s) ↔
      matching.Pairwise fun a b =>
        (inserted a).rejects = true → (inserted b).rejects = true := by
  rw [← Loop.takeWhile_eq_filter_iff, ← dispatchLoop_started (R := R) (s := s)]
  exact ⟨fun isolated => isolated.started, fun all => ⟨all, dispatchLoop_logged matching s⟩⟩

/-- A failure leaves the others alone exactly when no other comes after it. -/
theorem failures_isolated_iff (R : DeliveryStore σ Payload) (now : Timestamptz)
    (subscriptions : List WebhookSubscription) (s : σ) :
    (∀ streamId event data inserted,
      DispatchIsolated R event data inserted (activeByStreamAndEvent streamId event subscriptions)
          s (dispatchStreamEvent R now subscriptions streamId event data inserted s) ↔
        (activeByStreamAndEvent streamId event subscriptions).Pairwise fun a b =>
          (inserted a).rejects = true → (inserted b).rejects = true) ∧
    ∀ fate,
      SweepIsolated subscriptions fate (R.findDuePending now retrySweepBatchSize s)
          (sweepRetries R now subscriptions fate s) ↔
        ((R.findDuePending now retrySweepBatchSize s).filter (isActive subscriptions)).Pairwise
          fun a b => (fate a).unrecorded = true → (fate b).unrecorded = true :=
  ⟨fun _ _ _ _ => dispatchLoop_isolated_iff _ s, fun _ => sweepLoop_isolated_iff _ s⟩

/-- The first of two subscriptions fails, and the second one is not served. -/
theorem failures_not_isolated :
    (¬∀ (subscriptions : List WebhookSubscription) (inserted : WebhookSubscription → Write)
      (r : WebhookDeliveriesRepository String),
      DispatchIsolated memoryDeliveries "started" "{}" inserted
        (activeByStreamAndEvent 1 "started" subscriptions) r
        (dispatchStreamEvent memoryDeliveries ⟨0⟩ subscriptions 1 "started" "{}" inserted
          r)) ∧
    ¬∀ (subscriptions : List WebhookSubscription) (fate : WebhookDelivery String → Fate)
      (r : WebhookDeliveriesRepository String),
      SweepIsolated subscriptions fate
        (memoryDeliveries.findDuePending ⟨0⟩ retrySweepBatchSize r)
        (sweepRetries memoryDeliveries ⟨0⟩ subscriptions fate r) := by
  let subscriptions : List WebhookSubscription :=
    [⟨1, 1, "https://one.example", ["started"], "secret", true⟩,
      ⟨2, 1, "https://two.example", ["started"], "secret", true⟩]
  constructor
  · intro always
    let inserted : WebhookSubscription → Write :=
      fun subscription => if subscription.id = 1 then .rejected false else .resolved
    have isolated := always subscriptions inserted .empty
    rw [dispatchStreamEvent, dispatchLoop_isolated_iff] at isolated
    revert isolated
    decide
  · intro always
    let fate : WebhookDelivery String → Fate := fun delivery =>
      if delivery.id = 1 then ⟨.refused "timeout", ⟨0⟩, .resolved, ⟨0⟩, .rejected false⟩
      else ⟨.answered 200 (.ok ""), ⟨0⟩, .resolved, ⟨0⟩, .resolved⟩
    let r : WebhookDeliveriesRepository String :=
      [1, 2].foldl (fun r id => r.create ⟨0⟩ id "started" "{}") .empty
    have isolated := always subscriptions fate r
    rw [sweepRetries, sweepLoop_isolated_iff] at isolated
    revert isolated
    decide +kernel

/-! ## The same in the steps of the calls -/

/-- The turns of a sweep from the answer to its `findDuePending` on. -/
def sweepTurns (subscriptions : List WebhookSubscription)
    (fate : WebhookDelivery Payload → Fate) :
    List (WebhookDelivery Payload) → List (Action Payload)
  | [] => []
  | delivery :: rest =>
    if isActive subscriptions delivery then
      [.resume 0, .resume 0] ++
        turns (fate delivery).exchange (fate delivery).first (fate delivery).second ++
        if (fate delivery).unrecorded then [] else sweepTurns subscriptions fate rest
    else .resume 0 :: sweepTurns subscriptions fate rest

theorem step_skips (p : Platform Payload) {s : Webhooks Payload}
    {delivery : WebhookDelivery Payload} {rest : List (WebhookDelivery Payload)}
    (alone : s.calls = [.sweepSubscription delivery rest])
    (inactive : isActive s.subscriptions delivery = false) :
    ∃ t, step p s (.resume 0) = some t ∧ t.deliveries = s.deliveries ∧
      t.calls = sweepNext rest ∧ t.now = s.now ∧ t.subscriptions = s.subscriptions := by
  obtain ⟨now, subscriptions, deliveries, calls, posted, answers⟩ := s
  subst alone
  unfold isActive at inactive
  simp only [step, turn, List.getElem?_cons_zero, Option.bind_some, resume, findSubscription]
  split
  next => exact ⟨_, rfl, rfl, rfl, rfl, rfl⟩
  next subscription found =>
    rw [found, Option.any_some] at inactive
    rw [inactive]
    exact ⟨_, rfl, rfl, rfl, rfl, rfl⟩

theorem run_posts (p : Platform Payload) {s : Webhooks Payload}
    {delivery : WebhookDelivery Payload} {rest : List (WebhookDelivery Payload)}
    (alone : s.calls = [.sweepSubscription delivery rest])
    (active : isActive s.subscriptions delivery = true) :
    ∃ t, run (step p) s [.resume 0, .resume 0] = some t ∧ t.deliveries = s.deliveries ∧
      t.calls = [.post delivery rest] ∧ t.now = s.now ∧ t.subscriptions = s.subscriptions := by
  obtain ⟨now, subscriptions, deliveries, calls, posted, answers⟩ := s
  subst alone
  unfold isActive at active
  simp only [run, step, turn, List.getElem?_cons_zero, Option.bind_some, resume, findSubscription]
  split
  next absent => simp [absent] at active
  next subscription found =>
    rw [found, Option.any_some] at active
    rw [active]
    exact ⟨_, rfl, rfl, rfl, rfl, rfl⟩

/-- The table after the turns is the one that the loop leaves. -/
theorem sweepLoop_turns (p : Platform Payload) {s : Webhooks Payload}
    (fate : WebhookDelivery Payload → Fate) (batch : List (WebhookDelivery Payload))
    (atOnce : ∀ delivery, (fate delivery).recordedAt = s.now ∧ (fate delivery).caughtAt = s.now)
    (alone : s.calls = sweepNext batch) :
    ∃ t, run (step p) s (sweepTurns s.subscriptions fate batch) = some t ∧
      t.deliveries = (sweepLoop tableDeliveries s.subscriptions fate batch s.deliveries).store ∧
      t.calls = [] := by
  induction batch generalizing s with
  | nil => exact ⟨s, rfl, rfl, alone⟩
  | cons delivery rest ih =>
    rw [sweepTurns]
    cases active : isActive s.subscriptions delivery with
    | false =>
      obtain ⟨r, skipped, sameTable, next, sameNow, sameSubscriptions⟩ := step_skips p alone active
      rw [if_neg Bool.false_ne_true, sweepLoop_cons_of_inactive active, ← sameTable,
        ← sameSubscriptions]
      obtain ⟨t, swept, table, done⟩ := ih (by rwa [sameNow]) next
      exact ⟨t, run_cons_eq_some.mpr ⟨r, skipped, swept⟩, table, done⟩
    | true =>
      obtain ⟨r, posted, sameTable, next, sameNow, sameSubscriptions⟩ := run_posts p alone active
      obtain ⟨t, attempted, recorded, next', sameNow', sameSubscriptions'⟩ :=
        attemptDelivery_turns p next (fate delivery).exchange (fate delivery).first
          (fate delivery).second
      have result : attemptDelivery r.now.toDate r.now.toDate delivery (fate delivery).exchange
          (fate delivery).first (fate delivery).second = (fate delivery).attempt delivery := by
        rw [Fate.attempt, (atOnce delivery).1, (atOnce delivery).2, sameNow]
      have left : t.deliveries = (fate delivery).record tableDeliveries delivery s.deliveries := by
        rw [recorded, result, sameTable, sameNow, ← (atOnce delivery).1]
        rfl
      rw [result, Fate.thrown_attempt] at next'
      rw [if_pos rfl, sweepLoop_cons_of_active active]
      cases unrecorded : (fate delivery).unrecorded with
      | true =>
        refine ⟨t, ?_, left, ?_⟩
        · rw [if_pos rfl, List.append_nil, run_append_eq_some]
          exact ⟨r, posted, attempted⟩
        · simpa [unrecorded] using next'
      | false =>
        have on : t.calls = sweepNext rest := by simpa [unrecorded] using next'
        obtain ⟨u, swept, table, done⟩ := ih (by rwa [sameNow', sameNow]) on
        rw [sameSubscriptions', sameSubscriptions] at swept table
        refine ⟨u, ?_, ?_, done⟩
        · rw [if_neg Bool.false_ne_true, run_append_eq_some]
          exact ⟨t, run_append_eq_some.mpr ⟨r, posted, attempted⟩, swept⟩
        · rw [table, left]
          rfl

theorem sweepRetries_turns (p : Platform Payload) {s : Webhooks Payload}
    (fate : WebhookDelivery Payload → Fate)
    (atOnce : ∀ delivery, (fate delivery).recordedAt = s.now ∧ (fate delivery).caughtAt = s.now)
    (idle : s.calls = []) :
    ∃ as t, run (step p) s (.sweepRetries :: .resume 0 :: as) = some t ∧ t.calls = [] ∧
      t.deliveries =
        (sweepRetries tableDeliveries s.now s.subscriptions fate s.deliveries).store := by
  obtain ⟨now, subscriptions, deliveries, calls, posted, answers⟩ := s
  subst idle
  obtain ⟨t, swept, table, done⟩ := sweepLoop_turns p
    (s := ⟨now, subscriptions, deliveries, _, posted ++ [], answers ++ []⟩) fate _ atOnce rfl
  exact ⟨_, t, swept, done, table⟩

/-- The turns of a dispatch from the answer to its SELECT on, when `i` calls stand before
it.  Each first attempt is one more. -/
def dispatchTurns (inserted : WebhookSubscription → Write) :
    Nat → List WebhookSubscription → List (Action Payload)
  | _, [] => []
  | i, subscription :: rest =>
    match inserted subscription with
    | .rejected executed => [.reject i executed]
    | .resolved => .resume i :: .resume i :: dispatchTurns inserted (i + 1) rest

section

variable {s : Webhooks Payload} {before : List (Call Payload)} {call : Call Payload}

theorem calls_settle_last (last : s.calls = before ++ [call]) (turn : Turn Payload) :
    (s.settle before.length turn).calls = before ++ turn.next := by
  rw [settle, last, List.eraseIdx_append_of_length_le le_rfl, Nat.sub_self]
  simp

theorem step_resume_last (p : Platform Payload) (last : s.calls = before ++ [call])
    {turn : Turn Payload} (resumed : s.resume p call = some turn) :
    ∃ t, step p s (.resume before.length) = some t ∧ t.deliveries = turn.deliveries ∧
      t.calls = before ++ turn.next ∧ t.now = s.now := by
  refine ⟨s.settle before.length turn, ?_, rfl, calls_settle_last last turn, rfl⟩
  simp [step, Webhooks.turn, last, resumed]

theorem step_reject_last (p : Platform Payload) (last : s.calls = before ++ [call])
    {executed : Bool} {turn : Turn Payload} (rejected : s.reject executed call = some turn) :
    ∃ t, step p s (.reject before.length executed) = some t ∧ t.deliveries = turn.deliveries ∧
      t.calls = before ++ turn.next := by
  refine ⟨s.settle before.length turn, ?_, rfl, calls_settle_last last turn⟩
  simp [step, Webhooks.turn, last, rejected]

end

/-- The table after the turns is the one that the loop leaves, and each first attempt that
was started has made its POST. -/
theorem dispatchLoop_turns (p : Platform Payload) {s : Webhooks Payload} (event : String)
    (data : Payload) (inserted : WebhookSubscription → Write)
    (matching : List WebhookSubscription) {before : List (Call Payload)}
    (last : s.calls = before ++ dispatchNext event data matching) :
    let dispatch := dispatchLoop tableDeliveries s.now event data inserted matching s.deliveries
    ∃ t, run (step p) s (dispatchTurns inserted before.length matching) = some t ∧
      t.deliveries = dispatch.store ∧
      t.calls = before ++ dispatch.started.map fun attempt => .post attempt.2 [] := by
  induction matching generalizing s before with
  | nil => exact ⟨s, rfl, rfl, last⟩
  | cons subscription rest ih =>
    rw [dispatchTurns]
    simp only [dispatchLoop]
    cases inserted subscription with
    | rejected executed =>
      obtain ⟨t, rejected, table, next⟩ := step_reject_last p last rfl
      refine ⟨t, (run_singleton _ _).trans rejected, ?_, next⟩
      rw [table]
      cases executed <;> rfl
    | resolved =>
      obtain ⟨r, created, table, waits, sameNow⟩ := step_resume_last p last rfl
      obtain ⟨r', posted, table', calls, sameNow'⟩ := step_resume_last p waits rfl
      obtain ⟨t, dispatched, final, done⟩ := ih (calls.trans (List.append_cons _ _ _))
      rw [sameNow', sameNow, table', table] at final done
      rw [List.length_append, List.length_singleton] at dispatched
      refine ⟨t, ?_, final, ?_⟩
      · exact run_cons_eq_some.mpr ⟨r, created, run_cons_eq_some.mpr ⟨r', posted, dispatched⟩⟩
      · rw [done, List.append_assoc]
        rfl

theorem dispatchStreamEvent_turns (p : Platform Payload) (s : Webhooks Payload) (streamId : Nat)
    (event : String) (data : Payload) (inserted : WebhookSubscription → Write) :
    let dispatch := dispatchStreamEvent tableDeliveries s.now s.subscriptions streamId event data
      inserted s.deliveries
    ∃ as t, run (step p) s
        (.dispatchStreamEvent streamId event data :: .resume s.calls.length :: as) = some t ∧
      t.deliveries = dispatch.store ∧
      t.calls = s.calls ++ dispatch.started.map fun attempt => .post attempt.2 [] := by
  obtain ⟨r, found, table, next, sameNow⟩ :=
    step_resume_last p (s := s.start (.dispatchFind streamId event data)) rfl rfl
  obtain ⟨t, dispatched, final, done⟩ := dispatchLoop_turns p event data inserted _ next
  rw [table, sameNow] at final done
  exact ⟨_, t, run_cons_eq_some.mpr ⟨_, rfl, run_cons_eq_some.mpr ⟨r, found, dispatched⟩⟩, final,
    done⟩

end

end Webhooks
end Api
end XStreamRoll
