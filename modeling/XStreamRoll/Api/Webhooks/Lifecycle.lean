/-
The states of a delivery, over either repository.

A delivery is in the hand of one operation at a time: of its first attempt from its creation
on, of a sweep from the moment when it is read as due, and of a manual retry.  Operations
on different deliveries come in any order, and no statement fails.

The log of attempts says how each ended.  A delivery that nobody requeued has as many
failures behind it as its count says, so its count alone tells the attempt after which
`nextAttemptAfter` gives up.
-/
import XStreamRoll.Api.Webhooks.Repositories

namespace XStreamRoll
namespace Api

open Transition Webhooks

variable {σ Payload : Type}

structure DeliveryRun (σ Payload : Type) where
  now : Timestamptz
  store : σ
  /-- the deliveries in the hand of a first attempt or of a sweep, as they were read -/
  inHand : List (WebhookDelivery Payload)
  /-- the deliveries that `retryDelivery` requeued -/
  requeued : List Nat
  /-- the attempts recorded, by delivery and success, the latest last -/
  attempts : List (Nat × Bool)

namespace DeliveryRun

def initial (now : Timestamptz) (store : σ) : DeliveryRun σ Payload :=
  ⟨now, store, [], [], []⟩

/-- How the attempts of a delivery ended. -/
def outcomes (id : Nat) (attempts : List (Nat × Bool)) : List Bool :=
  (attempts.filter fun attempt => attempt.1 = id).map (·.2)

inductive Action (Payload : Type) where
  | create (webhookSubscriptionId : Nat) (event : String) (payload : Payload)
  /-- a sweep reads what is due -/
  | sweep
  /-- the sweep finds no active subscription -/
  | skip (id : Nat)
  | attempt (id : Nat) (outcome : Outcome)
  /-- `webhookFound` says whether there is a subscription `webhookId` -/
  | retryDelivery (webhookFound : Bool) (webhookId deliveryId : Nat)
  | advance (micros : Nat)

/-- The delivery in hand, and what remains there. -/
def take (id : Nat) (s : DeliveryRun σ Payload) :
    Option (WebhookDelivery Payload × DeliveryRun σ Payload) :=
  (s.inHand.find? fun delivery => delivery.id = id).map fun delivery =>
    (delivery, { s with inHand := s.inHand.filter fun other => other.id ≠ id })

def isInHand (id : Nat) (s : DeliveryRun σ Payload) : Bool :=
  s.inHand.any fun delivery => delivery.id = id

/-- `retryDelivery` up to its `requeue`, which happens when nothing is thrown. -/
def requeues (R : DeliveryStore σ Payload) (webhookFound : Bool) (webhookId deliveryId : Nat)
    (s : DeliveryRun σ Payload) : Bool :=
  webhookFound && match R.findById deliveryId s.store with
    | none => false
    | some delivery =>
      delivery.webhookSubscriptionId = webhookId && delivery.status ≠ .success

def step (R : DeliveryStore σ Payload) (s : DeliveryRun σ Payload) (a : Action Payload) :
    Option (DeliveryRun σ Payload) :=
  match a with
  | .create webhookSubscriptionId event payload =>
    let (delivery, store) := R.create s.now webhookSubscriptionId event payload s.store
    some { s with store, inHand := s.inHand ++ [delivery] }
  | .sweep =>
    let due := R.findDuePending s.now retrySweepBatchSize s.store
    if due.any fun delivery => s.isInHand delivery.id then none
    else some { s with inHand := s.inHand ++ due }
  | .skip id => (s.take id).map (·.2)
  | .attempt id outcome =>
    (s.take id).map fun (delivery, rest) =>
      let result := attempted s.now.toDate delivery outcome
      { rest with
        store := R.recordAttempt s.now id result s.store
        attempts := s.attempts ++ [(id, result.success)] }
  | .retryDelivery webhookFound webhookId deliveryId =>
    if s.isInHand deliveryId then none
    else if s.requeues R webhookFound webhookId deliveryId then
      some { s with
        store := R.requeue s.now deliveryId s.store, requeued := s.requeued ++ [deliveryId] }
    else some s
  | .advance micros => some { s with now := ⟨s.now.micros + micros⟩ }

/-- What the state of a delivery means. -/
structure Coherent (R : DeliveryStore σ Payload) (s : DeliveryRun σ Payload) : Prop where
  pending : ∀ id delivery, R.findById id s.store = some delivery →
    (delivery.status = .pending ↔ delivery.nextAttemptAt.isSome)
  delivered : ∀ id delivery, R.findById id s.store = some delivery →
    (delivery.deliveredAt.isSome ↔ delivery.status = .success)
  failed : ∀ id delivery, R.findById id s.store = some delivery → id ∉ s.requeued →
    (delivery.status = .failed ↔ outcomes id s.attempts = List.replicate (maxRetries + 1) false)

/-! ## One delivery -/

/-- Its columns fit its status. -/
structure Dated (delivery : WebhookDelivery Payload) : Prop where
  pending : delivery.status = .pending ↔ delivery.nextAttemptAt.isSome
  delivered : delivery.deliveredAt.isSome ↔ delivery.status = .success

/-- Its status and its count say what has happened to it. -/
def Accounted (outcomes : List Bool) (delivery : WebhookDelivery Payload) : Prop :=
  match delivery.status with
  | .pending => outcomes = List.replicate delivery.attemptCount false ∧
      delivery.attemptCount ≤ maxRetries
  | .failed => outcomes = List.replicate (maxRetries + 1) false
  | .success => true ∈ outcomes

theorem Accounted.failed_iff {outcomes : List Bool} {delivery : WebhookDelivery Payload}
    (h : Accounted outcomes delivery) :
    delivery.status = .failed ↔ outcomes = List.replicate (maxRetries + 1) false := by
  unfold Accounted at h
  split at h
  next pending =>
    obtain ⟨rfl, small⟩ := h
    have short : delivery.attemptCount ≠ maxRetries + 1 := by omega
    rw [pending, List.replicate_inj]
    simp [short]
  next failed => exact ⟨fun _ => h, fun _ => failed⟩
  next success =>
    rw [success]
    constructor
    · intro failed
      cases failed
    · rintro rfl
      cases List.eq_of_mem_replicate h

/-- The result of an attempt closes the delivery or names the next date, if there is one. -/
theorem attempted_cases (now : Date) (delivery : WebhookDelivery Payload) (outcome : Outcome) :
    ((attempted now delivery outcome).success = true ∧
      (attempted now delivery outcome).nextAttemptAt = none) ∨
    ((attempted now delivery outcome).success = false ∧
      (attempted now delivery outcome).nextAttemptAt =
        nextAttemptAfter now (delivery.attemptCount + 1)) := by
  cases outcome with
  | response status body =>
    cases success : decide (200 ≤ status ∧ status < 300) with
    | true => exact .inl ⟨success, by simp [attempted, success]⟩
    | false => exact .inr ⟨success, by simp [attempted, success]⟩
  | failed message => exact .inr ⟨rfl, rfl⟩

theorem recordAttempt_dated {delivery : WebhookDelivery Payload} (h : Dated delivery)
    (pending : delivery.status = .pending) (now : Date) (outcome : Outcome) :
    Dated (delivery.recordAttempt now (attempted now delivery outcome)) := by
  have undelivered : delivery.deliveredAt = none := by
    have none := h.delivered.not.mpr (by rw [pending]; decide)
    simpa using none
  rcases attempted_cases now delivery outcome with ⟨success, next⟩ | ⟨success, next⟩
  · constructor <;> simp [WebhookDelivery.recordAttempt, success, next]
  · constructor
    · simp [WebhookDelivery.recordAttempt, success, Option.isSome_iff_ne_none]
    · simp [WebhookDelivery.recordAttempt, success, undelivered]
      split <;> decide

theorem recordAttempt_accounted {delivery : WebhookDelivery Payload} {outcomes : List Bool}
    (h : Accounted outcomes delivery) (pending : delivery.status = .pending) (now : Date)
    (outcome : Outcome) :
    Accounted (outcomes ++ [(attempted now delivery outcome).success])
      (delivery.recordAttempt now (attempted now delivery outcome)) := by
  simp only [Accounted, pending] at h
  obtain ⟨rfl, small⟩ := h
  rcases attempted_cases now delivery outcome with ⟨success, next⟩ | ⟨success, next⟩
  · simp [Accounted, WebhookDelivery.recordAttempt, success]
  · have another := isSome_nextAttemptAfter now delivery.attemptCount
    rw [← next] at another
    by_cases left : delivery.attemptCount < maxRetries
    · have dated := another.mpr left
      simp only [Accounted, WebhookDelivery.recordAttempt, success, dated, Bool.false_eq_true,
        if_false, if_true]
      exact ⟨List.replicate_succ'.symm, left⟩
    · have undated := another.not.mpr left
      have last : delivery.attemptCount = maxRetries := by omega
      simp only [Accounted, WebhookDelivery.recordAttempt, success, undated, Bool.false_eq_true,
        if_false]
      rw [last]
      exact List.replicate_succ'.symm

/-! ## All deliveries -/

structure Sound (R : DeliveryStore σ Payload) (s : DeliveryRun σ Payload) : Prop where
  dated : ∀ id delivery, R.findById id s.store = some delivery → Dated delivery
  accounted : ∀ id delivery, R.findById id s.store = some delivery → id ∉ s.requeued →
    Accounted (outcomes id s.attempts) delivery
  /-- A delivery in hand is still as it was read. -/
  held : ∀ delivery ∈ s.inHand,
    R.findById delivery.id s.store = some delivery ∧ delivery.status = .pending
  alone : (s.inHand.map (·.id)).Nodup
  known : ∀ attempt ∈ s.attempts, R.findById attempt.1 s.store ≠ none

variable {R : DeliveryStore σ Payload} {s : DeliveryRun σ Payload}

theorem Sound.coherent (h : s.Sound R) : s.Coherent R where
  pending := fun id delivery found => (h.dated id delivery found).pending
  delivered := fun id delivery found => (h.dated id delivery found).delivered
  failed := fun id delivery found free => (h.accounted id delivery found free).failed_iff

/-- A delivery that is in hand, and the run without it. -/
theorem take_eq_some {id : Nat} {delivery : WebhookDelivery Payload}
    {rest : DeliveryRun σ Payload} (taken : s.take id = some (delivery, rest)) :
    delivery ∈ s.inHand ∧ delivery.id = id ∧
      rest = { s with inHand := s.inHand.filter fun other => other.id ≠ id } := by
  obtain ⟨found, hfound, same⟩ := Option.map_eq_some_iff.mp taken
  rw [Prod.mk.injEq] at same
  obtain ⟨rfl, rfl⟩ := same
  exact ⟨List.mem_of_find?_eq_some hfound, by simpa using List.find?_some hfound, rfl⟩

/-- A new delivery, in the hand of its first attempt. -/
theorem Sound.created (h : s.Sound R) {delivery : WebhookDelivery Payload} {store : σ}
    (fresh : delivery.status = .pending ∧ delivery.attemptCount = 0 ∧
      delivery.nextAttemptAt.isSome ∧ delivery.deliveredAt = none)
    (absent : R.findById delivery.id s.store = none)
    (found : ∀ id, R.findById id store =
      if id = delivery.id then some delivery else R.findById id s.store) :
    ({ s with store, inHand := s.inHand ++ [delivery] } : DeliveryRun σ Payload).Sound R := by
  obtain ⟨pending, uncounted, dated, undelivered⟩ := fresh
  -- what was there is another delivery
  have apart : ∀ other, R.findById other s.store ≠ none → other ≠ delivery.id := by
    rintro other known rfl
    exact known absent
  have kept : ∀ other, R.findById other s.store ≠ none →
      R.findById other store = R.findById other s.store := by
    intro other known
    rw [found, if_neg (apart other known)]
  have known : ∀ other ∈ s.inHand, R.findById other.id s.store ≠ none := by
    intro other hother
    rw [(h.held other hother).1]
    exact Option.some_ne_none other
  refine ⟨?_, ?_, ?_, ?_, ?_⟩
  · intro id other hother
    rw [found] at hother
    split at hother
    · rw [Option.some.injEq] at hother
      subst hother
      exact ⟨by simp [pending, dated], by simp [pending, undelivered]⟩
    · exact h.dated id other hother
  · intro id other hother free
    rw [found] at hother
    split at hother
    next isNew =>
      rw [Option.some.injEq] at hother
      have untried : outcomes id s.attempts = [] := by
        rw [outcomes, List.map_eq_nil_iff, List.filter_eq_nil_iff]
        intro attempt hattempt same
        rw [decide_eq_true_eq] at same
        exact apart attempt.1 (h.known attempt hattempt) (same.trans isNew)
      subst hother
      simp only [Accounted, pending, uncounted]
      exact ⟨untried, Nat.zero_le _⟩
    · exact h.accounted id other hother free
  · rw [List.forall_mem_append, List.forall_mem_singleton]
    refine ⟨fun other hother => ?_, ?_⟩
    · rw [kept _ (known other hother)]
      exact h.held other hother
    · rw [found, if_pos rfl]
      exact ⟨rfl, pending⟩
  · exact nodup_concat h.alone fun other hother => apart other.id (known other hother)
  · intro attempt hattempt
    rw [kept _ (h.known attempt hattempt)]
    exact h.known attempt hattempt

theorem Sound.create (h : s.Sound R) (webhookSubscriptionId : Nat) (event : String)
    (payload : Payload) {t : DeliveryRun σ Payload}
    (stepped : step R s (.create webhookSubscriptionId event payload) = some t) : t.Sound R := by
  obtain ⟨new, absent⟩ := R.create_new s.now webhookSubscriptionId event payload s.store
  have untried :
      let delivery := (R.create s.now webhookSubscriptionId event payload s.store).1
      delivery.status = .pending ∧ delivery.attemptCount = 0 ∧ delivery.nextAttemptAt.isSome ∧
        delivery.deliveredAt = none := by
    rw [new]
    exact ⟨rfl, rfl, rfl, rfl⟩
  have fresh := h.created untried absent
    (R.findById_create s.now webhookSubscriptionId event payload s.store)
  exact Option.some.inj stepped ▸ fresh

theorem Sound.sweep (h : s.Sound R) {t : DeliveryRun σ Payload}
    (stepped : step R s .sweep = some t) : t.Sound R := by
  simp only [step] at stepped
  split at stepped
  · cases stepped
  next free =>
    rw [Option.some.injEq] at stepped
    subst stepped
    have due := R.mem_findDuePending s.now retrySweepBatchSize s.store
    refine ⟨h.dated, h.accounted, ?_, ?_, h.known⟩
    · rw [List.forall_mem_append]
      exact ⟨h.held, due⟩
    · rw [List.map_append, List.nodup_append]
      refine ⟨h.alone, R.nodup_findDuePending s.now retrySweepBatchSize s.store, ?_⟩
      rintro id hid id' hid' rfl
      obtain ⟨other, hother, same⟩ := List.mem_map.mp hid
      obtain ⟨delivery, hdelivery, rfl⟩ := List.mem_map.mp hid'
      refine free (List.any_eq_true.mpr ⟨delivery, hdelivery, ?_⟩)
      exact List.any_eq_true.mpr ⟨other, hother, decide_eq_true same⟩

theorem Sound.skip (h : s.Sound R) {id : Nat} {t : DeliveryRun σ Payload}
    (stepped : step R s (.skip id) = some t) : t.Sound R := by
  obtain ⟨⟨delivery, rest⟩, taken, rfl⟩ := Option.map_eq_some_iff.mp stepped
  obtain ⟨_, _, rfl⟩ := take_eq_some taken
  exact ⟨h.dated, h.accounted, fun other hother => h.held other (List.mem_of_mem_filter hother),
    h.alone.sublist (List.filter_sublist.map _), h.known⟩

theorem outcomes_append (id other : Nat) (attempts : List (Nat × Bool)) (success : Bool) :
    outcomes other (attempts ++ [(id, success)]) =
      outcomes other attempts ++ if id = other then [success] else [] := by
  unfold outcomes
  rw [List.filter_append, List.map_append]
  by_cases same : id = other
  · simp [same]
  · simp [same]

theorem Sound.attempt (h : s.Sound R) {id : Nat} {outcome : Outcome} {t : DeliveryRun σ Payload}
    (stepped : step R s (.attempt id outcome) = some t) : t.Sound R := by
  obtain ⟨⟨delivery, rest⟩, taken, rfl⟩ := Option.map_eq_some_iff.mp stepped
  obtain ⟨inHand, rfl, rfl⟩ := take_eq_some taken
  obtain ⟨own, pending⟩ := h.held delivery inHand
  have found := R.findById_recordAttempt s.now delivery.id
    (attempted s.now.toDate delivery outcome) s.store
  have same : ∀ {other}, R.findById delivery.id s.store = some other → delivery = other :=
    fun hother => Option.some.inj (own.symm.trans hother)
  refine ⟨?_, ?_, ?_, h.alone.sublist (List.filter_sublist.map _), ?_⟩
  · intro id other hother
    rw [found] at hother
    split at hother
    next isOwn =>
      obtain ⟨before, hbefore, rfl⟩ := Option.map_eq_some_iff.mp hother
      obtain rfl := same (isOwn ▸ hbefore)
      exact recordAttempt_dated (h.dated _ _ own) pending _ _
    · exact h.dated id other hother
  · intro id other hother free
    rw [found] at hother
    rw [outcomes_append]
    split at hother
    next isOwn =>
      obtain ⟨before, hbefore, rfl⟩ := Option.map_eq_some_iff.mp hother
      obtain rfl := same (isOwn ▸ hbefore)
      subst isOwn
      rw [if_pos rfl]
      exact recordAttempt_accounted (h.accounted _ _ own free) pending _ _
    next apart =>
      rw [if_neg (Ne.symm apart), List.append_nil]
      exact h.accounted id other hother free
  · intro other hother
    obtain ⟨hother, apart⟩ := List.mem_filter.mp hother
    rw [decide_eq_true_eq] at apart
    rw [found, if_neg apart]
    exact h.held other hother
  · rw [List.forall_mem_append, List.forall_mem_singleton]
    constructor
    · intro attempt hattempt
      rw [found]
      split
      · rw [Ne, Option.map_eq_none_iff]
        exact h.known attempt hattempt
      · exact h.known attempt hattempt
    · rw [found, if_pos rfl, own]
      exact Option.some_ne_none _

theorem Sound.retryDelivery (h : s.Sound R) {webhookFound : Bool} {webhookId deliveryId : Nat}
    {t : DeliveryRun σ Payload}
    (stepped : step R s (.retryDelivery webhookFound webhookId deliveryId) = some t) :
    t.Sound R := by
  simp only [step] at stepped
  split at stepped
  · cases stepped
  next free =>
    split at stepped
    next requeues =>
      rw [Option.some.injEq] at stepped
      subst stepped
      have found := R.findById_requeue s.now deliveryId s.store
      have notOwn : ∀ other ∈ s.inHand, other.id ≠ deliveryId := by
        intro other hother same
        exact free (List.any_eq_true.mpr ⟨other, hother, decide_eq_true same⟩)
      refine ⟨?_, ?_, ?_, h.alone, ?_⟩
      · intro id other hother
        rw [found] at hother
        split at hother
        next isOwn =>
          obtain ⟨before, hbefore, rfl⟩ := Option.map_eq_some_iff.mp hother
          have undelivered : before.deliveredAt = none := by
            simp only [DeliveryRun.requeues, isOwn ▸ hbefore, Bool.and_eq_true,
              decide_eq_true_eq] at requeues
            have none := (h.dated id before hbefore).delivered.not.mpr requeues.2.2
            simpa using none
          exact ⟨by simp [WebhookDelivery.requeue], by simp [WebhookDelivery.requeue, undelivered]⟩
        · exact h.dated id other hother
      · intro id other hother stillFree
        rw [List.mem_append, not_or, List.mem_singleton] at stillFree
        rw [found, if_neg stillFree.2] at hother
        exact h.accounted id other hother stillFree.1
      · intro other hother
        rw [found, if_neg (notOwn other hother)]
        exact h.held other hother
      · intro attempt hattempt
        rw [found]
        split
        · rw [Ne, Option.map_eq_none_iff]
          exact h.known attempt hattempt
        · exact h.known attempt hattempt
    · exact Option.some.inj stepped ▸ h

theorem Sound.step (h : s.Sound R) {a : Action Payload} {t : DeliveryRun σ Payload}
    (stepped : step R s a = some t) : t.Sound R := by
  cases a with
  | create webhookSubscriptionId event payload =>
    exact h.create webhookSubscriptionId event payload stepped
  | sweep => exact h.sweep stepped
  | skip id => exact h.skip stepped
  | attempt id outcome => exact h.attempt stepped
  | retryDelivery webhookFound webhookId deliveryId => exact h.retryDelivery stepped
  | advance micros =>
    exact Option.some.inj stepped ▸ ⟨h.dated, h.accounted, h.held, h.alone, h.known⟩

/-- A repository without deliveries. -/
theorem initial_sound {store : σ} (empty : ∀ id, R.findById id store = none) (now : Timestamptz) :
    (initial now store : DeliveryRun σ Payload).Sound R where
  dated := by
    intro id delivery found
    cases (empty id).symm.trans found
  accounted := by
    intro id delivery found
    cases (empty id).symm.trans found
  held := List.forall_mem_nil _
  alone := List.nodup_nil
  known := List.forall_mem_nil _

theorem coherent_of_empty {store : σ} (empty : ∀ id, R.findById id store = none)
    (now : Timestamptz) (actions : List (Action Payload)) :
    AllSteps (DeliveryRun.step R) (fun _ _ t => t.Coherent R) (initial now store) actions :=
  allSteps_of_invariant (I := Sound R) (fun _ a _ h hs => ⟨Sound.step (a := a) h hs,
    (Sound.step (a := a) h hs).coherent⟩) (initial_sound empty now)

/-- Over either repository the states of the deliveries are coherent after every step. -/
theorem deliveries_coherent (now : Timestamptz) (nextId : Nat) (actions : List (Action Payload)) :
    AllSteps (DeliveryRun.step memoryDeliveries) (fun _ _ t => t.Coherent memoryDeliveries)
        (initial now .empty) actions ∧
      AllSteps (DeliveryRun.step tableDeliveries) (fun _ _ t => t.Coherent tableDeliveries)
        (initial now (.empty nextId)) actions :=
  ⟨coherent_of_empty (fun _ => rfl) now actions, coherent_of_empty (fun _ => rfl) now actions⟩

end DeliveryRun

end Api
end XStreamRoll
