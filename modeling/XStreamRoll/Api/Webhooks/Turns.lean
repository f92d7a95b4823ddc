/-
What a call of the webhooks can do on its turn.

A delivery that a call has read stays in its hands until the call has recorded an attempt
or has gone past it.  Seen from the deliveries in hand, a turn is one of ten things,
whichever call it is: `does_of_turn` goes through the calls once, and what is proved about
runs goes through the ten.
-/
import XStreamRoll.Api.Webhooks

namespace XStreamRoll
namespace Api
namespace Webhooks

open Transition

variable {Payload : Type} {p : Platform Payload} {s t : Webhooks Payload} {a : Action Payload}
  {call : Call Payload} {turn : Turn Payload} {i : Nat}

/-! ## Deliveries in hand -/

/-- How far a call has got with a delivery.  `attemptCount` is what it has read. -/
inductive Stage where
  | waiting (attemptCount : Nat)
  | posted (attemptCount : Nat)
  | caught (attemptCount : Nat) (recorded : Bool)
  | requeue
deriving DecidableEq, Repr

structure Hand where
  id : Nat
  stage : Stage
deriving DecidableEq, Repr

/-- No POST has been made for it yet, at least not by this call. -/
def Hand.idle (hand : Hand) : Bool :=
  match hand.stage with
  | .waiting _ | .requeue => true
  | .posted _ | .caught _ _ => false

def Hand.waiting (delivery : WebhookDelivery Payload) : Hand :=
  ⟨delivery.id, .waiting delivery.attemptCount⟩

def Hand.posted (delivery : WebhookDelivery Payload) : Hand :=
  ⟨delivery.id, .posted delivery.attemptCount⟩

def Hand.caught (delivery : WebhookDelivery Payload) (recorded : Bool) : Hand :=
  ⟨delivery.id, .caught delivery.attemptCount recorded⟩

namespace Call

def hands : Call Payload → List Hand
  | .dispatchFind _ _ _ | .dispatchCreate _ _ _ _ | .sweepFind | .retryWebhook _ _
  | .retryFind _ _ => []
  | .dispatchCreated _ delivery _ _ _ => [Hand.waiting delivery]
  | .sweepSubscription delivery rest | .sweepFound _ delivery rest =>
    Hand.waiting delivery :: rest.map Hand.waiting
  | .post delivery rest | .record delivery _ rest => Hand.posted delivery :: rest.map Hand.waiting
  | .recordCaught delivery _ rest recorded =>
    Hand.caught delivery recorded :: rest.map Hand.waiting
  | .retryRequeue _ deliveryId => [⟨deliveryId, .requeue⟩]

/-- The record that the call waits for. -/
def recording : Call Payload → Option (WebhookDelivery Payload × RecordAttemptInput)
  | .record delivery result _ | .recordCaught delivery result _ _ => some (delivery, result)
  | _ => none

/-- The call is a `retryDelivery`. -/
def manual : Call Payload → Bool
  | .retryWebhook _ _ | .retryFind _ _ | .retryRequeue _ _ => true
  | _ => false

end Call

def Turn.hands (turn : Turn Payload) : List Hand := turn.next.flatMap Call.hands

def hands (s : Webhooks Payload) : List Hand := s.calls.flatMap Call.hands

/-- The hands of all calls but one. -/
def others (i : Nat) (s : Webhooks Payload) : List Hand := (s.calls.eraseIdx i).flatMap Call.hands

theorem hands_perm (h : s.calls[i]? = some call) : s.hands.Perm (call.hands ++ s.others i) := by
  obtain ⟨hi, rfl⟩ := List.getElem?_eq_some_iff.mp h
  have hcalls := (List.getElem_cons_eraseIdx_perm hi).symm
  exact hcalls.flatMap_right Call.hands

theorem mem_hands_of_others {hand : Hand} (hcall : s.calls[i]? = some call)
    (h : hand ∈ s.others i) : hand ∈ s.hands :=
  (hands_perm hcall).mem_iff.mpr (List.mem_append_right _ h)

theorem mem_hands_of_call {hand : Hand} (hcall : s.calls[i]? = some call)
    (h : hand ∈ call.hands) : hand ∈ s.hands :=
  (hands_perm hcall).mem_iff.mpr (List.mem_append_left _ h)

theorem hands_settle (i : Nat) (turn : Turn Payload) (s : Webhooks Payload) :
    (s.settle i turn).hands = s.others i ++ turn.hands :=
  List.flatMap_append

theorem hands_start (call : Call Payload) (s : Webhooks Payload) :
    (s.start call).hands = s.hands ++ call.hands := by
  rw [hands, start, List.flatMap_append, List.flatMap_singleton]
  rfl

theorem hands_dispatchNext (event : String) (data : Payload) (rest : List WebhookSubscription) :
    (dispatchNext event data rest).flatMap Call.hands = [] := by
  cases rest <;> rfl

theorem hands_sweepNext (rest : List (WebhookDelivery Payload)) :
    (sweepNext rest).flatMap Call.hands = rest.map Hand.waiting := by
  cases rest with
  | nil => rfl
  | cons delivery rest => exact List.append_nil _

/-! ## The ten things -/

inductive Does (s : Webhooks Payload) (a : Action Payload) (call : Call Payload)
    (turn : Turn Payload) : Prop
  /-- The call goes on, and may let go of deliveries for which it has made no POST. -/
  | passes (dropped : List Hand) (hdeliveries : turn.deliveries = s.deliveries)
      (hposted : turn.posted = []) (hhands : call.hands = dropped ++ turn.hands)
      (hdropped : ∀ hand ∈ dropped, hand.idle = true)
  /-- A sweep reads the rows that are due. -/
  | reads (i : Nat) (ha : a = .resume i) (hcall : call = .sweepFind)
      (hdeliveries : turn.deliveries = s.deliveries) (hposted : turn.posted = [])
      (hhands : turn.hands = (s.deliveries.findDuePending s.now retrySweepBatchSize).map
        fun row => Hand.waiting row.rowToDelivery)
  /-- A row is inserted.  Nobody has it in hand when the answer is lost. -/
  | creates (webhookSubscriptionId : Nat) (event : String) (data : Payload)
      (hcall : call.hands = [])
      (hdeliveries : turn.deliveries = s.deliveries.create s.now webhookSubscriptionId event data)
      (hposted : turn.posted = [])
      (hhands : turn.hands = [⟨s.deliveries.nextId, .waiting 0⟩] ∨ turn.hands = [])
  /-- A POST is made. -/
  | posts (delivery : WebhookDelivery Payload) (rest : List Hand) (post : Post Payload)
      (hpost : post.body.deliveryId = delivery.id)
      (hcall : call.hands = Hand.waiting delivery :: rest)
      (hdeliveries : turn.deliveries = s.deliveries) (hposted : turn.posted = [post])
      (hhands : turn.hands = Hand.posted delivery :: rest)
  /-- An attempt is recorded. -/
  | records (i : Nat) (delivery : WebhookDelivery Payload) (result : RecordAttemptInput)
      (hand : Hand) (rest : List Hand) (ha : a = .resume i)
      (hrecording : call.recording = some (delivery, result))
      (hhand : hand = Hand.posted delivery ∨ ∃ recorded, hand = Hand.caught delivery recorded)
      (hcall : call.hands = hand :: rest)
      (hdeliveries : turn.deliveries = s.deliveries.recordAttempt s.now delivery.id result)
      (hposted : turn.posted = []) (hhands : turn.hands = rest)
  /-- An attempt is recorded, but the call takes it for a failure and goes to its `catch`. -/
  | misses (i : Nat) (delivery : WebhookDelivery Payload) (result : RecordAttemptInput)
      (rest : List Hand) (ha : a = .reject i true)
      (hrecording : call.recording = some (delivery, result))
      (hcall : call.hands = Hand.posted delivery :: rest)
      (hdeliveries : turn.deliveries = s.deliveries.recordAttempt s.now delivery.id result)
      (hposted : turn.posted = []) (hhands : turn.hands = Hand.caught delivery true :: rest)
  /-- An attempt fails or is not recorded, and the call goes to its `catch`. -/
  | fails (delivery : WebhookDelivery Payload) (rest : List Hand)
      (hcall : call.hands = Hand.posted delivery :: rest)
      (hdeliveries : turn.deliveries = s.deliveries) (hposted : turn.posted = [])
      (hhands : turn.hands = Hand.caught delivery false :: rest)
  /-- The record of the `catch` rejects, which ends the call. -/
  | aborts (i : Nat) (delivery : WebhookDelivery Payload) (result : RecordAttemptInput)
      (rest : List (WebhookDelivery Payload)) (recorded executed : Bool)
      (ha : a = .reject i executed) (hcall : call = .recordCaught delivery result rest recorded)
      (hdeliveries : turn.deliveries = if executed then
        s.deliveries.recordAttempt s.now delivery.id result else s.deliveries)
      (hposted : turn.posted = []) (hhands : turn.hands = [])
  /-- A manual retry finds a row that is not delivered. -/
  | finds (row : WebhookDeliveryRow Payload) (hmanual : call.manual = true)
      (hrow : row ∈ s.deliveries.rows) (hstatus : row.status ≠ .success) (hcall : call.hands = [])
      (hdeliveries : turn.deliveries = s.deliveries) (hposted : turn.posted = [])
      (hhands : turn.hands = [⟨row.id, .requeue⟩])
  /-- It puts the row back in the queue. -/
  | requeues (deliveryId : Nat) (hmanual : call.manual = true)
      (hcall : call.hands = [⟨deliveryId, .requeue⟩])
      (hdeliveries : turn.deliveries = s.deliveries.requeue s.now deliveryId)
      (hposted : turn.posted = []) (hhands : turn.hands = [])

/-- The first hand of a call changes, and stays with its delivery. -/
theorem map_id_of_head {first first' : Hand} {rest : List Hand}
    (hcall : call.hands = first :: rest) (hhands : turn.hands = first' :: rest)
    (hid : first'.id = first.id) : turn.hands.map Hand.id = call.hands.map Hand.id := by
  rw [hhands, hcall, List.map_cons, List.map_cons, hid]

theorem Does.of_same (hdeliveries : turn.deliveries = s.deliveries) (hposted : turn.posted = [])
    (hhands : turn.hands = call.hands) : Does s a call turn :=
  .passes [] hdeliveries hposted hhands.symm fun _ h => absurd h List.not_mem_nil

/-- The call ends, with no POST behind it. -/
theorem Does.of_end (hdeliveries : turn.deliveries = s.deliveries) (hposted : turn.posted = [])
    (hhands : turn.hands = []) (hidle : ∀ hand ∈ call.hands, hand.idle = true) :
    Does s a call turn := by
  refine .passes call.hands hdeliveries hposted ?_ hidle
  rw [hhands, List.append_nil]

theorem idle_of_mem_map_waiting {rest : List (WebhookDelivery Payload)} {hand : Hand}
    (h : hand ∈ rest.map Hand.waiting) : hand.idle = true := by
  obtain ⟨delivery, -, rfl⟩ := List.mem_map.mp h
  rfl

theorem idle_of_mem_cons_waiting {delivery : WebhookDelivery Payload}
    {rest : List (WebhookDelivery Payload)} {hand : Hand}
    (h : hand ∈ Hand.waiting delivery :: rest.map Hand.waiting) : hand.idle = true := by
  rcases List.mem_cons.mp h with rfl | hrest
  · rfl
  · exact idle_of_mem_map_waiting hrest

theorem does_of_resume (h : s.resume p call = some turn) : Does s (.resume i) call turn := by
  cases call with
  | dispatchFind streamId event data =>
    cases h
    exact .of_same rfl rfl (hands_dispatchNext event data _)
  | dispatchCreate subscription rest event data =>
    cases h
    exact .creates subscription.id event data rfl rfl rfl (.inl rfl)
  | dispatchCreated subscription delivery rest event data =>
    cases h
    refine .posts delivery [] _ rfl rfl rfl rfl ?_
    show Hand.posted delivery :: (dispatchNext event data rest).flatMap Call.hands = _
    rw [hands_dispatchNext]
  | sweepFind =>
    cases h
    refine .reads i rfl rfl rfl rfl ?_
    rw [Turn.hands, hands_sweepNext, List.map_map]
    rfl
  | sweepSubscription delivery rest =>
    have hskip : Does s (.resume i) (.sweepSubscription delivery rest)
        ⟨s.deliveries, sweepNext rest, [], []⟩ := by
      refine .passes [Hand.waiting delivery] rfl rfl ?_ ?_
      · rw [Turn.hands, hands_sweepNext]
        rfl
      · intro hand hhand
        rw [List.mem_singleton.mp hhand]
        rfl
    simp only [resume] at h
    split at h
    · cases h
      exact hskip
    · split at h
      · cases h
        exact .of_same rfl rfl (List.append_nil _)
      · cases h
        exact hskip
  | sweepFound subscription delivery rest =>
    cases h
    exact .posts delivery (rest.map Hand.waiting) _ rfl rfl rfl rfl (List.append_nil _)
  | post delivery rest => cases h
  | record delivery result rest =>
    cases h
    exact .records i delivery result _ (rest.map Hand.waiting) rfl rfl (.inl rfl) rfl rfl rfl
      (hands_sweepNext rest)
  | recordCaught delivery result rest recorded =>
    cases h
    exact .records i delivery result _ (rest.map Hand.waiting) rfl rfl (.inr ⟨recorded, rfl⟩) rfl
      rfl rfl (hands_sweepNext rest)
  | retryWebhook webhookId deliveryId =>
    simp only [resume] at h
    split at h <;> cases h <;> exact .of_same rfl rfl rfl
  | retryFind webhookId deliveryId =>
    simp only [resume] at h
    split at h
    · cases h
      exact .of_same rfl rfl rfl
    · next row hfind =>
      split at h
      · cases h
        exact .of_same rfl rfl rfl
      · split at h
        · cases h
          exact .of_same rfl rfl rfl
        · next hstatus =>
          cases h
          have hid : row.id = deliveryId := by simpa using List.find?_some hfind
          subst hid
          exact .finds row rfl (List.mem_of_find?_eq_some hfind) hstatus rfl rfl rfl rfl
  | retryRequeue webhookId deliveryId =>
    simp only [resume] at h
    split at h <;> cases h <;> exact .requeues deliveryId rfl rfl rfl rfl rfl

theorem does_of_respond {outcome : Outcome} (h : s.respond outcome call = some turn) :
    Does s a call turn := by
  cases call with
  | post delivery rest =>
    cases outcome with
    | response status body =>
      cases h
      exact .of_same rfl rfl (List.append_nil _)
    | failed message =>
      cases h
      exact .fails delivery (rest.map Hand.waiting) rfl rfl rfl (List.append_nil _)
  | _ => cases h

theorem does_of_reject {executed : Bool} (h : s.reject executed call = some turn) :
    Does s (.reject i executed) call turn := by
  cases call with
  | dispatchCreated | sweepFound | post => cases h
  | dispatchFind | sweepFind | retryWebhook | retryFind =>
    cases h
    refine .of_same ?_ rfl rfl
    cases executed <;> rfl
  | dispatchCreate subscription rest event data =>
    cases h
    cases executed with
    | false => exact .of_same rfl rfl rfl
    | true => exact .creates subscription.id event data rfl rfl rfl (.inr rfl)
  | sweepSubscription delivery rest =>
    cases h
    refine .of_end ?_ rfl rfl fun hand => idle_of_mem_cons_waiting
    cases executed <;> rfl
  | record delivery result rest =>
    cases h
    cases executed with
    | false => exact .fails delivery (rest.map Hand.waiting) rfl rfl rfl (List.append_nil _)
    | true =>
      exact .misses i delivery result (rest.map Hand.waiting) rfl rfl rfl rfl rfl
        (List.append_nil _)
  | recordCaught delivery result rest recorded =>
    cases h
    exact .aborts i delivery result rest recorded executed rfl rfl rfl rfl rfl
  | retryRequeue webhookId deliveryId =>
    cases h
    cases executed with
    | false =>
      refine .of_end rfl rfl rfl ?_
      intro hand hhand
      rw [List.mem_singleton.mp hhand]
      rfl
    | true => exact .requeues deliveryId rfl rfl rfl rfl rfl

/-! ## Steps -/

/-- A step gives a call its turn, starts a call, or is none of the calls' doing. -/
theorem step_cases (h : step p s a = some t) :
    (t.deliveries = s.deliveries ∧ t.posted = s.posted ∧ t.calls = s.calls) ∨
      (∃ call, t = s.start call ∧ call.hands = [] ∧ call.recording = none ∧
        (call.manual = true → ∃ webhookId deliveryId, a = .retryDelivery webhookId deliveryId)) ∨
      ∃ i call turn, s.calls[i]? = some call ∧ s.turn p a = some (i, turn) ∧
        t = s.settle i turn ∧ Does s a call turn := by
  have hturn : ∀ {x : Nat × Turn Payload}, s.turn p a = some x → t = s.settle x.1 x.2 →
      (∃ call, s.calls[x.1]? = some call ∧ Does s a call x.2) →
      ∃ i call turn, s.calls[i]? = some call ∧ s.turn p a = some (i, turn) ∧
        t = s.settle i turn ∧ Does s a call turn := by
    rintro ⟨i, turn⟩ ha ht ⟨call, hcall, hdoes⟩
    exact ⟨i, call, turn, hcall, ha, ht, hdoes⟩
  cases a with
  | advance micros =>
    cases h
    exact .inl ⟨rfl, rfl, rfl⟩
  | edit subscriptions =>
    cases h
    exact .inl ⟨rfl, rfl, rfl⟩
  | dispatchStreamEvent streamId event data =>
    cases h
    exact .inr (.inl ⟨_, rfl, rfl, rfl, fun hm => by cases hm⟩)
  | sweepRetries =>
    cases h
    exact .inr (.inl ⟨_, rfl, rfl, rfl, fun hm => by cases hm⟩)
  | retryDelivery webhookId deliveryId =>
    cases h
    exact .inr (.inl ⟨_, rfl, rfl, rfl, fun _ => ⟨webhookId, deliveryId, rfl⟩⟩)
  | resume i =>
    obtain ⟨x, hx, rfl⟩ := Option.map_eq_some_iff.mp h
    obtain ⟨call, hcall, hres⟩ := Option.bind_eq_some_iff.mp hx
    obtain ⟨turn, hdo, rfl⟩ := Option.map_eq_some_iff.mp hres
    exact .inr (.inr (hturn hx rfl ⟨call, hcall, does_of_resume hdo⟩))
  | respond i outcome =>
    obtain ⟨x, hx, rfl⟩ := Option.map_eq_some_iff.mp h
    obtain ⟨call, hcall, hres⟩ := Option.bind_eq_some_iff.mp hx
    obtain ⟨turn, hdo, rfl⟩ := Option.map_eq_some_iff.mp hres
    exact .inr (.inr (hturn hx rfl ⟨call, hcall, does_of_respond hdo⟩))
  | reject i executed =>
    obtain ⟨x, hx, rfl⟩ := Option.map_eq_some_iff.mp h
    obtain ⟨call, hcall, hres⟩ := Option.bind_eq_some_iff.mp hx
    obtain ⟨turn, hdo, rfl⟩ := Option.map_eq_some_iff.mp hres
    exact .inr (.inr (hturn hx rfl ⟨call, hcall, does_of_reject hdo⟩))

theorem turn_index {x : Nat × Turn Payload} (h : s.turn p a = some x) :
    ∀ j, (a = .resume j ∨ ∃ executed, a = .reject j executed) → j = x.1 := by
  rintro j (rfl | ⟨executed, rfl⟩)
  all_goals
    obtain ⟨call, -, hres⟩ := Option.bind_eq_some_iff.mp h
    obtain ⟨turn, -, rfl⟩ := Option.map_eq_some_iff.mp hres
    rfl

/-! ## A dispatch and a sweep -/

def plainPlatform : Platform String where
  stringify := fun body => body.event ++ body.data
  hmacSha256 := fun secret text => secret ++ text

/-- One subscription, and no deliveries yet. -/
def newWebhooks : Webhooks String where
  now := ⟨1000⟩
  subscriptions := [⟨1, 7, "u", ["start"], "k", true⟩]
  deliveries := ⟨[], 1, List.nodup_nil, fun _ h => absurd h List.not_mem_nil⟩
  calls := []
  posted := []
  answers := []

/-- An event is dispatched to the subscription, up to the POST. -/
def dispatched : List (Action String) :=
  [.dispatchStreamEvent 7 "start" "d", .resume 0, .resume 0, .resume 0]

/-- A sweep makes a POST for the first row that is due, as the call after `n` others. -/
def sweptAfter (n : Nat) : List (Action String) :=
  [.sweepRetries, .resume n, .resume n, .resume n]

end Webhooks
end Api
end XStreamRoll
