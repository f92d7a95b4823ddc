/-
How many attempts are made for a delivery.

The count in the row is what stops the retries: an attempt leaves the row pending only
when the call has read a count below `MAX_RETRIES`.  It stops them at the right number as
long as one call at a time has the delivery in hand, and records each attempt it makes.
Nothing in the code sees to the first: a sweep takes whatever is due, and the row of a new
delivery is due from the start.
-/
import XStreamRoll.Api.Webhooks.Turns

namespace XStreamRoll
namespace Api
namespace Webhooks

open Transition

variable {Payload : Type} {p : Platform Payload} {s t : Webhooks Payload} {a : Action Payload}
  {call : Call Payload} {turn : Turn Payload} {i : Nat}

/-! ## The budget of one delivery -/

/-- A pending row counts the attempts that were made. -/
def Free (row? : Option (WebhookDeliveryRow Payload)) (posts : Nat) : Prop :=
  ∀ row ∈ row?, row.status = .pending → posts ≤ min row.attemptCount maxRetries

/-- What the call that has the delivery in hand knows of the row and of the attempts. -/
def Stage.Accounts (row? : Option (WebhookDeliveryRow Payload)) (posts : Nat) : Stage → Prop
  | .waiting attemptCount =>
    posts ≤ min attemptCount maxRetries ∧ ∀ row ∈ row?, row.attemptCount = attemptCount
  | .posted attemptCount | .caught attemptCount false =>
    posts ≤ min attemptCount maxRetries + 1 ∧ ∀ row ∈ row?, row.attemptCount = attemptCount
  | .caught attemptCount true =>
    posts ≤ min attemptCount maxRetries + 1 ∧ Free row? posts ∧
      ∀ row ∈ row?, row.attemptCount = attemptCount + 1
  | .requeue => False

section
variable {row? : Option (WebhookDeliveryRow Payload)} {posts : Nat} {stage : Stage}
  {delivery : WebhookDelivery Payload} {hand : Hand}

theorem Stage.Accounts.bound (h : stage.Accounts row? posts) : posts ≤ maxRetries + 1 := by
  have hle : ∀ n, min n maxRetries ≤ maxRetries := fun n => Nat.min_le_right n maxRetries
  cases stage with
  | waiting n => exact Nat.le_succ_of_le (h.1.trans (hle n))
  | posted n => exact h.1.trans (Nat.succ_le_succ (hle n))
  | caught n recorded =>
    cases recorded with
    | false => exact h.1.trans (Nat.succ_le_succ (hle n))
    | true => exact h.1.trans (Nat.succ_le_succ (hle n))
  | requeue => exact h.elim

/-- A call may let go of what it has made no POST for. -/
theorem Stage.Accounts.free_of_idle (h : hand.stage.Accounts row? posts)
    (hidle : hand.idle = true) : Free row? posts := by
  obtain ⟨id, stage⟩ := hand
  cases stage with
  | waiting n =>
    intro row hrow _
    rw [h.2 row hrow]
    exact h.1
  | posted n => cases hidle
  | caught n recorded => cases hidle
  | requeue => exact h.elim

theorem Stage.Accounts.post (h : (Hand.waiting delivery).stage.Accounts row? posts) :
    (Hand.posted delivery).stage.Accounts row? (posts + 1) :=
  ⟨Nat.succ_le_succ h.1, h.2⟩

/-- The attempt is in the count now. -/
theorem Free.of_record {now : Timestamptz} {result : RecordAttemptInput} {n : Nat}
    (hposts : posts ≤ min n maxRetries + 1) (hcount : ∀ row ∈ row?, n ≤ row.attemptCount)
    (htimely : result.nextAttemptAt.isSome = true → n < maxRetries) :
    Free (row?.map (WebhookDeliveryRow.recordAttempt now result)) posts := by
  intro row hrow hpending
  obtain ⟨old, hold, rfl⟩ := Option.map_eq_some_iff.mp hrow
  have hnext : result.nextAttemptAt.isSome = true := by
    by_contra hnone
    have hstatus : result.status = .pending := hpending
    rw [RecordAttemptInput.status, if_neg hnone] at hstatus
    split at hstatus <;> cases hstatus
  have hn := htimely hnext
  have hle := hcount old hold
  show posts ≤ min (old.attemptCount + 1) maxRetries
  omega

theorem Stage.Accounts.record {now : Timestamptz} {result : RecordAttemptInput}
    (h : hand.stage.Accounts row? posts)
    (hhand : hand = .posted delivery ∨ ∃ recorded, hand = .caught delivery recorded)
    (htimely : result.nextAttemptAt.isSome = true → delivery.attemptCount < maxRetries) :
    Free (row?.map (WebhookDeliveryRow.recordAttempt now result)) posts := by
  rcases hhand with rfl | ⟨recorded, rfl⟩
  · exact .of_record h.1 (fun row hrow => (h.2 row hrow).ge) htimely
  · cases recorded with
    | false => exact .of_record h.1 (fun row hrow => (h.2 row hrow).ge) htimely
    | true =>
      refine .of_record h.1 (fun row hrow => ?_) htimely
      rw [h.2.2 row hrow]
      exact Nat.le_succ _

theorem Stage.Accounts.miss {now : Timestamptz} {result : RecordAttemptInput}
    (h : (Hand.posted delivery).stage.Accounts row? posts)
    (htimely : result.nextAttemptAt.isSome = true → delivery.attemptCount < maxRetries) :
    (Hand.caught delivery true).stage.Accounts
      (row?.map (WebhookDeliveryRow.recordAttempt now result)) posts := by
  refine ⟨h.1, h.record (.inl rfl) htimely, ?_⟩
  intro row hrow
  obtain ⟨old, hold, rfl⟩ := Option.map_eq_some_iff.mp hrow
  exact congrArg (· + 1) (h.2 old hold)

end

/-! ## What a call goes on to -/

/-- An attempt leaves the row pending only within the number of retries. -/
def Call.Timely (call : Call Payload) : Prop :=
  ∀ x ∈ call.recording, x.2.nextAttemptAt.isSome = true → x.1.attemptCount < maxRetries

theorem Call.timely_of_recording (h : call.recording = none) : call.Timely := by
  rw [Timely, h]
  exact fun _ hx => by cases hx

theorem isSome_attempted {now : Date} {delivery : WebhookDelivery Payload} {outcome : Outcome}
    (h : (attempted now delivery outcome).nextAttemptAt.isSome = true) :
    delivery.attemptCount < maxRetries := by
  cases outcome with
  | response status body =>
    simp only [attempted] at h
    split at h
    · cases h
    · exact (isSome_nextAttemptAfter _ _).mp h
  | failed message => exact (isSome_nextAttemptAfter _ _).mp h

/-- The call is part of no manual retry, and keeps to the number of retries. -/
structure Call.Regular (call : Call Payload) : Prop where
  manual : call.manual = false
  timely : call.Timely

theorem Call.Regular.of_recording (hmanual : call.manual = false) (h : call.recording = none) :
    call.Regular :=
  ⟨hmanual, timely_of_recording h⟩

theorem regular_dispatchNext {event : String} {data : Payload} {rest : List WebhookSubscription} :
    ∀ c ∈ dispatchNext event data rest, c.Regular := by
  cases rest with
  | nil => exact fun _ hc => absurd hc List.not_mem_nil
  | cons subscription rest =>
    intro c hc
    rw [List.mem_singleton.mp hc]
    exact .of_recording rfl rfl

theorem regular_sweepNext {rest : List (WebhookDelivery Payload)} :
    ∀ c ∈ sweepNext rest, c.Regular := by
  cases rest with
  | nil => exact fun _ hc => absurd hc List.not_mem_nil
  | cons delivery rest =>
    intro c hc
    rw [List.mem_singleton.mp hc]
    exact .of_recording rfl rfl

theorem regular_of_resume (h : s.resume p call = some turn) (hcall : call.Regular) :
    ∀ c ∈ turn.next, c.Regular := by
  have hone : ∀ {next : Call Payload}, next.manual = false → next.recording = none →
      ∀ c ∈ [next], c.Regular := by
    intro next hmanual hrecording c hc
    rw [List.mem_singleton.mp hc]
    exact .of_recording hmanual hrecording
  cases call with
  | dispatchFind | sweepFind | record | recordCaught =>
    cases h
    first
      | exact regular_dispatchNext
      | exact regular_sweepNext
  | dispatchCreate | sweepFound =>
    cases h
    exact hone rfl rfl
  | dispatchCreated subscription delivery rest event data =>
    cases h
    intro c hc
    rcases List.mem_cons.mp hc with rfl | hnext
    · exact .of_recording rfl rfl
    · exact regular_dispatchNext c hnext
  | sweepSubscription delivery rest =>
    simp only [resume] at h
    split at h
    · cases h
      exact regular_sweepNext
    · split at h
      · cases h
        exact hone rfl rfl
      · cases h
        exact regular_sweepNext
  | post => cases h
  | retryWebhook | retryFind | retryRequeue => cases hcall.manual

theorem regular_of_respond {outcome : Outcome} (h : s.respond outcome call = some turn) :
    ∀ c ∈ turn.next, c.Regular := by
  cases call with
  | post delivery rest =>
    cases outcome with
    | response status body =>
      cases h
      intro c hc
      rw [List.mem_singleton.mp hc]
      refine ⟨rfl, ?_⟩
      intro x hx hnext
      cases hx
      exact isSome_attempted hnext
    | failed message =>
      cases h
      intro c hc
      rw [List.mem_singleton.mp hc]
      refine ⟨rfl, ?_⟩
      intro x hx hnext
      cases hx
      exact (isSome_nextAttemptAfter _ _).mp hnext
  | _ => cases h

theorem regular_of_reject {executed : Bool} (h : s.reject executed call = some turn) :
    ∀ c ∈ turn.next, c.Regular := by
  cases call with
  | record delivery result rest =>
    cases h
    intro c hc
    rw [List.mem_singleton.mp hc]
    refine ⟨rfl, ?_⟩
    intro x hx hnext
    cases hx
    exact (isSome_nextAttemptAfter _ _).mp hnext
  | dispatchCreated | sweepFound | post => cases h
  | _ =>
    cases h
    exact fun _ hc => absurd hc List.not_mem_nil

theorem regular_of_turn (h : s.turn p a = some (i, turn)) (hs : ∀ call ∈ s.calls, call.Regular) :
    ∀ c ∈ turn.next, c.Regular := by
  cases a with
  | resume j =>
    obtain ⟨call, hcall, hres⟩ := Option.bind_eq_some_iff.mp h
    obtain ⟨turn, hdo, heq⟩ := Option.map_eq_some_iff.mp hres
    cases heq
    exact regular_of_resume hdo (hs call (List.mem_of_getElem? hcall))
  | respond j outcome =>
    obtain ⟨call, -, hres⟩ := Option.bind_eq_some_iff.mp h
    obtain ⟨turn, hdo, heq⟩ := Option.map_eq_some_iff.mp hres
    cases heq
    exact regular_of_respond hdo
  | reject j executed =>
    obtain ⟨call, -, hres⟩ := Option.bind_eq_some_iff.mp h
    obtain ⟨turn, hdo, heq⟩ := Option.map_eq_some_iff.mp hres
    cases heq
    exact regular_of_reject hdo
  | _ => cases h

/-! ## The books -/

structure Accounted (s : Webhooks Payload) : Prop where
  regular : ∀ call ∈ s.calls, call.Regular
  distinct : (s.hands.map Hand.id).Nodup
  known : ∀ hand ∈ s.hands, hand.id < s.deliveries.nextId
  sent : ∀ post ∈ s.posted, post.body.deliveryId < s.deliveries.nextId
  held : ∀ hand ∈ s.hands,
    hand.stage.Accounts (s.deliveries.findById hand.id) (s.postsFor hand.id)
  free : ∀ d, (∀ hand ∈ s.hands, hand.id ≠ d) → Free (s.deliveries.findById d) (s.postsFor d)
  bound : ∀ d, s.postsFor d ≤ maxRetries + 1

/-- The call has not recorded the attempt it has made, as far as it goes. -/
def Call.unrecorded : Call Payload → Bool
  | .recordCaught _ _ _ recorded => !recorded
  | _ => false

/-- A sweep reads no row that a call has in hand, and no attempt fails to be recorded twice. -/
def Unshared (s : Webhooks Payload) : Action Payload → Prop
  | .resume i => Call.sweepFind ∈ s.calls[i]? →
      ∀ row ∈ s.deliveries.findDuePending s.now retrySweepBatchSize, ∀ hand ∈ s.hands,
        hand.id ≠ row.id
  | .reject i false => ∀ call ∈ s.calls[i]?, call.unrecorded = false
  | _ => True

instance [DecidableEq Payload] (s : Webhooks Payload) : ∀ a, Decidable (s.Unshared a)
  | .resume i => inferInstanceAs (Decidable (Call.sweepFind ∈ s.calls[i]? →
      ∀ row ∈ s.deliveries.findDuePending s.now retrySweepBatchSize, ∀ hand ∈ s.hands,
        hand.id ≠ row.id))
  | .reject i false =>
    inferInstanceAs (Decidable (∀ call ∈ s.calls[i]?, call.unrecorded = false))
  | .reject _ true => inferInstanceAs (Decidable True)
  | .advance _ => inferInstanceAs (Decidable True)
  | .edit _ => inferInstanceAs (Decidable True)
  | .dispatchStreamEvent _ _ _ => inferInstanceAs (Decidable True)
  | .sweepRetries => inferInstanceAs (Decidable True)
  | .retryDelivery _ _ => inferInstanceAs (Decidable True)
  | .respond _ _ => inferInstanceAs (Decidable True)

def Action.manual : Action Payload → Bool
  | .retryDelivery _ _ => true
  | _ => false

def Turn.postsFor (d : Nat) (turn : Turn Payload) : Nat :=
  turn.posted.countP fun post => post.body.deliveryId = d

theorem postsFor_settle (d : Nat) :
    (s.settle i turn).postsFor d = s.postsFor d + turn.postsFor d :=
  List.countP_append

theorem Turn.postsFor_of_nil {d : Nat} (h : turn.posted = []) : turn.postsFor d = 0 := by
  rw [Turn.postsFor, h]
  rfl

/-! ## One turn -/

/-- What a turn has to leave behind, seen from the call whose turn it is. -/
structure Balances (s : Webhooks Payload) (i : Nat) (turn : Turn Payload) : Prop where
  distinct : ((s.others i ++ turn.hands).map Hand.id).Nodup
  nextId : s.deliveries.nextId ≤ turn.deliveries.nextId
  known : ∀ hand ∈ turn.hands, hand.id < turn.deliveries.nextId
  sent : ∀ post ∈ turn.posted, ∃ hand ∈ turn.hands, hand.id = post.body.deliveryId
  others : ∀ hand ∈ s.others i,
    turn.deliveries.findById hand.id = s.deliveries.findById hand.id
  own : ∀ hand ∈ turn.hands, hand.stage.Accounts (turn.deliveries.findById hand.id)
    (s.postsFor hand.id + turn.postsFor hand.id)
  free : ∀ d, (∀ hand ∈ s.others i, hand.id ≠ d) → (∀ hand ∈ turn.hands, hand.id ≠ d) →
    Free (turn.deliveries.findById d) (s.postsFor d)

/-- No POST is made for a delivery that the call does not have in hand. -/
theorem Balances.postsFor_eq (h : Balances s i turn) {d : Nat}
    (hd : ∀ hand ∈ turn.hands, hand.id ≠ d) : (s.settle i turn).postsFor d = s.postsFor d := by
  rw [postsFor_settle, Nat.add_eq_left, Turn.postsFor, List.countP_eq_zero]
  intro post hpost hid
  obtain ⟨hand, hhand, heq⟩ := h.sent post hpost
  exact hd hand hhand (heq.trans (of_decide_eq_true hid))

theorem Balances.accounted (h : Balances s i turn) (hs : s.Accounted)
    (hcall : s.calls[i]? = some call) (hregular : ∀ c ∈ turn.next, c.Regular) :
    (s.settle i turn).Accounted := by
  have hown : ∀ hand ∈ turn.hands, hand.stage.Accounts (turn.deliveries.findById hand.id)
      ((s.settle i turn).postsFor hand.id) := by
    intro hand hhand
    rw [postsFor_settle]
    exact h.own hand hhand
  have hapart : ∀ other ∈ s.others i, ∀ hand ∈ turn.hands, hand.id ≠ other.id := by
    have hdistinct := h.distinct
    rw [List.map_append, List.nodup_append] at hdistinct
    intro other hother hand hhand heq
    exact hdistinct.2.2 _ (List.mem_map_of_mem hother) _ (List.mem_map_of_mem hhand) heq.symm
  constructor
  · intro c hc
    rcases List.mem_append.mp hc with hold | hnew
    · exact hs.regular c (List.mem_of_mem_eraseIdx hold)
    · exact hregular c hnew
  · rw [hands_settle]
    exact h.distinct
  · rw [hands_settle]
    intro hand hhand
    rcases List.mem_append.mp hhand with hother | hin
    · exact lt_of_lt_of_le (hs.known hand (mem_hands_of_others hcall hother)) h.nextId
    · exact h.known hand hin
  · intro post hpost
    rcases List.mem_append.mp hpost with hold | hnew
    · exact lt_of_lt_of_le (hs.sent post hold) h.nextId
    · obtain ⟨hand, hhand, heq⟩ := h.sent post hnew
      exact heq ▸ h.known hand hhand
  · rw [hands_settle]
    intro hand hhand
    rcases List.mem_append.mp hhand with hother | hin
    · rw [h.postsFor_eq (hapart hand hother)]
      show hand.stage.Accounts (turn.deliveries.findById hand.id) _
      rw [h.others hand hother]
      exact hs.held hand (mem_hands_of_others hcall hother)
    · exact hown hand hin
  · rw [hands_settle]
    intro d hd
    have hin : ∀ hand ∈ turn.hands, hand.id ≠ d := fun hand hhand =>
      hd hand (List.mem_append_right _ hhand)
    rw [h.postsFor_eq hin]
    exact h.free d (fun hand hhand => hd hand (List.mem_append_left _ hhand)) hin
  · intro d
    by_cases hd : ∃ hand ∈ turn.hands, hand.id = d
    · obtain ⟨hand, hhand, rfl⟩ := hd
      exact (hown hand hhand).bound
    · rw [h.postsFor_eq fun hand hhand heq => hd ⟨hand, hhand, heq⟩]
      exact hs.bound d

section
variable (hs : s.Accounted) (hcall : s.calls[i]? = some call)
include hs hcall

theorem distinct_call_others : ((call.hands ++ s.others i).map Hand.id).Nodup :=
  ((hands_perm hcall).map Hand.id).nodup_iff.mp hs.distinct

/-- The deliveries that a call has in hand are in no other hands. -/
theorem others_ne_of_mem {hand other : Hand} (h : hand ∈ call.hands) (hother : other ∈ s.others i) :
    other.id ≠ hand.id := by
  have hdistinct := distinct_call_others hs hcall
  rw [List.map_append, List.nodup_append] at hdistinct
  exact fun heq => hdistinct.2.2 _ (List.mem_map_of_mem h) _ (List.mem_map_of_mem hother) heq.symm

/-- It goes on with some of the deliveries that it had. -/
theorem distinct_of_sublist (h : (turn.hands.map Hand.id).Sublist (call.hands.map Hand.id)) :
    ((s.others i ++ turn.hands).map Hand.id).Nodup := by
  have hdistinct := distinct_call_others hs hcall
  rw [List.map_append] at hdistinct ⊢
  exact (List.nodup_append_comm.mp hdistinct).sublist (h.append_left _)

theorem known_of_sublist (h : (turn.hands.map Hand.id).Sublist (call.hands.map Hand.id)) :
    ∀ hand ∈ turn.hands, hand.id < s.deliveries.nextId := by
  intro hand hhand
  obtain ⟨old, hold, heq⟩ := List.mem_map.mp (h.subset (List.mem_map_of_mem hhand))
  exact heq ▸ hs.known old (mem_hands_of_call hcall hold)

/-- A turn that writes and sends nothing. -/
theorem Balances.of_same (hdeliveries : turn.deliveries = s.deliveries)
    (hposted : turn.posted = [])
    (hdistinct : ((s.others i ++ turn.hands).map Hand.id).Nodup)
    (hknown : ∀ hand ∈ turn.hands, hand.id < s.deliveries.nextId)
    (hown : ∀ hand ∈ turn.hands,
      hand.stage.Accounts (s.deliveries.findById hand.id) (s.postsFor hand.id))
    (hdropped : ∀ hand ∈ call.hands, (∀ h ∈ turn.hands, h.id ≠ hand.id) →
      Free (s.deliveries.findById hand.id) (s.postsFor hand.id)) :
    Balances s i turn where
  distinct := hdistinct
  nextId := by rw [hdeliveries]
  known := by
    rw [hdeliveries]
    exact hknown
  sent := by
    rw [hposted]
    exact fun _ h => absurd h List.not_mem_nil
  others := by
    rw [hdeliveries]
    exact fun _ _ => rfl
  own := by
    intro hand hhand
    rw [hdeliveries, Turn.postsFor_of_nil hposted]
    exact hown hand hhand
  free := by
    rw [hdeliveries]
    intro d hothers hturn
    by_cases hd : ∃ hand ∈ call.hands, hand.id = d
    · obtain ⟨hand, hhand, rfl⟩ := hd
      exact hdropped hand hhand hturn
    · apply hs.free d
      intro hand hhand heq
      rcases List.mem_append.mp ((hands_perm hcall).mem_iff.mp hhand) with hin | hin
      · exact hd ⟨hand, hin, heq⟩
      · exact hothers hand hin heq

/-- A turn that writes the row of a delivery in hand, and sends nothing. -/
theorem Balances.of_update {held : Hand} {rest : List Hand}
    {f : WebhookDeliveryRow Payload → WebhookDeliveryRow Payload} {hf : ∀ row, (f row).id = row.id}
    (hheld : call.hands = held :: rest)
    (hdeliveries : turn.deliveries = s.deliveries.update held.id f hf)
    (hposted : turn.posted = [])
    (hsub : (turn.hands.map Hand.id).Sublist (call.hands.map Hand.id))
    (hown : ∀ hand ∈ turn.hands, hand ∈ rest ∨ hand.id = held.id ∧
      hand.stage.Accounts ((s.deliveries.findById held.id).map f) (s.postsFor held.id))
    (hdropped : ∀ hand ∈ rest, (∀ h ∈ turn.hands, h.id ≠ hand.id) → hand.idle = true)
    (hfree : (∀ h ∈ turn.hands, h.id ≠ held.id) →
      Free ((s.deliveries.findById held.id).map f) (s.postsFor held.id)) :
    Balances s i turn := by
  have hmem : held ∈ call.hands := hheld ▸ List.mem_cons_self
  have hrest : ∀ hand ∈ rest, hand ∈ call.hands ∧ hand.id ≠ held.id := by
    intro hand hhand
    refine ⟨hheld ▸ List.mem_cons_of_mem _ hhand, fun heq => ?_⟩
    have hdistinct := (distinct_call_others hs hcall).sublist
      ((List.sublist_append_left call.hands (s.others i)).map Hand.id)
    rw [hheld, List.map_cons, List.nodup_cons] at hdistinct
    exact hdistinct.1 (heq ▸ List.mem_map_of_mem hhand)
  constructor
  · exact distinct_of_sublist hs hcall hsub
  · rw [hdeliveries]
    exact Nat.le_refl _
  · rw [hdeliveries]
    exact known_of_sublist hs hcall hsub
  · rw [hposted]
    exact fun _ h => absurd h List.not_mem_nil
  · intro other hother
    rw [hdeliveries]
    exact WebhookDeliveries.findById_update_of_ne (others_ne_of_mem hs hcall hmem hother)
  · intro hand hhand
    rw [hdeliveries, Turn.postsFor_of_nil hposted]
    rcases hown hand hhand with hin | ⟨heq, haccounts⟩
    · rw [WebhookDeliveries.findById_update_of_ne (hrest hand hin).2]
      exact hs.held hand (mem_hands_of_call hcall (hrest hand hin).1)
    · rw [heq, WebhookDeliveries.findById_update_self]
      exact haccounts
  · intro d hothers hturn
    rw [hdeliveries]
    by_cases hd : d = held.id
    · subst hd
      rw [WebhookDeliveries.findById_update_self]
      exact hfree hturn
    · rw [WebhookDeliveries.findById_update_of_ne hd]
      by_cases hin : ∃ hand ∈ rest, hand.id = d
      · obtain ⟨hand, hhand, rfl⟩ := hin
        have hmine := mem_hands_of_call hcall (hrest hand hhand).1
        exact (hs.held hand hmine).free_of_idle (hdropped hand hhand hturn)
      · apply hs.free d
        intro hand hhand heq
        rcases List.mem_append.mp ((hands_perm hcall).mem_iff.mp hhand) with hmine | hother
        · rw [hheld] at hmine
          rcases List.mem_cons.mp hmine with rfl | hlater
          · exact hd heq.symm
          · exact hin ⟨hand, hlater, heq⟩
        · exact hothers hand hother heq

/-- A sweep reads rows that nobody has in hand. -/
theorem Balances.of_reads
    (hdue : ∀ row ∈ s.deliveries.findDuePending s.now retrySweepBatchSize, ∀ hand ∈ s.hands,
      hand.id ≠ row.id) (hempty : call.hands = [])
    (hdeliveries : turn.deliveries = s.deliveries) (hposted : turn.posted = [])
    (hhands : turn.hands = (s.deliveries.findDuePending s.now retrySweepBatchSize).map
      fun row => Hand.waiting row.rowToDelivery) : Balances s i turn := by
  have hunheld : ∀ row ∈ s.deliveries.findDuePending s.now retrySweepBatchSize,
      Free (s.deliveries.findById row.id) (s.postsFor row.id) := fun row hrow =>
    hs.free row.id (hdue row hrow)
  have hfound : ∀ row ∈ s.deliveries.findDuePending s.now retrySweepBatchSize,
      s.deliveries.findById row.id = some row := fun row hrow =>
    WebhookDeliveries.findById_eq_some_iff.mpr ⟨(WebhookDeliveries.mem_findDuePending hrow).1, rfl⟩
  refine .of_same hs hcall hdeliveries hposted ?_ ?_ ?_ fun _ h => absurd (hempty ▸ h) List.not_mem_nil
  · rw [hhands, List.map_append, List.map_map, List.nodup_append]
    refine ⟨?_, s.deliveries.nodup_findDuePending s.now retrySweepBatchSize, ?_⟩
    · exact (distinct_call_others hs hcall).sublist
        ((List.sublist_append_right _ _).map Hand.id)
    · intro id hid id' hid'
      obtain ⟨hand, hhand, rfl⟩ := List.mem_map.mp hid
      obtain ⟨row, hrow, rfl⟩ := List.mem_map.mp hid'
      exact hdue row hrow hand (mem_hands_of_others hcall hhand)
  · rw [hhands]
    intro hand hhand
    obtain ⟨row, hrow, rfl⟩ := List.mem_map.mp hhand
    exact s.deliveries.sequence row (WebhookDeliveries.mem_findDuePending hrow).1
  · rw [hhands]
    intro hand hhand
    obtain ⟨row, hrow, rfl⟩ := List.mem_map.mp hhand
    refine ⟨hunheld row hrow row (hfound row hrow) (WebhookDeliveries.mem_findDuePending hrow).2, ?_⟩
    intro row' hrow'
    cases (hfound row hrow).symm.trans hrow'
    rfl

/-- A row is inserted, and the call takes it in hand or loses the answer. -/
theorem Balances.of_creates {subscriptionId : Nat} {event : String} {data : Payload}
    (hempty : call.hands = [])
    (hdeliveries : turn.deliveries = s.deliveries.create s.now subscriptionId event data)
    (hposted : turn.posted = [])
    (hhands : turn.hands = [⟨s.deliveries.nextId, .waiting 0⟩] ∨ turn.hands = []) :
    Balances s i turn := by
  have hnone : s.postsFor s.deliveries.nextId = 0 := by
    rw [postsFor, List.countP_eq_zero]
    intro post hpost hid
    exact absurd (of_decide_eq_true hid) (hs.sent post hpost).ne
  have hothers : ∀ hand ∈ s.others i, hand.id ≠ s.deliveries.nextId := fun hand hhand =>
    (hs.known hand (mem_hands_of_others hcall hhand)).ne
  have hnew : ∀ hand ∈ turn.hands, hand = ⟨s.deliveries.nextId, .waiting 0⟩ := by
    rcases hhands with hone | hnil
    · rw [hone]
      exact fun hand hhand => List.mem_singleton.mp hhand
    · rw [hnil]
      exact fun _ h => absurd h List.not_mem_nil
  constructor
  · have hold := (distinct_call_others hs hcall).sublist
      ((List.sublist_append_right _ _).map Hand.id)
    rcases hhands with hone | hnil
    · rw [hone]
      exact nodup_concat hold hothers
    · rw [hnil, List.append_nil]
      exact hold
  · rw [hdeliveries]
    exact Nat.le_succ _
  · rw [hdeliveries]
    intro hand hhand
    rw [hnew hand hhand]
    exact Nat.lt_succ_self _
  · rw [hposted]
    exact fun _ h => absurd h List.not_mem_nil
  · intro hand hhand
    rw [hdeliveries]
    exact WebhookDeliveries.findById_create_of_ne (hothers hand hhand)
  · intro hand hhand
    rw [hnew hand hhand, hdeliveries, Turn.postsFor_of_nil hposted,
      WebhookDeliveries.findById_create_self, hnone]
    refine ⟨Nat.zero_le _, ?_⟩
    intro row hrow
    cases hrow
    rfl
  · intro d hd _
    rw [hdeliveries]
    by_cases hfresh : d = s.deliveries.nextId
    · subst hfresh
      rw [hnone]
      exact fun _ _ _ => Nat.zero_le _
    · rw [WebhookDeliveries.findById_create_of_ne hfresh]
      apply hs.free d
      intro hand hhand
      have hin := (hands_perm hcall).mem_iff.mp hhand
      rw [hempty, List.nil_append] at hin
      exact hd hand hin

/-- The POST of a delivery that waits in hand is made. -/
theorem Balances.of_posts {delivery : WebhookDelivery Payload} {rest : List Hand}
    {post : Post Payload} (hpost : post.body.deliveryId = delivery.id)
    (hhead : call.hands = Hand.waiting delivery :: rest)
    (hdeliveries : turn.deliveries = s.deliveries) (hposted : turn.posted = [post])
    (hhands : turn.hands = Hand.posted delivery :: rest) : Balances s i turn := by
  have hown : ∀ hand ∈ call.hands,
      hand.stage.Accounts (s.deliveries.findById hand.id) (s.postsFor hand.id) := fun hand hhand =>
    hs.held hand (mem_hands_of_call hcall hhand)
  have hids := map_id_of_head hhead hhands rfl
  have hsub : (turn.hands.map Hand.id).Sublist (call.hands.map Hand.id) :=
    hids ▸ List.Sublist.refl _
  have hmem : Hand.waiting delivery ∈ call.hands := hhead ▸ List.mem_cons_self
  have hdistinct := distinct_of_sublist hs hcall hsub
  have hsent : ∀ d, turn.postsFor d = if delivery.id = d then 1 else 0 := by
    intro d
    rw [Turn.postsFor, hposted, List.countP_singleton, hpost]
    simp only [decide_eq_true_eq]
  constructor
  · exact hdistinct
  · rw [hdeliveries]
  · rw [hdeliveries]
    exact known_of_sublist hs hcall hsub
  · rw [hposted, hhands]
    intro post' hpost'
    rw [List.mem_singleton.mp hpost', hpost]
    exact ⟨.posted delivery, List.mem_cons_self, rfl⟩
  · rw [hdeliveries]
    exact fun _ _ => rfl
  · rw [hhands, hdeliveries]
    rw [hhands, List.map_append, List.map_cons, List.nodup_append, List.nodup_cons] at hdistinct
    intro hand hhand
    rcases List.mem_cons.mp hhand with rfl | hrest
    · have hone : turn.postsFor delivery.id = 1 := (hsent _).trans (if_pos rfl)
      show Stage.Accounts _ (_ + turn.postsFor delivery.id) _
      rw [hone]
      exact (hown _ hmem).post
    · have hne : delivery.id ≠ hand.id := by
        intro heq
        have hid := List.mem_map_of_mem (f := Hand.id) hrest
        rw [← heq] at hid
        exact hdistinct.2.1.1 hid
      rw [hsent, if_neg hne]
      exact hown hand (hhead ▸ List.mem_cons_of_mem _ hrest)
  · intro d hd hturn
    rw [hdeliveries]
    apply hs.free d
    intro hand hhand heq
    rcases List.mem_append.mp ((hands_perm hcall).mem_iff.mp hhand) with hmine | hother
    · have hid := List.mem_map_of_mem (f := Hand.id) hmine
      rw [← hids] at hid
      obtain ⟨hand', hhand', heq'⟩ := List.mem_map.mp hid
      exact hturn hand' hhand' (heq'.trans heq)
    · exact hd hand hother heq

/-- The row of a delivery in hand is recorded, and the call lets go of it. -/
theorem Balances.of_records {delivery : WebhookDelivery Payload} {result : RecordAttemptInput}
    {hand : Hand} {rest : List Hand}
    (hrecording : call.recording = some (delivery, result))
    (hhand : hand = Hand.posted delivery ∨ ∃ recorded, hand = Hand.caught delivery recorded)
    (hhead : call.hands = hand :: rest)
    (hdeliveries : turn.deliveries = s.deliveries.recordAttempt s.now delivery.id result)
    (hposted : turn.posted = []) (hhands : turn.hands = rest) : Balances s i turn := by
  have hid : hand.id = delivery.id := by
    rcases hhand with rfl | ⟨recorded, rfl⟩ <;> rfl
  have haccounts := hs.held hand (mem_hands_of_call hcall (hhead ▸ List.mem_cons_self))
  have htimely := (hs.regular call (List.mem_of_getElem? hcall)).timely _ hrecording
  rw [← hid] at hdeliveries
  refine .of_update hs hcall hhead hdeliveries hposted ?_ ?_ ?_ ?_
  · rw [hhands, hhead]
    exact List.sublist_cons_self _ _
  · rw [hhands]
    exact fun hand hhand => .inl hhand
  · rw [hhands]
    exact fun hand hin hgone => absurd rfl (hgone hand hin)
  · exact fun _ => haccounts.record hhand htimely

/-- The row is recorded, and the call does not know. -/
theorem Balances.of_misses {delivery : WebhookDelivery Payload} {result : RecordAttemptInput}
    {rest : List Hand} (hrecording : call.recording = some (delivery, result))
    (hhead : call.hands = Hand.posted delivery :: rest)
    (hdeliveries : turn.deliveries = s.deliveries.recordAttempt s.now delivery.id result)
    (hposted : turn.posted = []) (hhands : turn.hands = Hand.caught delivery true :: rest) :
    Balances s i turn := by
  have haccounts := hs.held _ (mem_hands_of_call hcall (hhead ▸ List.mem_cons_self))
  have htimely := (hs.regular call (List.mem_of_getElem? hcall)).timely _ hrecording
  have hids := map_id_of_head hhead hhands rfl
  refine .of_update hs hcall hhead hdeliveries hposted (hids ▸ List.Sublist.refl _) ?_ ?_ ?_
  · rw [hhands]
    intro hand hhand
    rcases List.mem_cons.mp hhand with rfl | hrest
    · exact .inr ⟨rfl, haccounts.miss htimely⟩
    · exact .inl hrest
  · rw [hhands]
    exact fun hand hin hgone => absurd rfl (hgone hand (List.mem_cons_of_mem _ hin))
  · rw [hhands]
    exact fun hgone => absurd rfl (hgone (.caught delivery true) List.mem_cons_self)

/-- The row is not recorded, and the call keeps the delivery for its `catch`. -/
theorem Balances.of_fails {delivery : WebhookDelivery Payload} {rest : List Hand}
    (hhead : call.hands = Hand.posted delivery :: rest)
    (hdeliveries : turn.deliveries = s.deliveries) (hposted : turn.posted = [])
    (hhands : turn.hands = Hand.caught delivery false :: rest) : Balances s i turn := by
  have hown : ∀ hand ∈ call.hands,
      hand.stage.Accounts (s.deliveries.findById hand.id) (s.postsFor hand.id) := fun hand hhand =>
    hs.held hand (mem_hands_of_call hcall hhand)
  have hids := map_id_of_head hhead hhands rfl
  have hsub : (turn.hands.map Hand.id).Sublist (call.hands.map Hand.id) :=
    hids ▸ List.Sublist.refl _
  refine .of_same hs hcall hdeliveries hposted (distinct_of_sublist hs hcall hsub)
    (known_of_sublist hs hcall hsub) ?_ ?_
  · rw [hhands]
    intro hand hhand
    rcases List.mem_cons.mp hhand with rfl | hrest
    · exact hown (.posted delivery) (hhead ▸ List.mem_cons_self)
    · exact hown hand (hhead ▸ List.mem_cons_of_mem _ hrest)
  · intro hand hhand hgone
    have hid := List.mem_map_of_mem (f := Hand.id) hhand
    rw [← hids] at hid
    obtain ⟨hand', hhand', heq⟩ := List.mem_map.mp hid
    exact absurd heq (hgone hand' hhand')

end

theorem balances_of_does (hs : s.Accounted) (hcall : s.calls[i]? = some call)
    (ha : s.Unshared a) (hi : ∀ j, (a = .resume j ∨ ∃ executed, a = .reject j executed) → j = i)
    (h : Does s a call turn) : Balances s i turn := by
  have hown : ∀ hand ∈ call.hands,
      hand.stage.Accounts (s.deliveries.findById hand.id) (s.postsFor hand.id) := fun hand hhand =>
    hs.held hand (mem_hands_of_call hcall hhand)
  have hregular := hs.regular call (List.mem_of_getElem? hcall)
  cases h with
  | passes dropped hdeliveries hposted hhands hdropped =>
    have hsub : turn.hands.Sublist call.hands := hhands ▸ List.sublist_append_right _ _
    refine .of_same hs hcall hdeliveries hposted (distinct_of_sublist hs hcall (hsub.map Hand.id))
      (known_of_sublist hs hcall (hsub.map Hand.id)) (fun hand hhand => hown hand (hsub.subset hhand))
      ?_
    intro hand hhand hgone
    have hin := hhand
    rw [hhands] at hin
    rcases List.mem_append.mp hin with hout | hkept
    · exact (hown hand hhand).free_of_idle (hdropped hand hout)
    · exact absurd rfl (hgone hand hkept)
  | reads j hj hsweep hdeliveries hposted hhands =>
    obtain rfl := hi j (.inl hj)
    subst hj hsweep
    exact .of_reads hs hcall (ha hcall) rfl hdeliveries hposted hhands
  | creates subscriptionId event data hempty hdeliveries hposted hhands =>
    exact .of_creates hs hcall hempty hdeliveries hposted hhands
  | posts delivery rest post hpost hhead hdeliveries hposted hhands =>
    exact .of_posts hs hcall hpost hhead hdeliveries hposted hhands
  | records j delivery result hand rest hj hrecording hhand hhead hdeliveries hposted hhands =>
    exact .of_records hs hcall hrecording hhand hhead hdeliveries hposted hhands
  | misses j delivery result rest hj hrecording hhead hdeliveries hposted hhands =>
    exact .of_misses hs hcall hrecording hhead hdeliveries hposted hhands
  | fails delivery rest hhead hdeliveries hposted hhands =>
    exact .of_fails hs hcall hhead hdeliveries hposted hhands
  | aborts j delivery result rest recorded executed hj hcaught hdeliveries hposted hhands =>
    obtain rfl := hi j (.inr ⟨executed, hj⟩)
    subst hj hcaught
    have hhead : Hand.caught delivery recorded ∈
        (Call.recordCaught delivery result rest recorded).hands := List.mem_cons_self
    cases executed with
    | false =>
      refine .of_same hs hcall hdeliveries hposted ?_ ?_ ?_ ?_
      · rw [hhands, List.append_nil]
        exact (distinct_call_others hs hcall).sublist ((List.sublist_append_right _ _).map Hand.id)
      · rw [hhands]
        exact fun _ h => absurd h List.not_mem_nil
      · rw [hhands]
        exact fun _ h => absurd h List.not_mem_nil
      · intro hand hhand _
        rcases List.mem_cons.mp hhand with rfl | hrest
        · have hrecorded : recorded = true := by simpa [Call.unrecorded] using ha _ hcall
          subst hrecorded
          exact (hown _ hhead).2.1
        · exact (hown hand hhand).free_of_idle (idle_of_mem_map_waiting hrest)
    | true =>
      have hwritten : turn.deliveries = s.deliveries.recordAttempt s.now delivery.id result :=
        hdeliveries
      have hheld : (Call.recordCaught delivery result rest recorded).hands =
        Hand.caught delivery recorded :: rest.map Hand.waiting := rfl
      refine .of_update hs hcall hheld hwritten hposted ?_ ?_ ?_ ?_
      · rw [hhands]
        exact List.nil_sublist _
      · rw [hhands]
        exact fun _ h => absurd h List.not_mem_nil
      · exact fun hand hrest _ => idle_of_mem_map_waiting hrest
      · exact fun _ => (hown _ hhead).record (.inr ⟨recorded, rfl⟩)
          (hregular.timely (delivery, result) rfl)
  | finds row hmanual =>
    rw [hregular.manual] at hmanual
    cases hmanual
  | requeues deliveryId hmanual =>
    rw [hregular.manual] at hmanual
    cases hmanual

/-! ## Steps and runs -/

theorem step_accounted (hs : s.Accounted) (hunshared : s.Unshared a) (hmanual : a.manual = false)
    (h : step p s a = some t) : t.Accounted := by
  rcases step_cases h with ⟨hdeliveries, hposted, hcalls⟩ | ⟨call, rfl, hhands, hrecording, hretry⟩ |
    ⟨i, call, turn, hcall, hturn, rfl, hdoes⟩
  · have hposts : ∀ d, t.postsFor d = s.postsFor d := fun d => by rw [postsFor, hposted, postsFor]
    have hhands : t.hands = s.hands := by rw [hands, hcalls, hands]
    constructor
    · rw [hcalls]
      exact hs.regular
    · rw [hhands]
      exact hs.distinct
    · rw [hhands, hdeliveries]
      exact hs.known
    · rw [hposted, hdeliveries]
      exact hs.sent
    · simp only [hhands, hdeliveries, hposts]
      exact hs.held
    · simp only [hhands, hdeliveries, hposts]
      exact hs.free
    · simp only [hposts]
      exact hs.bound
  · have hsame : (s.start call).hands = s.hands := by rw [hands_start, hhands, List.append_nil]
    constructor
    · intro c hc
      rcases List.mem_append.mp hc with hold | hnew
      · exact hs.regular c hold
      · rw [List.mem_singleton.mp hnew]
        refine .of_recording (Bool.eq_false_of_not_eq_true fun hm => ?_) hrecording
        obtain ⟨webhookId, deliveryId, rfl⟩ := hretry hm
        cases hmanual
    · rw [hsame]
      exact hs.distinct
    · rw [hsame]
      exact hs.known
    · exact hs.sent
    · rw [hsame]
      exact hs.held
    · rw [hsame]
      exact hs.free
    · exact hs.bound
  · exact (balances_of_does hs hcall hunshared (turn_index hturn) hdoes).accounted hs hcall
      (regular_of_turn hturn hs.regular)

theorem accounted_of_idle (hcalls : s.calls = []) (hposted : s.posted = []) : s.Accounted := by
  have hhands : s.hands = [] := by
    rw [hands, hcalls]
    rfl
  have hposts : ∀ d, s.postsFor d = 0 := by
    intro d
    rw [postsFor, hposted]
    rfl
  constructor
  · rw [hcalls]
    exact fun _ h => absurd h List.not_mem_nil
  · rw [hhands]
    exact List.nodup_nil
  · rw [hhands]
    exact fun _ h => absurd h List.not_mem_nil
  · rw [hposted]
    exact fun _ h => absurd h List.not_mem_nil
  · rw [hhands]
    exact fun _ h => absurd h List.not_mem_nil
  · intro d _ row _ _
    rw [hposts]
    exact Nat.zero_le _
  · intro d
    rw [hposts]
    exact Nat.zero_le _

/-- A call with a POST in flight has the delivery in hand. -/
theorem countP_posting_le (calls : List (Call Payload)) (d : Nat) :
    calls.countP (Call.posting d) ≤ ((calls.flatMap Call.hands).map Hand.id).count d := by
  induction calls with
  | nil => exact Nat.le_refl _
  | cons call calls ih =>
    rw [List.flatMap_cons, List.map_append, List.count_append, List.countP_cons]
    have hhead : (if call.posting d = true then 1 else 0) ≤ (call.hands.map Hand.id).count d := by
      split
      · next hposting =>
        apply List.count_pos_iff.mpr
        cases call with
        | post delivery rest =>
          have hid : delivery.id = d := of_decide_eq_true hposting
          exact hid ▸ List.mem_cons_self
        | _ => cases hposting
      · exact Nat.zero_le _
    omega

theorem Accounted.inFlight_le (hs : s.Accounted) (d : Nat) : s.inFlight d ≤ 1 :=
  (countP_posting_le s.calls d).trans (List.nodup_iff_count_le_one.mp hs.distinct d)

/-- One POST at a time, and no more than the first attempt and the retries, as long as one
call at a time has the delivery in hand and every attempt gets recorded. -/
theorem attempts_bounded {as : List (Action Payload)} (hcalls : s.calls = [])
    (hposted : s.posted = []) (hmanual : ∀ a ∈ as, a.manual = false)
    (hunshared : AllSteps (step p) (fun r a _ => r.Unshared a) s as)
    (h : run (step p) s as = some t) (d : Nat) :
    t.inFlight d ≤ 1 ∧ t.postsFor d ≤ maxRetries + 1 := by
  have haccounted : t.Accounted :=
    AllSteps.invariant
      (fun r a r' hr ha (hstep : step p r a = some r') => step_accounted hr ha.1 ha.2 hstep)
      (accounted_of_idle hcalls hposted) (hunshared.and_actions hmanual) h
  exact ⟨haccounted.inFlight_le d, haccounted.bound d⟩

/-- The first attempt fails, and the sweep of a minute later makes the first retry. -/
def retriedOnce : List (Action String) :=
  dispatched ++ [.respond 0 (.failed "timeout"), .resume 0, .advance 60000000] ++ sweptAfter 0

theorem attempts_bounded_retriedOnce : ∃ t,
    run (step plainPlatform) newWebhooks retriedOnce = some t ∧
      t.inFlight 1 ≤ 1 ∧ t.postsFor 1 ≤ maxRetries + 1 := by
  have hmanual : ∀ a ∈ retriedOnce, a.manual = false := by decide +kernel
  have hunshared : AllSteps (step plainPlatform) (fun r a _ => r.Unshared a) newWebhooks
      retriedOnce := by decide +kernel
  have hcheck : (run (step plainPlatform) newWebhooks retriedOnce).isSome = true := by
    decide +kernel
  obtain ⟨t, ht⟩ := Option.isSome_iff_exists.mp hcheck
  exact ⟨t, ht, attempts_bounded rfl rfl hmanual hunshared ht 1⟩

/-- A sweep makes a second POST while the first attempt is in flight. -/
theorem attempts_overlap : ¬∀ (p : Platform String) (s t : Webhooks String)
    (as : List (Action String)) (d : Nat), s.calls = [] → s.posted = [] →
      (∀ a ∈ as, a.manual = false) → run (step p) s as = some t →
      t.inFlight d ≤ 1 ∧ t.postsFor d ≤ maxRetries + 1 := by
  intro h
  have hcheck : (run (step plainPlatform) newWebhooks (dispatched ++ sweptAfter 1)).map
      (fun t => decide (t.inFlight 1 = 2)) = some true := by decide +kernel
  obtain ⟨t, ht, hcheck⟩ := Option.map_eq_some_iff.mp hcheck
  have hmanual : ∀ a ∈ dispatched ++ sweptAfter 1, a.manual = false := by decide +kernel
  have hone := (h plainPlatform newWebhooks t _ 1 rfl rfl hmanual ht).1
  rw [of_decide_eq_true hcheck] at hone
  exact absurd hone (by decide)

end Webhooks
end Api
end XStreamRoll
