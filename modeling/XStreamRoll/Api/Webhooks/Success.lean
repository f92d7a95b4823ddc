/-
What becomes of a delivery that has succeeded.

`recordAttempt` and `requeue` write a row whatever its status is, so a success stays for
as long as nobody writes the row again.  The sweep reads pending rows only, and the manual
retry turns a delivered row away.  What is left are the calls that have read the row
before, and a call that takes its own record for a failure because the answer was lost.
-/
import XStreamRoll.Api.Webhooks.Turns

namespace XStreamRoll
namespace Api
namespace Webhooks

open Transition

variable {Payload : Type} {p : Platform Payload} {s t u : Webhooks Payload} {a : Action Payload}
  {call : Call Payload} {turn : Turn Payload} {i : Nat}

/-! ## Rows that are not delivered -/

/-- The table has the row, and it is not delivered. -/
def Unfinished (table : WebhookDeliveries Payload) (id : Nat) : Prop :=
  ∃ row ∈ table.rows, row.id = id ∧ row.status ≠ .success

section
variable {table : WebhookDeliveries Payload} {id id' : Nat} {row : WebhookDeliveryRow Payload}
  {f : WebhookDeliveryRow Payload → WebhookDeliveryRow Payload} {hf : ∀ row, (f row).id = row.id}

theorem Unfinished.status_ne (h : Unfinished table id) (hrow : row ∈ table.rows)
    (hid : row.id = id) : row.status ≠ .success := by
  obtain ⟨row', hrow', hid', hstatus⟩ := h
  rw [WebhookDeliveries.eq_of_id hrow hrow' (hid.trans hid'.symm)]
  exact hstatus

theorem Unfinished.update_of_ne (h : Unfinished table id') (hne : id' ≠ id) :
    Unfinished (table.update id f hf) id' := by
  obtain ⟨row, hrow, hid, hstatus⟩ := h
  exact ⟨row, WebhookDeliveries.mem_update.mpr (.inl ⟨hrow, hid ▸ hne⟩), hid, hstatus⟩

/-- A row that is written without success is not delivered afterwards. -/
theorem Unfinished.update (h : Unfinished table id') (hstatus : ∀ row, (f row).status ≠ .success) :
    Unfinished (table.update id f hf) id' := by
  by_cases hne : id' = id
  · obtain ⟨row, hrow, hid, -⟩ := h
    refine ⟨f row, WebhookDeliveries.mem_update.mpr (.inr ⟨row, hrow, hid.trans hne, rfl⟩), ?_,
      hstatus row⟩
    rw [hf, hid]
  · exact h.update_of_ne hne

theorem Unfinished.create (h : Unfinished table id) (t : Timestamptz) (subscriptionId : Nat)
    (event : String) (data : Payload) :
    Unfinished (table.create t subscriptionId event data) id := by
  obtain ⟨row, hrow, hid, hstatus⟩ := h
  exact ⟨row, WebhookDeliveries.mem_create.mpr (.inl hrow), hid, hstatus⟩

/-- A delivered row is none of those that are written. -/
theorem Unfinished.keeps (h : Unfinished table id) (hrow : row ∈ table.rows)
    (hsuccess : row.status = .success) : row ∈ (table.update id f hf).rows :=
  WebhookDeliveries.mem_update.mpr (.inl ⟨hrow, fun hid => h.status_ne hrow hid hsuccess⟩)

end

theorem unfinished_of_ids {table : WebhookDeliveries Payload} {hands hands' : List Hand}
    (hids : hands'.map Hand.id = hands.map Hand.id)
    (h : ∀ hand ∈ hands, Unfinished table hand.id) :
    ∀ hand ∈ hands', Unfinished table hand.id := by
  intro hand hhand
  have hid := List.mem_map_of_mem (f := Hand.id) hhand
  rw [hids] at hid
  obtain ⟨old, hold, heq⟩ := List.mem_map.mp hid
  exact heq ▸ h old hold

theorem status_recordAttempt {now : Timestamptz} {result : RecordAttemptInput}
    (h : result.success = false) (row : WebhookDeliveryRow Payload) :
    (row.recordAttempt now result).status ≠ .success := by
  show result.status ≠ .success
  rw [RecordAttemptInput.status, h, if_neg Bool.false_ne_true]
  split <;> simp

/-- No delivered row is in the hands of a call. -/
structure Undelivered (s : Webhooks Payload) : Prop where
  unfinished : ∀ hand ∈ s.hands, Unfinished s.deliveries hand.id
  distinct : ∀ call ∈ s.calls, (call.hands.map Hand.id).Nodup

/-- No success is recorded while another call has the delivery in hand, nor by a statement
whose answer is lost. -/
def Exclusive (s : Webhooks Payload) : Action Payload → Prop
  | .resume i => ∀ call ∈ s.calls[i]?, ∀ x ∈ call.recording, x.2.success = true →
      ∀ hand ∈ s.others i, hand.id ≠ x.1.id
  | .reject i true => ∀ call ∈ s.calls[i]?, ∀ x ∈ call.recording, x.2.success = false
  | _ => True

instance (s : Webhooks Payload) : ∀ a, Decidable (s.Exclusive a)
  | .resume i => inferInstanceAs (Decidable (∀ call ∈ s.calls[i]?, ∀ x ∈ call.recording,
      x.2.success = true → ∀ hand ∈ s.others i, hand.id ≠ x.1.id))
  | .reject i true => inferInstanceAs (Decidable (∀ call ∈ s.calls[i]?, ∀ x ∈ call.recording,
      x.2.success = false))
  | .reject _ false => inferInstanceAs (Decidable True)
  | .advance _ => inferInstanceAs (Decidable True)
  | .edit _ => inferInstanceAs (Decidable True)
  | .dispatchStreamEvent _ _ _ => inferInstanceAs (Decidable True)
  | .sweepRetries => inferInstanceAs (Decidable True)
  | .retryDelivery _ _ => inferInstanceAs (Decidable True)
  | .respond _ _ => inferInstanceAs (Decidable True)

/-- A delivered row stays as it is, and no POST is made for it. -/
def Keeps (s t : Webhooks Payload) : Prop :=
  ∀ row ∈ s.deliveries.rows, row.status = .success →
    row ∈ t.deliveries.rows ∧ t.postsFor row.id = s.postsFor row.id

/-! ## One turn -/

/-- What a turn has to leave behind, seen from the call whose turn it is. -/
structure Leaves (s : Webhooks Payload) (i : Nat) (turn : Turn Payload) : Prop where
  unfinished : ∀ hand ∈ s.others i ++ turn.hands, Unfinished turn.deliveries hand.id
  distinct : (turn.hands.map Hand.id).Nodup
  rows : ∀ row ∈ s.deliveries.rows, row.status = .success → row ∈ turn.deliveries.rows
  posts : ∀ post ∈ turn.posted, Unfinished s.deliveries post.body.deliveryId

theorem Leaves.undelivered (h : Leaves s i turn) (hs : s.Undelivered) :
    (s.settle i turn).Undelivered where
  unfinished := by
    rw [hands_settle]
    exact h.unfinished
  distinct := by
    intro c hc
    rcases List.mem_append.mp hc with hother | hown
    · exact hs.distinct c (List.mem_of_mem_eraseIdx hother)
    · exact h.distinct.sublist ((List.sublist_flatten_of_mem (List.mem_map_of_mem hown)).map Hand.id)

theorem Leaves.keeps (h : Leaves s i turn) : Keeps s (s.settle i turn) := by
  intro row hrow hsuccess
  refine ⟨h.rows row hrow hsuccess, ?_⟩
  show (s.posted ++ turn.posted).countP _ = s.posted.countP _
  rw [List.countP_append, Nat.add_eq_left, List.countP_eq_zero]
  intro post hpost hid
  exact (h.posts post hpost).status_ne hrow (of_decide_eq_true hid).symm hsuccess

/-- A turn that writes nothing. -/
theorem Leaves.of_same (hothers : ∀ hand ∈ s.others i, Unfinished s.deliveries hand.id)
    (hdeliveries : turn.deliveries = s.deliveries) (hdistinct : (turn.hands.map Hand.id).Nodup)
    (hhands : ∀ hand ∈ turn.hands, Unfinished s.deliveries hand.id)
    (hposts : ∀ post ∈ turn.posted, Unfinished s.deliveries post.body.deliveryId) :
    Leaves s i turn where
  unfinished := by
    rw [hdeliveries]
    exact fun hand hhand => (List.mem_append.mp hhand).elim (hothers hand) (hhands hand)
  distinct := hdistinct
  rows := by
    rw [hdeliveries]
    exact fun row hrow _ => hrow
  posts := hposts

/-- A turn that writes a row that the call has in hand, and sends nothing. -/
theorem Leaves.of_update {id : Nat}
    {f : WebhookDeliveryRow Payload → WebhookDeliveryRow Payload} {hf : ∀ row, (f row).id = row.id}
    (hid : Unfinished s.deliveries id) (hdeliveries : turn.deliveries = s.deliveries.update id f hf)
    (hposted : turn.posted = []) (hdistinct : (turn.hands.map Hand.id).Nodup)
    (hhands : ∀ hand ∈ s.others i ++ turn.hands, Unfinished s.deliveries hand.id ∧
      ((∃ row, (f row).status = .success) → hand.id ≠ id)) :
    Leaves s i turn where
  unfinished := by
    rw [hdeliveries]
    intro hand hhand
    obtain ⟨hold, hne⟩ := hhands hand hhand
    by_cases hsuccess : ∃ row, (f row).status = .success
    · exact hold.update_of_ne (hne hsuccess)
    · exact hold.update fun row hrow => hsuccess ⟨row, hrow⟩
  distinct := hdistinct
  rows := by
    rw [hdeliveries]
    exact fun row hrow hsuccess => hid.keeps hrow hsuccess
  posts := by
    rw [hposted]
    exact fun _ h => absurd h List.not_mem_nil

/-- A turn that writes a row as one that is not delivered. -/
theorem Leaves.of_unsuccessful {id : Nat}
    {f : WebhookDeliveryRow Payload → WebhookDeliveryRow Payload} {hf : ∀ row, (f row).id = row.id}
    (hid : Unfinished s.deliveries id) (hdeliveries : turn.deliveries = s.deliveries.update id f hf)
    (hposted : turn.posted = []) (hnot : ∀ row, (f row).status ≠ .success)
    (hdistinct : (turn.hands.map Hand.id).Nodup)
    (hhands : ∀ hand ∈ s.others i ++ turn.hands, Unfinished s.deliveries hand.id) :
    Leaves s i turn :=
  .of_update hid hdeliveries hposted hdistinct fun hand hhand =>
    ⟨hhands hand hhand, fun ⟨row, hrow⟩ => absurd hrow (hnot row)⟩

/-- A turn that makes a row. -/
theorem Leaves.of_create {webhookSubscriptionId : Nat} {event : String} {data : Payload}
    (hothers : ∀ hand ∈ s.others i, Unfinished s.deliveries hand.id)
    (hdeliveries : turn.deliveries = s.deliveries.create s.now webhookSubscriptionId event data)
    (hposted : turn.posted = [])
    (hhands : turn.hands = [⟨s.deliveries.nextId, .waiting 0⟩] ∨ turn.hands = []) :
    Leaves s i turn where
  unfinished := by
    have hnew : ∀ hand ∈ turn.hands, hand.id = s.deliveries.nextId := by
      intro hand hhand
      rcases hhands with hone | hnil
      · rw [hone] at hhand
        rw [List.mem_singleton.mp hhand]
      · rw [hnil] at hhand
        cases hhand
    rw [hdeliveries]
    intro hand hhand
    rcases List.mem_append.mp hhand with hother | hown
    · exact (hothers hand hother).create _ _ _ _
    · refine ⟨_, WebhookDeliveries.mem_create.mpr (.inr rfl), (hnew hand hown).symm, ?_⟩
      show WebhookDeliveryStatus.pending ≠ .success
      simp
  distinct := by
    rcases hhands with hone | hnil
    · rw [hone]
      exact List.nodup_singleton _
    · rw [hnil]
      exact List.nodup_nil
  rows := by
    rw [hdeliveries]
    exact fun row hrow _ => WebhookDeliveries.mem_create.mpr (.inl hrow)
  posts := by
    rw [hposted]
    exact fun _ h => absurd h List.not_mem_nil

theorem leaves_of_does (hs : s.Undelivered) (hcall : s.calls[i]? = some call)
    (ha : s.Exclusive a) (hi : ∀ j, (a = .resume j ∨ ∃ executed, a = .reject j executed) → j = i)
    (h : Does s a call turn) : Leaves s i turn := by
  have hothers : ∀ hand ∈ s.others i, Unfinished s.deliveries hand.id := fun hand hhand =>
    hs.unfinished hand (mem_hands_of_others hcall hhand)
  have hown : ∀ hand ∈ call.hands, Unfinished s.deliveries hand.id := fun hand hhand =>
    hs.unfinished hand (mem_hands_of_call hcall hhand)
  have hnodup := hs.distinct call (List.mem_of_getElem? hcall)
  have hnone : turn.posted = [] →
      ∀ post ∈ turn.posted, Unfinished s.deliveries post.body.deliveryId := by
    intro hposted post hpost
    rw [hposted] at hpost
    cases hpost
  cases h with
  | passes dropped hdeliveries hposted hhands hdropped =>
    have hsub : turn.hands.Sublist call.hands := hhands ▸ List.sublist_append_right _ _
    exact .of_same hothers hdeliveries (hnodup.sublist (hsub.map Hand.id))
      (fun hand hhand => hown hand (hsub.subset hhand)) (hnone hposted)
  | reads j hj hsweep hdeliveries hposted hhands =>
    apply Leaves.of_same hothers hdeliveries
    · rw [hhands, List.map_map]
      exact s.deliveries.nodup_findDuePending s.now retrySweepBatchSize
    · rw [hhands]
      intro hand hhand
      obtain ⟨row, hrow, rfl⟩ := List.mem_map.mp hhand
      obtain ⟨hmem, hstatus⟩ := WebhookDeliveries.mem_findDuePending hrow
      exact ⟨row, hmem, rfl, by rw [hstatus]; simp⟩
    · exact hnone hposted
  | creates subscriptionId event data hempty hdeliveries hposted hhands =>
    exact .of_create hothers hdeliveries hposted hhands
  | posts delivery rest post hpost hhead hdeliveries hposted hhands =>
    have hids := map_id_of_head hhead hhands rfl
    apply Leaves.of_same hothers hdeliveries (hids ▸ hnodup) (unfinished_of_ids hids hown)
    rw [hposted]
    intro post' hpost'
    rw [List.mem_singleton.mp hpost', hpost]
    exact hown (.waiting delivery) (hhead ▸ List.mem_cons_self)
  | records j delivery result hand rest hj hrecording hhand hhead hdeliveries hposted hhands =>
    obtain rfl := hi j (.inl hj)
    subst hj
    have hid : hand.id = delivery.id := by
      rcases hhand with rfl | ⟨recorded, rfl⟩ <;> rfl
    rw [hhead] at hown hnodup
    rw [List.map_cons, List.nodup_cons, hid] at hnodup
    refine .of_update (hid ▸ hown hand List.mem_cons_self) hdeliveries hposted ?_ ?_
    · rw [hhands]
      exact hnodup.2
    · rintro other hother
      rcases List.mem_append.mp hother with hin | hin
      · refine ⟨hothers other hin, fun ⟨row, hrow⟩ => ?_⟩
        apply ha call hcall _ hrecording _ other hin
        by_contra hfailed
        exact status_recordAttempt (Bool.eq_false_of_not_eq_true hfailed) row hrow
      · rw [hhands] at hin
        refine ⟨hown other (List.mem_cons_of_mem _ hin), fun _ heq => ?_⟩
        exact hnodup.1 (heq ▸ List.mem_map_of_mem hin)
  | misses j delivery result rest hj hrecording hhead hdeliveries hposted hhands =>
    obtain rfl := hi j (.inr ⟨true, hj⟩)
    subst hj
    have hfailed : ∀ row : WebhookDeliveryRow Payload,
        (row.recordAttempt s.now result).status ≠ .success :=
      status_recordAttempt (ha call hcall _ hrecording)
    have hids := map_id_of_head hhead hhands rfl
    refine .of_unsuccessful (hown (.posted delivery) (hhead ▸ List.mem_cons_self)) hdeliveries
      hposted hfailed (hids ▸ hnodup) fun other hother => ?_
    exact (List.mem_append.mp hother).elim (hothers other) (unfinished_of_ids hids hown other)
  | fails delivery rest hhead hdeliveries hposted hhands =>
    have hids := map_id_of_head hhead hhands rfl
    exact .of_same hothers hdeliveries (hids ▸ hnodup) (unfinished_of_ids hids hown) (hnone hposted)
  | aborts j delivery result rest recorded executed hj hcaught hdeliveries hposted hhands =>
    obtain rfl := hi j (.inr ⟨executed, hj⟩)
    subst hj hcaught
    have hnil : (turn.hands.map Hand.id).Nodup := by
      rw [hhands]
      exact List.nodup_nil
    cases executed with
    | false =>
      apply Leaves.of_same hothers hdeliveries hnil _ (hnone hposted)
      rw [hhands]
      exact fun _ h => absurd h List.not_mem_nil
    | true =>
      have hfailed : ∀ row : WebhookDeliveryRow Payload,
          (row.recordAttempt s.now result).status ≠ .success :=
        status_recordAttempt (ha _ hcall (delivery, result) rfl)
      have hwritten : turn.deliveries = s.deliveries.recordAttempt s.now delivery.id result :=
        hdeliveries
      refine .of_unsuccessful (hown _ List.mem_cons_self) hwritten hposted hfailed hnil ?_
      rw [hhands, List.append_nil]
      exact hothers
  | finds row hmanual hrow hstatus hempty hdeliveries hposted hhands =>
    apply Leaves.of_same hothers hdeliveries
    · rw [hhands]
      exact List.nodup_singleton _
    · rw [hhands]
      intro hand hhand
      rw [List.mem_singleton.mp hhand]
      exact ⟨row, hrow, rfl, hstatus⟩
    · exact hnone hposted
  | requeues deliveryId hmanual hone hdeliveries hposted hhands =>
    refine .of_unsuccessful (hown ⟨deliveryId, .requeue⟩ (by rw [hone]; exact List.mem_cons_self))
      hdeliveries hposted (fun row hrow => by cases hrow) ?_ ?_
    · rw [hhands]
      exact List.nodup_nil
    · rw [hhands, List.append_nil]
      exact hothers

/-! ## Steps and runs -/

theorem step_undelivered (hs : s.Undelivered) (ha : s.Exclusive a) (h : step p s a = some t) :
    t.Undelivered ∧ Keeps s t := by
  rcases step_cases h with ⟨hdeliveries, hposted, hcalls⟩ | ⟨call, rfl, hhands, -, -⟩ |
    ⟨i, call, turn, hcall, hturn, rfl, hdoes⟩
  · constructor
    · refine ⟨?_, hcalls ▸ hs.distinct⟩
      rw [hands, hcalls, hdeliveries]
      exact hs.unfinished
    · intro row hrow _
      rw [hdeliveries, postsFor, hposted]
      exact ⟨hrow, rfl⟩
  · constructor
    · constructor
      · rw [hands_start, hhands, List.append_nil]
        exact hs.unfinished
      · intro c hc
        rcases List.mem_append.mp hc with hold | hnew
        · exact hs.distinct c hold
        · rw [List.mem_singleton.mp hnew, hhands]
          exact List.nodup_nil
    · exact fun row hrow _ => ⟨hrow, rfl⟩
  · have hleaves := leaves_of_does hs hcall ha (turn_index hturn) hdoes
    exact ⟨hleaves.undelivered hs, hleaves.keeps⟩

theorem undelivered_of_idle (h : s.calls = []) : s.Undelivered where
  unfinished := by
    rw [hands, h]
    exact fun _ hhand => absurd hhand List.not_mem_nil
  distinct := by
    rw [h]
    exact fun _ hcall => absurd hcall List.not_mem_nil

theorem statusOf_eq_some_iff {d : Nat} {status : WebhookDeliveryStatus} :
    s.statusOf d = some status ↔ ∃ row ∈ s.deliveries.rows, row.id = d ∧ row.status = status := by
  rw [statusOf, Option.map_eq_some_iff]
  constructor
  · rintro ⟨row, hrow, hstatus⟩
    obtain ⟨hmem, hid⟩ := WebhookDeliveries.findById_eq_some_iff.mp hrow
    exact ⟨row, hmem, hid, hstatus⟩
  · rintro ⟨row, hmem, hid, hstatus⟩
    exact ⟨row, WebhookDeliveries.findById_eq_some_iff.mpr ⟨hmem, hid⟩, hstatus⟩

/-- A delivery that has succeeded stays so, and no POST is made for it any more, as long as
no success is recorded over the head of another call. -/
theorem success_terminal {before after : List (Action Payload)} {d : Nat} (hs : s.calls = [])
    (hexclusive : AllSteps (step p) (fun r a _ => r.Exclusive a) s (before ++ after))
    (ht : run (step p) s before = some t) (hu : run (step p) t after = some u)
    (hsuccess : t.statusOf d = some .success) :
    u.statusOf d = some .success ∧ u.postsFor d = t.postsFor d := by
  obtain ⟨row, hrow, rfl, hstatus⟩ := statusOf_eq_some_iff.mp hsuccess
  have hundelivered : t.Undelivered :=
    AllSteps.invariant
      (fun r a r' hr ha (hstep : step p r a = some r') => (step_undelivered hr ha hstep).1)
      (undelivered_of_idle hs) hexclusive.of_append ht
  have hstays : u.Undelivered ∧ row ∈ u.deliveries.rows ∧ u.postsFor row.id = t.postsFor row.id := by
    refine AllSteps.invariant
      (I := fun r => r.Undelivered ∧ row ∈ r.deliveries.rows ∧
        r.postsFor row.id = t.postsFor row.id) ?_ ⟨hundelivered, hrow, rfl⟩
      (hexclusive.after_run ht) hu
    rintro r a r' ⟨hr, hin, hposts⟩ ha hstep
    obtain ⟨hr', hkeeps⟩ := step_undelivered hr ha hstep
    obtain ⟨hin', hsame⟩ := hkeeps row hin hstatus
    exact ⟨hr', hin', hsame.trans hposts⟩
  exact ⟨statusOf_eq_some_iff.mpr ⟨row, hstays.2.1, rfl, hstatus⟩, hstays.2.2⟩

/-- The first attempt succeeds. -/
def deliveredAtOnce : List (Action String) :=
  dispatched ++ [.respond 0 (.response 200 "ok"), .resume 0]

/-- A sweep finds nothing, and a manual retry is turned away. -/
def retriedAfterwards : List (Action String) :=
  [.sweepRetries, .resume 0, .retryDelivery 1 1, .resume 0, .resume 0]

theorem success_terminal_retriedAfterwards : ∃ t u,
    run (step plainPlatform) newWebhooks deliveredAtOnce = some t ∧
      run (step plainPlatform) t retriedAfterwards = some u ∧
        u.statusOf 1 = some .success ∧ u.postsFor 1 = t.postsFor 1 := by
  have hexclusive : AllSteps (step plainPlatform) (fun r a _ => r.Exclusive a) newWebhooks
      (deliveredAtOnce ++ retriedAfterwards) := by decide +kernel
  have hcheck : (run (step plainPlatform) newWebhooks deliveredAtOnce).bind (fun t =>
      (run (step plainPlatform) t retriedAfterwards).map fun _ =>
        decide (t.statusOf 1 = some .success)) = some true := by decide +kernel
  obtain ⟨t, ht, hcheck⟩ := Option.bind_eq_some_iff.mp hcheck
  obtain ⟨u, hu, hcheck⟩ := Option.map_eq_some_iff.mp hcheck
  exact ⟨t, u, ht, hu, success_terminal rfl hexclusive ht hu (of_decide_eq_true hcheck)⟩

/-- The row is due as soon as it is inserted, so a sweep makes a second POST while the first
is in flight.  One of them succeeds. -/
def sweptInFlight : List (Action String) :=
  dispatched ++ sweptAfter 1 ++ [.respond 0 (.response 200 "ok"), .resume 1]

/-- Then the other fails, and a minute later the sweep makes a third POST. -/
def failedAfterwards : List (Action String) :=
  [.respond 0 (.response 500 "busy"), .resume 0, .advance 60000000] ++ sweptAfter 0

theorem success_undone : ¬∀ (p : Platform String) (s t u : Webhooks String)
    (before after : List (Action String)) (d : Nat), s.calls = [] →
      run (step p) s before = some t → run (step p) t after = some u →
      t.statusOf d = some .success →
      u.statusOf d = some .success ∧ u.postsFor d = t.postsFor d := by
  intro h
  have hcheck : (run (step plainPlatform) newWebhooks sweptInFlight).bind (fun t =>
      (run (step plainPlatform) t failedAfterwards).map fun u =>
        decide (t.statusOf 1 = some .success ∧ u.statusOf 1 = some .pending ∧
          t.postsFor 1 = 2 ∧ u.postsFor 1 = 3)) = some true := by decide +kernel
  obtain ⟨t, ht, hcheck⟩ := Option.bind_eq_some_iff.mp hcheck
  obtain ⟨u, hu, hcheck⟩ := Option.map_eq_some_iff.mp hcheck
  obtain ⟨hsuccess, hpending, hbefore, hafter⟩ := of_decide_eq_true hcheck
  obtain ⟨-, hposts⟩ := h plainPlatform newWebhooks t u sweptInFlight failedAfterwards 1 rfl ht hu
    hsuccess
  rw [hafter, hbefore] at hposts
  cases hposts

end Webhooks
end Api
end XStreamRoll
