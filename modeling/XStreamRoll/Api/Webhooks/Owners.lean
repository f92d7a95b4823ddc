/-
Whose webhooks a request sees, and whose it touches.

`assertOwnership` looks at the webhook once, and by the time of the UPDATE or the DELETE
other requests have run.  What it has seen still holds: the key of a row is not given out
again and its `user_id` is never written, so whatever is under the id later belongs to the
same user.  The same goes for the stream of a new webhook and for the webhook of a delivery.

A request therefore writes nothing of anybody else's and shows nothing of anybody else's,
and every webhook that there is belongs to the owner of its stream.
-/
import XStreamRoll.Transition
import XStreamRoll.Api.Webhooks.Repositories
import XStreamRoll.Api.Webhooks.Controller

namespace XStreamRoll
namespace Api

open Transition

variable {Payload : Type}

/-! ## The deliveries as a table -/

namespace WebhookDeliveries

def toTable (table : WebhookDeliveries Payload) :
    Table (WebhookDeliveryRow Payload) WebhookDeliveryRow.id :=
  ⟨table.rows, table.nextId, table.primaryKey, table.sequence⟩

theorem findById_eq (table : WebhookDeliveries Payload) (id : Nat) :
    table.findById id = table.toTable.find id := rfl

theorem toTable_create (table : WebhookDeliveries Payload) (now : Timestamptz)
    (webhookSubscriptionId : Nat) (event : String) (data : Payload) :
    (table.create now webhookSubscriptionId event data).toTable =
      table.toTable.insert
        (fun id => { table.created now webhookSubscriptionId event data with id })
        (fun _ => rfl) := rfl

theorem toTable_update (table : WebhookDeliveries Payload) (id : Nat)
    (f : WebhookDeliveryRow Payload → WebhookDeliveryRow Payload)
    (hf : ∀ row, (f row).id = row.id) :
    (table.update id f hf).toTable = table.toTable.modify (fun row => row.id = id) f hf := by
  apply Table.ext
  · simp [toTable, update, Table.modify]
  · rfl

theorem requeue_id (now : Timestamptz) (row : WebhookDeliveryRow Payload) :
    (row.requeue now).id = row.id := rfl

theorem toTable_requeue (table : WebhookDeliveries Payload) (now : Timestamptz) (id : Nat) :
    (table.requeue now id).toTable =
      table.toTable.modify (fun row => row.id = id) (WebhookDeliveryRow.requeue now)
        (requeue_id now) :=
  table.toTable_update id (WebhookDeliveryRow.requeue now) (requeue_id now)

theorem toTable_cascade (table : WebhookDeliveries Payload) (deleted : Nat → Bool) :
    (table.cascade deleted).toTable =
      table.toTable.delete fun row => deleted row.webhookSubscriptionId := rfl

end WebhookDeliveries

namespace WebhooksController

variable {s t : WebhooksController Payload}

/-! ## What no statement changes -/

structure Evolves (s t : WebhooksController Payload) : Prop where
  streams : s.streams.Evolves StreamOwner.userId t.streams
  subscriptions : s.subscriptions.Evolves WebhookSubscriptionRow.userId t.subscriptions
  deliveries : s.deliveries.toTable.Evolves WebhookDeliveryRow.webhookSubscriptionId
    t.deliveries.toTable

theorem Evolves.refl (s : WebhooksController Payload) : s.Evolves s :=
  ⟨.refl _, .refl _, .refl _⟩

theorem evolves_update (table : WebhookSubscriptions) (id : Nat) (changes : WebhookChanges) :
    table.Evolves WebhookSubscriptionRow.userId (table.update id changes) := by
  unfold WebhookSubscriptions.update
  split
  · exact .refl _
  · exact Table.evolves_modify (WebhookSubscriptionRow.change_id changes) fun _ => rfl

theorem evolves_rows (table : WebhookDeliveries Payload) (id : Nat)
    (f : WebhookDeliveryRow Payload → WebhookDeliveryRow Payload)
    (hf : ∀ row, (f row).id = row.id)
    (same : ∀ row, row.webhookSubscriptionId = (f row).webhookSubscriptionId) :
    table.toTable.Evolves WebhookDeliveryRow.webhookSubscriptionId
      (table.update id f hf).toTable := by
  rw [WebhookDeliveries.toTable_update]
  exact Table.evolves_modify hf same

theorem executed_evolves (s : WebhooksController Payload) (userId : Nat) (await : Await) :
    s.Evolves (s.executed userId await) := by
  have unchanged := Evolves.refl s
  cases await with
  | insert body secret =>
    refine ⟨unchanged.streams, ?_, unchanged.deliveries⟩
    show Table.Evolves _ _ (if s.insertable body then _ else _)
    split
    · exact Table.evolves_insert (newRow_id s.now userId body secret)
    · exact Table.evolves_skip
  | update id changes =>
    exact ⟨unchanged.streams, evolves_update _ id changes, unchanged.deliveries⟩
  | delete id =>
    refine ⟨unchanged.streams, Table.evolves_delete, ?_⟩
    rw [executed, WebhookDeliveries.toTable_cascade]
    exact Table.evolves_delete
  | retryRequeue id deliveryId =>
    exact ⟨unchanged.streams, unchanged.subscriptions,
      evolves_rows _ deliveryId (WebhookDeliveryRow.requeue s.now) (fun _ => rfl) fun _ => rfl⟩
  | _ => exact unchanged

theorem calls_executed (s : WebhooksController Payload) (userId : Nat) (await : Await) :
    (s.executed userId await).calls = s.calls := by
  cases await <;> rfl

theorem settle_tables (i userId : Nat) (s : WebhooksController Payload)
    (outcome : Outcome Payload) :
    (s.settle i userId outcome).streams = s.streams ∧
      (s.settle i userId outcome).subscriptions = s.subscriptions ∧
      (s.settle i userId outcome).deliveries = s.deliveries := by
  cases outcome <;> exact ⟨rfl, rfl, rfl⟩

theorem Evolves.settle (h : s.Evolves t) (i userId : Nat) (outcome : Outcome Payload) :
    s.Evolves (t.settle i userId outcome) := by
  obtain ⟨streams, subscriptions, deliveries⟩ := settle_tables i userId t outcome
  exact ⟨streams ▸ h.streams, subscriptions ▸ h.subscriptions, deliveries ▸ h.deliveries⟩

theorem step_evolves {a : Action Payload} (hs : step s a = some t) : s.Evolves t := by
  have unchanged := Evolves.refl s
  cases a with
  | advance | request =>
    cases hs
    exact ⟨unchanged.streams, unchanged.subscriptions, unchanged.deliveries⟩
  | createStream userId =>
    cases hs
    exact ⟨Table.evolves_insert (StreamOwner.new_id userId), unchanged.subscriptions,
      unchanged.deliveries⟩
  | deleteStream streamId =>
    cases hs
    refine ⟨Table.evolves_delete, Table.evolves_delete, ?_⟩
    rw [deleteStream, WebhookDeliveries.toTable_cascade]
    exact Table.evolves_delete
  | dispatch webhookId event data =>
    rw [step] at hs
    split at hs
    · cases hs
      refine ⟨unchanged.streams, unchanged.subscriptions, ?_⟩
      rw [WebhookDeliveries.toTable_create]
      exact Table.evolves_insert _
    · cases hs
  | recordAttempt deliveryId result =>
    cases hs
    exact ⟨unchanged.streams, unchanged.subscriptions,
      evolves_rows _ deliveryId (WebhookDeliveryRow.recordAttempt s.now result) (fun _ => rfl)
        fun _ => rfl⟩
  | resume i secret =>
    obtain ⟨call, -, rfl⟩ := Option.map_eq_some_iff.mp hs
    exact (executed_evolves s call.userId call.await).settle i call.userId _
  | reject i executed =>
    obtain ⟨call, -, rfl⟩ := Option.map_eq_some_iff.mp hs
    apply Evolves.settle
    split
    · exact executed_evolves s call.userId call.await
    · exact unchanged

/-! ## What a request knows -/

/-- What the statements before have shown, which is about the user who asks. -/
def Knows (s : WebhooksController Payload) (userId : Nat) : Await → Prop
  | .insert body _ => s.streams.Knows StreamOwner.userId userId body.streamId
  | .updateFind id _ | .update id _ | .delete id | .deliveriesFind id _ _
  | .deliveriesCount id _ _ | .deliveriesSelect id _ _ _ | .retryFind id _
  | .retryDelivery id _ => s.subscriptions.Knows WebhookSubscriptionRow.userId userId id
  | .retryRequeue id deliveryId =>
    s.subscriptions.Knows WebhookSubscriptionRow.userId userId id ∧
      s.deliveries.toTable.Knows WebhookDeliveryRow.webhookSubscriptionId id deliveryId
  | .owns _ | .count _ _ _ | .select _ _ _ _ | .assertOwnership _ _ => True

theorem Knows.evolve {userId : Nat} {await : Await} (h : s.Knows userId await)
    (evolves : s.Evolves t) : t.Knows userId await := by
  cases await with
  | insert body secret => exact Table.Knows.evolve h evolves.streams
  | retryRequeue id deliveryId =>
    exact ⟨h.1.evolve evolves.subscriptions, h.2.evolve evolves.deliveries⟩
  | owns | count | select | assertOwnership => trivial
  | updateFind | update | delete | deliveriesFind | deliveriesCount | deliveriesSelect | retryFind
  | retryDelivery => exact Table.Knows.evolve h evolves.subscriptions

theorem found_eq {id : Nat} {next : WebhookSubscriptionRow → Outcome Payload}
    {outcome : Outcome Payload} (h : s.found id next = outcome) :
    outcome = throws (webhookNotFound id) ∨
      ∃ row, s.subscriptions.find id = some row ∧ next row = outcome := by
  unfold found at h
  split at h
  · exact .inl h.symm
  · next row hrow => exact .inr ⟨row, hrow, h⟩

theorem begin_waits {id : Nat} {request : Guarded} {await : Await} {userId : Nat}
    (h : (request.begin id : Outcome Payload) = .waits await)
    (hid : s.subscriptions.Knows WebhookSubscriptionRow.userId userId id) : s.Knows userId await := by
  cases request with
  | update changes =>
    rw [Guarded.begin] at h
    split at h
    · cases h
    · cases h
      exact hid
  | delete | listDeliveries | retryDelivery =>
    cases h
    exact hid

/-- What a request goes on with, it knows. -/
theorem outcome_knows {secret : String} {userId : Nat} {await next : Await}
    (known : s.Knows userId await) (h : s.outcome secret userId await = .waits next) :
    s.Knows userId next := by
  cases await with
  | owns body =>
    rw [outcome] at h
    split at h
    · next owns =>
      cases h
      obtain ⟨stream, hfind, huser⟩ := Option.any_eq_true _ _ |>.mp owns
      exact of_decide_eq_true huser ▸ Table.Knows.of_find hfind
    · cases h
  | count page limit streamId =>
    cases h
    trivial
  | assertOwnership id request =>
    rcases found_eq h with hthrown | ⟨row, hfind, hnext⟩
    · cases hthrown
    · split at hnext
      · next owner => exact begin_waits hnext (owner ▸ Table.Knows.of_find hfind)
      · cases hnext
  | updateFind id changes =>
    rcases found_eq h with hthrown | ⟨row, hfind, hnext⟩
    · cases hthrown
    · cases hnext
      exact known
  | deliveriesFind id page limit =>
    rcases found_eq h with hthrown | ⟨row, hfind, hnext⟩
    · cases hthrown
    · cases hnext
      exact known
  | retryFind id deliveryId =>
    rcases found_eq h with hthrown | ⟨row, hfind, hnext⟩
    · cases hthrown
    · cases hnext
      exact known
  | deliveriesCount id page limit =>
    cases h
    exact known
  | retryDelivery id deliveryId =>
    rw [outcome] at h
    split at h
    · cases h
    · next row hfind =>
      split at h
      · cases h
      · next same =>
        split at h
        · cases h
        · cases h
          exact ⟨known, not_not.mp same ▸ Table.Knows.of_find hfind⟩
  | insert body secret =>
    rw [outcome] at h
    split at h <;> cases h
  | select page limit streamId total => cases h
  | update id changes =>
    rw [outcome] at h
    split at h <;> cases h
  | delete id =>
    rcases found_eq h with hthrown | ⟨row, hfind, hnext⟩
    · cases hthrown
    · cases hnext
  | deliveriesSelect id page limit total => cases h
  | retryRequeue id deliveryId =>
    rw [outcome] at h
    split at h <;> cases h

/-! ## The invariant -/

/-- Every webhook is on a stream of its user, and every delivery of a webhook. -/
structure Consistent (s : WebhooksController Payload) : Prop where
  owners : ∀ row ∈ s.subscriptions.rows, ∃ stream,
    s.streams.find row.streamId = some stream ∧ stream.userId = row.userId
  references : ∀ row ∈ s.deliveries.rows, ∃ webhook,
    s.subscriptions.find row.webhookSubscriptionId = some webhook

structure Sound (s : WebhooksController Payload) : Prop extends s.Consistent where
  calls : ∀ call ∈ s.calls, s.Knows call.userId call.await

theorem Consistent.of_same {s' : WebhooksController Payload} (h : s.Consistent)
    (streams : s'.streams = s.streams) (subscriptions : s'.subscriptions = s.subscriptions)
    (deliveries : s'.deliveries = s.deliveries) : s'.Consistent := by
  constructor
  · rw [streams, subscriptions]
    exact h.owners
  · rw [subscriptions, deliveries]
    exact h.references

theorem find_update {table : WebhookSubscriptions} {id other : Nat} {changes : WebhookChanges}
    {row : WebhookSubscriptionRow} (h : table.find other = some row) :
    ∃ row', (table.update id changes).find other = some row' ∧ row'.userId = row.userId ∧
      row'.streamId = row.streamId := by
  unfold WebhookSubscriptions.update
  split
  · exact ⟨row, h, rfl, rfl⟩
  · rw [Table.find_modify, h, Option.map_some]
    refine ⟨_, rfl, ?_⟩
    split <;> exact ⟨rfl, rfl⟩

theorem mem_update {table : WebhookSubscriptions} {id : Nat} {changes : WebhookChanges}
    {row : WebhookSubscriptionRow} (h : row ∈ (table.update id changes).rows) :
    ∃ old ∈ table.rows, row.userId = old.userId ∧ row.streamId = old.streamId := by
  unfold WebhookSubscriptions.update at h
  split at h
  · exact ⟨row, h, rfl, rfl⟩
  · rcases Table.mem_modify.mp h with ⟨hrow, -⟩ | ⟨old, hold, -, rfl⟩
    · exact ⟨row, hrow, rfl, rfl⟩
    · exact ⟨old, hold, rfl, rfl⟩

/-- The deliveries may change in all but their webhooks. -/
theorem Consistent.withDeliveries (h : s.Consistent) {deliveries : WebhookDeliveries Payload}
    (same : ∀ row ∈ deliveries.rows, ∃ old ∈ s.deliveries.rows,
      row.webhookSubscriptionId = old.webhookSubscriptionId) :
    Consistent { s with deliveries } where
  owners := h.owners
  references := by
    intro row hrow
    obtain ⟨old, hold, heq⟩ := same row hrow
    rw [heq]
    exact h.references old hold

theorem mem_rows {table : WebhookDeliveries Payload} {id : Nat}
    {f : WebhookDeliveryRow Payload → WebhookDeliveryRow Payload}
    {hf : ∀ row, (f row).id = row.id} {row : WebhookDeliveryRow Payload}
    (h : row ∈ (table.update id f hf).rows)
    (same : ∀ row, (f row).webhookSubscriptionId = row.webhookSubscriptionId) :
    ∃ old ∈ table.rows, row.webhookSubscriptionId = old.webhookSubscriptionId := by
  rcases WebhookDeliveries.mem_update.mp h with ⟨hrow, -⟩ | ⟨old, hold, -, rfl⟩
  · exact ⟨row, hrow, rfl⟩
  · exact ⟨old, hold, same old⟩

theorem Consistent.executed {userId : Nat} {await : Await} (h : s.Consistent)
    (known : s.Knows userId await) : (s.executed userId await).Consistent := by
  cases await with
  | insert body secret =>
    rw [WebhooksController.executed]
    split
    · next insertable =>
      obtain ⟨stream, hstream⟩ := Option.isSome_iff_exists.mp insertable
      constructor
      · intro row hrow
        rcases (Table.mem_insert (newRow_id s.now userId body secret)).mp hrow with hold | rfl
        · exact h.owners row hold
        · exact ⟨stream, hstream, known.2 stream hstream⟩
      · intro row hrow
        obtain ⟨webhook, hwebhook⟩ := h.references row hrow
        have before := s.subscriptions.sequence webhook (Table.find_eq_some_iff.mp hwebhook).1
        rw [(Table.find_eq_some_iff.mp hwebhook).2] at before
        refine ⟨webhook, ?_⟩
        show Table.find row.webhookSubscriptionId (s.create userId body secret) = _
        rw [create, Table.find_insert, if_neg (Nat.ne_of_lt before), hwebhook]
    · exact ⟨h.owners, h.references⟩
  | update id changes =>
    constructor
    · intro row hrow
      obtain ⟨old, hold, huser, hstream⟩ := mem_update hrow
      rw [huser, hstream]
      exact h.owners old hold
    · intro row hrow
      obtain ⟨webhook, hwebhook⟩ := h.references row hrow
      obtain ⟨webhook', hwebhook', -⟩ := find_update hwebhook
      exact ⟨webhook', hwebhook'⟩
  | delete id =>
    constructor
    · intro row hrow
      exact h.owners row (Table.mem_delete.mp hrow).1
    · intro row hrow
      obtain ⟨hold, hkept⟩ := List.mem_filter.mp hrow
      obtain ⟨webhook, hwebhook⟩ := h.references row hold
      have hid := (Table.find_eq_some_iff.mp hwebhook).2
      refine ⟨webhook, ?_⟩
      show Table.find _ (Table.delete _ _) = _
      rw [Table.find_delete, hwebhook, Option.filter_some, hid]
      simp only [Bool.not_eq_true', decide_eq_false_iff_not] at hkept
      simp [hkept]
  | retryRequeue id deliveryId =>
    exact h.withDeliveries fun row hrow => mem_rows hrow fun _ => rfl
  | _ => exact h

theorem Consistent.deleteStream (h : s.Consistent) (streamId : Nat) :
    (s.deleteStream streamId).Consistent := by
  constructor
  · intro row hrow
    obtain ⟨hold, hother⟩ := Table.mem_delete.mp hrow
    obtain ⟨stream, hstream, huser⟩ := h.owners row hold
    refine ⟨stream, ?_, huser⟩
    show Table.find row.streamId (Table.delete _ _) = _
    rw [Table.find_delete, hstream, Option.filter_some, (Table.find_eq_some_iff.mp hstream).2,
      hother]
    rfl
  · intro row hrow
    obtain ⟨hold, hkept⟩ := List.mem_filter.mp hrow
    obtain ⟨webhook, hwebhook⟩ := h.references row hold
    refine ⟨webhook, ?_⟩
    show Table.find _ (Table.delete _ _) = _
    rw [Table.find_delete, hwebhook, Option.filter_some]
    have other : (!(s.subscriptions.find row.webhookSubscriptionId).any fun webhook =>
        decide (webhook.streamId = streamId)) = true := hkept
    rw [hwebhook, Option.any_some] at other
    rw [other]
    rfl

theorem Sound.step {a : Action Payload} (h : s.Sound) (hs : step s a = some t) : t.Sound := by
  have evolves : s.Evolves t := step_evolves hs
  have kept : ∀ call ∈ s.calls, t.Knows call.userId call.await :=
    fun call hcall => (h.calls call hcall).evolve evolves
  -- A turn leaves the other requests as they are, and its own knows what it goes on with.
  have settled : ∀ {i userId : Nat} {u : WebhooksController Payload} (outcome : Outcome Payload),
      u.Consistent → u.calls = s.calls → t = u.settle i userId outcome →
      (∀ next, outcome = .waits next → t.Knows userId next) → t.Sound := by
    rintro i userId u outcome consistent same rfl hnext
    obtain ⟨streams, subscriptions, deliveries⟩ := settle_tables i userId u outcome
    refine ⟨consistent.of_same streams subscriptions deliveries, ?_⟩
    cases outcome with
    | waits next => exact forall_mem_set (same ▸ kept) (hnext next rfl)
    | answers answer => exact fun call hcall => kept call (same ▸ List.mem_of_mem_eraseIdx hcall)
  cases a with
  | advance micros =>
    cases hs
    exact ⟨h.toConsistent.of_same rfl rfl rfl, kept⟩
  | request userId request =>
    cases hs
    refine ⟨h.toConsistent.of_same rfl rfl rfl, ?_⟩
    intro call hcall
    rcases List.mem_append.mp hcall with hold | hnew
    · exact kept call hold
    · rw [List.mem_singleton.mp hnew]
      cases request <;> trivial
  | createStream userId =>
    cases hs
    refine ⟨⟨?_, h.references⟩, kept⟩
    intro row hrow
    obtain ⟨stream, hstream, huser⟩ := h.owners row hrow
    have before := s.streams.sequence stream (Table.find_eq_some_iff.mp hstream).1
    rw [(Table.find_eq_some_iff.mp hstream).2] at before
    refine ⟨stream, ?_, huser⟩
    show Table.find row.streamId (Table.insert _ (StreamOwner.new_id userId) _) = _
    rw [Table.find_insert, if_neg (Nat.ne_of_lt before), hstream]
  | deleteStream streamId =>
    cases hs
    exact ⟨h.toConsistent.deleteStream streamId, kept⟩
  | dispatch webhookId event data =>
    rw [WebhooksController.step] at hs
    split at hs
    · next present =>
      cases hs
      refine ⟨⟨h.owners, ?_⟩, kept⟩
      intro row hrow
      rcases WebhookDeliveries.mem_create.mp hrow with hold | rfl
      · exact h.references row hold
      · exact Option.isSome_iff_exists.mp present
    · cases hs
  | recordAttempt deliveryId result =>
    cases hs
    exact ⟨h.toConsistent.withDeliveries fun row hrow => mem_rows hrow fun _ => rfl, kept⟩
  | resume i secret =>
    obtain ⟨call, hcall, heq⟩ := Option.map_eq_some_iff.mp hs
    have known := h.calls call (List.mem_of_getElem? hcall)
    apply settled _ (h.toConsistent.executed known) (calls_executed ..) heq.symm
    exact fun next hnext => (outcome_knows known hnext).evolve evolves
  | reject i executed =>
    obtain ⟨call, hcall, heq⟩ := Option.map_eq_some_iff.mp hs
    have known := h.calls call (List.mem_of_getElem? hcall)
    refine settled _ ?_ ?_ heq.symm fun next hnext => by cases hnext
    · split
      · exact h.toConsistent.executed known
      · exact h.toConsistent
    · split
      · exact calls_executed ..
      · rfl

/-! ## What a turn writes -/

/-- The webhook is one of the user's. -/
def owned (userId webhookId : Nat) (s : WebhooksController Payload) : Bool :=
  (s.subscriptions.find webhookId).any fun row => row.userId = userId

/-- The webhooks of a user, and their deliveries. -/
def holdings (userId : Nat) (s : WebhooksController Payload) :
    List WebhookSubscriptionRow × List (WebhookDeliveryRow Payload) :=
  (s.subscriptions.rows.filter fun row => row.userId = userId,
    s.deliveries.rows.filter fun row => s.owned userId row.webhookSubscriptionId)

theorem not_owned {userId v id : Nat} (hne : v ≠ userId)
    (known : s.subscriptions.Knows WebhookSubscriptionRow.userId userId id) :
    s.owned v id = false := by
  rw [owned]
  cases hfind : s.subscriptions.find id with
  | none => rfl
  | some row =>
    rw [Option.any_some, known.2 row hfind, decide_eq_false hne.symm]

theorem holdings_insert {userId v : Nat} (h : s.Consistent) (hne : v ≠ userId)
    (body : CreateWebhookDto) (secret : String) :
    holdings v { s with subscriptions := s.create userId body secret } = s.holdings v := by
  refine Prod.ext ?_ ?_
  · exact Table.filter_insert (newRow_id s.now userId body secret) (decide_eq_false hne.symm)
  · apply List.filter_congr
    intro row hrow
    obtain ⟨webhook, hwebhook⟩ := h.references row hrow
    have before := s.subscriptions.sequence webhook (Table.find_eq_some_iff.mp hwebhook).1
    rw [(Table.find_eq_some_iff.mp hwebhook).2] at before
    show Option.any _ (Table.find _ (s.create userId body secret)) = _
    rw [create, Table.find_insert, if_neg (Nat.ne_of_lt before)]
    rfl

theorem holdings_update {userId v id : Nat} (hne : v ≠ userId)
    (known : s.subscriptions.Knows WebhookSubscriptionRow.userId userId id)
    (changes : WebhookChanges) :
    holdings v { s with subscriptions := s.subscriptions.update id changes } = s.holdings v := by
  unfold WebhookSubscriptions.update
  split
  · rfl
  · refine Prod.ext ?_ ?_
    · refine Table.filter_modify (WebhookSubscriptionRow.change_id changes) fun row hrow hid => ?_
      have owner : row.userId = userId :=
        known.2 row (Table.find_eq_some_iff.mpr ⟨hrow, of_decide_eq_true hid⟩)
      have apart : decide (row.userId = v) = false := by
        rw [owner]
        exact decide_eq_false hne.symm
      exact ⟨apart, apart⟩
    · apply List.filter_congr
      intro row _
      show Option.any _ (Table.find _ (Table.modify _ _ (WebhookSubscriptionRow.change_id changes) _))
        = _
      rw [Table.find_modify, owned, Option.any_map]
      congr 1
      funext webhook
      show decide ((if _ then _ else _ : WebhookSubscriptionRow).userId = v) = _
      split <;> rfl

theorem holdings_delete {userId v id : Nat} (hne : v ≠ userId)
    (known : s.subscriptions.Knows WebhookSubscriptionRow.userId userId id) :
    (s.executed userId (.delete id)).holdings v = s.holdings v := by
  refine Prod.ext ?_ ?_
  · apply Table.filter_delete
    intro row hrow hid
    have owner : row.userId = userId :=
      known.2 row (Table.find_eq_some_iff.mpr ⟨hrow, of_decide_eq_true hid⟩)
    rw [owner]
    exact decide_eq_false hne.symm
  · show List.filter _ (List.filter _ _) = _
    rw [List.filter_filter]
    apply List.filter_congr
    intro row _
    show (Option.any _ (Table.find _ (Table.delete _ _)) && _) = _
    by_cases hid : row.webhookSubscriptionId = id
    · rw [hid, not_owned hne known]
      simp
    · have same : (s.subscriptions.find row.webhookSubscriptionId).filter
          (fun webhook => !decide (webhook.id = id)) =
          s.subscriptions.find row.webhookSubscriptionId := by
        cases hfind : s.subscriptions.find row.webhookSubscriptionId with
        | none => rfl
        | some webhook =>
          have hkey : webhook.id = row.webhookSubscriptionId := (Table.find_eq_some_iff.mp hfind).2
          simp [hkey, hid]
      rw [Table.find_delete, same]
      simp [owned, hid]

theorem holdings_requeue {userId v id deliveryId : Nat} (hne : v ≠ userId)
    (known : s.Knows userId (.retryRequeue id deliveryId)) :
    holdings v { s with deliveries := s.deliveries.requeue s.now deliveryId } = s.holdings v := by
  refine Prod.ext rfl ?_
  show List.filter _ (s.deliveries.requeue s.now deliveryId).toTable.rows = _
  rw [WebhookDeliveries.toTable_requeue]
  refine Table.filter_modify (WebhookDeliveries.requeue_id s.now) fun row hrow hid => ?_
  have webhook : row.webhookSubscriptionId = id :=
    known.2.2 row (Table.find_eq_some_iff.mpr ⟨hrow, of_decide_eq_true hid⟩)
  have apart : s.owned v row.webhookSubscriptionId = false := by
    rw [webhook]
    exact not_owned hne known.1
  exact ⟨apart, apart⟩

/-- The statement of a request leaves alone what is somebody else's. -/
theorem holdings_executed {userId v : Nat} {await : Await} (h : s.Consistent)
    (known : s.Knows userId await) (hne : v ≠ userId) :
    (s.executed userId await).holdings v = s.holdings v := by
  cases await with
  | insert body secret =>
    rw [executed]
    split
    · exact holdings_insert h hne body secret
    · rfl
  | update id changes => exact holdings_update hne known changes
  | delete id => exact holdings_delete hne known
  | retryRequeue id deliveryId => exact holdings_requeue hne known
  | _ => rfl

theorem holdings_settle (v i userId : Nat) (s : WebhooksController Payload)
    (outcome : Outcome Payload) : (s.settle i userId outcome).holdings v = s.holdings v := by
  cases outcome <;> rfl

/-! ## What an answer shows -/

/-- The answer is about webhooks of the user, and about deliveries of theirs. -/
def Answer.Concerns (s : WebhooksController Payload) (userId : Nat) : Answer Payload → Prop
  | .created subscription => subscription.userId = userId
  | .listed data _ _ _ => ∀ subscription ∈ data, subscription.userId = userId
  | .updated subscription => subscription.userId = userId
  | .deliveries data _ _ _ => ∀ delivery ∈ data,
      s.owned userId delivery.webhookSubscriptionId = true
  | .requeued delivery => s.owned userId delivery.webhookSubscriptionId = true
  | .deleted | .thrown _ => True

theorem owned_of_known {userId id : Nat}
    (known : s.subscriptions.Knows WebhookSubscriptionRow.userId userId id)
    (present : ∃ webhook, s.subscriptions.find id = some webhook) : s.owned userId id = true := by
  obtain ⟨webhook, hwebhook⟩ := present
  rw [owned, hwebhook, Option.any_some, known.2 webhook hwebhook, decide_eq_true rfl]

theorem throws_concerns {userId : Nat} {exception : Exception} {answer : Answer Payload}
    (h : throws exception = .answers answer) : answer.Concerns s userId := by
  cases h
  trivial

theorem outcome_concerns {secret : String} {userId : Nat} {await : Await} {answer : Answer Payload}
    (h : s.Consistent) (known : s.Knows userId await)
    (ends : s.outcome secret userId await = .answers answer) : answer.Concerns s userId := by
  have missing : ∀ {id : Nat} {next : WebhookSubscriptionRow → Outcome Payload},
      s.found id next = .answers answer → (∀ row, next row = .answers answer →
        s.subscriptions.find id = some row → answer.Concerns s userId) →
      answer.Concerns s userId := by
    intro id next hfound hnext
    rcases found_eq hfound with hthrown | ⟨row, hrow, heq⟩
    · exact throws_concerns hthrown.symm
    · exact hnext row heq hrow
  cases await with
  | owns body =>
    rw [outcome] at ends
    split at ends
    · cases ends
    · exact throws_concerns ends
  | insert body secret =>
    rw [outcome] at ends
    split at ends
    · cases ends
      rfl
    · exact throws_concerns ends
  | count page limit streamId => cases ends
  | select page limit streamId total =>
    cases ends
    intro subscription hmem
    obtain ⟨row, hrow, rfl⟩ := List.mem_map.mp hmem
    have hlisted := List.mem_of_mem_drop (List.mem_of_mem_take hrow)
    rw [(List.perm_insertionSort _ _).mem_iff, List.mem_filter, WebhookSubscriptions.listed,
      Bool.and_eq_true] at hlisted
    exact of_decide_eq_true hlisted.2.1
  | assertOwnership id request =>
    apply missing ends
    intro row hnext _
    split at hnext
    · cases request with
      | update changes =>
        rw [Guarded.begin] at hnext
        split at hnext
        · exact throws_concerns hnext
        · cases hnext
      | delete | listDeliveries | retryDelivery => cases hnext
    · exact throws_concerns hnext
  | updateFind id changes | deliveriesFind id page limit | retryFind id deliveryId =>
    exact missing ends fun row hnext _ => by cases hnext
  | update id changes =>
    rw [outcome] at ends
    split at ends
    · exact throws_concerns ends
    · next row hrow =>
      cases ends
      unfold WebhookSubscriptions.updated at hrow
      split at hrow
      · cases hrow
      · exact (Table.Knows.evolve known (evolves_update _ id changes)).2 row hrow
  | delete id =>
    apply missing ends
    intro row hnext _
    cases hnext
    trivial
  | deliveriesCount id page limit => cases ends
  | deliveriesSelect id page limit total =>
    cases ends
    intro delivery hmem
    obtain ⟨row, hrow, rfl⟩ := List.mem_map.mp hmem
    have hlisted := List.mem_of_mem_drop (List.mem_of_mem_take hrow)
    rw [(List.perm_insertionSort _ _).mem_iff, List.mem_filter] at hlisted
    have hid : row.webhookSubscriptionId = id := of_decide_eq_true hlisted.2
    have present := h.references row hlisted.1
    rw [hid] at present
    show s.owned userId row.webhookSubscriptionId = true
    rw [hid]
    exact owned_of_known known present
  | retryDelivery id deliveryId =>
    rw [outcome] at ends
    split at ends
    · exact throws_concerns ends
    · split at ends
      · exact throws_concerns ends
      · split at ends
        · exact throws_concerns ends
        · cases ends
  | retryRequeue id deliveryId =>
    rw [outcome, WebhookDeliveries.findById_requeue, if_pos rfl] at ends
    split at ends
    · exact throws_concerns ends
    · next row hrow =>
      cases ends
      obtain ⟨old, hold, rfl⟩ := Option.map_eq_some_iff.mp hrow
      have hid : old.webhookSubscriptionId = id := known.2.2 old hold
      have present := h.references old (WebhookDeliveries.findById_eq_some_iff.mp hold).1
      rw [hid] at present
      show s.owned userId old.webhookSubscriptionId = true
      rw [hid]
      exact owned_of_known known.1 present

/-! ## Runs -/

/-- The request whose turn it is, by its place. -/
def Action.turn : Action Payload → Option Nat
  | .resume i _ | .reject i _ => some i
  | _ => none

/-- A turn of a request leaves alone what belongs to others than its user, and nobody is
sent what belongs to another. -/
structure Isolated (s : WebhooksController Payload) (a : Action Payload)
    (t : WebhooksController Payload) : Prop where
  untouched : ∀ i call, a.turn = some i → s.calls[i]? = some call →
    ∀ v, v ≠ call.userId → t.holdings v = s.holdings v
  unseen : ∀ userId answer, t.answers = s.answers ++ [(userId, answer)] → answer.Concerns s userId

theorem answers_executed (s : WebhooksController Payload) (userId : Nat) (await : Await) :
    (s.executed userId await).answers = s.answers := by
  cases await <;> rfl

/-- What is new among the answers is what the outcome says. -/
theorem settle_answers {i userId : Nat} {u : WebhooksController Payload}
    {outcome : Outcome Payload} {recipient : Nat} {answer : Answer Payload}
    (h : (u.settle i userId outcome).answers = u.answers ++ [(recipient, answer)]) :
    recipient = userId ∧ outcome = .answers answer := by
  cases outcome with
  | waits next =>
    have same : u.answers = u.answers ++ [(recipient, answer)] := h
    simp at same
  | answers given =>
    have same : u.answers ++ [(userId, given)] = u.answers ++ [(recipient, answer)] := h
    simp only [List.append_cancel_left_eq, List.cons.injEq, Prod.mk.injEq, and_true] at same
    exact ⟨same.1.symm, by rw [same.2]⟩

theorem Sound.isolated {a : Action Payload} (h : s.Sound) (hs : WebhooksController.step s a = some t) :
    Isolated s a t := by
  -- Nothing but a turn of a request answers anybody.
  have silent : ∀ {u : WebhooksController Payload}, a.turn = none → u.answers = s.answers →
      Isolated s a u := by
    intro u noTurn same
    constructor
    · intro i call hturn
      rw [noTurn] at hturn
      cases hturn
    · intro userId answer heq
      rw [same] at heq
      simp at heq
  cases a with
  | advance | createStream | deleteStream | recordAttempt | request =>
    cases hs
    exact silent rfl rfl
  | dispatch webhookId event data =>
    rw [WebhooksController.step] at hs
    split at hs
    · cases hs
      exact silent rfl rfl
    · cases hs
  | resume i secret =>
    obtain ⟨call, hcall, rfl⟩ := Option.map_eq_some_iff.mp hs
    have known := h.calls call (List.mem_of_getElem? hcall)
    constructor
    · intro j other hturn hother v hne
      cases hturn
      rw [hcall, Option.some.injEq] at hother
      subst hother
      rw [holdings_settle]
      exact holdings_executed h.toConsistent known hne
    · intro recipient answer heq
      rw [← answers_executed s call.userId call.await] at heq
      obtain ⟨rfl, ends⟩ := settle_answers heq
      exact outcome_concerns h.toConsistent known ends
  | reject i executed =>
    obtain ⟨call, hcall, rfl⟩ := Option.map_eq_some_iff.mp hs
    have known := h.calls call (List.mem_of_getElem? hcall)
    constructor
    · intro j other hturn hother v hne
      cases hturn
      rw [hcall, Option.some.injEq] at hother
      subst hother
      rw [holdings_settle]
      split
      · exact holdings_executed h.toConsistent known hne
      · rfl
    · intro recipient answer heq
      have same : (if executed then s.executed call.userId call.await else s).answers =
          s.answers := by
        split
        · exact answers_executed s call.userId call.await
        · rfl
      rw [← same] at heq
      obtain ⟨rfl, ends⟩ := settle_answers heq
      exact throws_concerns ends

/-- However the requests interleave, with one another, with deliveries and with streams that
go away, each keeps to the webhooks of its user. -/
theorem requests_isolated {start : WebhooksController Payload} (consistent : start.Consistent)
    (idle : start.calls = []) (as : List (Action Payload)) : AllSteps step Isolated start as := by
  have sound : start.Sound := ⟨consistent, by
    rw [idle]
    exact List.forall_mem_nil _⟩
  exact allSteps_of_invariant (fun _ _ _ h hs => ⟨h.step hs, h.isolated hs⟩) sound

/-- Two users, a stream of each, and nothing else yet. -/
def twoStreams : WebhooksController Unit where
  now := ⟨1000⟩
  streams := Table.insert (StreamOwner.new 8) (StreamOwner.new_id 8)
    (Table.insert (StreamOwner.new 7) (StreamOwner.new_id 7) (Table.empty 1))
  subscriptions := Table.empty 1
  deliveries := WebhookDeliveries.empty 1
  calls := []
  answers := []

theorem twoStreams_consistent : twoStreams.Consistent :=
  ⟨fun _ h => absurd h List.not_mem_nil, fun _ h => absurd h List.not_mem_nil⟩

/-- User 7 registers a webhook, which user 8 asks to delete just before user 7 does. -/
def visits : List (Action Unit) :=
  [.request 7 (.create ⟨1, "https://a", ["stream:started"]⟩), .resume 0 "k", .resume 0 "",
    .dispatch 1 "stream:started" (), .request 8 (.guarded 1 .delete),
    .request 7 (.guarded 1 .delete), .resume 0 "", .resume 0 "", .resume 0 ""]

theorem requests_isolated_visits :
    AllSteps step Isolated twoStreams visits ∧ (run step twoStreams visits).isSome = true :=
  ⟨requests_isolated twoStreams_consistent rfl visits, by decide +kernel⟩

/-- An event of a stream goes to no webhook but those of the stream's owner. -/
theorem webhooks_of_stream_owner {start s : WebhooksController Payload}
    (consistent : start.Consistent) (idle : start.calls = []) {as : List (Action Payload)}
    (hrun : run step start as = some s) (streamId : Nat) (event : String) :
    ∀ row ∈ s.subscriptions.findActiveByStreamAndEvent streamId event,
      s.ownsStream row.userId streamId = true := by
  have sound : start.Sound := ⟨consistent, by
    rw [idle]
    exact List.forall_mem_nil _⟩
  have after : s.Sound := run_invariant (fun _ _ _ h hs => h.step hs) sound hrun
  intro row hrow
  obtain ⟨hmem, applies⟩ := List.mem_filter.mp hrow
  simp only [Bool.and_eq_true, decide_eq_true_eq] at applies
  obtain ⟨stream, hstream, huser⟩ := after.owners row hmem
  rw [← applies.1.1, ownsStream, hstream, Option.any_some, huser, decide_eq_true rfl]

theorem webhooks_of_stream_owner_visits : ∃ s, run step twoStreams (visits.take 6) = some s ∧
    (s.subscriptions.findActiveByStreamAndEvent 1 "stream:started").map
      (fun row => (row.id, s.ownsStream row.userId 1)) = [(1, true)] := by
  have hcheck : (run step twoStreams (visits.take 6)).any (fun s => decide
      ((s.subscriptions.findActiveByStreamAndEvent 1 "stream:started").map
        WebhookSubscriptionRow.id = [1])) = true := by decide +kernel
  obtain ⟨s, hs, ids⟩ := Option.any_eq_true _ _ |>.mp hcheck
  refine ⟨s, hs, ?_⟩
  have owner := webhooks_of_stream_owner twoStreams_consistent rfl hs 1 "stream:started"
  have only : ∀ rows : List WebhookSubscriptionRow, rows.map WebhookSubscriptionRow.id = [1] →
      (∀ row ∈ rows, s.ownsStream row.userId 1 = true) →
      rows.map (fun row => (row.id, s.ownsStream row.userId 1)) = [(1, true)] := by
    intro rows hids howner
    obtain ⟨row, rfl, hid⟩ := List.map_eq_singleton_iff.mp hids
    rw [List.map_singleton, hid, howner row (List.mem_singleton_self row)]
  exact only _ (of_decide_eq_true ids) owner

end WebhooksController

end Api
end XStreamRoll
