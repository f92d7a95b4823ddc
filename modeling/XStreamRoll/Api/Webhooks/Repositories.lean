/-
The two repositories of webhook deliveries.

The in-memory one keeps its deliveries in a map and changes the objects in place; the other
one keeps rows in the table of `Webhooks`.  What the service sees of either is a delivery
for each id, and the operations do the same to it in both: a `DeliveryStore` is a
repository with that much known of it.

A date goes into the table and comes back as it was, so a row that has been written reads
like the object.  An object of the map stays the same object after it was handed out, and a
row that was read does not follow the table; as long as one operation at a time works on a
delivery the two cannot be told apart.
-/
import XStreamRoll.Api.Webhooks

namespace XStreamRoll
namespace Api

variable {Payload : Type}

/-! ## The operations on one delivery -/

def WebhookDelivery.recordAttempt (now : Date) (result : RecordAttemptInput)
    (delivery : WebhookDelivery Payload) : WebhookDelivery Payload :=
  let counted := { delivery with
    attemptCount := delivery.attemptCount + 1
    lastStatusCode := result.statusCode
    lastResponseBody := result.responseBody
    lastError := result.error
    nextAttemptAt := result.nextAttemptAt }
  if result.success then { counted with status := .success, deliveredAt := some now }
  else { counted with status := if result.nextAttemptAt.isSome then .pending else .failed }

def WebhookDelivery.requeue (now : Date) (delivery : WebhookDelivery Payload) :
    WebhookDelivery Payload :=
  { delivery with status := .pending, nextAttemptAt := some now }

/-- `d.status === "pending" && d.nextAttemptAt !== null && d.nextAttemptAt.getTime() <= now` -/
def WebhookDelivery.due (now : Date) (delivery : WebhookDelivery Payload) : Bool :=
  delivery.status = .pending && delivery.nextAttemptAt.any fun t => t ≤ now

@[simp] theorem WebhookDelivery.recordAttempt_id (now : Date) (result : RecordAttemptInput)
    (delivery : WebhookDelivery Payload) :
    (delivery.recordAttempt now result).id = delivery.id := by
  unfold recordAttempt
  split <;> rfl

/-- The row after the UPDATE reads like the object after the assignments. -/
theorem WebhookDeliveryRow.rowToDelivery_recordAttempt (CURRENT_TIMESTAMP : Timestamptz)
    (result : RecordAttemptInput) (row : WebhookDeliveryRow Payload) :
    (row.recordAttempt CURRENT_TIMESTAMP result).rowToDelivery =
      row.rowToDelivery.recordAttempt CURRENT_TIMESTAMP.toDate result := by
  have kept : (result.nextAttemptAt.map Date.toTimestamptz).map Timestamptz.toDate =
      result.nextAttemptAt := by
    cases result.nextAttemptAt with
    | none => rfl
    | some date => rw [Option.map_some, Option.map_some, Date.toTimestamptz_toDate]
  unfold WebhookDelivery.recordAttempt WebhookDeliveryRow.recordAttempt
    WebhookDeliveryRow.rowToDelivery RecordAttemptInput.status
  cases hsuccess : result.success <;> simp [kept]

theorem WebhookDeliveryRow.rowToDelivery_requeue (CURRENT_TIMESTAMP : Timestamptz)
    (row : WebhookDeliveryRow Payload) :
    (row.requeue CURRENT_TIMESTAMP).rowToDelivery =
      row.rowToDelivery.requeue CURRENT_TIMESTAMP.toDate := rfl

namespace WebhookDeliveries

/-- The table before the first INSERT. -/
def empty (nextId : Nat) : WebhookDeliveries Payload :=
  ⟨[], nextId, List.nodup_nil, List.forall_mem_nil _⟩

theorem findById_recordAttempt (now : Timestamptz) (id : Nat) (result : RecordAttemptInput)
    (table : WebhookDeliveries Payload) (other : Nat) :
    (table.recordAttempt now id result).findById other =
      if other = id then (table.findById other).map (WebhookDeliveryRow.recordAttempt now result)
      else table.findById other := by
  split
  next same => exact same ▸ findById_update_self
  next apart => exact findById_update_of_ne apart

theorem findById_requeue (now : Timestamptz) (id : Nat) (table : WebhookDeliveries Payload)
    (other : Nat) :
    (table.requeue now id).findById other =
      if other = id then (table.findById other).map (WebhookDeliveryRow.requeue now)
      else table.findById other := by
  split
  next same => exact same ▸ findById_update_self
  next apart => exact findById_update_of_ne apart

end WebhookDeliveries

/-! ## The in-memory repository -/

/-- The values of the map in the order of its keys' insertion. -/
structure WebhookDeliveriesRepository (Payload : Type) where
  byId : List (WebhookDelivery Payload)
  nextId : Nat
  keys : (byId.map WebhookDelivery.id).Nodup
  sequence : ∀ delivery ∈ byId, delivery.id < nextId

namespace WebhookDeliveriesRepository

def empty : WebhookDeliveriesRepository Payload :=
  ⟨[], 1, List.nodup_nil, List.forall_mem_nil _⟩

def created (now : Date) (webhookSubscriptionId : Nat) (event : String) (payload : Payload)
    (r : WebhookDeliveriesRepository Payload) : WebhookDelivery Payload where
  id := r.nextId
  webhookSubscriptionId := webhookSubscriptionId
  event := event
  payload := payload
  status := .pending
  attemptCount := 0
  lastStatusCode := none
  lastResponseBody := none
  lastError := none
  nextAttemptAt := some now
  deliveredAt := none
  createdAt := now

def create (now : Date) (webhookSubscriptionId : Nat) (event : String) (payload : Payload)
    (r : WebhookDeliveriesRepository Payload) : WebhookDeliveriesRepository Payload where
  byId := r.byId ++ [r.created now webhookSubscriptionId event payload]
  nextId := r.nextId + 1
  keys := nodup_concat r.keys fun delivery hdelivery => Nat.ne_of_lt (r.sequence delivery hdelivery)
  sequence := by
    rw [List.forall_mem_append, List.forall_mem_singleton]
    exact ⟨fun delivery h => Nat.lt_succ_of_lt (r.sequence delivery h), Nat.lt_succ_self _⟩

def findById (id : Nat) (r : WebhookDeliveriesRepository Payload) :
    Option (WebhookDelivery Payload) :=
  r.byId.find? fun delivery => delivery.id = id

def duePending (now : Date) (r : WebhookDeliveriesRepository Payload) :
    List (WebhookDelivery Payload) :=
  (r.byId.filter (WebhookDelivery.due now)).insertionSort fun a b => a.createdAt ≤ b.createdAt

/-- Pending deliveries whose next attempt is due, oldest first. -/
def findDuePending (now : Date) (limit : Nat) (r : WebhookDeliveriesRepository Payload) :
    List (WebhookDelivery Payload) :=
  (r.duePending now).take limit

/-- The object under the key is changed in place. -/
def update (id : Nat) (f : WebhookDelivery Payload → WebhookDelivery Payload)
    (hf : ∀ delivery, (f delivery).id = delivery.id) (r : WebhookDeliveriesRepository Payload) :
    WebhookDeliveriesRepository Payload where
  byId := r.byId.map fun delivery => if delivery.id = id then f delivery else delivery
  nextId := r.nextId
  keys := by
    have same : ∀ delivery : WebhookDelivery Payload,
        (if delivery.id = id then f delivery else delivery).id = delivery.id := by
      intro delivery
      split
      · exact hf delivery
      · rfl
    rw [List.map_map]
    exact (List.map_congr_left fun delivery _ => same delivery) ▸ r.keys
  sequence := by
    intro delivery hdelivery
    obtain ⟨old, hold, rfl⟩ := List.mem_map.mp hdelivery
    split
    · rw [hf]
      exact r.sequence old hold
    · exact r.sequence old hold

def recordAttempt (now : Date) (id : Nat) (result : RecordAttemptInput)
    (r : WebhookDeliveriesRepository Payload) : WebhookDeliveriesRepository Payload :=
  r.update id (WebhookDelivery.recordAttempt now result) fun _ =>
    WebhookDelivery.recordAttempt_id now result _

def requeue (now : Date) (id : Nat) (r : WebhookDeliveriesRepository Payload) :
    WebhookDeliveriesRepository Payload :=
  r.update id (WebhookDelivery.requeue now) fun _ => rfl

theorem findById_eq_some_iff {r : WebhookDeliveriesRepository Payload} {id : Nat}
    {delivery : WebhookDelivery Payload} :
    r.findById id = some delivery ↔ delivery ∈ r.byId ∧ delivery.id = id := by
  constructor
  · intro h
    exact ⟨List.mem_of_find?_eq_some h, by simpa using List.find?_some h⟩
  · rintro ⟨hdelivery, rfl⟩
    cases hfind : r.findById delivery.id with
    | none =>
      have absent := List.find?_eq_none.mp hfind delivery hdelivery
      simp at absent
    | some found =>
      have same : found.id = delivery.id := by simpa using List.find?_some hfind
      rw [List.inj_on_of_nodup_map r.keys (List.mem_of_find?_eq_some hfind) hdelivery same]

theorem findById_created (now : Date) (webhookSubscriptionId : Nat) (event : String)
    (payload : Payload) (r : WebhookDeliveriesRepository Payload) :
    r.findById (r.created now webhookSubscriptionId event payload).id = none := by
  rw [findById, List.find?_eq_none]
  intro delivery hdelivery
  have before := r.sequence delivery hdelivery
  rw [decide_eq_true_eq]
  exact before.ne

theorem findById_create (now : Date) (webhookSubscriptionId : Nat) (event : String)
    (payload : Payload) (r : WebhookDeliveriesRepository Payload) (id : Nat) :
    (r.create now webhookSubscriptionId event payload).findById id =
      if id = (r.created now webhookSubscriptionId event payload).id then
        some (r.created now webhookSubscriptionId event payload)
      else r.findById id := by
  split
  next same =>
    subst same
    exact findById_eq_some_iff.mpr
      ⟨List.mem_append_right _ (List.mem_singleton_self _), rfl⟩
  next other =>
    have notLast : ([r.created now webhookSubscriptionId event payload].find? fun delivery =>
        decide (delivery.id = id)) = none := by
      rw [List.find?_singleton, decide_eq_false (Ne.symm other), if_neg Bool.false_ne_true]
    rw [findById, create, List.find?_append, notLast, Option.or_none]
    rfl

theorem findById_update {id : Nat} {f : WebhookDelivery Payload → WebhookDelivery Payload}
    {hf : ∀ delivery, (f delivery).id = delivery.id} (r : WebhookDeliveriesRepository Payload)
    (other : Nat) :
    (r.update id f hf).findById other =
      if other = id then (r.findById other).map f else r.findById other := by
  show (r.byId.map _).find? _ =
    if other = id then (r.byId.find? _).map f else r.byId.find? _
  induction r.byId with
  | nil => simp
  | cons delivery rest ih =>
    rw [List.map_cons, List.find?_cons, List.find?_cons, ih]
    by_cases own : delivery.id = id
    · rw [if_pos own, hf, own]
      by_cases asked : id = other
      · simp [asked]
      · simp [asked, Ne.symm asked]
    · rw [if_neg own]
      by_cases asked : delivery.id = other
      · simp [asked, show other ≠ id from asked ▸ own]
      · simp [asked]

theorem mem_duePending {r : WebhookDeliveriesRepository Payload} {now : Date}
    {delivery : WebhookDelivery Payload} :
    delivery ∈ r.duePending now ↔ delivery ∈ r.byId ∧ delivery.due now := by
  rw [duePending, (List.perm_insertionSort _ _).mem_iff, List.mem_filter]

theorem nodup_duePending (r : WebhookDeliveriesRepository Payload) (now : Date) :
    ((r.duePending now).map WebhookDelivery.id).Nodup := by
  have sorted := (List.perm_insertionSort (fun a b => a.createdAt ≤ b.createdAt)
    (r.byId.filter (WebhookDelivery.due now))).map WebhookDelivery.id
  rw [duePending, sorted.nodup_iff]
  exact r.keys.sublist (List.filter_sublist.map _)

end WebhookDeliveriesRepository

/-! ## What the service sees of either -/

/-- A repository, and what its operations do to the delivery under an id. -/
structure DeliveryStore (σ Payload : Type) where
  create : Timestamptz → Nat → String → Payload → σ → WebhookDelivery Payload × σ
  findById : Nat → σ → Option (WebhookDelivery Payload)
  /-- all that is due, oldest first -/
  duePending : Timestamptz → σ → List (WebhookDelivery Payload)
  findDuePending : Timestamptz → Nat → σ → List (WebhookDelivery Payload)
  recordAttempt : Timestamptz → Nat → RecordAttemptInput → σ → σ
  requeue : Timestamptz → Nat → σ → σ
  create_new : ∀ now webhookSubscriptionId event payload s,
    let delivery := (create now webhookSubscriptionId event payload s).1
    delivery = ⟨delivery.id, webhookSubscriptionId, event, payload, .pending, 0, none, none, none,
      some now.toDate, none, now.toDate⟩ ∧ findById delivery.id s = none
  findById_create : ∀ now webhookSubscriptionId event payload s id,
    findById id (create now webhookSubscriptionId event payload s).2 =
      if id = (create now webhookSubscriptionId event payload s).1.id then
        some (create now webhookSubscriptionId event payload s).1
      else findById id s
  findById_recordAttempt : ∀ now id result s other,
    findById other (recordAttempt now id result s) =
      if other = id then (findById other s).map (WebhookDelivery.recordAttempt now.toDate result)
      else findById other s
  findById_requeue : ∀ now id s other,
    findById other (requeue now id s) =
      if other = id then (findById other s).map (WebhookDelivery.requeue now.toDate)
      else findById other s
  findDuePending_eq : ∀ now limit s, findDuePending now limit s = (duePending now s).take limit
  mem_duePending : ∀ now s, ∀ delivery ∈ duePending now s,
    findById delivery.id s = some delivery ∧ delivery.status = .pending
  nodup_duePending : ∀ now s, ((duePending now s).map (·.id)).Nodup

namespace DeliveryStore

variable {σ : Type} (R : DeliveryStore σ Payload)

theorem mem_findDuePending (now : Timestamptz) (limit : Nat) (s : σ) :
    ∀ delivery ∈ R.findDuePending now limit s,
      R.findById delivery.id s = some delivery ∧ delivery.status = .pending := by
  rw [R.findDuePending_eq]
  exact fun delivery h => R.mem_duePending now s delivery (List.mem_of_mem_take h)

theorem nodup_findDuePending (now : Timestamptz) (limit : Nat) (s : σ) :
    ((R.findDuePending now limit s).map (·.id)).Nodup := by
  rw [R.findDuePending_eq]
  exact (R.nodup_duePending now s).sublist ((List.take_sublist _ _).map _)

end DeliveryStore

/-- The in-memory repository reads the clock in milliseconds. -/
def memoryDeliveries : DeliveryStore (WebhookDeliveriesRepository Payload) Payload where
  create now webhookSubscriptionId event payload r :=
    (r.created now.toDate webhookSubscriptionId event payload,
      r.create now.toDate webhookSubscriptionId event payload)
  findById := WebhookDeliveriesRepository.findById
  duePending now := WebhookDeliveriesRepository.duePending now.toDate
  findDuePending now := WebhookDeliveriesRepository.findDuePending now.toDate
  recordAttempt now := WebhookDeliveriesRepository.recordAttempt now.toDate
  requeue now := WebhookDeliveriesRepository.requeue now.toDate
  create_new now webhookSubscriptionId event payload r :=
    ⟨rfl, r.findById_created now.toDate webhookSubscriptionId event payload⟩
  findById_create now webhookSubscriptionId event payload r id :=
    r.findById_create now.toDate webhookSubscriptionId event payload id
  findById_recordAttempt _ _ _ r := r.findById_update
  findById_requeue _ _ r := r.findById_update
  findDuePending_eq _ _ _ := rfl
  mem_duePending now r delivery h := by
    obtain ⟨hdelivery, due⟩ := WebhookDeliveriesRepository.mem_duePending.mp h
    refine ⟨WebhookDeliveriesRepository.findById_eq_some_iff.mpr ⟨hdelivery, rfl⟩, ?_⟩
    simp only [WebhookDelivery.due, Bool.and_eq_true, decide_eq_true_eq] at due
    exact due.1
  nodup_duePending now r := r.nodup_duePending now.toDate

/-- The table, through `rowToDelivery`. -/
def tableDeliveries : DeliveryStore (WebhookDeliveries Payload) Payload where
  create now webhookSubscriptionId event payload table :=
    ((table.created now webhookSubscriptionId event payload).rowToDelivery,
      table.create now webhookSubscriptionId event payload)
  findById id table := (table.findById id).map WebhookDeliveryRow.rowToDelivery
  duePending now table := (table.duePending now).map WebhookDeliveryRow.rowToDelivery
  findDuePending now limit table :=
    (table.findDuePending now limit).map WebhookDeliveryRow.rowToDelivery
  recordAttempt := WebhookDeliveries.recordAttempt
  requeue := WebhookDeliveries.requeue
  create_new now webhookSubscriptionId event payload table := by
    refine ⟨rfl, ?_⟩
    rw [Option.map_eq_none_iff, WebhookDeliveries.findById, List.find?_eq_none]
    intro row hrow
    rw [decide_eq_true_eq]
    exact (table.sequence row hrow).ne
  findById_create now webhookSubscriptionId event payload table id := by
    split
    next same =>
      have new : id = table.nextId := same
      rw [new, WebhookDeliveries.findById_create_self, Option.map_some]
    next other =>
      rw [WebhookDeliveries.findById_create_of_ne (show id ≠ table.nextId from other)]
  findById_recordAttempt now id result table other := by
    rw [table.findById_recordAttempt]
    split
    · cases table.findById other with
      | none => rfl
      | some row => exact congrArg some (row.rowToDelivery_recordAttempt now result)
    · rfl
  findById_requeue now id table other := by
    rw [table.findById_requeue]
    split
    · cases table.findById other with
      | none => rfl
      | some row => exact congrArg some (row.rowToDelivery_requeue now)
    · rfl
  findDuePending_eq now limit table := List.map_take
  mem_duePending now table delivery h := by
    obtain ⟨row, hrow, rfl⟩ := List.mem_map.mp h
    obtain ⟨inTable, pending⟩ := WebhookDeliveries.mem_duePending hrow
    have found := WebhookDeliveries.findById_eq_some_iff.mpr ⟨inTable, rfl⟩
    exact ⟨congrArg (Option.map WebhookDeliveryRow.rowToDelivery) found, pending⟩
  nodup_duePending now table := by
    rw [List.map_map]
    exact table.nodup_duePending now

end Api
end XStreamRoll
