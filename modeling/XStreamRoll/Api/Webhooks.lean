/-
Webhooks: deliveries, their first attempts, the retry sweep and the manual retry.

The calls of all API instances take their steps in any order on one database, and each
step runs from one `await` to the next.  `attemptDelivery` awaits its `fetch` and then
`recordAttempt`, which is also in the reach of its `catch`, so a record that fails is made
again; a `fetch` that fails goes to the `catch` at once.  The answer to an INSERT, and to
the SELECT of a sweep that finds an active subscription, is a step of its own, since the
POST starts only once it is there.

A statement that rejects may still have been executed, when only its answer was lost.
What `register` and `update` do to the subscriptions is one action, which may leave
anything.  `posted` and `answers` are logs: no step reads them.
-/
import Mathlib.Data.List.Perm.Basic
import Mathlib.Data.List.Sort
import XStreamRoll.Lists
import XStreamRoll.Time
import XStreamRoll.Transition

namespace XStreamRoll
namespace Api

variable {Payload : Type}

structure WebhookSubscription where
  id : Nat
  streamId : Nat
  url : String
  events : List String
  secret : String
  active : Bool
deriving DecidableEq, Repr

inductive WebhookDeliveryStatus where
  | pending
  | success
  | failed
deriving DecidableEq, Repr

structure WebhookDelivery (Payload : Type) where
  id : Nat
  webhookSubscriptionId : Nat
  event : String
  payload : Payload
  status : WebhookDeliveryStatus
  attemptCount : Nat
  lastStatusCode : Option Nat
  lastResponseBody : Option String
  lastError : Option String
  nextAttemptAt : Option Date
  deliveredAt : Option Date
  createdAt : Date
deriving DecidableEq, Repr

structure WebhookDeliveryRow (Payload : Type) where
  id : Nat
  webhookSubscriptionId : Nat
  event : String
  payload : Payload
  status : WebhookDeliveryStatus
  attemptCount : Nat
  lastStatusCode : Option Nat
  lastResponseBody : Option String
  lastError : Option String
  nextAttemptAt : Option Timestamptz
  deliveredAt : Option Timestamptz
  createdAt : Timestamptz
deriving DecidableEq, Repr

def WebhookDeliveryRow.rowToDelivery (row : WebhookDeliveryRow Payload) :
    WebhookDelivery Payload where
  id := row.id
  webhookSubscriptionId := row.webhookSubscriptionId
  event := row.event
  payload := row.payload
  status := row.status
  attemptCount := row.attemptCount
  lastStatusCode := row.lastStatusCode
  lastResponseBody := row.lastResponseBody
  lastError := row.lastError
  nextAttemptAt := row.nextAttemptAt.map Timestamptz.toDate
  deliveredAt := row.deliveredAt.map Timestamptz.toDate
  createdAt := row.createdAt.toDate

structure RecordAttemptInput where
  statusCode : Option Nat
  responseBody : Option String
  error : Option String
  success : Bool
  /-- `none` when the delivery is terminal. -/
  nextAttemptAt : Option Date
deriving DecidableEq, Repr

/-! ## The table `webhook_deliveries` -/

/-- The rows, and the next value of the sequence behind `id`. -/
structure WebhookDeliveries (Payload : Type) where
  rows : List (WebhookDeliveryRow Payload)
  nextId : Nat
  primaryKey : (rows.map WebhookDeliveryRow.id).Nodup
  sequence : ∀ row ∈ rows, row.id < nextId

namespace WebhookDeliveries

/-- `INSERT … VALUES (…, 'pending', 0, CURRENT_TIMESTAMP)`. -/
def created (CURRENT_TIMESTAMP : Timestamptz) (webhookSubscriptionId : Nat) (event : String)
    (payload : Payload) (table : WebhookDeliveries Payload) : WebhookDeliveryRow Payload where
  id := table.nextId
  webhookSubscriptionId := webhookSubscriptionId
  event := event
  payload := payload
  status := .pending
  attemptCount := 0
  lastStatusCode := none
  lastResponseBody := none
  lastError := none
  nextAttemptAt := some CURRENT_TIMESTAMP
  deliveredAt := none
  createdAt := CURRENT_TIMESTAMP

def create (CURRENT_TIMESTAMP : Timestamptz) (webhookSubscriptionId : Nat) (event : String)
    (payload : Payload) (table : WebhookDeliveries Payload) : WebhookDeliveries Payload where
  rows := table.rows ++ [table.created CURRENT_TIMESTAMP webhookSubscriptionId event payload]
  nextId := table.nextId + 1
  primaryKey := nodup_concat table.primaryKey fun row hrow => Nat.ne_of_lt (table.sequence row hrow)
  sequence := by
    intro row hrow
    rcases List.mem_append.mp hrow with hold | hnew
    · exact Nat.lt_succ_of_lt (table.sequence row hold)
    · rw [List.mem_singleton.mp hnew]
      exact Nat.lt_succ_self _

def findById (id : Nat) (table : WebhookDeliveries Payload) :
    Option (WebhookDeliveryRow Payload) :=
  table.rows.find? fun row => row.id = id

/-- `status = 'pending' AND next_attempt_at <= CURRENT_TIMESTAMP`. -/
def due (CURRENT_TIMESTAMP : Timestamptz) (row : WebhookDeliveryRow Payload) : Bool :=
  row.status = .pending && row.nextAttemptAt.any fun t => t ≤ CURRENT_TIMESTAMP

/-- `… ORDER BY created_at ASC LIMIT $1`.  Rows of one moment come in the order of the table. -/
def findDuePending (CURRENT_TIMESTAMP : Timestamptz) (limit : Nat)
    (table : WebhookDeliveries Payload) : List (WebhookDeliveryRow Payload) :=
  ((table.rows.filter (due CURRENT_TIMESTAMP)).insertionSort
    fun a b => a.createdAt ≤ b.createdAt).take limit

/-- All the rows that are due, in the order of `findDuePending`. -/
def duePending (CURRENT_TIMESTAMP : Timestamptz) (table : WebhookDeliveries Payload) :
    List (WebhookDeliveryRow Payload) :=
  (table.rows.filter (due CURRENT_TIMESTAMP)).insertionSort fun a b => a.createdAt ≤ b.createdAt

/-- `UPDATE … WHERE id = $1` of other columns than `id`. -/
def update (id : Nat) (f : WebhookDeliveryRow Payload → WebhookDeliveryRow Payload)
    (hf : ∀ row, (f row).id = row.id) (table : WebhookDeliveries Payload) :
    WebhookDeliveries Payload where
  rows := table.rows.map fun row => if row.id = id then f row else row
  nextId := table.nextId
  primaryKey := by
    have hid : ∀ row, (if row.id = id then f row else row).id = row.id := by
      intro row
      split
      · exact hf row
      · rfl
    rw [List.map_map]
    exact (List.map_congr_left fun row _ => hid row) ▸ table.primaryKey
  sequence := by
    intro row hrow
    obtain ⟨old, hold, rfl⟩ := List.mem_map.mp hrow
    split
    · rw [hf]
      exact table.sequence old hold
    · exact table.sequence old hold

theorem eq_of_id {table : WebhookDeliveries Payload} {row row' : WebhookDeliveryRow Payload}
    (h : row ∈ table.rows) (h' : row' ∈ table.rows) (hid : row.id = row'.id) : row = row' :=
  List.inj_on_of_nodup_map table.primaryKey h h' hid

theorem findById_eq_some_iff {table : WebhookDeliveries Payload} {id : Nat}
    {row : WebhookDeliveryRow Payload} :
    table.findById id = some row ↔ row ∈ table.rows ∧ row.id = id := by
  constructor
  · intro h
    exact ⟨List.mem_of_find?_eq_some h, by simpa using List.find?_some h⟩
  · rintro ⟨hrow, rfl⟩
    cases hfind : table.findById row.id with
    | none =>
      have hnone := List.find?_eq_none.mp hfind row hrow
      simp at hnone
    | some found =>
      have hid : found.id = row.id := by simpa using List.find?_some hfind
      rw [eq_of_id (List.mem_of_find?_eq_some hfind) hrow hid]

theorem mem_create {table : WebhookDeliveries Payload} {t : Timestamptz} {subscriptionId : Nat}
    {event : String} {data : Payload} {row : WebhookDeliveryRow Payload} :
    row ∈ (table.create t subscriptionId event data).rows ↔
      row ∈ table.rows ∨ row = table.created t subscriptionId event data := by
  rw [create, List.mem_append, List.mem_singleton]

theorem mem_update {table : WebhookDeliveries Payload} {id : Nat}
    {f : WebhookDeliveryRow Payload → WebhookDeliveryRow Payload} {hf : ∀ row, (f row).id = row.id}
    {row : WebhookDeliveryRow Payload} :
    row ∈ (table.update id f hf).rows ↔
      (row ∈ table.rows ∧ row.id ≠ id) ∨ ∃ old ∈ table.rows, old.id = id ∧ row = f old := by
  rw [update, List.mem_map]
  constructor
  · rintro ⟨old, hold, rfl⟩
    split
    · next hid => exact .inr ⟨old, hold, hid, rfl⟩
    · next hid => exact .inl ⟨hold, hid⟩
  · rintro (⟨hrow, hid⟩ | ⟨old, hold, hid, rfl⟩)
    · exact ⟨row, hrow, if_neg hid⟩
    · exact ⟨old, hold, if_pos hid⟩

theorem findById_update_of_ne {table : WebhookDeliveries Payload} {id id' : Nat}
    {f : WebhookDeliveryRow Payload → WebhookDeliveryRow Payload} {hf : ∀ row, (f row).id = row.id}
    (hne : id' ≠ id) : (table.update id f hf).findById id' = table.findById id' := by
  ext row
  simp only [findById_eq_some_iff, mem_update]
  constructor
  · rintro ⟨⟨hrow, -⟩ | ⟨old, -, hold, rfl⟩, hid⟩
    · exact ⟨hrow, hid⟩
    · exact absurd (hid.symm.trans ((hf old).trans hold)) hne
  · rintro ⟨hrow, hid⟩
    exact ⟨.inl ⟨hrow, hid ▸ hne⟩, hid⟩

theorem findById_update_self {table : WebhookDeliveries Payload} {id : Nat}
    {f : WebhookDeliveryRow Payload → WebhookDeliveryRow Payload} {hf : ∀ row, (f row).id = row.id} :
    (table.update id f hf).findById id = (table.findById id).map f := by
  ext row
  simp only [findById_eq_some_iff, mem_update, Option.map_eq_some_iff]
  constructor
  · rintro ⟨⟨-, hne⟩ | ⟨old, hrow, hold, rfl⟩, hid⟩
    · exact absurd hid hne
    · exact ⟨old, ⟨hrow, hold⟩, rfl⟩
  · rintro ⟨old, ⟨hrow, hold⟩, rfl⟩
    exact ⟨.inr ⟨old, hrow, hold, rfl⟩, (hf old).trans hold⟩

theorem findById_create_of_ne {table : WebhookDeliveries Payload} {t : Timestamptz}
    {subscriptionId id : Nat} {event : String} {data : Payload} (hne : id ≠ table.nextId) :
    (table.create t subscriptionId event data).findById id = table.findById id := by
  ext row
  simp only [findById_eq_some_iff, mem_create]
  constructor
  · rintro ⟨hrow | rfl, hid⟩
    · exact ⟨hrow, hid⟩
    · exact absurd hid.symm hne
  · rintro ⟨hrow, hid⟩
    exact ⟨.inl hrow, hid⟩

theorem findById_create_self {table : WebhookDeliveries Payload} {t : Timestamptz}
    {subscriptionId : Nat} {event : String} {data : Payload} :
    (table.create t subscriptionId event data).findById table.nextId =
      some (table.created t subscriptionId event data) :=
  findById_eq_some_iff.mpr ⟨mem_create.mpr (.inr rfl), rfl⟩

/-- The rows that are due are pending rows of the table, each of them once. -/
theorem mem_duePending {table : WebhookDeliveries Payload} {t : Timestamptz}
    {row : WebhookDeliveryRow Payload} (h : row ∈ table.duePending t) :
    row ∈ table.rows ∧ row.status = .pending := by
  have hmem := (List.perm_insertionSort _ _).subset h
  obtain ⟨hrow, hdue⟩ := List.mem_filter.mp hmem
  refine ⟨hrow, ?_⟩
  simp only [due, Bool.and_eq_true, decide_eq_true_eq] at hdue
  exact hdue.1

theorem nodup_duePending (table : WebhookDeliveries Payload) (t : Timestamptz) :
    ((table.duePending t).map WebhookDeliveryRow.id).Nodup := by
  have hsorted := (List.perm_insertionSort (fun a b => a.createdAt ≤ b.createdAt)
    (table.rows.filter (due t))).map WebhookDeliveryRow.id
  rw [duePending, hsorted.nodup_iff]
  exact table.primaryKey.sublist (List.filter_sublist.map _)

theorem mem_findDuePending {table : WebhookDeliveries Payload} {t : Timestamptz} {limit : Nat}
    {row : WebhookDeliveryRow Payload} (h : row ∈ table.findDuePending t limit) :
    row ∈ table.rows ∧ row.status = .pending :=
  mem_duePending (List.mem_of_mem_take h)

theorem nodup_findDuePending (table : WebhookDeliveries Payload) (t : Timestamptz) (limit : Nat) :
    ((table.findDuePending t limit).map WebhookDeliveryRow.id).Nodup :=
  (table.nodup_duePending t).sublist ((List.take_sublist _ _).map _)

end WebhookDeliveries

def RecordAttemptInput.status (result : RecordAttemptInput) : WebhookDeliveryStatus :=
  if result.success then .success
  else if result.nextAttemptAt.isSome then .pending
  else .failed

def WebhookDeliveryRow.recordAttempt (CURRENT_TIMESTAMP : Timestamptz)
    (result : RecordAttemptInput) (row : WebhookDeliveryRow Payload) :
    WebhookDeliveryRow Payload :=
  { row with
    attemptCount := row.attemptCount + 1
    lastStatusCode := result.statusCode
    lastResponseBody := result.responseBody
    lastError := result.error
    nextAttemptAt := result.nextAttemptAt.map Date.toTimestamptz
    status := result.status
    deliveredAt := if result.success then some CURRENT_TIMESTAMP else row.deliveredAt }

def WebhookDeliveryRow.requeue (CURRENT_TIMESTAMP : Timestamptz)
    (row : WebhookDeliveryRow Payload) : WebhookDeliveryRow Payload :=
  { row with status := .pending, nextAttemptAt := some CURRENT_TIMESTAMP }

namespace WebhookDeliveries

def recordAttempt (CURRENT_TIMESTAMP : Timestamptz) (id : Nat) (result : RecordAttemptInput)
    (table : WebhookDeliveries Payload) : WebhookDeliveries Payload :=
  table.update id (WebhookDeliveryRow.recordAttempt CURRENT_TIMESTAMP result) fun _ => rfl

def requeue (CURRENT_TIMESTAMP : Timestamptz) (id : Nat) (table : WebhookDeliveries Payload) :
    WebhookDeliveries Payload :=
  table.update id (WebhookDeliveryRow.requeue CURRENT_TIMESTAMP) fun _ => rfl

end WebhookDeliveries

inductive HttpException where
  | notFound (message : String)
  | conflict (message : String)
  | serviceUnavailable (message : String)
deriving DecidableEq, Repr

/-- What is sent, as the object that `JSON.stringify` is given. -/
structure WebhookBody (Payload : Type) where
  event : String
  streamId : Nat
  data : Payload
  deliveryId : Nat
  timestamp : String
deriving DecidableEq, Repr

structure Post (Payload : Type) where
  url : String
  signature : String
  body : WebhookBody Payload
deriving DecidableEq, Repr

namespace Webhooks

/-- `JSON.stringify` of a body, and HMAC-SHA256 in hexadecimal. -/
structure Platform (Payload : Type) where
  stringify : WebhookBody Payload → String
  hmacSha256 : String → String → String

/-! ## `attemptDelivery` -/

/-- What `handleDbError` throws. -/
def handleDbError : String := "Database is unavailable. Please try again later."

def maxStoredResponseBodyLength : Nat := 4000

def maxRetries : Nat := 5

def retryDelaysMs : List Nat :=
  [60000, 5 * 60000, 30 * 60000, 3 * 60 * 60000, 20 * 60 * 60000 + 24 * 60000]

def retrySweepBatchSize : Nat := 50

/-- The date of the next attempt after so many, of which the last has just failed. -/
def nextAttemptAfter (now : Date) (attemptCountAfterThisAttempt : Nat) : Option Date :=
  let retryIndex := attemptCountAfterThisAttempt - 1
  if maxRetries ≤ retryIndex then none
  else some (now.plus (retryDelaysMs.getD retryIndex 0))

theorem isSome_nextAttemptAfter (now : Date) (attemptCount : Nat) :
    (nextAttemptAfter now (attemptCount + 1)).isSome ↔ attemptCount < maxRetries := by
  simp only [nextAttemptAfter, Nat.add_sub_cancel]
  split
  next exhausted =>
    constructor
    · intro none
      cases none
    · exact fun left => absurd exhausted (Nat.not_le.mpr left)
  next left => exact ⟨fun _ => Nat.not_le.mp left, fun _ => rfl⟩

/-- `slice(0, n)`, which counts UTF-16 units: two for a character above U+FFFF.  Half of
such a character is stored as U+FFFD. -/
def slice : Nat → List Char → List Char
  | 0, _ | _, [] => []
  | 1, c :: _ => [if c.toNat ≤ 65535 then c else '\uFFFD']
  | n + 2, c :: cs => c :: if c.toNat ≤ 65535 then slice (n + 1) cs else slice n cs

/-- How a `fetch` with its `text()` ends. -/
inductive Outcome where
  | response (status : Nat) (body : String)
  | failed (message : String)
deriving DecidableEq, Repr

/-- What the `catch` records. -/
def caught (now : Date) (delivery : WebhookDelivery Payload) (message : String) :
    RecordAttemptInput where
  statusCode := none
  responseBody := none
  error := some message
  success := false
  nextAttemptAt := nextAttemptAfter now (delivery.attemptCount + 1)

def attempted (now : Date) (delivery : WebhookDelivery Payload) : Outcome → RecordAttemptInput
  | .response status body =>
    let success := decide (200 ≤ status ∧ status < 300)
    { statusCode := some status
      responseBody := some (String.ofList (slice maxStoredResponseBodyLength body.toList))
      error := none
      success
      nextAttemptAt :=
        if success then none else nextAttemptAfter now (delivery.attemptCount + 1) }
  | .failed message => caught now delivery message

def signPayload (p : Platform Payload) (secret rawBody : String) : String :=
  "sha256=" ++ p.hmacSha256 secret rawBody

def post (p : Platform Payload) (now : Date) (subscription : WebhookSubscription)
    (delivery : WebhookDelivery Payload) : Post Payload :=
  let body : WebhookBody Payload :=
    { event := delivery.event
      streamId := subscription.streamId
      data := delivery.payload
      deliveryId := delivery.id
      timestamp := now.toISOString }
  ⟨subscription.url, signPayload p subscription.secret (p.stringify body), body⟩

/-! ## The calls -/

/-- What a call waits for.  `rest` is what its loop has still to go through; the first
attempt of a delivery is a call with nothing left. -/
inductive Call (Payload : Type) where
  /-- `findActiveByStreamAndEvent` and each `create`; then the answer of the latter -/
  | dispatchFind (streamId : Nat) (event : String) (data : Payload)
  | dispatchCreate (subscription : WebhookSubscription) (rest : List WebhookSubscription)
      (event : String) (data : Payload)
  | dispatchCreated (subscription : WebhookSubscription) (delivery : WebhookDelivery Payload)
      (rest : List WebhookSubscription) (event : String) (data : Payload)
  /-- `findDuePending` and each `findById`; then the answer of the latter -/
  | sweepFind
  | sweepSubscription (delivery : WebhookDelivery Payload) (rest : List (WebhookDelivery Payload))
  | sweepFound (subscription : WebhookSubscription) (delivery : WebhookDelivery Payload)
      (rest : List (WebhookDelivery Payload))
  /-- `fetch`, `recordAttempt`, and the `recordAttempt` of the `catch` once one of them has
  rejected; `recorded` says that the former was executed nevertheless, which the call cannot
  know -/
  | post (delivery : WebhookDelivery Payload) (rest : List (WebhookDelivery Payload))
  | record (delivery : WebhookDelivery Payload) (result : RecordAttemptInput)
      (rest : List (WebhookDelivery Payload))
  | recordCaught (delivery : WebhookDelivery Payload) (result : RecordAttemptInput)
      (rest : List (WebhookDelivery Payload)) (recorded : Bool)
  /-- the two `findById` and `requeue` of `retryDelivery` -/
  | retryWebhook (webhookId deliveryId : Nat)
  | retryFind (webhookId deliveryId : Nat)
  | retryRequeue (webhookId deliveryId : Nat)
deriving DecidableEq, Repr

/-- What a call does on its turn: what it leaves of the table, where it waits next and which
call it has started, what it has sent, and what it returns. -/
structure Turn (Payload : Type) where
  deliveries : WebhookDeliveries Payload
  next : List (Call Payload)
  posted : List (Post Payload)
  answers : List (Except HttpException (WebhookDelivery Payload))

end Webhooks

structure Webhooks (Payload : Type) where
  now : Timestamptz
  subscriptions : List WebhookSubscription
  deliveries : WebhookDeliveries Payload
  calls : List (Webhooks.Call Payload)
  posted : List (Post Payload)
  /-- what `retryDelivery` has returned or thrown -/
  answers : List (Except HttpException (WebhookDelivery Payload))

namespace Webhooks

def findSubscription (id : Nat) (s : Webhooks Payload) : Option WebhookSubscription :=
  s.subscriptions.find? fun subscription => subscription.id = id

/-- `stream_id = $1 AND active = true AND $2 = ANY(events)`. -/
def findActiveByStreamAndEvent (streamId : Nat) (event : String) (s : Webhooks Payload) :
    List WebhookSubscription :=
  s.subscriptions.filter fun subscription =>
    subscription.streamId = streamId && subscription.active && subscription.events.contains event

/-- The next round of the loop of `dispatchStreamEvent`. -/
def dispatchNext (event : String) (data : Payload) : List WebhookSubscription → List (Call Payload)
  | [] => []
  | subscription :: rest => [.dispatchCreate subscription rest event data]

/-- The next round of the loop of `sweepRetries`. -/
def sweepNext : List (WebhookDelivery Payload) → List (Call Payload)
  | [] => []
  | delivery :: rest => [.sweepSubscription delivery rest]

def deliveryNotFound (webhookId deliveryId : Nat) : HttpException :=
  .notFound ("delivery " ++ toString deliveryId ++ " not found for webhook " ++ toString webhookId)

/-- The call waits on. -/
def waits (call : Call Payload) (s : Webhooks Payload) : Turn Payload :=
  ⟨s.deliveries, [call], [], []⟩

/-- The call returns or throws to the one who has asked for the retry. -/
def returns (answer : Except HttpException (WebhookDelivery Payload)) (s : Webhooks Payload) :
    Turn Payload :=
  ⟨s.deliveries, [], [], [answer]⟩

/-- The statement that the call waits for is executed. -/
def executed (s : Webhooks Payload) : Call Payload → WebhookDeliveries Payload
  | .dispatchCreate subscription _ event data => s.deliveries.create s.now subscription.id event data
  | .record delivery result _ | .recordCaught delivery result _ _ =>
    s.deliveries.recordAttempt s.now delivery.id result
  | .retryRequeue _ deliveryId => s.deliveries.requeue s.now deliveryId
  | _ => s.deliveries

/-- What a call does from its `await` to the next, when that resolves.  A `fetch` resolves
by `respond`. -/
def resume (p : Platform Payload) (s : Webhooks Payload) : Call Payload → Option (Turn Payload)
  | .dispatchFind streamId event data =>
    some ⟨s.deliveries, dispatchNext event data (s.findActiveByStreamAndEvent streamId event),
      [], []⟩
  | .dispatchCreate subscription rest event data =>
    let delivery := (s.deliveries.created s.now subscription.id event data).rowToDelivery
    some ⟨s.deliveries.create s.now subscription.id event data,
      [.dispatchCreated subscription delivery rest event data], [], []⟩
  | .dispatchCreated subscription delivery rest event data =>
    some ⟨s.deliveries, .post delivery [] :: dispatchNext event data rest,
      [post p s.now.toDate subscription delivery], []⟩
  | .sweepFind =>
    let due := (s.deliveries.findDuePending s.now retrySweepBatchSize).map
      WebhookDeliveryRow.rowToDelivery
    some ⟨s.deliveries, sweepNext due, [], []⟩
  | .sweepSubscription delivery rest =>
    match s.findSubscription delivery.webhookSubscriptionId with
    | none => some ⟨s.deliveries, sweepNext rest, [], []⟩
    | some subscription =>
      if subscription.active then some (s.waits (.sweepFound subscription delivery rest))
      else some ⟨s.deliveries, sweepNext rest, [], []⟩
  | .sweepFound subscription delivery rest =>
    some ⟨s.deliveries, [.post delivery rest], [post p s.now.toDate subscription delivery], []⟩
  | .post _ _ => none
  | .record delivery result rest =>
    some ⟨s.deliveries.recordAttempt s.now delivery.id result, sweepNext rest, [], []⟩
  | .recordCaught delivery result rest _ =>
    some ⟨s.deliveries.recordAttempt s.now delivery.id result, sweepNext rest, [], []⟩
  | .retryWebhook webhookId deliveryId =>
    match s.findSubscription webhookId with
    | none =>
      some (s.returns (.error (.notFound ("webhook " ++ toString webhookId ++ " not found"))))
    | some _ => some (s.waits (.retryFind webhookId deliveryId))
  | .retryFind webhookId deliveryId =>
    match s.deliveries.findById deliveryId with
    | none => some (s.returns (.error (deliveryNotFound webhookId deliveryId)))
    | some row =>
      if row.webhookSubscriptionId ≠ webhookId then
        some (s.returns (.error (deliveryNotFound webhookId deliveryId)))
      else if row.status = .success then
        some (s.returns (.error (.conflict
          ("delivery " ++ toString deliveryId ++ " was already delivered"))))
      else some (s.waits (.retryRequeue webhookId deliveryId))
  | .retryRequeue webhookId deliveryId =>
    let deliveries := s.deliveries.requeue s.now deliveryId
    match deliveries.findById deliveryId with
    | none => some ⟨deliveries, [], [], [.error (deliveryNotFound webhookId deliveryId)]⟩
    | some row => some ⟨deliveries, [], [], [.ok row.rowToDelivery]⟩

/-- A request that fails is recorded by the `catch`, and by nothing else. -/
def respond (outcome : Outcome) (s : Webhooks Payload) : Call Payload → Option (Turn Payload)
  | .post delivery rest =>
    match outcome with
    | .response _ _ =>
      some (s.waits (.record delivery (attempted s.now.toDate delivery outcome) rest))
    | .failed message =>
      some (s.waits (.recordCaught delivery (caught s.now.toDate delivery message) rest false))
  | _ => none

/-- What a call does when the statement that it waits for rejects.  Only `recordAttempt` is
called where a `catch` is around it. -/
def reject (executed : Bool) (s : Webhooks Payload) (call : Call Payload) :
    Option (Turn Payload) :=
  let deliveries := if executed then s.executed call else s.deliveries
  match call with
  | .dispatchCreated _ _ _ _ _ | .sweepFound _ _ _ | .post _ _ => none
  | .record delivery _ rest =>
    some ⟨deliveries, [.recordCaught delivery (caught s.now.toDate delivery handleDbError) rest
      executed], [], []⟩
  | .retryWebhook _ _ | .retryFind _ _ | .retryRequeue _ _ =>
    some ⟨deliveries, [], [], [.error (.serviceUnavailable handleDbError)]⟩
  | .dispatchFind _ _ _ | .dispatchCreate _ _ _ _ | .sweepFind | .sweepSubscription _ _
  | .recordCaught _ _ _ _ => some ⟨deliveries, [], [], []⟩

inductive Action (Payload : Type) where
  | advance (micros : Nat)
  | edit (subscriptions : List WebhookSubscription)
  | dispatchStreamEvent (streamId : Nat) (event : String) (data : Payload)
  | sweepRetries
  | retryDelivery (webhookId deliveryId : Nat)
  | resume (i : Nat)
  | respond (i : Nat) (outcome : Outcome)
  | reject (i : Nat) (executed : Bool)
deriving DecidableEq, Repr

def start (call : Call Payload) (s : Webhooks Payload) : Webhooks Payload :=
  { s with calls := s.calls ++ [call] }

/-- The `i`-th call has had its turn. -/
def settle (i : Nat) (turn : Turn Payload) (s : Webhooks Payload) : Webhooks Payload :=
  { s with
    deliveries := turn.deliveries
    calls := s.calls.eraseIdx i ++ turn.next
    posted := s.posted ++ turn.posted
    answers := s.answers ++ turn.answers }

/-- The turn that the action gives to a call, which it names by its place. -/
def turn (p : Platform Payload) (s : Webhooks Payload) : Action Payload → Option (Nat × Turn Payload)
  | .resume i => (s.calls[i]?).bind fun call => (s.resume p call).map (i, ·)
  | .respond i outcome => (s.calls[i]?).bind fun call => (s.respond outcome call).map (i, ·)
  | .reject i executed => (s.calls[i]?).bind fun call => (s.reject executed call).map (i, ·)
  | _ => none

def step (p : Platform Payload) (s : Webhooks Payload) (a : Action Payload) :
    Option (Webhooks Payload) :=
  match a with
  | .advance micros => some { s with now := ⟨s.now.micros + micros⟩ }
  | .edit subscriptions => some { s with subscriptions }
  | .dispatchStreamEvent streamId event data => some (s.start (.dispatchFind streamId event data))
  | .sweepRetries => some (s.start .sweepFind)
  | .retryDelivery webhookId deliveryId => some (s.start (.retryWebhook webhookId deliveryId))
  | .resume _ | .respond _ _ | .reject _ _ => (s.turn p a).map fun t => s.settle t.1 t.2

/-- The status of a delivery, if there is one of that id. -/
def statusOf (deliveryId : Nat) (s : Webhooks Payload) : Option WebhookDeliveryStatus :=
  (s.deliveries.findById deliveryId).map WebhookDeliveryRow.status

/-- How many POSTs have been made for the delivery. -/
def postsFor (deliveryId : Nat) (s : Webhooks Payload) : Nat :=
  s.posted.countP fun post => post.body.deliveryId = deliveryId

def Call.posting (deliveryId : Nat) : Call Payload → Bool
  | .post delivery _ => delivery.id = deliveryId
  | _ => false

/-- How many POSTs for the delivery are in flight. -/
def inFlight (deliveryId : Nat) (s : Webhooks Payload) : Nat :=
  s.calls.countP (Call.posting deliveryId)

end Webhooks

end Api
end XStreamRoll
