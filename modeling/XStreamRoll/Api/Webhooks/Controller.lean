/-
The requests to `WebhooksController`, and the table of subscriptions behind them.

A request runs without a break from one `await` to the next, each of which is one statement
on the database.  Any number of requests take their steps in any order, while streams come
and go with their subscriptions, and dispatches and attempts write deliveries.  A statement
may reject, executed or not, and nothing here catches that.

`answers` is a log of what each user was sent: no step reads it.
-/
import Mathlib.Data.List.Sort
import Mathlib.Data.Nat.SuccPred
import XStreamRoll.Table
import XStreamRoll.Api.Webhooks

namespace XStreamRoll
namespace Api

variable {Payload : Type}

/-! ## Subscriptions -/

/-- The whole entity, of which `WebhookSubscription` has what deliveries read. -/
structure OwnedSubscription where
  id : Nat
  userId : Nat
  streamId : Nat
  url : String
  events : List String
  secret : String
  active : Bool
  createdAt : Date
deriving DecidableEq, Repr

structure WebhookSubscriptionRow where
  id : Nat
  userId : Nat
  streamId : Nat
  url : String
  events : List String
  secret : String
  active : Bool
  createdAt : Timestamptz
deriving DecidableEq, Repr

def WebhookSubscriptionRow.rowToSubscription (row : WebhookSubscriptionRow) :
    OwnedSubscription where
  id := row.id
  userId := row.userId
  streamId := row.streamId
  url := row.url
  events := row.events
  secret := row.secret
  active := row.active
  createdAt := row.createdAt.toDate

/-- `Omit<WebhookSubscription, "secret">`. -/
structure WebhookSubscriptionResponse where
  id : Nat
  userId : Nat
  streamId : Nat
  url : String
  events : List String
  active : Bool
  createdAt : Date
deriving DecidableEq, Repr

def toSubscriptionResponse (subscription : OwnedSubscription) : WebhookSubscriptionResponse where
  id := subscription.id
  userId := subscription.userId
  streamId := subscription.streamId
  url := subscription.url
  events := subscription.events
  active := subscription.active
  createdAt := subscription.createdAt

/-- `changes`, of which a field is there or not. -/
structure WebhookChanges where
  url : Option String
  events : Option (List String)
  active : Option Bool
deriving DecidableEq, Repr

/-- No field is there. -/
def WebhookChanges.isEmpty (changes : WebhookChanges) : Bool :=
  changes.url.isNone && changes.events.isNone && changes.active.isNone

def WebhookSubscriptionRow.change (changes : WebhookChanges) (row : WebhookSubscriptionRow) :
    WebhookSubscriptionRow :=
  { row with
    url := changes.url.getD row.url
    events := changes.events.getD row.events
    active := changes.active.getD row.active }

theorem WebhookSubscriptionRow.change_id (changes : WebhookChanges) (row : WebhookSubscriptionRow) :
    (row.change changes).id = row.id := rfl

/-- A row of `streams`, as far as ownership goes. -/
structure StreamOwner where
  id : Nat
  userId : Nat
deriving DecidableEq, Repr

def StreamOwner.new (userId id : Nat) : StreamOwner := ⟨id, userId⟩

theorem StreamOwner.new_id (userId id : Nat) : (StreamOwner.new userId id).id = id := rfl

abbrev WebhookSubscriptions := Table WebhookSubscriptionRow WebhookSubscriptionRow.id

abbrev StreamOwners := Table StreamOwner StreamOwner.id

/-- What deliveries read of it. -/
def WebhookSubscriptionRow.delivered (row : WebhookSubscriptionRow) : WebhookSubscription where
  id := row.id
  streamId := row.streamId
  url := row.url
  events := row.events
  secret := row.secret
  active := row.active

namespace WebhookSubscriptions

/-- `stream_id = $1 AND active = true AND $2 = ANY(events)`. -/
def findActiveByStreamAndEvent (streamId : Nat) (event : String) (table : WebhookSubscriptions) :
    List WebhookSubscriptionRow :=
  table.rows.filter fun row => row.streamId = streamId && row.active && row.events.contains event

/-- `user_id = $1 AND stream_id = $2`, of which the second may be missing. -/
def listed (userId : Nat) (streamId : Option Nat) (row : WebhookSubscriptionRow) : Bool :=
  row.userId = userId && streamId.all fun id => row.streamId = id

/-- `… ORDER BY created_at DESC LIMIT … OFFSET …`.  Rows of one moment come in the order of
the table. -/
def listByUser (userId page limit : Nat) (streamId : Option Nat) (table : WebhookSubscriptions) :
    List WebhookSubscriptionRow :=
  (((table.rows.filter (listed userId streamId)).insertionSort
    fun a b => b.createdAt ≤ a.createdAt).drop ((page - 1) * limit)).take limit

def countByUser (userId : Nat) (streamId : Option Nat) (table : WebhookSubscriptions) : Nat :=
  table.rows.countP (listed userId streamId)

/-- `UPDATE … SET … WHERE id = $1`, which is not sent without an assignment. -/
def update (id : Nat) (changes : WebhookChanges) (table : WebhookSubscriptions) :
    WebhookSubscriptions :=
  if changes.isEmpty then table
  else Table.modify (fun row => row.id = id) (WebhookSubscriptionRow.change changes)
    (WebhookSubscriptionRow.change_id changes) table

/-- What the update returns. -/
def updated (id : Nat) (changes : WebhookChanges) (table : WebhookSubscriptions) :
    Option WebhookSubscriptionRow :=
  if changes.isEmpty then none else (table.update id changes).find id

end WebhookSubscriptions

namespace WebhookDeliveries

/-- `webhook_subscription_id … ON DELETE CASCADE`. -/
def cascade (deleted : Nat → Bool) (table : WebhookDeliveries Payload) :
    WebhookDeliveries Payload where
  rows := table.rows.filter fun row => !deleted row.webhookSubscriptionId
  nextId := table.nextId
  primaryKey := table.primaryKey.sublist (List.filter_sublist.map _)
  sequence := fun row hrow => table.sequence row (List.mem_of_mem_filter hrow)

/-- `… WHERE webhook_subscription_id = $1 ORDER BY created_at DESC LIMIT $2 OFFSET $3`. -/
def listBySubscription (webhookSubscriptionId page limit : Nat)
    (table : WebhookDeliveries Payload) : List (WebhookDeliveryRow Payload) :=
  (((table.rows.filter fun row => row.webhookSubscriptionId = webhookSubscriptionId).insertionSort
    fun a b => b.createdAt ≤ a.createdAt).drop ((page - 1) * limit)).take limit

def countBySubscription (webhookSubscriptionId : Nat) (table : WebhookDeliveries Payload) : Nat :=
  table.rows.countP fun row => row.webhookSubscriptionId = webhookSubscriptionId

end WebhookDeliveries

namespace WebhooksController

/-! ## Requests and answers -/

structure CreateWebhookDto where
  streamId : Nat
  url : String
  events : List String
deriving DecidableEq, Repr

structure PaginationQueryDto where
  page : Option Nat
  limit : Option Nat
deriving DecidableEq, Repr

/-- The requests that are made of one webhook, which `assertOwnership` guards. -/
inductive Guarded where
  | update (changes : WebhookChanges)
  | delete
  | listDeliveries (query : PaginationQueryDto)
  | retryDelivery (deliveryId : Nat)
deriving DecidableEq, Repr

inductive Request where
  | create (body : CreateWebhookDto)
  | list (query : PaginationQueryDto) (streamId : Option Nat)
  | guarded (id : Nat) (request : Guarded)
deriving DecidableEq, Repr

inductive Exception where
  | badRequest (message : String)
  | forbidden (message : String)
  | notFound (message : String)
  | conflict (message : String)
  | serviceUnavailable (message : String)
deriving DecidableEq, Repr

inductive Answer (Payload : Type) where
  | created (subscription : OwnedSubscription)
  | listed (data : List WebhookSubscriptionResponse) (page limit total : Nat)
  | updated (subscription : WebhookSubscriptionResponse)
  | deleted
  | deliveries (data : List (WebhookDelivery Payload)) (page limit total : Nat)
  | requeued (delivery : WebhookDelivery Payload)
  | thrown (exception : Exception)
deriving DecidableEq, Repr

/-- What a request waits for. -/
inductive Await where
  /-- `ownsStream`, and the INSERT with the secret that was drawn -/
  | owns (body : CreateWebhookDto)
  | insert (body : CreateWebhookDto) (secret : String)
  /-- the two statements of `listByUser` -/
  | count (page limit : Nat) (streamId : Option Nat)
  | select (page limit : Nat) (streamId : Option Nat) (total : Nat)
  /-- the `findById` of `assertOwnership` -/
  | assertOwnership (id : Nat) (request : Guarded)
  /-- `findById` once more, and the UPDATE -/
  | updateFind (id : Nat) (changes : WebhookChanges)
  | update (id : Nat) (changes : WebhookChanges)
  | delete (id : Nat)
  /-- `findById` once more, and the two statements of `listBySubscriptionPaginated` -/
  | deliveriesFind (id page limit : Nat)
  | deliveriesCount (id page limit : Nat)
  | deliveriesSelect (id page limit total : Nat)
  /-- `findById` once more, the delivery's, and the UPDATE -/
  | retryFind (id deliveryId : Nat)
  | retryDelivery (id deliveryId : Nat)
  | retryRequeue (id deliveryId : Nat)
deriving DecidableEq, Repr

structure Call where
  userId : Nat
  await : Await
deriving DecidableEq, Repr

end WebhooksController

structure WebhooksController (Payload : Type) where
  now : Timestamptz
  streams : StreamOwners
  subscriptions : WebhookSubscriptions
  deliveries : WebhookDeliveries Payload
  calls : List WebhooksController.Call
  answers : List (Nat × WebhooksController.Answer Payload)

namespace WebhooksController

/-! ## The exceptions -/

def unavailable : Exception := .serviceUnavailable Webhooks.handleDbError

def webhookNotFound (id : Nat) : Exception := .notFound ("webhook " ++ toString id ++ " not found")

def deliveryNotFound (webhookId deliveryId : Nat) : Exception :=
  .notFound ("delivery " ++ toString deliveryId ++ " not found for webhook " ++ toString webhookId)

def notStreamOwner (userId streamId : Nat) : Exception :=
  .forbidden ("user " ++ toString userId ++ " does not own stream " ++ toString streamId)

def notWebhookOwner (userId id : Nat) : Exception :=
  .forbidden ("user " ++ toString userId ++ " does not own webhook " ++ toString id)

def nothingToUpdate : Exception :=
  .badRequest "at least one of url, events, or active must be provided"

/-! ## Turns of a request -/

/-- How a turn ends: at the next `await`, or with an answer. -/
inductive Outcome (Payload : Type) where
  | waits (await : Await)
  | answers (answer : Answer Payload)
deriving DecidableEq, Repr

def throws (exception : Exception) : Outcome Payload := .answers (.thrown exception)

/-- `ownsStream(userId, streamId)`. -/
def ownsStream (userId streamId : Nat) (s : WebhooksController Payload) : Bool :=
  (s.streams.find streamId).any fun stream => stream.userId = userId

/-- The row of the INSERT, up to its key.  `active` is `true` by default. -/
def newRow (now : Timestamptz) (userId : Nat) (body : CreateWebhookDto) (secret : String)
    (id : Nat) : WebhookSubscriptionRow where
  id := id
  userId := userId
  streamId := body.streamId
  url := body.url
  events := body.events
  secret := secret
  active := true
  createdAt := now

theorem newRow_id (now : Timestamptz) (userId : Nat) (body : CreateWebhookDto) (secret : String)
    (id : Nat) : (newRow now userId body secret id).id = id := rfl

/-- `stream_id … REFERENCES streams(id)`. -/
def insertable (body : CreateWebhookDto) (s : WebhooksController Payload) : Bool :=
  (s.streams.find body.streamId).isSome

def create (userId : Nat) (body : CreateWebhookDto) (secret : String)
    (s : WebhooksController Payload) : WebhookSubscriptions :=
  Table.insert (newRow s.now userId body secret) (newRow_id s.now userId body secret)
    s.subscriptions

/-- The statement that the request waits for is executed. -/
def executed (s : WebhooksController Payload) (userId : Nat) : Await → WebhooksController Payload
  | .insert body secret =>
    { s with
      subscriptions :=
        if s.insertable body then s.create userId body secret else s.subscriptions.skip }
  | .update id changes => { s with subscriptions := s.subscriptions.update id changes }
  | .delete id =>
    { s with
      subscriptions := s.subscriptions.delete fun row => row.id = id
      deliveries := s.deliveries.cascade fun webhookId => webhookId = id }
  | .retryRequeue _ deliveryId => { s with deliveries := s.deliveries.requeue s.now deliveryId }
  | _ => s

/-- Where a guarded request goes from `assertOwnership`. -/
def Guarded.begin (id : Nat) : Guarded → Outcome Payload
  | .update changes =>
    if changes.isEmpty then throws nothingToUpdate else .waits (.updateFind id changes)
  | .delete => .waits (.delete id)
  | .listDeliveries query => .waits (.deliveriesFind id (query.page.getD 1) (query.limit.getD 20))
  | .retryDelivery deliveryId => .waits (.retryFind id deliveryId)

/-- `findById` of the service: the webhook, or a 404. -/
def found (id : Nat) (next : WebhookSubscriptionRow → Outcome Payload)
    (s : WebhooksController Payload) : Outcome Payload :=
  match s.subscriptions.find id with
  | none => throws (webhookNotFound id)
  | some row => next row

/-- What the request does with what its statement returns, up to the next `await`. -/
def outcome (s : WebhooksController Payload) (secret : String) (userId : Nat) :
    Await → Outcome Payload
  | .owns body =>
    if s.ownsStream userId body.streamId then .waits (.insert body secret)
    else throws (notStreamOwner userId body.streamId)
  | .insert body secret =>
    if s.insertable body then
      .answers (.created (newRow s.now userId body secret s.subscriptions.nextId).rowToSubscription)
    else throws unavailable
  | .count page limit streamId =>
    .waits (.select page limit streamId (s.subscriptions.countByUser userId streamId))
  | .select page limit streamId total =>
    .answers (.listed ((s.subscriptions.listByUser userId page limit streamId).map fun row =>
      toSubscriptionResponse row.rowToSubscription) page limit total)
  | .assertOwnership id request =>
    s.found id fun row =>
      if row.userId = userId then request.begin id else throws (notWebhookOwner userId id)
  | .updateFind id changes => s.found id fun _ => .waits (.update id changes)
  | .update id changes =>
    match s.subscriptions.updated id changes with
    | none => throws (webhookNotFound id)
    | some row => .answers (.updated (toSubscriptionResponse row.rowToSubscription))
  | .delete id => s.found id fun _ => .answers .deleted
  | .deliveriesFind id page limit => s.found id fun _ => .waits (.deliveriesCount id page limit)
  | .deliveriesCount id page limit =>
    .waits (.deliveriesSelect id page limit (s.deliveries.countBySubscription id))
  | .deliveriesSelect id page limit total =>
    .answers (.deliveries ((s.deliveries.listBySubscription id page limit).map
      WebhookDeliveryRow.rowToDelivery) page limit total)
  | .retryFind id deliveryId => s.found id fun _ => .waits (.retryDelivery id deliveryId)
  | .retryDelivery id deliveryId =>
    match s.deliveries.findById deliveryId with
    | none => throws (deliveryNotFound id deliveryId)
    | some row =>
      if row.webhookSubscriptionId ≠ id then throws (deliveryNotFound id deliveryId)
      else if row.status = .success then
        throws (.conflict ("delivery " ++ toString deliveryId ++ " was already delivered"))
      else .waits (.retryRequeue id deliveryId)
  | .retryRequeue id deliveryId =>
    match (s.deliveries.requeue s.now deliveryId).findById deliveryId with
    | none => throws (deliveryNotFound id deliveryId)
    | some row => .answers (.requeued row.rowToDelivery)

/-- What a request does up to its first `await`. -/
def Request.start : Request → Await
  | .create body => .owns body
  | .list query streamId => .count (query.page.getD 1) (query.limit.getD 20) streamId
  | .guarded id request => .assertOwnership id request

/-! ## Steps -/

inductive Action (Payload : Type) where
  | advance (micros : Nat)
  /-- a stream is created or deleted, and with it what refers to it -/
  | createStream (userId : Nat)
  | deleteStream (streamId : Nat)
  /-- the INSERT of a dispatch, and the UPDATE after an attempt -/
  | dispatch (webhookSubscriptionId : Nat) (event : String) (data : Payload)
  | recordAttempt (deliveryId : Nat) (result : RecordAttemptInput)
  | request (userId : Nat) (request : Request)
  /-- the statement that the `i`-th request waits for is executed; what is drawn at random -/
  | resume (i : Nat) (secret : String)
  /-- it rejects -/
  | reject (i : Nat) (executed : Bool)
deriving DecidableEq, Repr

/-- The `i`-th request is over, or it waits again. -/
def settle (i : Nat) (userId : Nat) (s : WebhooksController Payload) :
    Outcome Payload → WebhooksController Payload
  | .waits await => { s with calls := s.calls.set i ⟨userId, await⟩ }
  | .answers answer =>
    { s with calls := s.calls.eraseIdx i, answers := s.answers ++ [(userId, answer)] }

/-- `ON DELETE CASCADE` from the streams to the subscriptions and on to the deliveries. -/
def deleteStream (streamId : Nat) (s : WebhooksController Payload) : WebhooksController Payload :=
  { s with
    streams := s.streams.delete fun stream => stream.id = streamId
    subscriptions := s.subscriptions.delete fun row => row.streamId = streamId
    deliveries := s.deliveries.cascade fun webhookId =>
      (s.subscriptions.find webhookId).any fun row => row.streamId = streamId }

def step (s : WebhooksController Payload) : Action Payload → Option (WebhooksController Payload)
  | .advance micros => some { s with now := ⟨s.now.micros + micros⟩ }
  | .createStream userId =>
    some { s with
      streams := Table.insert (StreamOwner.new userId) (StreamOwner.new_id userId) s.streams }
  | .deleteStream streamId => some (s.deleteStream streamId)
  | .dispatch webhookId event data =>
    if (s.subscriptions.find webhookId).isSome then
      some { s with deliveries := s.deliveries.create s.now webhookId event data }
    else none
  | .recordAttempt deliveryId result =>
    some { s with deliveries := s.deliveries.recordAttempt s.now deliveryId result }
  | .request userId request => some { s with calls := s.calls ++ [⟨userId, request.start⟩] }
  | .resume i secret =>
    (s.calls[i]?).map fun call =>
      (s.executed call.userId call.await).settle i call.userId
        (s.outcome secret call.userId call.await)
  | .reject i executed =>
    (s.calls[i]?).map fun call =>
      (if executed then s.executed call.userId call.await else s).settle i call.userId
        (throws unavailable)

end WebhooksController

end Api
end XStreamRoll
