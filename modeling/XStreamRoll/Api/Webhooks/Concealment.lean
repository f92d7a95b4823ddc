/-
The signing secret of a webhook is shown once.

Two databases that differ in nothing but the secrets answer every request alike, except for
the answer to the request that makes the webhook.  The proof forgets the secrets: in the
tables, in the requests that are under way, in those answers, and in what is drawn at
random.  Every step commutes with that, so no later answer, no delivery and no choice that
a request makes depends on a secret.
-/
import XStreamRoll.Transition.Images
import XStreamRoll.Api.Webhooks.Controller
import XStreamRoll.Api.Webhooks.Repositories

namespace XStreamRoll
namespace Api

open Transition

variable {Payload : Type}

def WebhookSubscriptionRow.erase (row : WebhookSubscriptionRow) : WebhookSubscriptionRow :=
  { row with secret := "" }

theorem WebhookSubscriptionRow.erase_id (row : WebhookSubscriptionRow) : row.erase.id = row.id :=
  rfl

namespace WebhookSubscriptions

def erase (table : WebhookSubscriptions) : WebhookSubscriptions :=
  Table.image WebhookSubscriptionRow.erase WebhookSubscriptionRow.erase_id table

theorem find_erase (table : WebhookSubscriptions) (id : Nat) :
    table.erase.find id = (table.find id).map WebhookSubscriptionRow.erase :=
  Table.find_image

theorem update_erase (table : WebhookSubscriptions) (id : Nat) (changes : WebhookChanges) :
    table.erase.update id changes = (table.update id changes).erase := by
  unfold update
  split
  · rfl
  · exact Table.image_modify _ _ (fun _ _ => rfl) fun _ _ => rfl

theorem updated_erase (table : WebhookSubscriptions) (id : Nat) (changes : WebhookChanges) :
    table.erase.updated id changes =
      (table.updated id changes).map WebhookSubscriptionRow.erase := by
  unfold updated
  split
  · rfl
  · rw [update_erase, find_erase]

theorem delete_erase (table : WebhookSubscriptions) {p : WebhookSubscriptionRow → Bool}
    (blind : ∀ row, p row.erase = p row) :
    table.erase.delete p = WebhookSubscriptions.erase (table.delete p) :=
  Table.image_delete fun row _ => blind row

/-- The order of the rows has nothing to do with their secrets. -/
theorem insertionSort_erase (rows : List WebhookSubscriptionRow) :
    (rows.map WebhookSubscriptionRow.erase).insertionSort (fun a b => b.createdAt ≤ a.createdAt) =
      (rows.insertionSort fun a b => b.createdAt ≤ a.createdAt).map WebhookSubscriptionRow.erase :=
  (List.map_insertionSort (fun a b : WebhookSubscriptionRow => b.createdAt ≤ a.createdAt)
    (fun a b => b.createdAt ≤ a.createdAt) WebhookSubscriptionRow.erase rows
    fun _ _ _ _ => Iff.rfl).symm

theorem listByUser_erase (table : WebhookSubscriptions) (userId page limit : Nat)
    (streamId : Option Nat) : table.erase.listByUser userId page limit streamId =
      (table.listByUser userId page limit streamId).map WebhookSubscriptionRow.erase := by
  have rows : (table.rows.map WebhookSubscriptionRow.erase).filter (listed userId streamId) =
      (table.rows.filter (listed userId streamId)).map WebhookSubscriptionRow.erase := by
    rw [List.filter_map]
    rfl
  show List.take _ (List.drop _ (List.insertionSort _ (List.filter _ (List.map _ _)))) = _
  rw [rows, insertionSort_erase, listByUser, List.map_take, List.map_drop]

theorem countByUser_erase (table : WebhookSubscriptions) (userId : Nat) (streamId : Option Nat) :
    table.erase.countByUser userId streamId = table.countByUser userId streamId := by
  show List.countP _ (List.map _ _) = _
  rw [List.countP_map]
  rfl

end WebhookSubscriptions

namespace WebhooksController

/-! ## A state without the secrets -/

def Await.erase : Await → Await
  | .insert body _ => .insert body ""
  | await => await

def Call.erase (call : Call) : Call := { call with await := call.await.erase }

/-- The answer to `create` has the secret. -/
def Answer.erase : Answer Payload → Answer Payload
  | .created subscription => .created { subscription with secret := "" }
  | answer => answer

def Outcome.erase : Outcome Payload → Outcome Payload
  | .waits await => .waits await.erase
  | .answers answer => .answers answer.erase

def Action.erase : Action Payload → Action Payload
  | .resume i _ => .resume i ""
  | a => a

def erase (s : WebhooksController Payload) : WebhooksController Payload :=
  { s with
    subscriptions := s.subscriptions.erase
    calls := s.calls.map Call.erase
    answers := s.answers.map fun entry => (entry.1, entry.2.erase) }

variable (s : WebhooksController Payload)

/-! ## One step -/

theorem executed_erase (userId : Nat) (await : Await) :
    s.erase.executed userId await.erase = (s.executed userId await).erase := by
  cases await with
  | insert body secret =>
    show ({ s.erase with
      subscriptions := if s.insertable body then _ else _ } : WebhooksController _) =
        erase { s with subscriptions := if s.insertable body then _ else _ }
    split
    · have inserted : s.erase.create userId body "" = (s.create userId body secret).erase :=
        Table.image_insert _ _ fun _ => rfl
      rw [inserted]
      rfl
    · rfl
  | update id changes =>
    show ({ s.erase with subscriptions := s.subscriptions.erase.update id changes } :
      WebhooksController _) = _
    rw [WebhookSubscriptions.update_erase]
    rfl
  | delete id =>
    show ({ s.erase with
      subscriptions := s.subscriptions.erase.delete _
      deliveries := s.deliveries.cascade _ } : WebhooksController _) = _
    rw [WebhookSubscriptions.delete_erase s.subscriptions fun _ => rfl]
    rfl
  | _ => rfl

/-- A lookup fails or succeeds whatever the secrets are. -/
theorem found_erase {id : Nat} {next next' : WebhookSubscriptionRow → Outcome Payload}
    (same : ∀ row, next' row.erase = (next row).erase) :
    s.erase.found id next' = (s.found id next).erase := by
  rw [found, found]
  have erased : s.erase.subscriptions.find id =
      (s.subscriptions.find id).map WebhookSubscriptionRow.erase :=
    WebhookSubscriptions.find_erase ..
  rw [erased]
  cases s.subscriptions.find id with
  | none => rfl
  | some row => exact same row

theorem begin_erase (id : Nat) (request : Guarded) :
    (request.begin id : Outcome Payload).erase = request.begin id := by
  cases request with
  | update changes =>
    rw [Guarded.begin]
    split <;> rfl
  | delete | listDeliveries | retryDelivery => rfl

theorem outcome_erase (secret : String) (userId : Nat) (await : Await) :
    s.erase.outcome "" userId await.erase = (s.outcome secret userId await).erase := by
  cases await with
  | owns body =>
    show (if s.ownsStream userId body.streamId then _ else _) =
      Outcome.erase (if s.ownsStream userId body.streamId then _ else _)
    split <;> rfl
  | insert body secret' =>
    show (if s.insertable body then _ else _) = Outcome.erase (if s.insertable body then _ else _)
    split <;> rfl
  | count page limit streamId =>
    show Outcome.waits (.select page limit streamId
      (s.subscriptions.erase.countByUser userId streamId)) = _
    rw [WebhookSubscriptions.countByUser_erase]
    rfl
  | select page limit streamId total =>
    show Outcome.answers (.listed ((s.subscriptions.erase.listByUser userId page limit streamId).map
      fun row => toSubscriptionResponse row.rowToSubscription) page limit total) = _
    rw [WebhookSubscriptions.listByUser_erase, List.map_map]
    rfl
  | assertOwnership id request =>
    apply found_erase
    intro row
    show (if row.userId = userId then _ else _) = Outcome.erase (if row.userId = userId then _ else _)
    split
    · exact (begin_erase id request).symm
    · rfl
  | update id changes =>
    have erased : s.erase.subscriptions.updated id changes =
        (s.subscriptions.updated id changes).map WebhookSubscriptionRow.erase :=
      WebhookSubscriptions.updated_erase ..
    show s.erase.outcome "" userId (.update id changes) = _
    rw [outcome, outcome, erased]
    cases s.subscriptions.updated id changes <;> rfl
  | updateFind | delete | deliveriesFind | retryFind => exact found_erase s fun _ => rfl
  | deliveriesCount | deliveriesSelect => rfl
  | retryDelivery id deliveryId =>
    have same : s.erase.deliveries.findById deliveryId = s.deliveries.findById deliveryId := rfl
    show s.erase.outcome "" userId (.retryDelivery id deliveryId) = _
    rw [outcome, outcome, same]
    cases s.deliveries.findById deliveryId with
    | none => rfl
    | some row =>
      show (if _ then _ else if _ then _ else _) = Outcome.erase (if _ then _ else if _ then _ else _)
      split
      · rfl
      · split <;> rfl
  | retryRequeue id deliveryId =>
    have same : (s.erase.deliveries.requeue s.erase.now deliveryId).findById deliveryId =
        (s.deliveries.requeue s.now deliveryId).findById deliveryId := rfl
    show s.erase.outcome "" userId (.retryRequeue id deliveryId) = _
    rw [outcome, outcome, same]
    cases (s.deliveries.requeue s.now deliveryId).findById deliveryId <;> rfl

theorem settle_erase (i userId : Nat) (outcome : Outcome Payload) :
    s.erase.settle i userId outcome.erase = (s.settle i userId outcome).erase := by
  cases outcome with
  | waits await =>
    have calls : (s.calls.map Call.erase).set i ⟨userId, await.erase⟩ =
        (s.calls.set i ⟨userId, await⟩).map Call.erase := by
      rw [List.map_set]
      rfl
    rw [Outcome.erase, settle, settle]
    unfold erase
    rw [calls]
  | answers answer =>
    have calls : (s.calls.map Call.erase).eraseIdx i = (s.calls.eraseIdx i).map Call.erase :=
      List.eraseIdx_map ..
    rw [Outcome.erase, settle, settle]
    unfold erase
    rw [calls, List.map_append, List.map_singleton]

theorem step_erase (a : Action Payload) : step s.erase a.erase = (step s a).map erase := by
  have turn : ∀ i, s.erase.calls[i]? = (s.calls[i]?).map Call.erase :=
    fun i => List.getElem?_map
  cases a with
  | advance | createStream | recordAttempt => rfl
  | deleteStream streamId =>
    have cascades : (fun webhookId => (s.subscriptions.erase.find webhookId).any
        fun row => decide (row.streamId = streamId)) = fun webhookId =>
        (s.subscriptions.find webhookId).any fun row => decide (row.streamId = streamId) := by
      funext webhookId
      rw [WebhookSubscriptions.find_erase, Option.any_map]
      rfl
    have rows : (s.subscriptions.erase.delete fun row => row.streamId = streamId) =
        WebhookSubscriptions.erase (s.subscriptions.delete fun row => row.streamId = streamId) :=
      WebhookSubscriptions.delete_erase _ fun _ => rfl
    show some (s.erase.deleteStream streamId) = some (s.deleteStream streamId).erase
    rw [deleteStream, deleteStream]
    unfold erase
    rw [cascades, rows]
  | dispatch webhookId event data =>
    show (if (s.subscriptions.erase.find webhookId).isSome then _ else _) =
      Option.map erase (if (s.subscriptions.find webhookId).isSome then _ else _)
    rw [WebhookSubscriptions.find_erase, Option.isSome_map]
    split <;> rfl
  | request userId request =>
    show some ({ s.erase with calls := s.calls.map Call.erase ++ [⟨userId, request.start⟩] } :
      WebhooksController _) = _
    cases request <;> simp [step, erase, Call.erase, Request.start, Await.erase]
  | resume i secret =>
    show Option.map _ (s.erase.calls[i]?) = Option.map erase (Option.map _ (s.calls[i]?))
    rw [turn, Option.map_map, Option.map_map]
    congr 1
    funext call
    show settle i call.userId (s.erase.executed call.userId call.await.erase)
      (s.erase.outcome "" call.userId call.await.erase) = _
    rw [executed_erase, outcome_erase s secret, settle_erase]
    rfl
  | reject i executed =>
    show Option.map _ (s.erase.calls[i]?) = Option.map erase (Option.map _ (s.calls[i]?))
    rw [turn, Option.map_map, Option.map_map]
    congr 1
    funext call
    show settle i call.userId (if executed then s.erase.executed call.userId call.await.erase
      else s.erase) (throws unavailable) = erase (settle i call.userId
        (if executed then s.executed call.userId call.await else s) (throws unavailable))
    cases executed with
    | false => exact settle_erase s i call.userId (throws unavailable)
    | true =>
      simp only [if_true]
      rw [executed_erase]
      exact settle_erase _ i call.userId (throws unavailable)

/-! ## Runs -/

/-- The answer to a `create` that goes through. -/
def Answer.isCreated : Answer Payload → Bool
  | .created _ => true
  | _ => false

/-- All other answers, and whom they went to. -/
def disclosed : List (Nat × Answer Payload) := s.answers.filter fun entry => !entry.2.isCreated

variable {s}

theorem disclosed_erase : s.erase.disclosed = s.disclosed := by
  rw [disclosed, disclosed, erase]
  generalize s.answers = answers
  induction answers with
  | nil => rfl
  | cons entry answers ih =>
    obtain ⟨userId, answer⟩ := entry
    rw [List.map_cons, List.filter_cons, List.filter_cons, ih]
    cases answer <;> rfl

/-- A user who registers a webhook with a secret and lists it, and how a delivery ends. -/
def registered (secret : String) : List (Action Unit) :=
  [.createStream 7, .request 7 (.create ⟨1, "https://a", ["stream:started"]⟩), .resume 0 secret,
    .resume 0 "", .dispatch 1 "stream:started" (), .request 7 (.list ⟨none, none⟩ none),
    .resume 0 "", .resume 0 ""]

def nothing : WebhooksController Unit where
  now := ⟨1000⟩
  streams := Table.empty 1
  subscriptions := Table.empty 1
  deliveries := WebhookDeliveries.empty 1
  calls := []
  answers := []

end WebhooksController

end Api
end XStreamRoll
