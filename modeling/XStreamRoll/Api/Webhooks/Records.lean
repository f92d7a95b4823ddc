/-
What one POST leaves in the database.

The record of an answer stands in the `try` of the request itself, so the `catch` is reached
from three places: from the request, from the reading of the body, and from the record.  It
writes a failure for each of them.  A statement that rejects may have been executed all the
same, and the `catch` cannot know.
-/
import XStreamRoll.Api.Webhooks.Repositories

namespace XStreamRoll
namespace Api
namespace Webhooks

open Transition

variable {Payload : Type}

/-- How the request goes.  Reading the body of an answer can fail too. -/
inductive Exchange where
  | refused (message : String)
  | answered (status : Nat) (body : Except String String)

/-- The endpoint has answered with a 2xx status. -/
def Exchange.Ok : Exchange → Prop
  | .refused _ => False
  | .answered status _ => 200 ≤ status ∧ status < 300

/-- The answer was read to its end. -/
def Exchange.Read : Exchange → Prop
  | .answered _ (.ok _) => True
  | _ => False

/-- How a `recordAttempt` ends. -/
inductive Write where
  | resolved
  | rejected (executed : Bool)

def Write.executed : Write → Bool
  | .resolved => true
  | .rejected executed => executed

/-- The attempts that were stored, and what `attemptDelivery` throws. -/
structure Attempt where
  stored : List RecordAttemptInput
  thrown : Option String

/-- The `catch` of `attemptDelivery`, after what the `try` has stored. -/
def catchAttempt (now : Date) (delivery : WebhookDelivery Payload) (write : Write)
    (stored : List RecordAttemptInput) (message : String) : Attempt :=
  let result := caught now delivery message
  match write with
  | .resolved => ⟨stored ++ [result], none⟩
  | .rejected executed => ⟨stored ++ (if executed then [result] else []), some handleDbError⟩

/-- `attemptDelivery` from its `fetch` on.  `first` is the write in the `try`, `second` the
one in the `catch`, as far as they are reached. -/
def attemptDelivery (recordedAt caughtAt : Date) (delivery : WebhookDelivery Payload)
    (exchange : Exchange) (first second : Write) : Attempt :=
  match exchange with
  | .refused message => catchAttempt caughtAt delivery second [] message
  | .answered _ (.error message) => catchAttempt caughtAt delivery second [] message
  | .answered status (.ok body) =>
    let result := attempted recordedAt delivery (.response status body)
    match first with
    | .resolved => ⟨[result], none⟩
    | .rejected executed =>
      catchAttempt caughtAt delivery second (if executed then [result] else []) handleDbError

/-- The POST leaves at most one attempt, which says what the endpoint answered, and a
delivery that was accepted is not failed or rescheduled, whatever the storage does. -/
structure Truthful (delivery : WebhookDelivery Payload) (exchange : Exchange)
    (stored : List RecordAttemptInput) : Prop where
  once : stored.length ≤ 1
  truthful : ∀ result ∈ stored, result.success = true ↔ exchange.Ok
  kept : exchange.Ok → ∀ now,
    let after := stored.foldl (fun delivery result => delivery.recordAttempt now result) delivery
    after = delivery ∨ after.status = .success

theorem truthful_nil (delivery : WebhookDelivery Payload) (exchange : Exchange) :
    Truthful delivery exchange [] :=
  ⟨Nat.zero_le _, List.forall_mem_nil _, fun _ _ => .inl rfl⟩

theorem truthful_singleton (delivery : WebhookDelivery Payload) {exchange : Exchange}
    {result : RecordAttemptInput} :
    Truthful delivery exchange [result] ↔ (result.success = true ↔ exchange.Ok) := by
  constructor
  · exact fun h => h.truthful result (List.mem_singleton_self result)
  · intro honest
    refine ⟨le_rfl, List.forall_mem_singleton.mpr honest, fun accepted now => .inr ?_⟩
    simp [WebhookDelivery.recordAttempt, honest.mpr accepted]

theorem not_truthful_pair {delivery : WebhookDelivery Payload} {exchange : Exchange}
    {first second : RecordAttemptInput} : ¬Truthful delivery exchange [first, second] :=
  fun h => absurd h.once (by simp)

/-- The result of the `try` says what was answered. -/
theorem attempted_success_iff (now : Date) (delivery : WebhookDelivery Payload) (status : Nat)
    (body : String) (read : Except String String) :
    (attempted now delivery (.response status body)).success = true ↔
      (Exchange.answered status read).Ok := decide_eq_true_iff

/-- The write of the `catch` is executed, and it says something else than the endpoint or
comes after an attempt that was stored. -/
def Misrecorded (exchange : Exchange) (first second : Write) : Prop :=
  second.executed = true ∧
    (exchange.Ok ∧ ¬exchange.Read ∨
      exchange.Read ∧ first ≠ .resolved ∧ (exchange.Ok ∨ first.executed = true))

/-- The `catch` after nothing was stored. -/
theorem catchAttempt_nil_iff (now : Date) (delivery : WebhookDelivery Payload)
    (exchange : Exchange) (write : Write) (message : String) :
    Truthful delivery exchange (catchAttempt now delivery write [] message).stored ↔
      ¬(write.executed = true ∧ exchange.Ok) := by
  have failure : Truthful delivery exchange [caught now delivery message] ↔ ¬exchange.Ok := by
    rw [truthful_singleton]
    simp [caught]
  cases write with
  | resolved => simpa [catchAttempt, Write.executed] using failure
  | rejected executed =>
    cases executed with
    | true => simpa [catchAttempt, Write.executed] using failure
    | false => simpa [catchAttempt, Write.executed] using truthful_nil delivery exchange

/-- The `catch` after a truthful attempt was stored. -/
theorem catchAttempt_stored_iff (now : Date) {delivery : WebhookDelivery Payload}
    {exchange : Exchange} (write : Write) {result : RecordAttemptInput} (message : String)
    (honest : result.success = true ↔ exchange.Ok) :
    Truthful delivery exchange (catchAttempt now delivery write [result] message).stored ↔
      write.executed = false := by
  cases write with
  | resolved => simpa [catchAttempt, Write.executed] using not_truthful_pair
  | rejected executed =>
    cases executed with
    | true => simpa [catchAttempt, Write.executed] using not_truthful_pair
    | false => simpa [catchAttempt, Write.executed] using (truthful_singleton delivery).mpr honest

/-- A POST leaves one truthful record exactly when it is not misrecorded by the `catch`. -/
theorem attemptDelivery_truthful_iff (recordedAt caughtAt : Date)
    (delivery : WebhookDelivery Payload) (exchange : Exchange) (first second : Write) :
    Truthful delivery exchange
        (attemptDelivery recordedAt caughtAt delivery exchange first second).stored ↔
      ¬Misrecorded exchange first second := by
  cases exchange with
  | refused message =>
    simp only [attemptDelivery, catchAttempt_nil_iff]
    simp [Misrecorded, Exchange.Ok, Exchange.Read]
  | answered status body =>
    cases body with
    | error message =>
      simp only [attemptDelivery, catchAttempt_nil_iff]
      simp [Misrecorded, Exchange.Read]
    | ok body =>
      have honest := attempted_success_iff recordedAt delivery status body (.ok body)
      cases first with
      | resolved =>
        have record := (truthful_singleton delivery).mpr honest
        simpa [attemptDelivery, Misrecorded, Exchange.Read] using record
      | rejected executed =>
        cases executed with
        | true =>
          simp only [attemptDelivery, if_true, catchAttempt_stored_iff _ _ _ honest]
          simp [Misrecorded, Exchange.Read, Write.executed]
        | false =>
          simp only [attemptDelivery, Bool.false_eq_true, if_false, catchAttempt_nil_iff]
          simp [Misrecorded, Exchange.Read, Write.executed]

/-! ## The same in the steps of a call -/

/-- What the call is answered. -/
def Exchange.outcome : Exchange → Outcome
  | .refused message => .failed message
  | .answered status (.ok body) => .response status body
  | .answered _ (.error message) => .failed message

def Write.action : Write → Action Payload
  | .resolved => .resume 0
  | .rejected executed => .reject 0 executed

/-- The turns of a call, from its `fetch` on. -/
def turns (exchange : Exchange) (first second : Write) : List (Action Payload) :=
  .respond 0 exchange.outcome :: match exchange, first with
    | .answered _ (.ok _), .resolved => [Write.resolved.action]
    | .answered _ (.ok _), .rejected executed => [(Write.rejected executed).action, second.action]
    | _, _ => [second.action]

/-- The table after the turns is the one with the stored attempts.  The loop of the call goes
on when nothing was thrown. -/
theorem attemptDelivery_turns (p : Platform Payload) {s : Webhooks Payload}
    {delivery : WebhookDelivery Payload} {rest : List (WebhookDelivery Payload)}
    (alone : s.calls = [.post delivery rest]) (exchange : Exchange) (first second : Write) :
    let attempt := attemptDelivery s.now.toDate s.now.toDate delivery exchange first second
    ∃ t, run (step p) s (turns exchange first second) = some t ∧
      t.deliveries = attempt.stored.foldl
        (fun table result => table.recordAttempt s.now delivery.id result) s.deliveries ∧
      t.calls = (if attempt.thrown.isSome then [] else sweepNext rest) ∧
      t.now = s.now ∧ t.subscriptions = s.subscriptions := by
  obtain ⟨now, subscriptions, deliveries, calls, posted, answers⟩ := s
  subst alone
  cases exchange with
  | refused message =>
    cases second with
    | resolved => exact ⟨_, rfl, rfl, rfl, rfl, rfl⟩
    | rejected executed => cases executed <;> exact ⟨_, rfl, rfl, rfl, rfl, rfl⟩
  | answered status body =>
    cases body with
    | error message =>
      cases second with
      | resolved => exact ⟨_, rfl, rfl, rfl, rfl, rfl⟩
      | rejected executed => cases executed <;> exact ⟨_, rfl, rfl, rfl, rfl, rfl⟩
    | ok body =>
      cases first with
      | resolved => exact ⟨_, rfl, rfl, rfl, rfl, rfl⟩
      | rejected executed =>
        cases second with
        | resolved => cases executed <;> exact ⟨_, rfl, rfl, rfl, rfl, rfl⟩
        | rejected executed' =>
          cases executed <;> cases executed' <;> exact ⟨_, rfl, rfl, rfl, rfl, rfl⟩

/-- The endpoint accepts the delivery, and the record of it is lost. -/
theorem attemptDelivery_untruthful : ¬∀ (recordedAt caughtAt : Date)
    (delivery : WebhookDelivery String) (exchange : Exchange) (first second : Write),
    Truthful delivery exchange
      (attemptDelivery recordedAt caughtAt delivery exchange first second).stored := by
  intro always
  have record := (always ⟨0⟩ ⟨0⟩ ⟨1, 1, "stream:started", "{}", .pending, 0, none, none, none,
    some ⟨0⟩, none, ⟨0⟩⟩ (.answered 200 (.ok "ok")) (.rejected false) .resolved).truthful
  have failure := (record _ (List.mem_singleton_self _)).mpr ⟨by decide, by decide⟩
  cases failure

end Webhooks
end Api
end XStreamRoll
