/-
The room that a subscription joins.

`handleSubscribe` asks about the stream of `Number(payload.streamId)` and then joins the
room of `String(payload.streamId)`, while the events go to the room of the stream's number.
The two rooms are one when the payload spells the number as JavaScript does.  `"010"` would be
checked as stream 10, and the socket that sent it would wait in `stream:010`: but over a
connection no payload reaches the handler, which refuses every message before its query.
-/
import XStreamRoll.Api.Streams.Gateway

namespace XStreamRoll
namespace Api
namespace StreamsGateway

open Transition

/-- The gateway answers `ok` and the room to a message of the socket, after its query about
the stream.  The call starts in `s`.  Whatever else has happened until `u`, it then joins
the room and leaves `v`. -/
structure Answers (pg : Postgres) (numbers : TextNumbers)
    (passed : Option StreamIdField → Option StreamIdField) (k : Nat)
    (message : Option StreamIdField) (streamId : Int) (room : String)
    (s u v : StreamsGateway) : Prop where
  checked : ∃ t userId, s.step pg numbers passed (.subscribe k message) = some t ∧
    t.subscriptions = s.subscriptions ++ [⟨k, userId, streamId, room, false, false⟩] ∧
    Reachable (step pg numbers passed) t u
  joined : u.step pg numbers passed (.join s.subscriptions.length) = some v

/-- Every answer `ok` to the message names the room of the stream that was checked, and the
socket, if it is still there, is among those that receive the stream's events. -/
def AnswersRoom (numbers : TextNumbers) (passed : Option StreamIdField → Option StreamIdField)
    (message : Option StreamIdField) : Prop :=
  ∀ pg k streamId room s u v, Answers pg numbers passed k message streamId room s u v →
    room = roomFor streamId.repr ∧
      ∃ socket, v.sockets[k]? = some socket ∧
        (socket.connected = true → socket ∈ v.receivers streamId)

/-! ## A call under way -/

/-- The `j`-th subscription is the call of the socket for the stream and the room.  It is
granted only for an id that a row may have. -/
def Waits (j k : Nat) (streamId : Int) (room : String) (s : StreamsGateway) : Prop :=
  ∃ sub, s.subscriptions[j]? = some sub ∧ sub.socket = k ∧ sub.streamId = streamId ∧
    sub.room = room ∧ (sub.granted = true → 0 < streamId ∧ streamId ≤ 2147483647)

variable {pg : Postgres} {numbers : TextNumbers}
  {passed : Option StreamIdField → Option StreamIdField} {s t u v : StreamsGateway} {a : Action}
  {j k : Nat} {streamId : Int} {room : String} {message : Option StreamIdField}

theorem bounds_of_canSubscribe {userId : Int} {table : StreamsTable}
    (allowed : canSubscribe userId streamId table = .ok true) :
    0 < streamId ∧ streamId ≤ 2147483647 := by
  have found := (StreamsTable.maySee_of_canSubscribe allowed).2
  obtain ⟨row, hrow⟩ := Option.isSome_iff_exists.mp found
  obtain ⟨hmem, rfl⟩ := StreamsTable.find_eq_some_iff.mp hrow
  obtain ⟨positive, below⟩ := table.serial row hmem
  have last := table.nextId_le
  exact ⟨positive, by omega⟩

theorem waits_setSubscription {i : Nat} {sub : Subscription} {granted ended : Bool}
    (h : s.Waits j k streamId room) (hsub : s.subscriptions[i]? = some sub)
    (bounds : granted = true → sub.granted = true ∨ 0 < sub.streamId ∧ sub.streamId ≤ 2147483647) :
    (s.setSubscription i { sub with granted := granted, ended := ended }).Waits j k streamId
      room := by
  obtain ⟨other, hother, hk, hid, hroom, hbounds⟩ := h
  by_cases same : i = j
  · subst same
    rw [hsub, Option.some.injEq] at hother
    subst hother
    have inside := (List.getElem?_eq_some_iff.mp hsub).1
    refine ⟨_, List.getElem?_set_self inside, hk, hid, hroom, fun hgranted => ?_⟩
    rcases bounds hgranted with before | now
    · exact hbounds before
    · exact hid ▸ now
  · exact ⟨other, by rw [setSubscription, List.getElem?_set_ne same, hother], hk, hid, hroom,
      hbounds⟩

theorem step_waits (h : s.Waits j k streamId room) (hs : s.step pg numbers passed a = some t) :
    t.Waits j k streamId room := by
  cases moves_of_step hs with
  | service hupdates => exact h
  | connect => exact h
  | refuse hsocket hanonymous => exact h
  | authenticate id hsocket hanonymous => exact h
  | disconnect hsocket => exact h
  | ignore message => exact h
  | subscribe hsocket huser hpassed hid =>
    obtain ⟨sub, hsub, rest⟩ := h
    have inside := (List.getElem?_eq_some_iff.mp hsub).1
    exact ⟨sub, by rw [List.getElem?_append_left inside, hsub], rest⟩
  | grant hsub hallowed =>
    exact waits_setSubscription h hsub fun _ => .inr (bounds_of_canSubscribe hallowed)
  | deny hsub => exact waits_setSubscription h hsub .inl
  | @join i sub socket hsub hgranted hended hsocket =>
    have inSocket : (s.setSocket sub.socket (joinRoom sub socket)).Waits j k streamId room := h
    exact waits_setSubscription inSocket hsub .inl
  | leave hsocket hpassed => exact h
  | stay message => exact h

/-- What the call opens with. -/
theorem checked_field (hs : s.step pg numbers passed (.subscribe k message) = some t)
    {sub : Subscription} (opened : t.subscriptions = s.subscriptions ++ [sub]) :
    ∃ field, passed message = some field ∧ field.toInteger numbers = some sub.streamId ∧
      sub.room = roomFor field.toText := by
  cases moves_of_step hs with
  | ignore =>
    have lengths := congrArg List.length opened
    rw [List.length_append, List.length_singleton] at lengths
    omega
  | @subscribe _ _ _ _ _ field hsocket huser hpassed hid =>
    have last := List.append_cancel_left opened
    rw [List.cons.injEq] at last
    rw [← last.1]
    exact ⟨field, hpassed, hid, rfl⟩

namespace Answers

variable (h : Answers pg numbers passed k message streamId room s u v)
include h

/-- The handler has got a payload, which says the stream and the room. -/
theorem field : ∃ field, passed message = some field ∧ field.toInteger numbers = some streamId ∧
    room = roomFor field.toText := by
  obtain ⟨t, userId, hstep, hopened, -⟩ := h.checked
  exact checked_field hstep hopened

theorem waits : u.Waits s.subscriptions.length k streamId room := by
  obtain ⟨t, userId, hstep, hopened, hreach⟩ := h.checked
  refine hreach.invariant (fun _ _ _ hw hs => step_waits hw hs)
    ⟨⟨k, userId, streamId, room, false, false⟩, ?_, rfl, rfl, rfl, ?_⟩
  · rw [hopened, List.getElem?_concat_length]
  · intro granted
    cases granted

/-- The join finds the call granted, and lets the socket into its room. -/
theorem joins : (0 < streamId ∧ streamId ≤ 2147483647) ∧ ∃ socket, v.sockets[k]? = some socket ∧
    (socket.connected = true → room ∈ socket.rooms) := by
  obtain ⟨sub, hsub, hk, hid, hroom, hbounds⟩ := h.waits
  cases moves_of_step h.joined with
  | @join _ found socket hfound hgranted hended hsocket =>
    rw [hsub, Option.some.injEq] at hfound
    subst hfound
    refine ⟨hbounds hgranted, joinRoom sub socket, ?_, ?_⟩
    · have inside := (List.getElem?_eq_some_iff.mp hsocket).1
      rw [← hk]
      exact List.getElem?_set_self inside
    · unfold joinRoom
      split
      · intro _
        exact hroom ▸ List.mem_cons_self
      · next gone => exact fun connected => absurd connected gone

end Answers

/-! ## A gateway that answers -/

section Answering

variable (numbers : TextNumbers) (field : StreamIdField) (id : Int)
  (bounds : 0 < id ∧ id ≤ 2147483647)

/-- A table with one public stream under the id. -/
def publicStream : StreamsTable where
  rows := [⟨id, 1, "news", none, .inactive, .isPublic, ⟨0⟩, ⟨0⟩⟩]
  nextId := id + 1
  primaryKey := List.nodup_singleton _
  serial := List.forall_mem_singleton.mpr ⟨bounds.1, Int.lt_succ id⟩
  nextId_pos := Int.add_pos bounds.1 Int.one_pos
  nextId_le := Int.add_le_add_right bounds.2 1

/-- User 1 is connected, and has sent so many payloads about the stream, of which each is
granted or not. -/
def connectedTo (subscriptions : List Subscription) : StreamsGateway where
  updates :=
    { db := { twoStreams ⟨0⟩ with
        streams := publicStream id bounds
        foreignKey := List.forall_mem_nil _ }
      calls := []
      persisted := []
      effects := [] }
  sockets := [⟨true, some 1, []⟩]
  subscriptions := subscriptions

variable {numbers field id}

theorem answers_connectedTo (hpassed : passed message = some field)
    (hid : field.toInteger numbers = some id) :
    ∃ v, Answers plainPostgres numbers passed 0 message id (roomFor field.toText)
      (connectedTo id bounds [])
      (connectedTo id bounds [⟨0, 1, id, roomFor field.toText, true, false⟩]) v := by
  have fits : fitsInteger id = true := by
    rw [fitsInteger, Bool.and_eq_true, decide_eq_true_eq, decide_eq_true_eq]
    omega
  have found : (publicStream id bounds).find id =
      some ⟨id, 1, "news", none, .inactive, .isPublic, ⟨0⟩, ⟨0⟩⟩ :=
    StreamsTable.find_eq_some_iff.mpr ⟨List.mem_singleton_self _, rfl⟩
  have allowed : canSubscribe 1 id (publicStream id bounds) = .ok true := by
    rw [canSubscribe, if_pos fits, found]
    rfl
  have opened : (connectedTo id bounds []).step plainPostgres numbers passed
      (.subscribe 0 message) =
      some (connectedTo id bounds [⟨0, 1, id, roomFor field.toText, false, false⟩]) := by
    simp only [step, connectedTo, handleSubscribe, List.getElem?_cons_zero, Option.map_some,
      hpassed, hid]
    rfl
  have granted : (connectedTo id bounds [⟨0, 1, id, roomFor field.toText, false, false⟩]).step
      plainPostgres numbers passed (.check 0) =
      some (connectedTo id bounds [⟨0, 1, id, roomFor field.toText, true, false⟩]) := by
    simp only [step, connectedTo, List.getElem?_cons_zero, Bool.or_self, allowed]
    rfl
  exact ⟨_, ⟨_, 1, opened, rfl, .of_step granted⟩, rfl⟩

end Answering

/-- The room of every answer to a message is the one of the stream that was checked, exactly
when the payload that the handler gets, if any, spells the id of a stream that may exist as the
number is written. -/
theorem answersRoom_iff (numbers : TextNumbers)
    (passed : Option StreamIdField → Option StreamIdField) (message : Option StreamIdField) :
    AnswersRoom numbers passed message ↔
      ∀ field ∈ passed message, ∀ id, field.toInteger numbers = some id →
        0 < id ∧ id ≤ 2147483647 → field.toText = id.repr := by
  constructor
  · intro answers field hpassed id hid bounds
    obtain ⟨v, hanswers⟩ := answers_connectedTo bounds hpassed hid
    exact roomFor_injective (answers _ _ _ _ _ _ _ hanswers).1
  · intro spelled pg k streamId room s u v hanswers
    obtain ⟨bounds, socket, hsocket, hjoined⟩ := hanswers.joins
    obtain ⟨field, hpassed, hid, hroom⟩ := hanswers.field
    have same : room = roomFor streamId.repr := by
      rw [hroom, spelled field hpassed streamId hid bounds]
    refine ⟨same, socket, hsocket, fun connected => ?_⟩
    rw [receivers, List.mem_filter]
    exact ⟨List.mem_of_getElem? hsocket, decide_eq_true (same ▸ hjoined connected)⟩

/-! ## Over a connection -/

/-- Whatever a client sends, the handler finds no `streamId`. -/
theorem refusal_payload (nest : NestBinding) (numbers : TextNumbers) (socket : ClientSocket)
    (message : Option StreamIdField) :
    refusal numbers socket (nest.payload message) =
      some (if socket.userId = none then "unauthenticated" else "streamId required") := by
  rw [nest.payload_eq]
  unfold refusal
  split
  · next anonymous => rw [if_pos anonymous]
  · next userId named _ => rw [if_neg (by simp [named])]
  · next found => cases found

/-- What is refused leaves no call behind. -/
theorem handleSubscribe_of_refusal {socket : ClientSocket} {streamId : Option StreamIdField}
    (h : (refusal numbers socket streamId).isSome = true) (k : Nat) (s : StreamsGateway) :
    s.handleSubscribe numbers k socket streamId = s := by
  unfold refusal at h
  unfold handleSubscribe
  split
  · next userId field named =>
    rw [named] at h
    dsimp only at h
    split
    · rfl
    · next id hid =>
      rw [hid] at h
      cases h
  · rfl

/-- Every message is refused ahead of the query, and changes nothing; and whatever were answered
`ok` would name the room in which the events of the checked stream go out. -/
theorem answersRoom_payload (nest : NestBinding) (numbers : TextNumbers)
    (message : Option StreamIdField) :
    (∀ (pg : Postgres) (s : StreamsGateway) (k : Nat), ∀ socket ∈ s.sockets[k]?,
      (refusal numbers socket (nest.payload message)).isSome = true ∧
        s.step pg numbers nest.payload (.subscribe k message) = some s) ∧
      AnswersRoom numbers nest.payload message := by
  refine ⟨fun pg s k socket hsocket => ?_, (answersRoom_iff _ _ _).mpr ?_⟩
  · have refused : (refusal numbers socket (nest.payload message)).isSome = true := by
      rw [refusal_payload]
      rfl
    rw [Option.mem_def] at hsocket
    exact ⟨refused, by rw [step, hsocket, Option.map_some, handleSubscribe_of_refusal refused]⟩
  · intro field hpassed
    rw [nest.payload_eq] at hpassed
    cases hpassed

/-! ## With the payload passed on -/

/-- A number is its own spelling. -/
theorem answersRoom_number (numbers : TextNumbers) (n : Int) :
    AnswersRoom numbers id (some (.number n)) := by
  rw [answersRoom_iff]
  rintro _ ⟨⟩ id ⟨⟩ -
  rfl

theorem toInt?_octal : "010".toInt? = some 10 := by
  have digits : "010".isNat = true :=
    String.isNat_of_isDigit (by decide) (List.all_eq_true.mp rfl)
  have number : "010".toNat? = some 10 :=
    (String.toNat?_eq_some_ofDigitChars digits).trans (congrArg some rfl)
  exact String.toInt?_eq_some_of_toNat?_eq_some number

/-- `"010"` is the stream 10. -/
theorem answersRoom_octal :
    ¬∀ (numbers : TextNumbers) (message : Option StreamIdField),
      AnswersRoom numbers id message := by
  intro always
  have spelled := (answersRoom_iff _ _ _).mp (always decimalNumbers (some (.text "010")))
    (.text "010") rfl 10 toInt?_octal (by decide)
  exact absurd spelled (by decide)

end StreamsGateway
end Api
end XStreamRoll
