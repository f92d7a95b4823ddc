/-
`StreamsGateway`: sockets, the rooms of streams, and who is in them when an event goes out.

A subscription waits for the query of `canSubscribe` and joins its room afterwards.  The
events come from the calls of `StreamsService.update`, whose steps are those of `Updates`.
A broadcast reaches the sockets that are in the room at that moment; no one asks again who
may see the stream.

`handleSubscribe` and `handleUnsubscribe` decorate their first parameter and not the second,
which is the payload.  Nest passes nothing there, so a message that comes over a connection is
answered `streamId required` whatever it says, and nobody joins the room of a stream.  The steps
take what is passed as a parameter: it is `NestBinding.payload` over a connection, and what the
caller likes where the handlers are called as methods.

What `Number` makes of a text is a parameter, which reads back what `String` writes of an
id.  The payload of a message has a number of less than 22 digits or a text, if anything.
-/
import XStreamRoll.Lists
import XStreamRoll.Api.Streams.Updates
import XStreamRoll.Api.Streams.Visibility

namespace XStreamRoll
namespace Api

open Transition

/-- `Number(text)`, when that is an integer. -/
structure TextNumbers where
  ofText : String → Option Int
  ofText_repr : ∀ n, fitsInteger n = true → ofText n.repr = some n

/-- `payload.streamId`. -/
inductive StreamIdField where
  | number (n : Int)
  /-- a number that is no integer, by its text -/
  | fraction (text : String)
  | text (s : String)
deriving DecidableEq, Repr

/-- `String(streamId)`. -/
def StreamIdField.toText : StreamIdField → String
  | .number n => n.repr
  | .fraction digits => digits
  | .text s => s

/-- `Number(streamId)`, when that is an integer. -/
def StreamIdField.toInteger (numbers : TextNumbers) : StreamIdField → Option Int
  | .number n => some n
  | .fraction _ => none
  | .text s => numbers.ofText s

/-- What a message handler decorates a parameter with. -/
inductive ParamDecorator where
  | connectedSocket
  | messageBody
deriving DecidableEq, Repr

/-- How Nest calls a message handler: what it passes of the message, by the decorators of the
handler's parameters and the place of the one in question. -/
structure NestBinding where
  argument : List (Option ParamDecorator) → Nat → Option StreamIdField → Option StreamIdField
  /-- Where some parameter is decorated, one that is not is passed nothing. -/
  undecorated : ∀ params i message, (∃ param ∈ params, param ≠ none) → params[i]? = some none →
    argument params i message = none

/-- `(@ConnectedSocket() client, payload = {})`, of both handlers. -/
def handlerParams : List (Option ParamDecorator) := [some .connectedSocket, none]

/-- `payload.streamId`, as the handlers find it for a message. -/
def NestBinding.payload (nest : NestBinding) (message : Option StreamIdField) :
    Option StreamIdField :=
  nest.argument handlerParams 1 message

@[simp] theorem NestBinding.payload_eq (nest : NestBinding) (message : Option StreamIdField) :
    nest.payload message = none :=
  nest.undecorated handlerParams 1 message ⟨_, List.mem_cons_self, nofun⟩ rfl

def roomFor (streamId : String) : String := "stream:" ++ streamId

def userRoomFor (userId : Int) : String := "user:" ++ userId.repr

structure ClientSocket where
  connected : Bool
  /-- `client.data.userId`, once `handleConnection` has set it. -/
  userId : Option Int
  rooms : List String
deriving DecidableEq, Repr

/-- A run of `handleSubscribe` past its checks on the payload. -/
structure Subscription where
  socket : Nat
  userId : Int
  streamId : Int
  room : String
  /-- The query of `canSubscribe` said yes, and the socket is yet to join. -/
  granted : Bool
  ended : Bool
deriving DecidableEq, Repr

structure StreamsGateway where
  updates : Updates
  sockets : List ClientSocket
  subscriptions : List Subscription

namespace StreamsGateway

inductive Action where
  /-- a step of the calls of `StreamsService`, and the broadcasts that it makes -/
  | service (a : Updates.Action)
  | connect
  /-- `authenticate` gives a user id, or throws -/
  | authenticate (k : Nat) (userId : Option UserId)
  | disconnect (k : Nat)
  /-- a `stream:subscribe` with this `streamId` -/
  | subscribe (k : Nat) (message : Option StreamIdField)
  /-- the query of `canSubscribe` -/
  | check (j : Nat)
  | join (j : Nat)
  | unsubscribe (k : Nat) (message : Option StreamIdField)

def setSocket (k : Nat) (socket : ClientSocket) (s : StreamsGateway) : StreamsGateway :=
  { s with sockets := s.sockets.set k socket }

def setSubscription (j : Nat) (sub : Subscription) (s : StreamsGateway) : StreamsGateway :=
  { s with subscriptions := s.subscriptions.set j sub }

/-- What `handleSubscribe` answers ahead of its query, if it refuses. -/
def refusal (numbers : TextNumbers) (socket : ClientSocket) (streamId : Option StreamIdField) :
    Option String :=
  match socket.userId, streamId with
  | none, _ => some "unauthenticated"
  | some _, none => some "streamId required"
  | some _, some field => if (field.toInteger numbers).isNone then some "forbidden" else none

/-- `handleSubscribe`, up to its query. -/
def handleSubscribe (numbers : TextNumbers) (k : Nat) (socket : ClientSocket)
    (streamId : Option StreamIdField) (s : StreamsGateway) : StreamsGateway :=
  match socket.userId, streamId with
  | some userId, some field =>
    match field.toInteger numbers with
    | none => s
    | some id => { s with subscriptions := s.subscriptions ++
        [⟨k, userId, id, roomFor field.toText, false, false⟩] }
  | _, _ => s

/-- `client.join(room)`, which does nothing on a socket that has gone. -/
def joinRoom (sub : Subscription) (socket : ClientSocket) : ClientSocket :=
  if socket.connected = true then { socket with rooms := sub.room :: socket.rooms } else socket

/-- `passed` is what a handler gets of a message. -/
def step (pg : Postgres) (numbers : TextNumbers)
    (passed : Option StreamIdField → Option StreamIdField) (s : StreamsGateway) :
    Action → Option StreamsGateway
  | .service a => (s.updates.step pg a).map fun updates => { s with updates := updates }
  | .connect => some { s with sockets := s.sockets ++ [⟨true, none, []⟩] }
  | .authenticate k userId =>
    match s.sockets[k]? with
    | none => none
    | some socket =>
      if socket.userId = none then
        match userId with
        | none => some (s.setSocket k ⟨false, none, []⟩)
        | some id => some (s.setSocket k { socket with
            userId := some id
            rooms := if socket.connected then userRoomFor id :: socket.rooms else socket.rooms })
      else none
  | .disconnect k =>
    (s.sockets[k]?).map fun socket => s.setSocket k { socket with connected := false, rooms := [] }
  | .subscribe k message =>
    (s.sockets[k]?).map fun socket => s.handleSubscribe numbers k socket (passed message)
  | .check j =>
    match s.subscriptions[j]? with
    | none => none
    | some sub =>
      if sub.granted || sub.ended then none
      else match canSubscribe sub.userId sub.streamId s.updates.db.streams with
        | .ok true => some (s.setSubscription j { sub with granted := true })
        | _ => some (s.setSubscription j { sub with ended := true })
  | .join j =>
    match s.subscriptions[j]? with
    | none => none
    | some sub =>
      if sub.granted && !sub.ended then
        (s.sockets[sub.socket]?).map fun socket =>
          (s.setSocket sub.socket (joinRoom sub socket)).setSubscription j
            { sub with ended := true }
      else none
  | .unsubscribe k message =>
    (s.sockets[k]?).map fun socket =>
      match socket.userId, passed message with
      | some _, some field =>
        s.setSocket k { socket with
          rooms := socket.rooms.filter fun room => room ≠ roomFor field.toText }
      | _, _ => s

/-! ## What is to hold -/

/-- The sockets that a broadcast to the stream's room reaches. -/
def receivers (streamId : Int) (s : StreamsGateway) : List ClientSocket :=
  s.sockets.filter fun socket => roomFor streamId.repr ∈ socket.rooms

/-- Whoever receives the events of a step may subscribe to their stream at that moment. -/
def EmitsSafely (s t : StreamsGateway) : Prop :=
  ∀ entry ∈ t.updates.effects.drop s.updates.effects.length, ∀ event payload error,
    entry.2 = .socket event payload error →
    ∀ socket ∈ s.receivers payload.streamId, ∃ userId ∈ socket.userId,
      canSubscribe userId payload.streamId s.updates.db.streams = .ok true

/-- The users in the stream's room, and those who are about to join it. -/
def followers (streamId : Int) (s : StreamsGateway) : List Int :=
  (s.receivers streamId).filterMap ClientSocket.userId ++
    (s.subscriptions.filter fun sub =>
      sub.granted && !sub.ended && decide (sub.streamId = streamId)).map Subscription.userId

/-- A stream is made private only when nobody but the owner is in its room, and deleted only
when its room is empty or no event of it is on the way. -/
def HidesSafely (s : StreamsGateway) : Action → Prop
  | .service (.write i _) => ∀ call ∈ s.updates.calls[i]?,
      StreamsDbRepository.takes call.id (StreamsService.trimChanges call.changes) = true →
      call.changes.visibility = some .isPrivate →
      ∀ row ∈ s.updates.db.streams.find call.id, ∀ userId ∈ s.followers call.id,
        userId = row.userId
  | .service (.delete id) => s.updates.db.Unreferenced id →
      s.followers id = [] ∨ ∀ call ∈ s.updates.calls, ∀ status,
        Updates.owes id status call = false
  | _ => True

/-- Before the first call and the first socket. -/
def Fresh (s : StreamsGateway) : Prop :=
  s.updates.Fresh ∧ s.sockets = [] ∧ s.subscriptions = []

/-! ## Rooms -/

theorem roomFor_injective : Function.Injective roomFor := by
  intro a b h
  have hlist := congrArg String.toList h
  rw [roomFor, roomFor, String.toList_append, String.toList_append] at hlist
  exact String.toList_inj.mp (List.append_cancel_left hlist)

theorem roomFor_ne_userRoomFor (streamId : String) (userId : Int) :
    roomFor streamId ≠ userRoomFor userId := by
  intro h
  have hlist := congrArg (fun room => room.toList.head?) h
  simp only [roomFor, userRoomFor, String.toList_append] at hlist
  exact absurd hlist (by simp)

/-- The room of an id is checked as the stream of that id. -/
theorem toInteger_of_toText {numbers : TextNumbers} {field : StreamIdField} {n id : Int}
    (hn : fitsInteger n = true) (htext : field.toText = n.repr)
    (hid : field.toInteger numbers = some id) : id = n := by
  cases field with
  | number m =>
    have hm : m = n := Int.repr_injective htext
    exact (Option.some.inj hid).symm.trans hm
  | fraction digits => cases hid
  | text s =>
    have hs : s = n.repr := htext
    rw [StreamIdField.toInteger, hs, numbers.ofText_repr n hn] at hid
    exact (Option.some.inj hid).symm

end StreamsGateway

/-! ## What the calls of the service do to the rows -/

namespace StreamsDbRepository

theorem create_find (pg : Postgres) (now : Date) (params : StreamCreateParams)
    (db : StreamsDatabase) {id : Int} {row : StreamRow}
    (h : (create pg now params db).2.streams.find id = some row) :
    db.streams.nextId ≤ id ∨ db.streams.find id = some row := by
  obtain ⟨hmem, hid⟩ := StreamsTable.find_eq_some_iff.mp h
  unfold create at hmem
  split at hmem
  · split at hmem
    · rcases List.mem_append.mp hmem with hold | hnew
      · exact .inr (StreamsTable.find_eq_some_iff.mpr ⟨hold, hid⟩)
      · rw [← hid, List.mem_singleton.mp hnew]
        exact .inl (le_refl _)
    · exact .inr (StreamsTable.find_eq_some_iff.mpr ⟨hmem, hid⟩)
  · exact .inr (StreamsTable.find_eq_some_iff.mpr ⟨hmem, hid⟩)

theorem create_nextId (pg : Postgres) (now : Date) (params : StreamCreateParams)
    (db : StreamsDatabase) : db.streams.nextId ≤ (create pg now params db).2.streams.nextId := by
  unfold create
  split
  · split
    · exact Int.le_add_one (le_refl _)
    · exact Int.le_add_one (le_refl _)
  · exact le_refl _

theorem delete_nextId (id : Int) (db : StreamsDatabase) :
    (delete id db).2.streams.nextId = db.streams.nextId := by
  unfold delete
  split
  · split
    · rfl
    · split <;> rfl
  · rfl

/-- A deletion takes no row but the one of its id. -/
theorem delete_find_ne {id other : Int} (h : other ≠ id) {db : StreamsDatabase} {row : StreamRow}
    (hrow : db.streams.find other = some row) : (delete id db).2.streams.find other = some row := by
  obtain ⟨hmem, hid⟩ := StreamsTable.find_eq_some_iff.mp hrow
  apply StreamsTable.find_eq_some_iff.mpr
  refine ⟨?_, hid⟩
  unfold delete
  split
  · split
    · exact hmem
    · split
      · exact List.mem_filter.mpr ⟨hmem, by simpa [hid] using h⟩
      · exact hmem
  · exact hmem

/-- A deletion takes the row when nothing refers to it. -/
theorem delete_find (id : Int) {other : Int} {db : StreamsDatabase} {row : StreamRow}
    (hrow : db.streams.find other = some row) :
    (delete id db).2.streams.find other = some row ∨ other = id ∧ db.Unreferenced id := by
  by_cases hsame : other = id
  · by_cases hfree : db.Unreferenced id
    · exact .inr ⟨hsame, hfree⟩
    · refine .inl ?_
      unfold delete
      split
      · split
        · exact hrow
        · exact hrow
      · exact hrow
  · exact .inl (delete_find_ne hsame hrow)

end StreamsDbRepository

/-- The user may see the stream, if it is there; and its id has been given out. -/
def StreamsTable.MaySee (userId streamId : Int) (table : StreamsTable) : Prop :=
  streamId < table.nextId ∧ ∀ row ∈ table.find streamId, VisibleTo userId row.userId row.visibility

theorem StreamsTable.maySee_of_canSubscribe {userId streamId : Int} {table : StreamsTable}
    (h : canSubscribe userId streamId table = .ok true) :
    table.MaySee userId streamId ∧ (table.find streamId).isSome = true := by
  unfold canSubscribe at h
  split at h
  · rw [Except.ok.injEq] at h
    cases hrow : table.find streamId with
    | none =>
      rw [hrow] at h
      cases h
    | some row =>
      rw [hrow, Option.map_some, subscribable_some] at h
      obtain ⟨hmem, hid⟩ := find_eq_some_iff.mp hrow
      refine ⟨⟨hid ▸ (table.serial row hmem).2, ?_⟩, rfl⟩
      intro other hother
      rw [hrow, Option.mem_some_iff] at hother
      rw [← hother]
      exact h
  · cases h

theorem StreamsTable.canSubscribe_of_maySee {userId streamId : Int} {table : StreamsTable}
    (h : table.MaySee userId streamId) (hrow : (table.find streamId).isSome = true) :
    canSubscribe userId streamId table = .ok true := by
  obtain ⟨row, hrow⟩ := Option.isSome_iff_exists.mp hrow
  obtain ⟨hmem, hid⟩ := find_eq_some_iff.mp hrow
  rw [canSubscribe, if_pos (hid ▸ table.fitsInteger_id hmem), hrow, Option.map_some,
    subscribable_some.mpr (h.2 row hrow)]

theorem StreamsTable.fitsInteger_of_isSome {table : StreamsTable} {id : Int}
    (h : (table.find id).isSome = true) : fitsInteger id = true := by
  obtain ⟨row, hrow⟩ := Option.isSome_iff_exists.mp h
  obtain ⟨hmem, hid⟩ := find_eq_some_iff.mp hrow
  exact hid ▸ table.fitsInteger_id hmem

namespace Updates

variable {pg : Postgres} {s t : Updates} {a : Action}

/-- What an UPDATE leaves in the database. -/
theorem afterWrite_db (i : Nat) (now : Date) (call : UpdateCall) (stream : Stream) (s : Updates) :
    (s.afterWrite i now call stream).db = s.db ∨
      StreamsDbRepository.takes call.id (StreamsService.trimChanges call.changes) = true ∧
        (s.afterWrite i now call stream).db = s.db.setStream now.toTimestamptz call.id
          (StreamsService.trimChanges call.changes) := by
  unfold afterWrite
  split
  · next e db hupdate => exact .inl (StreamsDbRepository.update_error hupdate)
  · next updated db hupdate =>
    cases hempty : (StreamsService.trimChanges call.changes).isEmpty with
    | true =>
      refine .inl ?_
      unfold StreamsDbRepository.update at hupdate
      rw [if_pos hempty] at hupdate
      split at hupdate <;> cases hupdate
      rfl
    | false =>
      obtain ⟨-, row, row', -, -, -, hdb⟩ := StreamsDbRepository.update_ok hupdate
      have htakes := StreamsDbRepository.takes_of_update_ok hempty hupdate
      exact hdb.imp id fun hset => ⟨htakes, hset⟩

theorem nextId_of_step (hs : s.step pg a = some t) :
    s.db.streams.nextId ≤ t.db.streams.nextId := by
  cases moves_of_step hs with
  | call id changes => exact le_refl _
  | read hcall hstage => exact le_refl _
  | @write i call stream now hcall hstage =>
    rcases afterWrite_db i now call stream s with hsame | ⟨-, hset⟩
    · rw [hsame]
    · rw [hset]
      exact le_refl _
  | settle now hcall hstage => exact le_refl _
  | reject hcall hstage => exact le_refl _
  | lose hcall hstage => exact le_refl _
  | create now params => exact StreamsDbRepository.create_nextId pg now params s.db
  | delete id => exact (StreamsDbRepository.delete_nextId id s.db).ge

/-- The UPDATE of some call sets the stream's visibility. -/
def Shows (streamId : Int) (visibility : StreamVisibility) (s : Updates) : Action → Prop
  | .write i _ => ∃ call, s.calls[i]? = some call ∧ call.id = streamId ∧
      StreamsDbRepository.takes call.id (StreamsService.trimChanges call.changes) = true ∧
      call.changes.visibility = some visibility
  | _ => False

/-- Where the row of a given id comes from. -/
theorem find_of_step (hs : s.step pg a = some t) {id : Int} {row' : StreamRow}
    (hrow' : t.db.streams.find id = some row') :
    s.db.streams.nextId ≤ id ∨ ∃ row, s.db.streams.find id = some row ∧
      row'.userId = row.userId ∧
      (row'.visibility = row.visibility ∨ s.Shows id row'.visibility a) := by
  cases moves_of_step hs with
  | call id' changes => exact .inr ⟨row', hrow', rfl, .inl rfl⟩
  | read hcall hstage => exact .inr ⟨row', hrow', rfl, .inl rfl⟩
  | @write i call stream now hcall hstage =>
    refine .inr ?_
    rcases afterWrite_db i now call stream s with hsame | ⟨htakes, hset⟩
    · rw [hsame] at hrow'
      exact ⟨row', hrow', rfl, .inl rfl⟩
    · rw [hset, StreamsDatabase.setStream, StreamsTable.find_set] at hrow'
      obtain ⟨row, hrow, hchanged⟩ := Option.map_eq_some_iff.mp hrow'
      refine ⟨row, hrow, ?_⟩
      split at hchanged
      · next hid =>
        have hcallId : call.id = id := hid.symm.trans (StreamsTable.find_eq_some_iff.mp hrow).2
        rw [← hchanged]
        refine ⟨rfl, ?_⟩
        cases hvisibility : call.changes.visibility with
        | none =>
          refine .inl ?_
          rw [StreamsTable.changed, StreamsService.trimChanges, hvisibility]
          rfl
        | some visibility =>
          refine .inr ⟨call, hcall, hcallId, htakes, ?_⟩
          rw [hvisibility, StreamsTable.changed, StreamsService.trimChanges, hvisibility]
          rfl
      · rw [← hchanged]
        exact ⟨rfl, .inl rfl⟩
  | settle now hcall hstage => exact .inr ⟨row', hrow', rfl, .inl rfl⟩
  | reject hcall hstage => exact .inr ⟨row', hrow', rfl, .inl rfl⟩
  | lose hcall hstage => exact .inr ⟨row', hrow', rfl, .inl rfl⟩
  | create now params =>
    rcases StreamsDbRepository.create_find pg now params s.db hrow' with hnew | hold
    · exact .inl hnew
    · exact .inr ⟨row', hold, rfl, .inl rfl⟩
  | delete id' =>
    obtain ⟨hmem, hid⟩ := StreamsTable.find_eq_some_iff.mp hrow'
    have hbefore := StreamsDbRepository.delete_rows hmem
    exact .inr ⟨row', StreamsTable.find_eq_some_iff.mpr ⟨hbefore, hid⟩, rfl, .inl rfl⟩

/-- Only a deletion takes a row away. -/
theorem isSome_of_step (hs : s.step pg a = some t) {id : Int}
    (hrow : (s.db.streams.find id).isSome = true) :
    (t.db.streams.find id).isSome = true ∨ a = .delete id ∧ s.db.Unreferenced id := by
  cases moves_of_step hs with
  | call id' changes => exact .inl hrow
  | read hcall hstage => exact .inl hrow
  | @write i call stream now hcall hstage =>
    refine .inl ?_
    rcases afterWrite_db i now call stream s with hsame | ⟨-, hset⟩
    · rw [hsame]
      exact hrow
    · rw [hset, StreamsDatabase.setStream, StreamsTable.find_set, Option.isSome_map]
      exact hrow
  | settle now hcall hstage => exact .inl hrow
  | reject hcall hstage => exact .inl hrow
  | lose hcall hstage => exact .inl hrow
  | create now params =>
    obtain ⟨row, hrow⟩ := Option.isSome_iff_exists.mp hrow
    obtain ⟨hmem, hid⟩ := StreamsTable.find_eq_some_iff.mp hrow
    have hstill := StreamsDbRepository.create_rows pg now params s.db hmem
    exact .inl (Option.isSome_iff_exists.mpr
      ⟨row, StreamsTable.find_eq_some_iff.mpr ⟨hstill, hid⟩⟩)
  | delete id' =>
    obtain ⟨row, hrow⟩ := Option.isSome_iff_exists.mp hrow
    rcases StreamsDbRepository.delete_find id' hrow with hstill | ⟨rfl, hfree⟩
    · exact .inl (Option.isSome_iff_exists.mpr ⟨row, hstill⟩)
    · exact .inr ⟨rfl, hfree⟩

/-- Who may see a stream may see it after the step, unless the step makes it private and
it is another's. -/
theorem maySee_of_step (hs : s.step pg a = some t) {userId id : Int}
    (h : s.db.streams.MaySee userId id)
    (hhide : s.Shows id .isPrivate a → ∀ row ∈ s.db.streams.find id, userId = row.userId) :
    t.db.streams.MaySee userId id := by
  refine ⟨lt_of_lt_of_le h.1 (nextId_of_step hs), ?_⟩
  intro row' hrow'
  rcases find_of_step hs hrow' with hnew | ⟨row, hrow, howner, hkept | hshows⟩
  · exact absurd h.1 (not_lt.mpr hnew)
  · rw [howner, hkept]
    exact h.2 row hrow
  · rw [howner]
    cases hvisibility : row'.visibility with
    | isPublic => exact .inl rfl
    | isPrivate =>
      rw [hvisibility] at hshows
      exact .inr (hhide hshows row hrow).symm

/-- A call comes to owe an event when its UPDATE has found the row. -/
theorem owes_of_step (hs : s.step pg a = some t) {call : UpdateCall} {id : Int}
    {status : StreamStatus} (hcall : call ∈ t.calls) (howes : owes id status call = true) :
    call ∈ s.calls ∨ (t.db.streams.find id).isSome = true := by
  -- A call that moves to a stage where it owes nothing is not the one.
  have hquiet : ∀ {i : Nat} {other : UpdateCall} {stage : UpdateStage},
      owes id status { other with stage := stage } = false →
      t.calls = (s.goes i other stage).calls → call ∈ s.calls := by
    intro i other stage hno hcalls
    rw [hcalls] at hcall
    rcases List.mem_or_eq_of_mem_set hcall with hold | rfl
    · exact hold
    · rw [hno] at howes
      cases howes
  cases moves_of_step hs with
  | call id' changes =>
    rcases List.mem_append.mp hcall with hold | hnew
    · exact .inl hold
    · rw [List.mem_singleton.mp hnew] at howes
      cases howes
  | @read i other hother hstage => exact .inl (hquiet (owes_afterRead other s.db id status) rfl)
  | @write i other stream now hother hstage =>
    unfold afterWrite at hcall ⊢
    split at hcall
    · next e db hupdate => exact .inl (by
        rcases List.mem_or_eq_of_mem_set hcall with hold | rfl
        · exact hold
        · cases howes)
    · next updated db hupdate =>
      rcases List.mem_or_eq_of_mem_set hcall with hold | rfl
      · exact .inl hold
      · obtain ⟨-, row, row', -, hrow', -⟩ := StreamsDbRepository.update_ok hupdate
        rw [← (of_decide_eq_true howes).1]
        exact .inr (Option.isSome_iff_exists.mpr ⟨row', hrow'⟩)
  | @settle i other stream updated now hother hstage => exact .inl (hquiet rfl rfl)
  | @reject i other hother hstage => exact .inl (hquiet rfl rfl)
  | @lose i other stream updated hother hstage => exact .inl (hquiet rfl rfl)
  | create now params => exact .inl hcall
  | delete id' => exact .inl hcall

/-- A socket event comes from a call that owes it. -/
theorem effects_of_step (h : s.Checked) (hs : s.step pg a = some t) {entry : Nat × SideEffect}
    (hentry : entry ∈ t.effects.drop s.effects.length) {event : String} {payload : StatusPayload}
    {error : Option (String × String)} (hsocket : entry.2 = .socket event payload error) :
    ∃ call ∈ s.calls, ∃ status, owes payload.streamId status call = true := by
  have hnone : t.effects = s.effects → False := by
    intro hsame
    rw [hsame, List.drop_length] at hentry
    cases hentry
  cases moves_of_step hs with
  | call id changes => exact (hnone rfl).elim
  | read hcall hstage => exact (hnone rfl).elim
  | @write i call stream now hcall hstage =>
    refine (hnone ?_).elim
    unfold afterWrite
    split <;> rfl
  | @settle i call stream updated now hcall hstage =>
    have hmem := List.mem_of_getElem? hcall
    have hcheck := h call hmem
    rw [UpdateCall.Checked, hstage] at hcheck
    rw [List.drop_left, List.mem_map] at hentry
    obtain ⟨effect, heffect, rfl⟩ := hentry
    unfold StreamsService.sideEffectsOf at heffect
    split at heffect
    · cases heffect
    · next status hstatus =>
      split at heffect
      · next hne =>
        refine ⟨call, hmem, status, ?_⟩
        have hstream : payload.streamId = updated.id := by
          unfold dispatchStatusSideEffects at heffect
          rcases List.mem_cons.mp heffect with rfl | hlast
          · cases hsocket
          · rw [List.mem_singleton.mp hlast] at hsocket
            cases hsocket
            rfl
        rw [owes, hstage, hstream, hcheck.2]
        exact decide_eq_true ⟨rfl, hstatus, hne⟩
      · cases heffect
  | reject hcall hstage => exact (hnone rfl).elim
  | lose hcall hstage => exact (hnone rfl).elim
  | create now params => exact (hnone rfl).elim
  | delete id => exact (hnone rfl).elim

end Updates

namespace StreamsGateway

variable {pg : Postgres} {numbers : TextNumbers}
  {passed : Option StreamIdField → Option StreamIdField} {s t : StreamsGateway} {a : Action}

/-! ## One step -/

/-- The steps, one rule for each outcome. -/
inductive Moves (pg : Postgres) (numbers : TextNumbers)
    (passed : Option StreamIdField → Option StreamIdField) (s : StreamsGateway) :
    Action → StreamsGateway → Prop where
  | service {a : Updates.Action} {updates : Updates} (h : s.updates.step pg a = some updates) :
    Moves pg numbers passed s (.service a) { s with updates := updates }
  | connect :
    Moves pg numbers passed s .connect { s with sockets := s.sockets ++ [⟨true, none, []⟩] }
  | refuse {k : Nat} {socket : ClientSocket} (hsocket : s.sockets[k]? = some socket)
    (hanonymous : socket.userId = none) :
    Moves pg numbers passed s (.authenticate k none) (s.setSocket k ⟨false, none, []⟩)
  | authenticate {k : Nat} {socket : ClientSocket} (id : UserId)
    (hsocket : s.sockets[k]? = some socket) (hanonymous : socket.userId = none) :
    Moves pg numbers passed s (.authenticate k (some id)) (s.setSocket k { socket with
      userId := some id
      rooms := if socket.connected then userRoomFor id :: socket.rooms else socket.rooms })
  | disconnect {k : Nat} {socket : ClientSocket} (hsocket : s.sockets[k]? = some socket) :
    Moves pg numbers passed s (.disconnect k)
      (s.setSocket k { socket with connected := false, rooms := [] })
  | ignore {k : Nat} (message : Option StreamIdField) :
    Moves pg numbers passed s (.subscribe k message) s
  | subscribe {k : Nat} {socket : ClientSocket} {userId id : Int}
    {message : Option StreamIdField} {field : StreamIdField}
    (hsocket : s.sockets[k]? = some socket) (huser : socket.userId = some userId)
    (hpassed : passed message = some field) (hid : field.toInteger numbers = some id) :
    Moves pg numbers passed s (.subscribe k message) { s with subscriptions := s.subscriptions ++
      [⟨k, userId, id, roomFor field.toText, false, false⟩] }
  | grant {j : Nat} {sub : Subscription} (hsub : s.subscriptions[j]? = some sub)
    (hallowed : canSubscribe sub.userId sub.streamId s.updates.db.streams = .ok true) :
    Moves pg numbers passed s (.check j) (s.setSubscription j { sub with granted := true })
  | deny {j : Nat} {sub : Subscription} (hsub : s.subscriptions[j]? = some sub) :
    Moves pg numbers passed s (.check j) (s.setSubscription j { sub with ended := true })
  | join {j : Nat} {sub : Subscription} {socket : ClientSocket}
    (hsub : s.subscriptions[j]? = some sub) (hgranted : sub.granted = true)
    (hended : sub.ended = false) (hsocket : s.sockets[sub.socket]? = some socket) :
    Moves pg numbers passed s (.join j)
      ((s.setSocket sub.socket (joinRoom sub socket)).setSubscription j
        { sub with ended := true })
  | leave {k : Nat} {socket : ClientSocket} {message : Option StreamIdField}
    {field : StreamIdField} (hsocket : s.sockets[k]? = some socket)
    (hpassed : passed message = some field) :
    Moves pg numbers passed s (.unsubscribe k message) (s.setSocket k { socket with
      rooms := socket.rooms.filter fun room => room ≠ roomFor field.toText })
  | stay {k : Nat} (message : Option StreamIdField) :
    Moves pg numbers passed s (.unsubscribe k message) s

theorem moves_of_step (h : s.step pg numbers passed a = some t) :
    Moves pg numbers passed s a t := by
  cases a with
  | service a =>
    obtain ⟨updates, hupdates, rfl⟩ := Option.map_eq_some_iff.mp h
    exact .service hupdates
  | connect =>
    cases h
    exact .connect
  | authenticate k userId =>
    simp only [step] at h
    split at h
    · cases h
    · next socket hsocket =>
      split at h
      · next hanonymous =>
        split at h
        · cases h
          exact .refuse hsocket hanonymous
        · cases h
          exact .authenticate _ hsocket hanonymous
      · cases h
  | disconnect k =>
    obtain ⟨socket, hsocket, rfl⟩ := Option.map_eq_some_iff.mp h
    exact .disconnect hsocket
  | subscribe k message =>
    obtain ⟨socket, hsocket, rfl⟩ := Option.map_eq_some_iff.mp h
    unfold handleSubscribe
    split
    · next userId field huser hpassed =>
      split
      · exact .ignore _
      · next id hid => exact .subscribe hsocket huser hpassed hid
    · exact .ignore _
  | check j =>
    simp only [step] at h
    split at h
    · cases h
    · next sub hsub =>
      split at h
      · cases h
      · split at h
        · next hallowed =>
          cases h
          exact .grant hsub hallowed
        · cases h
          exact .deny hsub
  | join j =>
    simp only [step] at h
    split at h
    · cases h
    · next sub hsub =>
      split at h
      · next hready =>
        rw [Bool.and_eq_true, Bool.not_eq_true'] at hready
        obtain ⟨socket, hsocket, rfl⟩ := Option.map_eq_some_iff.mp h
        exact .join hsub hready.1 hready.2 hsocket
      · cases h
  | unsubscribe k message =>
    obtain ⟨socket, hsocket, rfl⟩ := Option.map_eq_some_iff.mp h
    split
    · next field huser hpassed => exact .leave hsocket hpassed
    · exact .stay _

/-- Nobody is in a stream's room without a user id, a subscription is by the user of its
socket, and it joins the room of the stream that it has asked about. -/
structure Sound (s : StreamsGateway) : Prop where
  named : ∀ socket ∈ s.sockets, socket.userId = none → ∀ n : Int, roomFor n.repr ∉ socket.rooms
  owned : ∀ sub ∈ s.subscriptions,
    ∃ socket, s.sockets[sub.socket]? = some socket ∧ socket.userId = some sub.userId
  rooms : ∀ sub ∈ s.subscriptions, ∀ n, fitsInteger n = true → sub.room = roomFor n.repr →
    sub.streamId = n

theorem sound_setSocket {k : Nat} {socket socket' : ClientSocket} (h : s.Sound)
    (hsocket : s.sockets[k]? = some socket)
    (hnamed : socket'.userId = none → ∀ n : Int, roomFor n.repr ∉ socket'.rooms)
    (huser : ∀ userId, socket.userId = some userId → socket'.userId = some userId) :
    (s.setSocket k socket').Sound := by
  refine ⟨?_, ?_, h.rooms⟩
  · exact forall_mem_set h.named hnamed
  · intro sub hsub
    obtain ⟨other, hother, hotherUser⟩ := h.owned sub hsub
    by_cases hsame : k = sub.socket
    · rw [← hsame, hsocket, Option.some.injEq] at hother
      have hlt := (List.getElem?_eq_some_iff.mp hsocket).1
      exact ⟨socket', by rw [setSocket, ← hsame, List.getElem?_set_self hlt],
        huser _ (hother ▸ hotherUser)⟩
    · exact ⟨other, by rw [setSocket, List.getElem?_set_ne hsame, hother], hotherUser⟩

theorem sound_setSubscription {j : Nat} {sub : Subscription} (h : s.Sound)
    (hsub : s.subscriptions[j]? = some sub) (granted ended : Bool) :
    (s.setSubscription j { sub with granted := granted, ended := ended }).Sound := by
  have hmem := List.mem_of_getElem? hsub
  refine ⟨h.named, ?_, ?_⟩
  · exact forall_mem_set h.owned (h.owned sub hmem)
  · exact forall_mem_set h.rooms (h.rooms sub hmem)

theorem joinRoom_userId (sub : Subscription) (socket : ClientSocket) :
    (joinRoom sub socket).userId = socket.userId := by
  unfold joinRoom
  split <;> rfl

theorem mem_joinRoom {sub : Subscription} {socket : ClientSocket} {room : String}
    (h : room ∈ (joinRoom sub socket).rooms) : room = sub.room ∨ room ∈ socket.rooms := by
  unfold joinRoom at h
  split at h
  · exact List.mem_cons.mp h
  · exact .inr h

theorem step_sound (h : s.Sound) (hs : s.step pg numbers passed a = some t) : t.Sound := by
  cases moves_of_step hs with
  | service hupdates => exact ⟨h.named, h.owned, h.rooms⟩
  | connect =>
    refine ⟨?_, ?_, h.rooms⟩
    · intro socket hsocket
      rcases List.mem_append.mp hsocket with hold | hnew
      · exact h.named socket hold
      · rw [List.mem_singleton.mp hnew]
        intro _ n hroom
        cases hroom
    · intro sub hsub
      obtain ⟨socket, hsocket, huser⟩ := h.owned sub hsub
      have hlt := (List.getElem?_eq_some_iff.mp hsocket).1
      exact ⟨socket, by rw [List.getElem?_append_left hlt, hsocket], huser⟩
  | refuse hsocket hanonymous =>
    refine sound_setSocket h hsocket (fun _ n hroom => ?_) fun userId huser => ?_
    · cases hroom
    · rw [hanonymous] at huser
      cases huser
  | authenticate id hsocket hanonymous =>
    refine sound_setSocket h hsocket (fun hnone => ?_) fun userId huser => ?_
    · cases hnone
    · rw [hanonymous] at huser
      cases huser
  | disconnect hsocket =>
    refine sound_setSocket h hsocket (fun _ n hroom => ?_) fun userId huser => huser
    cases hroom
  | ignore message => exact h
  | @subscribe k socket userId id message field hsocket huser hpassed hid =>
    refine ⟨h.named, ?_, ?_⟩
    · intro sub hsub
      rcases List.mem_append.mp hsub with hold | hnew
      · exact h.owned sub hold
      · rw [List.mem_singleton.mp hnew]
        exact ⟨socket, hsocket, huser⟩
    · intro sub hsub
      rcases List.mem_append.mp hsub with hold | hnew
      · exact h.rooms sub hold
      · rw [List.mem_singleton.mp hnew]
        intro n hn hroom
        exact toInteger_of_toText hn (roomFor_injective hroom) hid
  | grant hsub hallowed => exact sound_setSubscription h hsub _ _
  | deny hsub => exact sound_setSubscription h hsub _ _
  | @join j sub socket hsub hgranted hended hsocket =>
    have hsocketSound : (s.setSocket sub.socket (joinRoom sub socket)).Sound := by
      refine sound_setSocket h hsocket (fun hnone => ?_) fun userId huser => ?_
      · obtain ⟨other, hother, huser⟩ := h.owned sub (List.mem_of_getElem? hsub)
        rw [hsocket, Option.some.injEq] at hother
        rw [joinRoom_userId, hother, huser] at hnone
        cases hnone
      · rw [joinRoom_userId, huser]
    exact sound_setSubscription hsocketSound hsub _ _
  | leave hsocket hpassed =>
    refine sound_setSocket h hsocket (fun hnone n hroom => ?_) fun userId huser => huser
    exact h.named _ (List.mem_of_getElem? hsocket) hnone n (List.mem_filter.mp hroom).1
  | stay message => exact h

theorem mem_followers {streamId userId : Int} : userId ∈ s.followers streamId ↔
    (∃ socket ∈ s.sockets, roomFor streamId.repr ∈ socket.rooms ∧ socket.userId = some userId) ∨
      ∃ sub ∈ s.subscriptions, sub.granted = true ∧ sub.ended = false ∧ sub.streamId = streamId ∧
        sub.userId = userId := by
  simp only [followers, receivers, List.mem_append, List.mem_filterMap, List.mem_filter,
    List.mem_map, decide_eq_true_eq, Bool.and_eq_true, Bool.not_eq_true', and_assoc]

theorem followers_setSocket {k : Nat} {socket : ClientSocket} {streamId userId : Int}
    (h : userId ∈ (s.setSocket k socket).followers streamId) : userId ∈ s.followers streamId ∨
      roomFor streamId.repr ∈ socket.rooms ∧ socket.userId = some userId := by
  rcases mem_followers.mp h with ⟨other, hother, hroom, huser⟩ | hsub
  · rcases List.mem_or_eq_of_mem_set hother with hold | rfl
    · exact .inl (mem_followers.mpr (.inl ⟨other, hold, hroom, huser⟩))
    · exact .inr ⟨hroom, huser⟩
  · exact .inl (mem_followers.mpr (.inr hsub))

theorem followers_setSubscription {j : Nat} {sub : Subscription} {streamId userId : Int}
    (h : userId ∈ (s.setSubscription j sub).followers streamId) :
    userId ∈ s.followers streamId ∨ sub.ended = false ∧ sub.streamId = streamId ∧
      sub.userId = userId := by
  rcases mem_followers.mp h with hsocket | ⟨other, hother, hgranted, hended, hid, huser⟩
  · exact .inl (mem_followers.mpr (.inl hsocket))
  · rcases List.mem_or_eq_of_mem_set hother with hold | rfl
    · exact .inl (mem_followers.mpr (.inr ⟨other, hold, hgranted, hended, hid, huser⟩))
    · exact .inr ⟨hended, hid, huser⟩

/-- Nobody comes into a stream's room, or is let in, but who may see the stream then. -/
theorem followers_of_step (h : s.Sound) (hs : s.step pg numbers passed a = some t)
    {streamId userId : Int} (hn : fitsInteger streamId = true)
    (ht : userId ∈ t.followers streamId) : userId ∈ s.followers streamId ∨
      t.updates = s.updates ∧ canSubscribe userId streamId s.updates.db.streams = .ok true := by
  cases moves_of_step hs with
  | service hupdates => exact .inl ht
  | connect =>
    refine .inl (mem_followers.mpr ((mem_followers.mp ht).imp_left ?_))
    rintro ⟨socket, hsocket, hroom, huser⟩
    rcases List.mem_append.mp hsocket with hold | hnew
    · exact ⟨socket, hold, hroom, huser⟩
    · rw [List.mem_singleton.mp hnew] at hroom
      cases hroom
  | refuse hsocket hanonymous =>
    refine .inl ((followers_setSocket ht).resolve_right ?_)
    rintro ⟨hroom, -⟩
    cases hroom
  | @authenticate k socket id hsocket hanonymous =>
    refine .inl ((followers_setSocket ht).resolve_right ?_)
    rintro ⟨hroom, -⟩
    have hnot := h.named socket (List.mem_of_getElem? hsocket) hanonymous streamId
    split at hroom
    · rcases List.mem_cons.mp hroom with heq | hold
      · exact roomFor_ne_userRoomFor _ _ heq
      · exact hnot hold
    · exact hnot hroom
  | disconnect hsocket =>
    refine .inl ((followers_setSocket ht).resolve_right ?_)
    rintro ⟨hroom, -⟩
    cases hroom
  | ignore message => exact .inl ht
  | subscribe hsocket huser hpassed hid =>
    refine .inl (mem_followers.mpr ((mem_followers.mp ht).imp_right ?_))
    rintro ⟨sub, hsub, hgranted, hrest⟩
    rcases List.mem_append.mp hsub with hold | hnew
    · exact ⟨sub, hold, hgranted, hrest⟩
    · rw [List.mem_singleton.mp hnew] at hgranted
      cases hgranted
  | grant hsub hallowed =>
    rcases followers_setSubscription ht with hold | ⟨-, rfl, rfl⟩
    · exact .inl hold
    · exact .inr ⟨rfl, hallowed⟩
  | deny hsub =>
    rcases followers_setSubscription ht with hold | ⟨hended, -⟩
    · exact .inl hold
    · cases hended
  | @join j sub socket hsub hgranted hended hsocket =>
    have hmem := List.mem_of_getElem? hsub
    rcases followers_setSubscription ht with hold | ⟨hnot, -⟩
    · rcases followers_setSocket hold with hold | ⟨hroom, huser⟩
      · exact .inl hold
      · rw [joinRoom_userId] at huser
        refine .inl (mem_followers.mpr ?_)
        rcases mem_joinRoom hroom with heq | hroom
        · -- It was let in before.
          obtain ⟨other, hother, hotherUser⟩ := h.owned sub hmem
          rw [hsocket, Option.some.injEq] at hother
          rw [hother, hotherUser, Option.some.injEq] at huser
          exact .inr ⟨sub, hmem, hgranted, hended, h.rooms sub hmem streamId hn heq.symm, huser⟩
        · exact .inl ⟨socket, List.mem_of_getElem? hsocket, hroom, huser⟩
    · cases hnot
  | @leave k socket message field hsocket hpassed =>
    rcases followers_setSocket ht with hold | ⟨hroom, huser⟩
    · exact .inl hold
    · have hroom := (List.mem_filter.mp hroom).1
      exact .inl (mem_followers.mpr
        (.inl ⟨socket, List.mem_of_getElem? hsocket, hroom, huser⟩))
  | stay message => exact .inl ht

/-! ## Every run -/

/-- Whoever is in a stream's room may see the stream, and the stream of an event on the way
is there or has nobody in its room. -/
structure Safe (s : StreamsGateway) : Prop where
  sound : s.Sound
  checked : s.updates.Checked
  visible : ∀ streamId, fitsInteger streamId = true → ∀ userId ∈ s.followers streamId,
    s.updates.db.streams.MaySee userId streamId
  present : ∀ call ∈ s.updates.calls, ∀ id status, Updates.owes id status call = true →
    fitsInteger id = true ∧
      ((s.updates.db.streams.find id).isSome = true ∨ s.followers id = [])

/-- A step is one of the calls, which leaves the rooms as they are, or it leaves the calls
and the database as they are. -/
theorem service_or_updates_eq (hs : s.step pg numbers passed a = some t) :
    (∃ b, a = .service b ∧ s.updates.step pg b = some t.updates ∧
      ∀ streamId, t.followers streamId = s.followers streamId) ∨ t.updates = s.updates := by
  cases moves_of_step hs with
  | service hupdates => exact .inl ⟨_, rfl, hupdates, fun _ => rfl⟩
  | connect => exact .inr rfl
  | refuse hsocket hanonymous => exact .inr rfl
  | authenticate id hsocket hanonymous => exact .inr rfl
  | disconnect hsocket => exact .inr rfl
  | ignore message => exact .inr rfl
  | subscribe hsocket huser hpassed hid => exact .inr rfl
  | grant hsub hallowed => exact .inr rfl
  | deny hsub => exact .inr rfl
  | join hsub hgranted hended hsocket => exact .inr rfl
  | leave hsocket hpassed => exact .inr rfl
  | stay message => exact .inr rfl

theorem step_safe (h : s.Safe) (hhides : s.HidesSafely a)
    (hs : s.step pg numbers passed a = some t) : t.Safe := by
  have hfollowers := @followers_of_step pg numbers passed s t a h.sound hs
  rcases service_or_updates_eq hs with ⟨b, rfl, hb, hsame⟩ | hupdates
  · refine ⟨step_sound h.sound hs, Updates.step_checked h.checked hb, ?_, ?_⟩
    · intro streamId hn userId hfollows
      rw [hsame] at hfollows
      refine Updates.maySee_of_step hb (h.visible streamId hn userId hfollows) ?_
      intro hshows row hrow
      cases b with
      | write i now =>
        obtain ⟨call, hcall, rfl, htakes, hprivate⟩ := hshows
        exact hhides call hcall htakes hprivate row hrow userId hfollows
      | _ => exact hshows.elim
    · intro call hcall id status howes
      rw [hsame]
      rcases Updates.owes_of_step hb hcall howes with hold | hrow
      · obtain ⟨hn, hrow | hempty⟩ := h.present call hold id status howes
        · rcases Updates.isSome_of_step hb hrow with hstill | ⟨rfl, hfree⟩
          · exact ⟨hn, .inl hstill⟩
          · refine ⟨hn, .inr ((hhides hfree).resolve_right ?_)⟩
            intro hnone
            rw [hnone call hold status] at howes
            cases howes
        · exact ⟨hn, .inr hempty⟩
      · exact ⟨StreamsTable.fitsInteger_of_isSome hrow, .inl hrow⟩
  · refine ⟨step_sound h.sound hs, hupdates ▸ h.checked, ?_, ?_⟩
    · intro streamId hn userId hfollows
      rw [hupdates]
      rcases hfollowers hn hfollows with hold | ⟨-, hallowed⟩
      · exact h.visible streamId hn userId hold
      · exact (StreamsTable.maySee_of_canSubscribe hallowed).1
    · intro call hcall id status howes
      rw [hupdates] at hcall ⊢
      obtain ⟨hn, hrow | hempty⟩ := h.present call hcall id status howes
      · exact ⟨hn, .inl hrow⟩
      · by_cases hrow : (s.updates.db.streams.find id).isSome = true
        · exact ⟨hn, .inl hrow⟩
        · refine ⟨hn, .inr (List.eq_nil_iff_forall_not_mem.mpr ?_)⟩
          intro userId hfollows
          rcases hfollowers hn hfollows with hold | ⟨-, hallowed⟩
          · rw [hempty] at hold
            cases hold
          · exact hrow (StreamsTable.maySee_of_canSubscribe hallowed).2

theorem fresh_safe (h : s.Fresh) : s.Safe := by
  obtain ⟨hupdates, hsockets, hsubscriptions⟩ := h
  have hempty : ∀ streamId, s.followers streamId = [] := by
    intro streamId
    simp [followers, receivers, hsockets, hsubscriptions]
  refine ⟨⟨?_, ?_, ?_⟩, Updates.fresh_checked hupdates, ?_, ?_⟩
  · simp [hsockets]
  · simp [hsubscriptions]
  · simp [hsubscriptions]
  · intro streamId _ userId hfollows
    rw [hempty] at hfollows
    cases hfollows
  · intro call hcall
    rw [hupdates.1] at hcall
    cases hcall

theorem safe_emits (h : s.Safe) (hs : s.step pg numbers passed a = some t) : s.EmitsSafely t := by
  intro entry hentry event payload error hsocket socket hreceives
  rcases service_or_updates_eq hs with ⟨b, rfl, hb, -⟩ | hupdates
  · obtain ⟨call, hcall, status, howes⟩ := Updates.effects_of_step h.checked hb hentry hsocket
    obtain ⟨hn, hpresent⟩ := h.present call hcall payload.streamId status howes
    obtain ⟨hmem, hroom⟩ := List.mem_filter.mp hreceives
    cases huser : socket.userId with
    | none => exact absurd (of_decide_eq_true hroom) (h.sound.named socket hmem huser _)
    | some userId =>
      have hfollows : userId ∈ s.followers payload.streamId :=
        mem_followers.mpr (.inl ⟨socket, hmem, of_decide_eq_true hroom, huser⟩)
      refine ⟨userId, rfl, StreamsTable.canSubscribe_of_maySee
        (h.visible payload.streamId hn userId hfollows) (hpresent.resolve_right ?_)⟩
      intro hempty
      rw [hempty] at hfollows
      cases hfollows
  · rw [hupdates, List.drop_length] at hentry
    cases hentry

/-- Whatever the handlers get of a message: in a run where a stream is made private only with
nobody but the owner in its room, and deleted only with an empty room or no event of it on the
way, every event reaches only those who may subscribe to its stream at that moment. -/
theorem emits_safely_of_hidesSafely {as : List Action} (h : s.Fresh)
    (hhides : AllSteps (step pg numbers passed) (fun s a _ => s.HidesSafely a) s as) :
    AllSteps (step pg numbers passed) (fun s _ t => s.EmitsSafely t) s as := by
  refine AllSteps.of_invariant (I := Safe) ?_ ?_ (fresh_safe h) hhides
  · exact fun s a t hsafe hhides hs => step_safe hsafe hhides hs
  · exact fun s a t hsafe _ hs => safe_emits hsafe hs

/-! ## Over a connection -/

/-- Nobody is in the room of a stream, or asks to be. -/
structure Roomless (s : StreamsGateway) : Prop where
  sockets : ∀ socket ∈ s.sockets, ∀ n : Int, roomFor n.repr ∉ socket.rooms
  subscriptions : s.subscriptions = []

theorem Fresh.roomless (h : s.Fresh) : s.Roomless := by
  refine ⟨?_, h.2.2⟩
  rw [h.2.1]
  exact List.forall_mem_nil _

theorem roomless_setSocket {k : Nat} {socket : ClientSocket} (h : s.Roomless)
    (hrooms : ∀ n : Int, roomFor n.repr ∉ socket.rooms) : (s.setSocket k socket).Roomless :=
  ⟨forall_mem_set h.sockets hrooms, h.subscriptions⟩

theorem step_roomless (nest : NestBinding) (h : s.Roomless)
    (hs : s.step pg numbers nest.payload a = some t) : t.Roomless := by
  have pending : ∀ {j : Nat} {sub : Subscription}, s.subscriptions[j]? = some sub → False := by
    intro j sub hsub
    rw [h.subscriptions] at hsub
    cases hsub
  cases moves_of_step hs with
  | service hupdates => exact ⟨h.sockets, h.subscriptions⟩
  | connect =>
    refine ⟨?_, h.subscriptions⟩
    rw [List.forall_mem_append, List.forall_mem_singleton]
    exact ⟨h.sockets, fun _ => List.not_mem_nil⟩
  | refuse hsocket hanonymous => exact roomless_setSocket h fun _ => List.not_mem_nil
  | @authenticate k socket id hsocket hanonymous =>
    refine roomless_setSocket h fun n hroom => ?_
    have out := h.sockets socket (List.mem_of_getElem? hsocket) n
    split at hroom
    · rcases List.mem_cons.mp hroom with heq | hold
      · exact roomFor_ne_userRoomFor _ _ heq
      · exact out hold
    · exact out hroom
  | disconnect hsocket => exact roomless_setSocket h fun _ => List.not_mem_nil
  | ignore message => exact h
  | subscribe hsocket huser hpassed hid =>
    rw [nest.payload_eq] at hpassed
    cases hpassed
  | grant hsub hallowed => exact (pending hsub).elim
  | deny hsub => exact (pending hsub).elim
  | join hsub hgranted hended hsocket => exact (pending hsub).elim
  | leave hsocket hpassed =>
    rw [nest.payload_eq] at hpassed
    cases hpassed
  | stay message => exact h

theorem Roomless.followers_eq_nil (h : s.Roomless) (streamId : Int) : s.followers streamId = [] := by
  have nobody : s.receivers streamId = [] := by
    rw [receivers, List.filter_eq_nil_iff]
    intro socket hsocket
    rw [decide_eq_true_eq]
    exact h.sockets socket hsocket streamId
  rw [followers, nobody, h.subscriptions]
  rfl

/-- A stream that nobody follows may be hidden at any time. -/
theorem Roomless.hidesSafely (h : s.Roomless) (a : Action) : s.HidesSafely a := by
  unfold HidesSafely
  split
  · intro call hcall _ _ row hrow userId hfollows
    rw [h.followers_eq_nil] at hfollows
    cases hfollows
  · exact fun _ => .inl (h.followers_eq_nil _)
  · trivial

/-- In every run of sockets that come, go and send what they like, and of calls of the service,
an event reaches only those who may subscribe to its stream at that moment. -/
theorem emits_safely (nest : NestBinding) (h : s.Fresh) (as : List Action) :
    AllSteps (step pg numbers nest.payload) (fun s _ t => s.EmitsSafely t) s as := by
  refine emits_safely_of_hidesSafely h (allSteps_of_invariant (I := Roomless) ?_ h.roomless)
  exact fun s a t hroomless hs => ⟨step_roomless nest hroomless hs, hroomless.hidesSafely a⟩

/-- A binding that fills a parameter with the message if it is decorated for that, and if no
parameter is decorated fills the second. -/
def nestBinding : NestBinding where
  argument params i message :=
    if params.all Option.isNone then if i = 1 then message else none
    else if params[i]? = some (some .messageBody) then message else none
  undecorated params i message decorated bare := by
    have notAll : ¬params.all Option.isNone = true := by
      obtain ⟨param, known, some⟩ := decorated
      exact fun all => some (Option.isNone_iff_eq_none.mp (List.all_eq_true.mp all param known))
    rw [if_neg notAll, bare, if_neg (by decide)]

def decimalNumbers : TextNumbers := ⟨String.toInt?, fun n _ => Int.toInt?_repr n⟩

/-- Two public streams of user 1, and no socket yet. -/
def quiet : StreamsGateway := ⟨Updates.idle, [], []⟩

/-- User 2 asks for the events of stream 1. -/
def ask : List Action :=
  [.connect, .authenticate 0 (some ⟨2, by decide⟩), .subscribe 0 (some (.number 1))]

/-- Stream 1 starts, and becomes private. -/
def askedStart : List Action :=
  ask ++ (Updates.alone 0 ⟨1⟩ 1 (Updates.toStatus .active)).map .service ++
    (Updates.alone 1 ⟨2⟩ 1 ⟨none, none, none, some .isPrivate⟩).map .service

theorem emits_safely_askedStart :
    (run (step plainPostgres decimalNumbers nestBinding.payload) quiet askedStart).map
      (fun t => (t.updates.effects.length, t.sockets)) =
      some (2, [⟨true, some 2, ["user:2"]⟩]) ∧
    AllSteps (step plainPostgres decimalNumbers nestBinding.payload)
      (fun s _ t => s.EmitsSafely t) quiet askedStart :=
  ⟨by decide +kernel, emits_safely nestBinding ⟨⟨rfl, rfl, rfl⟩, rfl, rfl⟩ askedStart⟩

/-! ## With the payload passed on -/

/-- User 2 joins the room of stream 1, which becomes private and then starts. -/
def hiddenStart : List Action :=
  ask ++ [.check 0, .join 0] ++
    (Updates.alone 0 ⟨1⟩ 1 ⟨none, none, none, some .isPrivate⟩).map .service ++
    ((Updates.alone 1 ⟨2⟩ 1 (Updates.toStatus .active)).take 3).map .service

/-- If the handlers got the payload, the event of the start would reach user 2. -/
theorem emits_to_follower_of_private :
    ¬∀ (pg : Postgres) (numbers : TextNumbers) (s : StreamsGateway) (as : List Action), s.Fresh →
      AllSteps (step pg numbers id) (fun s _ t => s.EmitsSafely t) s as := by
  intro h
  have hall := h plainPostgres decimalNumbers quiet (hiddenStart ++ [.service (.settle 1 ⟨2⟩)])
    ⟨⟨rfl, rfl, rfl⟩, rfl, rfl⟩
  have hlast : (run (step plainPostgres decimalNumbers id) quiet hiddenStart).bind
      (fun s => (s.step plainPostgres decimalNumbers id (.service (.settle 1 ⟨2⟩))).map fun t =>
        (t.updates.effects.drop s.updates.effects.length, s.receivers 1,
          canSubscribe 2 1 s.updates.db.streams)) =
      some ((dispatchStatusSideEffects ⟨2⟩ ⟨1, 1, "a", none, .active, .isPrivate, ⟨0⟩, ⟨2⟩⟩
          .active).map (1, ·),
        [⟨true, some 2, ["stream:1", "user:2"]⟩], .ok false) := by decide +kernel
  obtain ⟨s, hs, hmap⟩ := Option.bind_eq_some_iff.mp hlast
  obtain ⟨t, ht, heq⟩ := Option.map_eq_some_iff.mp hmap
  simp only [Prod.mk.injEq] at heq
  obtain ⟨heffects, hreceivers, hdenied⟩ := heq
  have hemits := (hall.after_run hs t ht).1
  obtain ⟨userId, huser, hallowed⟩ := hemits
    (1, .socket "stream:started" ⟨1, 1, "startedAt", ⟨2⟩⟩ none)
    (by rw [heffects]; exact List.mem_of_getElem? (i := 1) rfl) _ _ _ rfl
    ⟨true, some 2, ["stream:1", "user:2"]⟩ (by rw [hreceivers]; exact List.mem_singleton_self _)
  rw [Option.mem_some_iff] at huser
  rw [← huser, hdenied] at hallowed
  cases hallowed

end StreamsGateway

end Api
end XStreamRoll
