/-
Notifications in the database, and the sockets that hear of them.

`create` inserts a row, and once the INSERT has been answered it pushes the notification to
the room of its user.  A socket joins that room when `handleConnection` has verified its
token, and leaves it when it goes.  Between the two statements of a call anything else may
happen: sockets come and go, users read and delete, and the sweep takes a batch of rows.

A push reaches the sockets that are in the room at that moment.  Nothing is kept for those
that come later: they have the list of the unread rows.
-/
import XStreamRoll.Api.Notifications.Inbox
import XStreamRoll.Api.Streams.Gateway

namespace XStreamRoll
namespace Api

open Transition

variable {Payload : Type}

namespace StreamsGateway

/-- The sockets that a broadcast to the user's room reaches, by their numbers. -/
def audience (userId : Int) (s : StreamsGateway) : List Nat :=
  (List.range s.sockets.length).filter fun k =>
    (s.sockets[k]?).any fun socket => userRoomFor userId ∈ socket.rooms

end StreamsGateway

/-- A call of `NotificationsService.create`. -/
inductive Creation (Payload : Type) where
  | inserting (userId : Int) (type : String) (payload : Payload)
  | pushing (notification : Notification Payload)
  /-- `none` when the INSERT has failed -/
  | ended (notification : Option (Notification Payload))

/-- What has been inserted. -/
def Creation.notification : Creation Payload → Option (Notification Payload)
  | .inserting _ _ _ => none
  | .pushing notification => some notification
  | .ended notification => notification

structure Pushes (Payload : Type) where
  gateway : StreamsGateway
  table : NotificationRows Payload
  creations : List (Creation Payload)
  /-- What the sockets have received, by their numbers. -/
  received : List (Nat × NotificationCreatedPayload Payload)

/-- One batch of the sweep. -/
def NotificationRows.deleteExpiredBatch (NOW : Timestamptz) (scan : Scan Payload) (limit : Nat)
    (table : NotificationRows Payload) : NotificationRows Payload :=
  let ids := NotificationsDbRepository.selected scan NOW limit table.toTable
  Table.delete (fun row => row.id ∈ ids) table

namespace Pushes

inductive Action (Payload : Type) where
  | gateway (a : StreamsGateway.Action)
  | create (userId : Int) (type : String) (payload : Payload)
  | insert (i : Nat) (NOW : Timestamptz)
  /-- a refused INSERT may have taken its id -/
  | fail (i : Nat) (spent : Bool)
  | emit (i : Nat)
  /-- `markRead`, `markAllRead` and `delete` are one statement each -/
  | call (NOW : Timestamptz) (scan : Scan Payload) (call : NotificationsCall Payload)
  | sweep (NOW : Timestamptz) (scan : Scan Payload)

def step (pg : Postgres) (numbers : TextNumbers)
    (passed : Option StreamIdField → Option StreamIdField) (s : Pushes Payload) :
    Action Payload → Option (Pushes Payload)
  | .gateway a =>
    (s.gateway.step pg numbers passed a).map fun gateway => { s with gateway := gateway }
  | .create userId type payload =>
    some { s with creations := s.creations ++ [.inserting userId type payload] }
  | .insert i NOW =>
    match s.creations[i]? with
    | some (.inserting userId type payload) => some { s with
        table := s.table.create NOW userId type payload
        creations := s.creations.set i (.pushing
          (NotificationRow.new NOW userId type payload s.table.nextId).rowToNotification) }
    | _ => none
  | .fail i spent =>
    match s.creations[i]? with
    | some (.inserting _ _ _) => some { s with
        table := if spent then s.table.skip else s.table
        creations := s.creations.set i (.ended none) }
    | _ => none
  | .emit i =>
    match s.creations[i]? with
    | some (.pushing notification) => some { s with
        creations := s.creations.set i (.ended (some notification))
        received := s.received ++ (s.gateway.audience notification.userId).map fun k =>
          (k, NotificationsService.pushed notification) }
    | _ => none
  | .call NOW scan call =>
    match call with
    | .markRead _ _ | .markAllRead _ | .delete _ _ =>
      some { s with table := (NotificationsService.serveRows NOW scan s.table call).2 }
    | _ => none
  | .sweep NOW scan => some { s with table := s.table.deleteExpiredBatch NOW scan 500 }

/-- Before the first socket and the first call of `create`. -/
def Fresh (s : Pushes Payload) : Prop :=
  s.gateway.Fresh ∧ s.creations = [] ∧ s.received = []

end Pushes

/-! ## The rooms of users -/

namespace StreamsGateway

variable {pg : Postgres} {numbers : TextNumbers}
  {passed : Option StreamIdField → Option StreamIdField} {s t : StreamsGateway} {a : Action}

theorem userRoomFor_injective : Function.Injective userRoomFor := by
  intro a b h
  have hlist := congrArg String.toList h
  rw [userRoomFor, userRoomFor, String.toList_append, String.toList_append] at hlist
  exact Int.repr_injective (String.toList_inj.mp (List.append_cancel_left hlist))

/-- A socket is in the room of its user, as long as it is connected, and in no other user's. -/
def InOwnRoom (socket : ClientSocket) : Prop :=
  ∀ userId, userRoomFor userId ∈ socket.rooms ↔
    socket.connected = true ∧ socket.userId = some userId

/-- The rooms that a subscription joins are those of streams. -/
structure Roomed (s : StreamsGateway) : Prop where
  sockets : ∀ socket ∈ s.sockets, InOwnRoom socket
  subscriptions : ∀ sub ∈ s.subscriptions, ∃ text, sub.room = roomFor text

theorem roomed_setSocket {k : Nat} {socket : ClientSocket} (h : s.Roomed)
    (hsocket : InOwnRoom socket) : (s.setSocket k socket).Roomed :=
  ⟨forall_mem_set h.sockets hsocket, h.subscriptions⟩

theorem roomed_setSubscription {j : Nat} {sub : Subscription} (h : s.Roomed)
    (hsub : s.subscriptions[j]? = some sub) (granted ended : Bool) :
    (s.setSubscription j { sub with granted := granted, ended := ended }).Roomed :=
  ⟨h.sockets, forall_mem_set h.subscriptions
    (h.subscriptions sub (List.mem_of_getElem? hsub))⟩

theorem inOwnRoom_blank (connected : Bool) : InOwnRoom ⟨connected, none, []⟩ := by
  intro userId
  simp

theorem inOwnRoom_authenticate {socket : ClientSocket} (h : InOwnRoom socket)
    (hanonymous : socket.userId = none) (id : Int) :
    InOwnRoom { socket with
      userId := some id
      rooms := if socket.connected then userRoomFor id :: socket.rooms else socket.rooms } := by
  have nowhere : ∀ userId, userRoomFor userId ∉ socket.rooms := by
    intro userId hroom
    have named := ((h userId).mp hroom).2
    rw [hanonymous] at named
    cases named
  intro userId
  dsimp only
  split
  · next hconnected =>
    rw [List.mem_cons, or_iff_left (nowhere userId), userRoomFor_injective.eq_iff,
      Option.some.injEq, hconnected, eq_comm]
    simp
  · next hconnected => simp [nowhere userId, hconnected]

theorem inOwnRoom_joinRoom {socket : ClientSocket} (h : InOwnRoom socket) {sub : Subscription}
    {text : String} (hroom : sub.room = roomFor text) : InOwnRoom (joinRoom sub socket) := by
  intro userId
  have other : userRoomFor userId ≠ roomFor text := (roomFor_ne_userRoomFor text userId).symm
  unfold joinRoom
  split
  · rw [List.mem_cons, hroom, or_iff_right other]
    exact h userId
  · exact h userId

theorem inOwnRoom_leave {socket : ClientSocket} (h : InOwnRoom socket) (text : String) :
    InOwnRoom { socket with rooms := socket.rooms.filter fun room => room ≠ roomFor text } := by
  intro userId
  rw [List.mem_filter, and_iff_left
    (decide_eq_true (roomFor_ne_userRoomFor text userId).symm)]
  exact h userId

theorem step_roomed (h : s.Roomed) (hs : s.step pg numbers passed a = some t) : t.Roomed := by
  have own : ∀ {k : Nat} {socket : ClientSocket}, s.sockets[k]? = some socket → InOwnRoom socket :=
    fun hsocket => h.sockets _ (List.mem_of_getElem? hsocket)
  cases moves_of_step hs with
  | service hupdates => exact ⟨h.sockets, h.subscriptions⟩
  | connect =>
    refine ⟨?_, h.subscriptions⟩
    rw [List.forall_mem_append, List.forall_mem_singleton]
    exact ⟨h.sockets, inOwnRoom_blank true⟩
  | refuse hsocket hanonymous => exact roomed_setSocket h (inOwnRoom_blank false)
  | authenticate id hsocket hanonymous =>
    exact roomed_setSocket h (inOwnRoom_authenticate (own hsocket) hanonymous id)
  | disconnect hsocket => exact roomed_setSocket h fun userId => by simp
  | ignore message => exact h
  | subscribe hsocket huser hpassed hid =>
    refine ⟨h.sockets, ?_⟩
    rw [List.forall_mem_append, List.forall_mem_singleton]
    exact ⟨h.subscriptions, _, rfl⟩
  | grant hsub hallowed => exact roomed_setSubscription h hsub _ _
  | deny hsub => exact roomed_setSubscription h hsub _ _
  | @join j sub socket hsub hgranted hended hsocket =>
    obtain ⟨text, hroom⟩ := h.subscriptions _ (List.mem_of_getElem? hsub)
    have joined : (s.setSocket sub.socket (joinRoom sub socket)).Roomed :=
      roomed_setSocket h (inOwnRoom_joinRoom (own hsocket) hroom)
    exact roomed_setSubscription joined hsub _ _
  | @leave k socket message field hsocket hpassed =>
    exact roomed_setSocket h (inOwnRoom_leave (own hsocket) field.toText)
  | stay message => exact h

/-- A socket stays its user's, and does not come back. -/
def Keeps (old new : ClientSocket) : Prop :=
  (∀ userId, old.userId = some userId → new.userId = some userId) ∧
    (new.connected = true → old.connected = true)

theorem Keeps.refl (socket : ClientSocket) : Keeps socket socket := ⟨fun _ h => h, id⟩

theorem keeps_setSocket {j k : Nat} {old new socket : ClientSocket}
    (hold : s.sockets[j]? = some old) (keeps : Keeps old new) (hk : s.sockets[k]? = some socket) :
    ∃ socket', (s.setSocket j new).sockets[k]? = some socket' ∧ Keeps socket socket' := by
  by_cases hjk : j = k
  · subst hjk
    rw [hold, Option.some.injEq] at hk
    have hlt := (List.getElem?_eq_some_iff.mp hold).1
    exact ⟨new, List.getElem?_set_self hlt, hk ▸ keeps⟩
  · exact ⟨socket, (List.getElem?_set_ne hjk).trans hk, Keeps.refl socket⟩

theorem keeps_of_step (hs : s.step pg numbers passed a = some t) {k : Nat} {socket : ClientSocket}
    (hk : s.sockets[k]? = some socket) :
    ∃ socket', t.sockets[k]? = some socket' ∧ Keeps socket socket' := by
  have same : ∃ socket', s.sockets[k]? = some socket' ∧ Keeps socket socket' :=
    ⟨socket, hk, Keeps.refl socket⟩
  have named : ∀ {old : ClientSocket}, old.userId = none → ∀ {P : Int → Prop} userId,
      old.userId = some userId → P userId := by
    intro old hanonymous P userId huser
    rw [hanonymous] at huser
    cases huser
  cases moves_of_step hs with
  | service hupdates => exact same
  | connect =>
    have hlt := (List.getElem?_eq_some_iff.mp hk).1
    exact ⟨socket, (List.getElem?_append_left hlt).trans hk, Keeps.refl socket⟩
  | refuse hsocket hanonymous =>
    exact keeps_setSocket hsocket ⟨named hanonymous, fun h => nomatch h⟩ hk
  | authenticate id hsocket hanonymous =>
    exact keeps_setSocket hsocket ⟨named hanonymous, fun h => h⟩ hk
  | disconnect hsocket => exact keeps_setSocket hsocket ⟨fun _ h => h, fun h => nomatch h⟩ hk
  | ignore message => exact same
  | subscribe hsocket huser hpassed hid => exact same
  | grant hsub hallowed => exact same
  | deny hsub => exact same
  | @join j sub old hsub hgranted hended hsocket =>
    have keeps : Keeps old (joinRoom sub old) := by
      refine ⟨fun userId huser => (joinRoom_userId sub old).trans huser, ?_⟩
      unfold joinRoom
      split
      · exact fun h => h
      · exact fun h => h
    exact keeps_setSocket hsocket keeps hk
  | leave hsocket hpassed => exact keeps_setSocket hsocket ⟨fun _ h => h, fun h => h⟩ hk
  | stay message => exact same

theorem mem_audience {userId : Int} {k : Nat} : k ∈ s.audience userId ↔
    ∃ socket, s.sockets[k]? = some socket ∧ userRoomFor userId ∈ socket.rooms := by
  rw [audience, List.mem_filter, List.mem_range]
  constructor
  · rintro ⟨hlt, hany⟩
    rw [Option.any_eq_true] at hany
    obtain ⟨socket, hsocket, hroom⟩ := hany
    exact ⟨socket, hsocket, of_decide_eq_true hroom⟩
  · rintro ⟨socket, hsocket, hroom⟩
    refine ⟨(List.getElem?_eq_some_iff.mp hsocket).1, ?_⟩
    rw [hsocket, Option.any_some]
    exact decide_eq_true hroom

/-- The audience of a user are the user's sockets that are there. -/
theorem mem_audience_iff (h : s.Roomed) {userId : Int} {k : Nat} : k ∈ s.audience userId ↔
    ∃ socket, s.sockets[k]? = some socket ∧ socket.connected = true ∧
      socket.userId = some userId := by
  rw [mem_audience]
  refine exists_congr fun socket => and_congr_right fun hsocket => ?_
  exact h.sockets socket (List.mem_of_getElem? hsocket) userId

theorem nodup_audience (userId : Int) : (s.audience userId).Nodup :=
  List.nodup_range.filter _

theorem Fresh.roomed (h : s.Fresh) : s.Roomed := by
  refine ⟨?_, ?_⟩
  · rw [h.2.1]
    exact List.forall_mem_nil _
  · rw [h.2.2]
    exact List.forall_mem_nil _

end StreamsGateway

namespace Pushes

open NotificationsService

variable {pg : Postgres} {numbers : TextNumbers}
  {passed : Option StreamIdField → Option StreamIdField} {s t : Pushes Payload}
  {a : Action Payload}

/-! ## One step -/

/-- The steps, one rule for each outcome. -/
inductive Moves (pg : Postgres) (numbers : TextNumbers)
    (passed : Option StreamIdField → Option StreamIdField) (s : Pushes Payload) :
    Action Payload → Pushes Payload → Prop where
  | gateway {a : StreamsGateway.Action} {gateway : StreamsGateway}
    (h : s.gateway.step pg numbers passed a = some gateway) :
    Moves pg numbers passed s (.gateway a) { s with gateway := gateway }
  | create (userId : Int) (type : String) (payload : Payload) :
    Moves pg numbers passed s (.create userId type payload)
      { s with creations := s.creations ++ [.inserting userId type payload] }
  | insert {i : Nat} (NOW : Timestamptz) {userId : Int} {type : String} {payload : Payload}
    (hcreation : s.creations[i]? = some (.inserting userId type payload)) :
    Moves pg numbers passed s (.insert i NOW) { s with
      table := s.table.create NOW userId type payload
      creations := s.creations.set i (.pushing
        (NotificationRow.new NOW userId type payload s.table.nextId).rowToNotification) }
  | fail {i : Nat} (spent : Bool) {userId : Int} {type : String} {payload : Payload}
    (hcreation : s.creations[i]? = some (.inserting userId type payload)) :
    Moves pg numbers passed s (.fail i spent) { s with
      table := if spent then s.table.skip else s.table
      creations := s.creations.set i (.ended none) }
  | emit {i : Nat} {notification : Notification Payload}
    (hcreation : s.creations[i]? = some (.pushing notification)) :
    Moves pg numbers passed s (.emit i) { s with
      creations := s.creations.set i (.ended (some notification))
      received := s.received ++ (s.gateway.audience notification.userId).map fun k =>
        (k, pushed notification) }
  | markRead (NOW : Timestamptz) (scan : Scan Payload) (userId id : Int) :
    Moves pg numbers passed s (.call NOW scan (.markRead userId id))
      { s with table := (s.table.markRead NOW userId id).2 }
  | markAllRead (NOW : Timestamptz) (scan : Scan Payload) (userId : Int) :
    Moves pg numbers passed s (.call NOW scan (.markAllRead userId))
      { s with table := (s.table.markAllRead NOW userId).2 }
  | delete (NOW : Timestamptz) (scan : Scan Payload) (userId id : Int) :
    Moves pg numbers passed s (.call NOW scan (.delete userId id))
      { s with table := (s.table.deleteById userId id).2 }
  | sweep (NOW : Timestamptz) (scan : Scan Payload) :
    Moves pg numbers passed s (.sweep NOW scan)
      { s with table := s.table.deleteExpiredBatch NOW scan 500 }

theorem moves_of_step (h : s.step pg numbers passed a = some t) :
    Moves pg numbers passed s a t := by
  cases a with
  | gateway a =>
    obtain ⟨gateway, hgateway, rfl⟩ := Option.map_eq_some_iff.mp h
    exact .gateway hgateway
  | create userId type payload =>
    cases h
    exact .create userId type payload
  | insert i NOW =>
    simp only [step] at h
    split at h
    · next hcreation =>
      cases h
      exact .insert NOW hcreation
    · cases h
  | fail i spent =>
    simp only [step] at h
    split at h
    · next hcreation =>
      cases h
      exact .fail spent hcreation
    · cases h
  | emit i =>
    simp only [step] at h
    split at h
    · next hcreation =>
      cases h
      exact .emit hcreation
    · cases h
  | call NOW scan call =>
    cases call with
    | markRead userId id =>
      cases h
      exact .markRead NOW scan userId id
    | markAllRead userId =>
      cases h
      exact .markAllRead NOW scan userId
    | delete userId id =>
      cases h
      exact .delete NOW scan userId id
    | create userId type payload => cases h
    | listUnread userId page limit => cases h
    | sweepExpired => cases h
  | sweep NOW scan =>
    cases h
    exact .sweep NOW scan

/-! ## What a push tells -/

/-- A row but for the date at which it was read. -/
def content (row : NotificationRow Payload) : Notification Payload :=
  { row.rowToNotification with readAt := none }

/-- Statements keep what a row says. -/
theorem evolves_of_step (hs : s.step pg numbers passed a = some t) :
    s.table.Evolves content t.table := by
  cases moves_of_step hs with
  | gateway h => exact Table.Evolves.refl _
  | create userId type payload => exact Table.Evolves.refl _
  | insert NOW hcreation => exact Table.evolves_insert (NotificationRow.new_id _ _ _ _)
  | fail spent hcreation =>
    cases spent with
    | false => exact Table.Evolves.refl _
    | true => exact Table.evolves_skip
  | emit hcreation => exact Table.Evolves.refl _
  | markRead NOW scan userId id =>
    exact Table.evolves_modify (NotificationRow.read_id NOW) fun _ => rfl
  | markAllRead NOW scan userId =>
    exact Table.evolves_modify (NotificationRow.readNow_id NOW) fun _ => rfl
  | delete NOW scan userId id => exact Table.evolves_delete
  | sweep NOW scan => exact Table.evolves_delete

/-- What the call has inserted. -/
def inserted (creations : List (Creation Payload)) (i : Nat) : Option (Notification Payload) :=
  (creations[i]?).bind Creation.notification

theorem inserted_concat (creations : List (Creation Payload)) (userId : Int) (type : String)
    (payload : Payload) :
    inserted (creations ++ [.inserting userId type payload]) = inserted creations := by
  funext i
  unfold inserted
  rw [List.getElem?_append]
  split
  · rfl
  · next hlt =>
    rw [List.getElem?_eq_none (Nat.le_of_not_lt hlt), Option.bind_none]
    cases i - creations.length with
    | zero => rfl
    | succ k => rfl

theorem inserted_set {creations : List (Creation Payload)} {i : Nat} {old : Creation Payload}
    (h : creations[i]? = some old) (new : Creation Payload) (j : Nat) :
    inserted (creations.set i new) j = if j = i then new.notification else inserted creations j := by
  unfold inserted
  split
  · next hji => rw [hji, List.getElem?_set_self (List.getElem?_eq_some_iff.mp h).1, Option.bind_some]
  · next hji => rw [List.getElem?_set_ne (Ne.symm hji)]

/-- A call that goes on without an INSERT. -/
theorem inserted_set_same {creations : List (Creation Payload)} {i : Nat}
    {old new : Creation Payload} (h : creations[i]? = some old)
    (same : new.notification = old.notification) :
    inserted (creations.set i new) = inserted creations := by
  funext j
  rw [inserted_set h]
  split
  · next hji => rw [hji, inserted, h, same, Option.bind_some]
  · rfl

theorem ended_set {creations : List (Creation Payload)} {i j : Nat} {old new : Creation Payload}
    {n : Option (Notification Payload)} (h : creations[i]? = some old) (running : old ≠ .ended n)
    (hended : creations[j]? = some (.ended n)) : (creations.set i new)[j]? = some (.ended n) := by
  have apart : i ≠ j := by
    rintro rfl
    rw [h, Option.some.injEq] at hended
    exact running hended
  rw [List.getElem?_set_ne apart, hended]

/-- The calls of `create` tell of rows of their own, as they were inserted, and the sockets
of a user have been told of each once. -/
structure Sound (s : Pushes Payload) : Prop where
  rooms : s.gateway.Roomed
  rows : ∀ i n, inserted s.creations i = some n →
    n.readAt = none ∧ s.table.Knows content n n.id
  apart : ∀ i j n m, inserted s.creations i = some n → inserted s.creations j = some m →
    n.id = m.id → i = j
  received : ∀ entry ∈ s.received, ∃ (i : Nat) (n : Notification Payload),
    s.creations[i]? = some (.ended (some n)) ∧ entry.2 = pushed n ∧
    ∃ socket, s.gateway.sockets[entry.1]? = some socket ∧ socket.userId = some n.userId
  once : (s.received.map fun entry => (entry.1, entry.2.id)).Nodup

/-- A step that pushes nothing and inserts nothing. -/
theorem Sound.frame (h : s.Sound) (hs : s.step pg numbers passed a = some t)
    (rooms : t.gateway.Roomed)
    (sockets : ∀ (k : Nat) socket, s.gateway.sockets[k]? = some socket →
      ∃ socket', t.gateway.sockets[k]? = some socket' ∧ StreamsGateway.Keeps socket socket')
    (same : inserted t.creations = inserted s.creations)
    (ended : ∀ (i : Nat) (n : Notification Payload), s.creations[i]? = some (.ended (some n)) →
      t.creations[i]? = some (.ended (some n)))
    (received : t.received = s.received) : t.Sound where
  rooms := rooms
  rows := by
    intro i n hn
    rw [same] at hn
    exact ⟨(h.rows i n hn).1, (h.rows i n hn).2.evolve (evolves_of_step hs)⟩
  apart := by
    rw [same]
    exact h.apart
  received := by
    rw [received]
    intro entry hentry
    obtain ⟨i, n, hended, hpayload, socket, hsocket, huser⟩ := h.received entry hentry
    obtain ⟨socket', hsocket', keeps⟩ := sockets _ socket hsocket
    exact ⟨i, n, ended i n hended, hpayload, socket', hsocket', keeps.1 _ huser⟩
  once := by
    rw [received]
    exact h.once

theorem step_sound (h : s.Sound) (hs : s.step pg numbers passed a = some t) : t.Sound := by
  have still : ∀ (k : Nat) socket, s.gateway.sockets[k]? = some socket →
      ∃ socket', s.gateway.sockets[k]? = some socket' ∧ StreamsGateway.Keeps socket socket' :=
    fun k socket hsocket => ⟨socket, hsocket, StreamsGateway.Keeps.refl socket⟩
  cases moves_of_step hs with
  | gateway hgateway =>
    exact h.frame hs (StreamsGateway.step_roomed h.rooms hgateway)
      (fun k socket hsocket => StreamsGateway.keeps_of_step hgateway hsocket) rfl
      (fun _ _ hended => hended) rfl
  | create userId type payload =>
    refine h.frame hs h.rooms still (inserted_concat _ _ _ _) ?_ rfl
    intro i n hended
    rw [List.getElem?_append_left (List.getElem?_eq_some_iff.mp hended).1, hended]
  | @insert i NOW userId type payload hcreation =>
    have evolves := evolves_of_step hs
    let n := (NotificationRow.new NOW userId type payload s.table.nextId).rowToNotification
    have fresh : ∀ j m, inserted s.creations j = some m → m.id ≠ n.id :=
      fun j m hm => ne_of_lt (h.rows j m hm).2.1
    refine ⟨h.rooms, ?_, ?_, ?_, h.once⟩
    · intro j m hm
      rw [inserted_set hcreation] at hm
      split at hm
      · cases hm
        refine ⟨rfl, ?_⟩
        have hfind : (s.table.create NOW userId type payload).find s.table.nextId =
            some (NotificationRow.new NOW userId type payload s.table.nextId) := by
          rw [NotificationRows.create, Table.find_insert, if_pos rfl]
        exact Table.Knows.of_find hfind
      · exact ⟨(h.rows j m hm).1, (h.rows j m hm).2.evolve evolves⟩
    · intro j k m l hm hl same
      rw [inserted_set hcreation] at hm hl
      split at hm
      · next hj =>
        split at hl
        · next hk => rw [hj, hk]
        · cases hm
          exact absurd same.symm (fresh k l hl)
      · next hj =>
        split at hl
        · cases hl
          exact absurd same (fresh j m hm)
        · exact h.apart j k m l hm hl same
    · intro entry hentry
      obtain ⟨j, m, hended, rest⟩ := h.received entry hentry
      exact ⟨j, m, ended_set hcreation (fun hsame => nomatch hsame) hended, rest⟩
  | fail spent hcreation =>
    exact h.frame hs h.rooms still (inserted_set_same hcreation rfl)
      (fun i n hended => ended_set hcreation (fun hsame => nomatch hsame) hended) rfl
  | @emit i n hcreation =>
    have same : inserted (s.creations.set i (.ended (some n))) = inserted s.creations :=
      inserted_set_same hcreation rfl
    have hn : inserted s.creations i = some n := by rw [inserted, hcreation]; rfl
    have ended : ∀ (j : Nat) (m : Notification Payload), s.creations[j]? = some (.ended (some m)) →
        (s.creations.set i (.ended (some n)))[j]? = some (.ended (some m)) :=
      fun j m hended => ended_set hcreation (fun hsame => nomatch hsame) hended
    refine ⟨h.rooms, ?_, ?_, ?_, ?_⟩
    · intro j m hm
      rw [same] at hm
      exact h.rows j m hm
    · rw [same]
      exact h.apart
    · rw [List.forall_mem_append]
      constructor
      · intro entry hentry
        obtain ⟨j, m, hended, rest⟩ := h.received entry hentry
        exact ⟨j, m, ended j m hended, rest⟩
      · rw [List.forall_mem_map]
        intro k hk
        obtain ⟨socket, hsocket, -, huser⟩ := (StreamsGateway.mem_audience_iff h.rooms).mp hk
        have hlt := (List.getElem?_eq_some_iff.mp hcreation).1
        exact ⟨i, n, List.getElem?_set_self hlt, rfl, socket, hsocket, huser⟩
    · rw [List.map_append, List.map_map, List.nodup_append]
      refine ⟨h.once, ?_, ?_⟩
      · refine (StreamsGateway.nodup_audience n.userId).map ?_
        intro j k hjk
        exact (Prod.mk.injEq _ _ _ _ ▸ hjk).1
      · rintro _ hold _ hnew rfl
        obtain ⟨entry, hentry, hkey⟩ := List.mem_map.mp hold
        obtain ⟨k, hk, hkey'⟩ := List.mem_map.mp hnew
        obtain ⟨j, m, hended, hpayload, -⟩ := h.received entry hentry
        have ids : m.id = n.id := by
          have hsame := congrArg Prod.snd (hkey.trans hkey'.symm)
          rw [show entry.2.id = m.id from hpayload ▸ rfl] at hsame
          exact hsame
        have hm : inserted s.creations j = some m := by rw [inserted, hended]; rfl
        have hji := h.apart j i m n hm hn ids
        rw [hji, hcreation, Option.some.injEq] at hended
        cases hended
  | markRead NOW scan userId id => exact h.frame hs h.rooms still rfl (fun _ _ h => h) rfl
  | markAllRead NOW scan userId => exact h.frame hs h.rooms still rfl (fun _ _ h => h) rfl
  | delete NOW scan userId id => exact h.frame hs h.rooms still rfl (fun _ _ h => h) rfl
  | sweep NOW scan => exact h.frame hs h.rooms still rfl (fun _ _ h => h) rfl

theorem Fresh.sound (h : s.Fresh) : s.Sound where
  rooms := h.1.roomed
  rows := by
    intro i n hn
    rw [h.2.1] at hn
    cases hn
  apart := by
    intro i j n m hn
    rw [h.2.1] at hn
    cases hn
  received := by
    rw [h.2.2]
    exact List.forall_mem_nil _
  once := by
    rw [h.2.2]
    exact List.nodup_nil

/-- In every run: a push goes only to sockets of the user whose notification it is, to none of
them twice, and says what the notification said when it was inserted. -/
theorem pushes_private {s₀ : Pushes Payload} (fresh : s₀.Fresh) {as : List (Action Payload)}
    (hrun : run (step pg numbers passed) s₀ as = some s) :
    (∀ entry ∈ s.received,
        (∃ socket, s.gateway.sockets[entry.1]? = some socket ∧
          socket.userId = some entry.2.userId) ∧
        ∀ row, s.table.find entry.2.id = some row → pushed row.rowToNotification = entry.2) ∧
      (s.received.map fun entry => (entry.1, entry.2.id)).Nodup := by
  have sound := run_invariant (fun _ _ _ h hs => step_sound h hs) fresh.sound hrun
  refine ⟨?_, sound.once⟩
  intro entry hentry
  obtain ⟨i, n, hended, hpayload, socket, hsocket, huser⟩ := sound.received entry hentry
  rw [hpayload]
  refine ⟨⟨socket, hsocket, huser⟩, ?_⟩
  intro row hrow
  have hn : inserted s.creations i = some n := by rw [inserted, hended]; rfl
  have told : content row = n := (sound.rows i n hn).2.2 row hrow
  rw [← told]
  rfl

/-- The steps over a database that takes everything. -/
abbrev plainStep : Pushes String → Action String → Option (Pushes String) :=
  step plainPostgres StreamsGateway.decimalNumbers StreamsGateway.nestBinding.payload

/-- User 7 connects twice and user 8 once; then each gets a notification, and one socket of
user 7 is gone by the time of the push. -/
def greeted : List (Action String) :=
  [.gateway .connect, .gateway .connect, .gateway .connect,
    .gateway (.authenticate 0 (some ⟨7, by decide⟩)),
    .gateway (.authenticate 1 (some ⟨7, by decide⟩)),
    .gateway (.authenticate 2 (some ⟨8, by decide⟩)),
    .create 7 "mention" "a", .create 8 "mention" "b", .insert 1 ⟨1500⟩, .insert 0 ⟨1700⟩,
    .gateway (.disconnect 1), .emit 0, .emit 1]

def silent : Pushes String := ⟨StreamsGateway.quiet, Table.empty 1, [], []⟩

theorem pushes_private_greeted :
    ∃ s, run plainStep silent greeted = some s ∧
      s.received.map (fun entry => (entry.1, entry.2.id)) = [(0, 2), (2, 1)] ∧
      ∀ entry ∈ s.received, ∃ socket, s.gateway.sockets[entry.1]? = some socket ∧
        socket.userId = some entry.2.userId := by
  have ends : ∃ s, run plainStep silent greeted = some s ∧
      s.received.map (fun entry => (entry.1, entry.2.id)) = [(0, 2), (2, 1)] := ⟨_, rfl, rfl⟩
  obtain ⟨s, hrun, hreceived⟩ := ends
  have fresh : silent.Fresh := ⟨⟨⟨rfl, rfl, rfl⟩, rfl, rfl⟩, rfl, rfl⟩
  have held := pushes_private fresh hrun
  exact ⟨s, hrun, hreceived, fun entry hentry => (held.1 entry hentry).1⟩

/-! ## What a connected socket does not miss -/

/-- What was inserted after `start` is inserted later, and a socket of the user is told of it
as long as it is connected. -/
structure Follows (start : Pushes Payload) (k : Nat) (userId : Int) (s : Pushes Payload) :
    Prop where
  sound : s.Sound
  nextId : start.table.nextId ≤ s.table.nextId
  old : ∀ i n, inserted s.creations i = some n → n.id < start.table.nextId →
    inserted start.creations i = some n
  socket : ∃ socket, s.gateway.sockets[k]? = some socket ∧ socket.userId = some userId
  told : ∀ socket, s.gateway.sockets[k]? = some socket → socket.connected = true →
    ∀ (i : Nat) (n : Notification Payload), s.creations[i]? = some (.ended (some n)) →
      n.userId = userId → start.table.nextId ≤ n.id → (k, pushed n) ∈ s.received

theorem step_follows {start : Pushes Payload} {k : Nat} {userId : Int}
    (h : Follows start k userId s) (hs : s.step pg numbers passed a = some t) :
    Follows start k userId t := by
  have sound := step_sound h.sound hs
  have nextId := le_trans h.nextId (evolves_of_step hs).nextId
  cases moves_of_step hs with
  | gateway hgateway =>
    obtain ⟨socket, hsocket, huser⟩ := h.socket
    obtain ⟨socket', hsocket', keeps⟩ := StreamsGateway.keeps_of_step hgateway hsocket
    refine ⟨sound, nextId, h.old, ⟨socket', hsocket', keeps.1 _ huser⟩, ?_⟩
    intro other hother connected
    rw [hsocket', Option.some.injEq] at hother
    exact h.told socket hsocket (keeps.2 (hother ▸ connected))
  | create userId type payload =>
    refine ⟨sound, nextId, ?_, h.socket, ?_⟩
    · rw [inserted_concat]
      exact h.old
    · intro socket hsocket connected i n hended
      rw [List.getElem?_append] at hended
      split at hended
      · exact h.told socket hsocket connected i n hended
      · rw [List.getElem?_singleton] at hended
        split at hended
        · cases hended
        · cases hended
  | insert NOW hcreation =>
    refine ⟨sound, nextId, ?_, h.socket, ?_⟩
    · intro j n hn early
      rw [inserted_set hcreation] at hn
      split at hn
      · cases hn
        exact absurd early (not_lt_of_ge h.nextId)
      · exact h.old j n hn early
    · intro socket hsocket connected j n hended
      rw [List.getElem?_set] at hended
      split at hended
      · split at hended
        · cases hended
        · cases hended
      · exact h.told socket hsocket connected j n hended
  | @fail i _ _ _ _ hcreation =>
    have same : inserted (s.creations.set i (.ended none)) = inserted s.creations :=
      inserted_set_same hcreation rfl
    refine ⟨sound, nextId, same ▸ h.old, h.socket, ?_⟩
    intro socket hsocket connected j n hended
    rw [List.getElem?_set] at hended
    split at hended
    · split at hended
      · cases hended
      · cases hended
    · exact h.told socket hsocket connected j n hended
  | @emit i m hcreation =>
    have same : inserted (s.creations.set i (.ended (some m))) = inserted s.creations :=
      inserted_set_same hcreation rfl
    refine ⟨sound, nextId, same ▸ h.old, h.socket, ?_⟩
    intro socket hsocket connected j n hended mine later
    rw [List.mem_append]
    rw [List.getElem?_set] at hended
    split at hended
    · split at hended
      · -- the push of this step, which finds the socket in its room
        cases hended
        obtain ⟨other, hother, huser⟩ := h.socket
        rw [hsocket, Option.some.injEq] at hother
        refine .inr (List.mem_map_of_mem ?_)
        rw [StreamsGateway.mem_audience_iff h.sound.rooms]
        exact ⟨socket, hsocket, connected, hother ▸ mine ▸ huser⟩
      · cases hended
    · exact .inl (h.told socket hsocket connected j n hended mine later)
  | markRead NOW scan userId id => exact ⟨sound, nextId, h.old, h.socket, h.told⟩
  | markAllRead NOW scan userId => exact ⟨sound, nextId, h.old, h.socket, h.told⟩
  | delete NOW scan userId id => exact ⟨sound, nextId, h.old, h.socket, h.told⟩
  | sweep NOW scan => exact ⟨sound, nextId, h.old, h.socket, h.told⟩

theorem mem_unread {scan : Scan Payload} {userId : Int} {table : NotificationRows Payload}
    {row : NotificationRow Payload} : row ∈ table.unread scan userId ↔
      row ∈ table.rows ∧ row.userId = userId ∧ row.readAt = none := by
  rw [NotificationRows.unread, (List.perm_insertionSort _ _).mem_iff, (scan.perm _).mem_iff,
    List.mem_filter, NotificationRow.unreadBy, Bool.and_eq_true, decide_eq_true_eq,
    Option.isNone_iff_eq_none]

end Pushes

end Api
end XStreamRoll
