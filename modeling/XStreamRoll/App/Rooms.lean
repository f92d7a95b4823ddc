/-
The rooms of the web client: `subscribeToStream` and `unsubscribeFromStream` on one shared
socket, the effect of `useStreamSocket` that calls them, and the gateway's handlers.

A consumer is one run of that effect.  It subscribes at once, and may unsubscribe when its
subscription has been answered, whatever the answer was.  A call that has to ask the server
emits a message, and goes on when the answer arrives.  The server handles the messages
that have been sent in any order, since a subscription waits for a query, and an answer may
arrive at any time.

A disconnection drops what has been sent, with the callbacks that wait for it, and keeps
the messages in the send buffer.  The server forgets the rooms of the socket.

What is said here is about the client, with any server that answers as the client's type of an
acknowledgement has it.  The gateway of the repository leaves the payload of its handlers
undecorated, and so grants no subscription that comes over a connection (`NestBinding.payload_eq`).
-/
import Mathlib.Data.List.Perm.Basic
import XStreamRoll.Api.Streams.Gateway
import XStreamRoll.Lists
import XStreamRoll.Transition

namespace XStreamRoll
namespace App

open Transition

inductive Kind
  | subscribe
  | unsubscribe
  deriving DecidableEq

/-- A message is in the send buffer, on its way or at the server, or its answer is on the way. -/
inductive Leg
  | buffered
  | sent
  | answered (ok : Bool)
  deriving DecidableEq

structure Message where
  consumer : Nat
  room : String
  kind : Kind
  leg : Leg
  deriving DecidableEq

/-- The message once the socket has connected. -/
def Message.flush (message : Message) : Message :=
  if message.leg = .buffered then { message with leg := .sent } else message

theorem Message.flush_consumer (message : Message) : message.flush.consumer = message.consumer := by
  rw [flush]
  split <;> rfl

theorem Message.flush_room (message : Message) : message.flush.room = message.room := by
  rw [flush]
  split <;> rfl

inductive Phase
  | subscribing
  | subscribed
  | refused
  /-- `held` tells whether its subscription had been granted -/
  | unsubscribing (held : Bool)
  | unsubscribed
  deriving DecidableEq

/-- The subscription was granted, and its end has not been acknowledged. -/
def Phase.holds : Phase → Bool
  | .subscribed | .unsubscribing true => true
  | _ => false

structure Consumer where
  room : String
  phase : Phase
  deriving DecidableEq

/-- The client's side of the socket, and the rooms that the server has it in. -/
structure SharedSocket where
  connected : Bool
  /-- `counts.get(room) ?? 0` -/
  counts : String → Nat
  consumers : List Consumer
  /-- The answered ones are in the order in which the server has answered. -/
  messages : List Message
  rooms : List String

namespace SharedSocket

inductive Action
  | subscribe (streamId : String)
  | unsubscribe (consumer : Nat)
  /-- the handler answers, or throws, which sends no answer -/
  | serve (i : Nat) (allowed : Option Bool)
  | ack (i : Nat)
  | connect
  | disconnect

def initial : SharedSocket where
  connected := false
  counts _ := 0
  consumers := []
  messages := []
  rooms := []

/-- `socket.emit`. -/
def emit (k : Nat) (room : String) (kind : Kind) (s : SharedSocket) : SharedSocket :=
  { s with messages := s.messages ++ [⟨k, room, kind, if s.connected then .sent else .buffered⟩] }

def setCount (room : String) (n : Nat) (s : SharedSocket) : SharedSocket :=
  { s with counts := Function.update s.counts room n }

def setConsumer (k : Nat) (room : String) (phase : Phase) (s : SharedSocket) : SharedSocket :=
  { s with consumers := s.consumers.set k ⟨room, phase⟩ }

def addConsumer (room : String) (phase : Phase) (s : SharedSocket) : SharedSocket :=
  { s with consumers := s.consumers ++ [⟨room, phase⟩] }

def subscribeToStream (streamId : String) (s : SharedSocket) : SharedSocket :=
  let room := Api.roomFor streamId
  let prev := s.counts room
  if prev > 0 then (s.setCount room (prev + 1)).addConsumer room .subscribed
  else (s.addConsumer room .subscribing).emit s.consumers.length room .subscribe

def unsubscribeFromStream (k : Nat) (consumer : Consumer) (s : SharedSocket) : SharedSocket :=
  let room := consumer.room
  let prev := s.counts room
  if prev > 1 then (s.setCount room (prev - 1)).setConsumer k room .unsubscribed
  else (s.setConsumer k room (.unsubscribing (consumer.phase = .subscribed))).emit k room .unsubscribe

/-- `handleSubscribe` or `handleUnsubscribe`, up to its answer. -/
def handle (i : Nat) (message : Message) (allowed : Option Bool) (s : SharedSocket) :
    SharedSocket :=
  let answer (ok : Bool) := s.messages.eraseIdx i ++ [{ message with leg := .answered ok }]
  match message.kind, allowed with
  | .subscribe, some true =>
    { s with messages := answer true, rooms := message.room :: s.rooms }
  | .subscribe, some false => { s with messages := answer false }
  | .subscribe, none => { s with messages := s.messages.eraseIdx i }
  | .unsubscribe, _ =>
    { s with messages := answer true, rooms := s.rooms.filter fun room => room ≠ message.room }

/-- The callback of `emit`. -/
def resolve (i : Nat) (message : Message) (ok : Bool) (s : SharedSocket) : SharedSocket :=
  let s := { s with messages := s.messages.eraseIdx i }
  match message.kind, ok with
  | .subscribe, true =>
    (s.setCount message.room 1).setConsumer message.consumer message.room .subscribed
  | .subscribe, false => s.setConsumer message.consumer message.room .refused
  | .unsubscribe, _ =>
    (s.setCount message.room 0).setConsumer message.consumer message.room .unsubscribed

def step (s : SharedSocket) : Action → Option SharedSocket
  | .subscribe streamId => some (s.subscribeToStream streamId)
  | .unsubscribe k =>
    match s.consumers[k]? with
    | some consumer =>
      if consumer.phase = .subscribed ∨ consumer.phase = .refused then
        some (s.unsubscribeFromStream k consumer)
      else none
    | none => none
  | .serve i allowed =>
    match s.messages[i]? with
    | some message => if message.leg = .sent then some (s.handle i message allowed) else none
    | none => none
  | .ack i =>
    match s.messages[i]? with
    | some message =>
      match message.leg with
      | .answered ok => some (s.resolve i message ok)
      | _ => none
    | none => none
  | .connect =>
    if s.connected then none
    else some { s with connected := true, messages := s.messages.map Message.flush }
  | .disconnect =>
    if s.connected then
      some { s with
        connected := false
        messages := s.messages.filter fun message => message.leg = .buffered
        rooms := [] }
    else none

/-! ## What is to hold -/

/-- The outstanding consumers of a room. -/
def holders (room : String) (s : SharedSocket) : Nat :=
  s.consumers.countP fun consumer => consumer.room = room && Phase.holds consumer.phase

/-- Whoever has subscribed and not asked to leave is in the room, and the counts are those of the
outstanding consumers. -/
structure Lawful (s : SharedSocket) : Prop where
  joined : ∀ consumer ∈ s.consumers, consumer.phase = .subscribed → consumer.room ∈ s.rooms
  counted : ∀ room, s.counts room = s.holders room

/-- What each step relies on.  A subscription that asks nobody finds the room joined, and one that
is granted finds it joined and not counted by another.  A count is lowered for those whose
subscription was granted, and deleted for the last of them.  The server leaves a room, and
the socket disconnects, when nobody is subscribed. -/
def Meets (s : SharedSocket) : Action → Prop
  | .subscribe streamId => 0 < s.counts (Api.roomFor streamId) → Api.roomFor streamId ∈ s.rooms
  | .unsubscribe k => ∀ consumer ∈ s.consumers[k]?, 1 < s.counts consumer.room →
      consumer.phase = .subscribed
  | .serve i _ => ∀ message ∈ s.messages[i]?, message.kind = .unsubscribe →
      ∀ consumer ∈ s.consumers, consumer.phase = .subscribed → consumer.room ≠ message.room
  | .ack i => ∀ message ∈ s.messages[i]?,
      match message.kind with
      | .subscribe => message.leg = .answered true →
          s.counts message.room = 0 ∧ message.room ∈ s.rooms
      | .unsubscribe => ∀ consumer ∈ s.consumers[message.consumer]?,
          s.counts message.room = if consumer.phase = .unsubscribing true then 1 else 0
  | .connect => True
  | .disconnect => ∀ consumer ∈ s.consumers, consumer.phase ≠ .subscribed

/-! ## The messages and their consumers -/

/-- The consumer that waits for an answer to the message. -/
def Awaits (consumers : List Consumer) (message : Message) : Prop :=
  match message.kind with
  | .subscribe => consumers[message.consumer]? = some ⟨message.room, .subscribing⟩
  | .unsubscribe => ∃ held, consumers[message.consumer]? = some ⟨message.room, .unsubscribing held⟩

structure Linked (s : SharedSocket) : Prop where
  distinct : (s.messages.map Message.consumer).Nodup
  awaited : ∀ message ∈ s.messages, Awaits s.consumers message

theorem initial_linked : initial.Linked where
  distinct := List.nodup_nil
  awaited := by
    intro message h
    cases h

theorem initial_lawful : initial.Lawful where
  joined := by
    intro consumer h
    cases h
  counted _ := rfl

theorem perm_eraseIdx {messages : List Message} {i : Nat} {message : Message}
    (h : messages[i]? = some message) : (message :: messages.eraseIdx i).Perm messages := by
  obtain ⟨hi, rfl⟩ := List.getElem?_eq_some_iff.mp h
  exact List.getElem_cons_eraseIdx_perm hi

/-- A consumer that does not wait has no message. -/
theorem Awaits.ne {consumers : List Consumer} {message : Message} {k : Nat} {consumer : Consumer}
    (h : Awaits consumers message) (hk : consumers[k]? = some consumer)
    (hphase : consumer.phase = .subscribed ∨ consumer.phase = .refused) : message.consumer ≠ k := by
  rintro rfl
  unfold Awaits at h
  split at h
  · rw [hk, Option.some.injEq] at h
    subst h
    simp at hphase
  · obtain ⟨held, h⟩ := h
    rw [hk, Option.some.injEq] at h
    subst h
    simp at hphase

theorem Awaits.lt_length {consumers : List Consumer} {message : Message}
    (h : Awaits consumers message) : message.consumer < consumers.length := by
  unfold Awaits at h
  split at h
  · exact (List.getElem?_eq_some_iff.mp h).1
  · obtain ⟨held, h⟩ := h
    exact (List.getElem?_eq_some_iff.mp h).1

/-- What the consumer of a message waits for does not change with the others. -/
theorem Awaits.congr {consumers consumers' : List Consumer} {message : Message}
    (h : Awaits consumers message)
    (hsame : consumers'[message.consumer]? = consumers[message.consumer]?) :
    Awaits consumers' message := by
  unfold Awaits at h ⊢
  rw [hsame]
  exact h

theorem Awaits.set {consumers : List Consumer} {message : Message} {k : Nat} {consumer : Consumer}
    (h : Awaits consumers message) (hne : message.consumer ≠ k) :
    Awaits (consumers.set k consumer) message :=
  h.congr (List.getElem?_set_ne hne.symm)

theorem Awaits.append {consumers : List Consumer} {message : Message} {consumer : Consumer}
    (h : Awaits consumers message) : Awaits (consumers ++ [consumer]) message :=
  h.congr (List.getElem?_append_left h.lt_length)

variable {s t : SharedSocket}

theorem Linked.setConsumer {k : Nat} {room : String} {phase : Phase} (h : s.Linked)
    (hk : ∀ message ∈ s.messages, message.consumer ≠ k) : (s.setConsumer k room phase).Linked where
  distinct := h.distinct
  awaited message hmem := (h.awaited message hmem).set (hk message hmem)

theorem Linked.setCount {room : String} {n : Nat} (h : s.Linked) : (s.setCount room n).Linked :=
  ⟨h.distinct, h.awaited⟩

theorem Linked.addConsumer {room : String} {phase : Phase} (h : s.Linked) :
    (s.addConsumer room phase).Linked where
  distinct := h.distinct
  awaited message hmem := (h.awaited message hmem).append

theorem Linked.emit {k : Nat} {room : String} {kind : Kind} (h : s.Linked)
    (hk : ∀ message ∈ s.messages, message.consumer ≠ k)
    (hawaits : ∀ leg, Awaits s.consumers ⟨k, room, kind, leg⟩) : (s.emit k room kind).Linked where
  distinct := nodup_concat h.distinct hk
  awaited message hmem := by
    rcases List.mem_append.mp hmem with hold | hnew
    · exact h.awaited message hold
    · rw [List.mem_singleton.mp hnew]
      exact hawaits _

theorem Linked.subscribeToStream (h : s.Linked) (streamId : String) :
    (s.subscribeToStream streamId).Linked := by
  rw [SharedSocket.subscribeToStream]
  split
  · exact h.setCount.addConsumer
  · refine h.addConsumer.emit ?_ ?_
    · intro message hmem
      exact Nat.ne_of_lt (h.awaited message hmem).lt_length
    · intro leg
      exact List.getElem?_concat_length

theorem Linked.unsubscribeFromStream {k : Nat} {consumer : Consumer} (h : s.Linked)
    (hk : s.consumers[k]? = some consumer)
    (hphase : consumer.phase = .subscribed ∨ consumer.phase = .refused) :
    (s.unsubscribeFromStream k consumer).Linked := by
  have hfree : ∀ message ∈ s.messages, message.consumer ≠ k := by
    intro message hmem
    exact (h.awaited message hmem).ne hk hphase
  rw [SharedSocket.unsubscribeFromStream]
  split
  · exact h.setCount.setConsumer hfree
  · refine (h.setConsumer hfree).emit hfree ?_
    intro leg
    exact ⟨_, List.getElem?_set_self (List.getElem?_eq_some_iff.mp hk).1⟩

/-- What is left when a message is taken out does not belong to its consumer. -/
theorem Linked.others {i : Nat} {message other : Message} (h : s.Linked)
    (hi : s.messages[i]? = some message) (hother : other ∈ s.messages.eraseIdx i) :
    other.consumer ≠ message.consumer := by
  have hdistinct := ((perm_eraseIdx hi).map Message.consumer).nodup_iff.mpr h.distinct
  intro heq
  exact (List.nodup_cons.mp hdistinct).1 (heq ▸ List.mem_map_of_mem hother)

theorem Linked.erase {i : Nat} (h : s.Linked) :
    Linked { s with messages := s.messages.eraseIdx i } where
  distinct := h.distinct.sublist ((List.eraseIdx_sublist _ _).map _)
  awaited message hmem := h.awaited message (List.mem_of_mem_eraseIdx hmem)

theorem Linked.answer {i : Nat} {message : Message} {ok : Bool} {rooms : List String} (h : s.Linked)
    (hi : s.messages[i]? = some message) :
    Linked { s with
      messages := s.messages.eraseIdx i ++ [{ message with leg := .answered ok }]
      rooms } where
  distinct := by
    have hperm : ((s.messages.eraseIdx i ++ [{ message with leg := .answered ok }]).map
        Message.consumer).Perm (s.messages.map Message.consumer) := by
      rw [List.map_append]
      exact List.perm_append_comm.trans ((perm_eraseIdx hi).map Message.consumer)
    exact hperm.nodup_iff.mpr h.distinct
  awaited other hmem := by
    rcases List.mem_append.mp hmem with hold | hnew
    · exact h.awaited other (List.mem_of_mem_eraseIdx hold)
    · rw [List.mem_singleton.mp hnew]
      exact h.awaited message (List.mem_of_getElem? hi)

theorem Linked.handle {i : Nat} {message : Message} {allowed : Option Bool} (h : s.Linked)
    (hi : s.messages[i]? = some message) : (s.handle i message allowed).Linked := by
  unfold SharedSocket.handle
  split
  · exact h.answer hi
  · exact h.answer hi
  · exact h.erase
  · exact h.answer hi

theorem Linked.resolve {i : Nat} {message : Message} {ok : Bool} (h : s.Linked)
    (hi : s.messages[i]? = some message) : (s.resolve i message ok).Linked := by
  have hothers : ∀ other ∈ s.messages.eraseIdx i, other.consumer ≠ message.consumer :=
    fun _ => h.others hi
  unfold SharedSocket.resolve
  split
  · exact h.erase.setCount.setConsumer hothers
  · exact h.erase.setConsumer hothers
  · exact h.erase.setCount.setConsumer hothers

theorem Linked.step {a : Action} (h : s.Linked) (hs : s.step a = some t) : t.Linked := by
  cases a with
  | subscribe streamId =>
    rw [SharedSocket.step, Option.some.injEq] at hs
    exact hs ▸ h.subscribeToStream streamId
  | unsubscribe k =>
    rw [SharedSocket.step] at hs
    split at hs
    · next consumer hk =>
      split at hs
      · next hphase =>
        rw [Option.some.injEq] at hs
        exact hs ▸ h.unsubscribeFromStream hk hphase
      · cases hs
    · cases hs
  | serve i allowed =>
    rw [SharedSocket.step] at hs
    split at hs
    · next message hi =>
      split at hs
      · rw [Option.some.injEq] at hs
        exact hs ▸ h.handle hi
      · cases hs
    · cases hs
  | ack i =>
    rw [SharedSocket.step] at hs
    split at hs
    · next message hi =>
      split at hs
      · rw [Option.some.injEq] at hs
        exact hs ▸ h.resolve hi
      · cases hs
    · cases hs
  | connect =>
    rw [SharedSocket.step] at hs
    split at hs
    · cases hs
    · rw [Option.some.injEq] at hs
      subst hs
      have hsame : (s.messages.map Message.flush).map Message.consumer =
          s.messages.map Message.consumer := by
        rw [List.map_map]
        exact List.map_congr_left fun message _ => message.flush_consumer
      refine ⟨hsame ▸ h.distinct, ?_⟩
      intro message hmem
      obtain ⟨old, hold, rfl⟩ := List.mem_map.mp hmem
      rw [Message.flush]
      split <;> exact h.awaited old hold
  | disconnect =>
    rw [SharedSocket.step] at hs
    split at hs
    · rw [Option.some.injEq] at hs
      subst hs
      refine ⟨h.distinct.sublist (List.filter_sublist.map _), ?_⟩
      intro message hmem
      exact h.awaited message (List.mem_of_mem_filter hmem)
    · cases hs

/-! ## The law and the consumers -/

/-- Only the rooms, the counts and the consumers matter to the law. -/
theorem Lawful.congr (h : s.Lawful) (hrooms : t.rooms = s.rooms) (hcounts : t.counts = s.counts)
    (hconsumers : t.consumers = s.consumers) : t.Lawful where
  joined := by
    rw [hrooms, hconsumers]
    exact h.joined
  counted room := by
    rw [hcounts, holders, hconsumers]
    exact h.counted room

/-- A changed count and a changed consumer fit each other, and the consumer is joined. -/
def Fits (room : String) (n : Nat) (old phase : Phase) (s : SharedSocket) : Prop :=
  (phase = .subscribed → room ∈ s.rooms) ∧
    n + old.holds.toNat = s.counts room + phase.holds.toNat

theorem lawful_setConsumer_iff {k : Nat} {room : String} {n : Nat} {old phase : Phase}
    (h : s.Lawful) (hk : s.consumers[k]? = some ⟨room, old⟩) :
    ((s.setCount room n).setConsumer k room phase).Lawful ↔ s.Fits room n old phase := by
  have hholders : ∀ other, ((s.setCount room n).setConsumer k room phase).holders other +
      (decide (room = other) && old.holds).toNat =
        s.holders other + (decide (room = other) && phase.holds).toNat :=
    fun other => countP_set hk
  constructor
  · rintro ⟨hjoined, hcounted⟩
    constructor
    · rintro rfl
      have hmem : (⟨room, .subscribed⟩ : Consumer) ∈ s.consumers.set k ⟨room, .subscribed⟩ :=
        List.mem_set (List.getElem?_eq_some_iff.mp hk).1 _
      exact hjoined _ hmem rfl
    · have hroom := hholders room
      rw [← hcounted room, ← h.counted room] at hroom
      simpa [SharedSocket.setConsumer, SharedSocket.setCount] using hroom
  · rintro ⟨hjoined, hcounted⟩
    constructor
    · exact forall_mem_set h.joined hjoined
    · intro other
      have hother := hholders other
      rw [← h.counted other] at hother
      by_cases heq : room = other
      · subst heq
        simp only [decide_true, Bool.true_and] at hother
        show Function.update s.counts room n room = _
        rw [Function.update_self]
        omega
      · simp only [heq, decide_false, Bool.false_and, Bool.toNat_false, Nat.add_zero] at hother
        show Function.update s.counts room n other = _
        rw [Function.update_of_ne (Ne.symm heq), hother]

theorem lawful_addConsumer_iff {room : String} {n : Nat} {phase : Phase} (h : s.Lawful) :
    ((s.setCount room n).addConsumer room phase).Lawful ↔
      s.Fits room n .refused phase := by
  have hholders : ∀ other, ((s.setCount room n).addConsumer room phase).holders other =
      s.holders other + (decide (room = other) && phase.holds).toNat := by
    intro other
    show (s.consumers ++ [_]).countP _ = _
    rw [List.countP_append, List.countP_singleton]
    cases decide (room = other) && phase.holds <;> rfl
  constructor
  · rintro ⟨hjoined, hcounted⟩
    constructor
    · rintro rfl
      exact hjoined ⟨room, .subscribed⟩ (List.mem_append_right _ List.mem_cons_self) rfl
    · have hroom := hholders room
      rw [← hcounted room, ← h.counted room] at hroom
      simpa [SharedSocket.addConsumer, SharedSocket.setCount, Phase.holds] using hroom
  · rintro ⟨hjoined, hcounted⟩
    constructor
    · intro consumer hmem hphase
      rcases List.mem_append.mp hmem with hold | hnew
      · exact h.joined consumer hold hphase
      · rw [List.mem_singleton.mp hnew] at hphase ⊢
        exact hjoined hphase
    · intro other
      rw [hholders other, ← h.counted other]
      show Function.update s.counts room n other = _
      by_cases heq : room = other
      · subst heq
        rw [Function.update_self]
        simpa [Phase.holds] using hcounted
      · rw [Function.update_of_ne (Ne.symm heq)]
        simp [heq]

theorem setCount_self (room : String) (s : SharedSocket) : s.setCount room (s.counts room) = s := by
  rw [SharedSocket.setCount, Function.update_eq_self]

/-! ## Each step -/

theorem subscribe_lawful_iff (h : s.Lawful) (streamId : String) :
    (s.subscribeToStream streamId).Lawful ↔ s.Meets (.subscribe streamId) := by
  rw [subscribeToStream, Meets]
  split
  · next hpos =>
    rw [lawful_addConsumer_iff h]
    constructor
    · exact fun hfits _ => hfits.1 rfl
    · exact fun hjoined => ⟨fun _ => hjoined hpos, rfl⟩
  · next hzero =>
    have hfits : s.Fits (Api.roomFor streamId) (s.counts (Api.roomFor streamId)) .refused
        .subscribing := ⟨nofun, rfl⟩
    have hadded := (lawful_addConsumer_iff h).mpr hfits
    rw [setCount_self] at hadded
    exact iff_of_true (hadded.congr rfl rfl rfl) fun hpos => absurd hpos hzero

theorem unsubscribe_lawful_iff {k : Nat} {consumer : Consumer} (h : s.Lawful)
    (hk : s.consumers[k]? = some consumer)
    (hphase : consumer.phase = .subscribed ∨ consumer.phase = .refused) :
    (s.unsubscribeFromStream k consumer).Lawful ↔ s.Meets (.unsubscribe k) := by
  obtain ⟨room, phase⟩ := consumer
  simp only [unsubscribeFromStream, Meets, hk, Option.mem_some_iff, forall_eq']
  split
  · next hmany =>
    rw [lawful_setConsumer_iff h hk]
    simp only [hmany, forall_const]
    rcases hphase with rfl | rfl
    · refine iff_of_true ⟨nofun, ?_⟩ rfl
      show s.counts room - 1 + 1 = s.counts room + 0
      omega
    · refine iff_of_false ?_ (fun hphase => by cases hphase)
      rintro ⟨-, hcount⟩
      have hcount' : s.counts room - 1 + 0 = s.counts room + 0 := hcount
      omega
  · next hfew =>
    have hfits : s.Fits room (s.counts room) phase (.unsubscribing (phase = .subscribed)) := by
      refine ⟨nofun, ?_⟩
      rcases hphase with rfl | rfl <;> rfl
    have hset := (lawful_setConsumer_iff h hk).mpr hfits
    rw [setCount_self] at hset
    exact iff_of_true (hset.congr rfl rfl rfl) fun hmany => absurd hmany hfew

theorem handle_lawful_iff {i : Nat} {message : Message} {allowed : Option Bool} (h : s.Lawful)
    (hi : s.messages[i]? = some message) :
    (s.handle i message allowed).Lawful ↔ s.Meets (.serve i allowed) := by
  obtain ⟨k, room, kind, leg⟩ := message
  simp only [Meets, hi, Option.mem_some_iff, forall_eq']
  cases kind with
  | subscribe =>
    refine iff_of_true ?_ (fun hkind => by cases hkind)
    cases allowed with
    | none => exact h.congr rfl rfl rfl
    | some allowed =>
      cases allowed with
      | false => exact h.congr rfl rfl rfl
      | true =>
        refine ⟨?_, h.counted⟩
        intro consumer hmem hphase
        exact List.mem_cons_of_mem room (h.joined consumer hmem hphase)
  | unsubscribe =>
    simp only [forall_const]
    constructor
    · intro hlaw consumer hmem hphase
      have hroom : consumer.room ∈ s.rooms.filter fun other => other ≠ room :=
        hlaw.joined consumer hmem hphase
      simpa using (List.mem_filter.mp hroom).2
    · intro hnone
      refine ⟨?_, h.counted⟩
      intro consumer hmem hphase
      have hne : consumer.room ≠ room := hnone consumer hmem hphase
      exact List.mem_filter.mpr ⟨h.joined consumer hmem hphase, decide_eq_true hne⟩

theorem resolve_lawful_iff {i : Nat} {message : Message} {ok : Bool} (h : s.Lawful)
    (hl : s.Linked) (hi : s.messages[i]? = some message) (hleg : message.leg = .answered ok) :
    (s.resolve i message ok).Lawful ↔ s.Meets (.ack i) := by
  obtain ⟨k, room, kind, leg⟩ := message
  have hleg' : leg = .answered ok := hleg
  subst hleg'
  have hawaits := hl.awaited _ (List.mem_of_getElem? hi)
  have herased : Lawful { s with messages := s.messages.eraseIdx i } := h.congr rfl rfl rfl
  simp only [Meets, hi, Option.mem_some_iff, forall_eq']
  cases kind with
  | subscribe =>
    have hk : s.consumers[k]? = some ⟨room, .subscribing⟩ := hawaits
    cases ok with
    | true =>
      simp only [forall_const]
      refine (lawful_setConsumer_iff herased hk).trans ?_
      constructor
      · rintro ⟨hjoined, hcount⟩
        have hcount' : 1 + 0 = s.counts room + 1 := hcount
        exact ⟨by omega, hjoined rfl⟩
      · rintro ⟨hzero, hjoined⟩
        refine ⟨fun _ => hjoined, ?_⟩
        show 1 + 0 = s.counts room + 1
        rw [hzero]
    | false =>
      refine iff_of_true ?_ (fun hleg => by cases hleg)
      have hfits : Fits room (s.counts room) .subscribing .refused
          { s with messages := s.messages.eraseIdx i } := ⟨nofun, rfl⟩
      have hset := (lawful_setConsumer_iff herased hk).mpr hfits
      exact hset.congr rfl (Function.update_eq_self _ _).symm rfl
  | unsubscribe =>
    obtain ⟨held, hk⟩ : ∃ held, s.consumers[k]? = some ⟨room, .unsubscribing held⟩ := hawaits
    simp only [hk, Option.mem_some_iff, forall_eq']
    refine (lawful_setConsumer_iff herased hk).trans ?_
    constructor
    · rintro ⟨-, hcount⟩
      have hcount' : 0 + (Phase.unsubscribing held).holds.toNat = s.counts room + 0 := hcount
      cases held with
      | true => exact (hcount'.symm.trans rfl)
      | false => exact (hcount'.symm.trans rfl)
    · intro hcount
      refine ⟨nofun, ?_⟩
      show 0 + (Phase.unsubscribing held).holds.toNat = s.counts room + 0
      cases held with
      | true => exact (hcount.trans rfl).symm
      | false => exact (hcount.trans rfl).symm

theorem step_lawful_iff {a : Action} (h : s.Lawful) (hl : s.Linked) (hs : s.step a = some t) :
    t.Lawful ↔ s.Meets a := by
  cases a with
  | subscribe streamId =>
    rw [SharedSocket.step, Option.some.injEq] at hs
    exact hs ▸ subscribe_lawful_iff h streamId
  | unsubscribe k =>
    rw [SharedSocket.step] at hs
    split at hs
    · next consumer hk =>
      split at hs
      · next hphase =>
        rw [Option.some.injEq] at hs
        exact hs ▸ unsubscribe_lawful_iff h hk hphase
      · cases hs
    · cases hs
  | serve i allowed =>
    rw [SharedSocket.step] at hs
    split at hs
    · next message hi =>
      split at hs
      · rw [Option.some.injEq] at hs
        exact hs ▸ handle_lawful_iff h hi
      · cases hs
    · cases hs
  | ack i =>
    rw [SharedSocket.step] at hs
    split at hs
    · next message hi =>
      split at hs
      · next ok hleg =>
        rw [Option.some.injEq] at hs
        exact hs ▸ resolve_lawful_iff h hl hi hleg
      · cases hs
    · cases hs
  | connect =>
    rw [SharedSocket.step] at hs
    split at hs
    · cases hs
    · rw [Option.some.injEq] at hs
      exact hs ▸ iff_of_true (h.congr rfl rfl rfl) trivial
  | disconnect =>
    rw [SharedSocket.step] at hs
    split at hs
    · rw [Option.some.injEq] at hs
      subst hs
      constructor
      · intro hlaw consumer hmem hphase
        exact absurd (hlaw.joined consumer hmem hphase) List.not_mem_nil
      · intro hnone
        exact ⟨fun consumer hmem hphase => absurd hphase (hnone consumer hmem), h.counted⟩
    · cases hs

/-- In every run from the start, whatever the order of the calls, of the handlers and of the
answers, the rooms and the counts are right after each step exactly when each step finds
what it relies on. -/
theorem rooms_counted_iff (as : List Action) :
    AllSteps step (fun _ _ t => t.Lawful) initial as ↔
      AllSteps step (fun s a _ => s.Meets a) initial as := by
  refine allSteps_iff (I := fun s => s.Lawful ∧ s.Linked) ?_ ?_ ⟨initial_lawful, initial_linked⟩
  · rintro s a t ⟨hlaw, hlinked⟩ hs
    exact step_lawful_iff hlaw hlinked hs
  · rintro s a t ⟨hlaw, hlinked⟩ hlaw' hs
    exact ⟨hlaw', hlinked.step hs⟩

/-- Two consumers that mount at the same time. -/
def mountedTogether : List Action :=
  [.connect, .subscribe "1", .subscribe "1", .serve 0 (some true), .serve 0 (some true), .ack 0,
    .ack 0]

/-- Both are granted the room, and the count is one. -/
theorem rooms_miscounted :
    ¬∀ as, AllSteps step (fun _ _ t => t.Lawful) initial as := by
  intro h
  have hruns : ∃ t, run step initial mountedTogether = some t ∧ t.counts "stream:1" = 1 ∧
      t.holders "stream:1" = 2 := ⟨_, rfl, by decide, by decide⟩
  obtain ⟨t, hrun, hcount, hholders⟩ := hruns
  have hlaw : t.Lawful := AllSteps.invariant (P := fun _ _ t => t.Lawful) (I := fun s => s.Lawful)
    (fun _ _ _ _ hlaw _ => hlaw) initial_lawful (h mountedTogether) hrun
  have hcounted := hlaw.counted "stream:1"
  rw [hcount, hholders] at hcounted
  cases hcounted

end SharedSocket
end App
end XStreamRoll
