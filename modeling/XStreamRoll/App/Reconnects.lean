/-
The rooms of the web client when its socket reconnects.

The answers of the server arrive in the order in which it has sent them.  A count that
they leave positive is then that of a joined room, as long as the socket stays connected,
however the calls overlap.  A disconnection empties the rooms and keeps the counts, and a
positive count keeps everybody from asking for the room again.
-/
import XStreamRoll.App.Rooms

namespace XStreamRoll
namespace App

open Transition

def Leg.isAnswered : Leg → Bool
  | .answered _ => true
  | _ => false

namespace SharedSocket

/-- The answer is the first of those on the way. -/
def InOrder (s : SharedSocket) : Action → Prop
  | .ack i => ∀ message ∈ s.messages.take i, message.leg.isAnswered = false
  | _ => True

instance (s : SharedSocket) (a : Action) : Decidable (s.InOrder a) := by
  cases a <;> unfold InOrder <;> infer_instance

/-- The steps, with answers in order. -/
def stepInOrder (s : SharedSocket) (a : Action) : Option SharedSocket :=
  if s.InOrder a then s.step a else none

/-- Once the socket is connected and the messages about a room have been handled, a positive
count is that of a joined room. -/
def RoomsSurvive (s : SharedSocket) : Prop :=
  s.connected = true → ∀ room, (∀ message ∈ s.messages, message.room ≠ room) →
    0 < s.counts room → room ∈ s.rooms

/-- When the socket connects, every room with a positive count is about to be left. -/
def LeavesCounted (s : SharedSocket) : Action → Prop
  | .connect => ∀ room, 0 < s.counts room →
      ∃ message ∈ s.messages, message.room = room ∧ message.kind = .unsubscribe
  | _ => True

/-- What an answer makes of the question whether the room has a positive count. -/
def effect (room : String) (counted : Bool) (message : Message) : Bool :=
  if message.room = room then
    match message.leg, message.kind with
    | .answered ok, .subscribe => ok || counted
    | .answered _, .unsubscribe => false
    | _, _ => counted
  else counted

/-- Whether the room has a positive count when all the answers on the way have arrived. -/
def settled (room : String) (counted : Bool) (messages : List Message) : Bool :=
  messages.foldl (effect room) counted

/-- A message that will take the socket out of the room is on its way. -/
def Leaving (room : String) (s : SharedSocket) : Prop :=
  ∃ message ∈ s.messages, message.room = room ∧ message.kind = .unsubscribe ∧ message.leg = .sent

structure Tracks (s : SharedSocket) : Prop where
  /-- Nothing has been sent over a socket that is not connected, and a room that somebody asks for
  has no count. -/
  cleared : s.connected = false → s.rooms = [] ∧ ∀ message ∈ s.messages,
    message.leg = .buffered ∧ (message.kind = .subscribe → s.counts message.room = 0)
  flushed : s.connected = true → ∀ message ∈ s.messages, message.leg ≠ .buffered
  tracked : s.connected = true → ∀ room,
    settled room (0 < s.counts room) s.messages = decide (room ∈ s.rooms) ∨ s.Leaving room

theorem initial_tracks : initial.Tracks where
  cleared _ := ⟨rfl, fun message h => absurd h List.not_mem_nil⟩
  flushed h := by cases h
  tracked h := by cases h

variable {s t : SharedSocket} {room : String}

/-! ## The answers on the way -/

theorem effect_of_not_answered {message : Message} (h : message.leg.isAnswered = false)
    (counted : Bool) : effect room counted message = counted := by
  unfold effect
  obtain ⟨k, other, kind, leg⟩ := message
  cases leg with
  | answered ok => cases h
  | buffered => simp
  | sent => simp

theorem effect_of_ne {message : Message} (h : message.room ≠ room) (counted : Bool) :
    effect room counted message = counted := by
  rw [effect, if_neg h]

theorem settled_of_effectless {messages : List Message}
    (h : ∀ message ∈ messages, ∀ counted, effect room counted message = counted) (counted : Bool) :
    settled room counted messages = counted := by
  induction messages with
  | nil => rfl
  | cons message messages ih =>
    rw [settled, List.foldl_cons, h message List.mem_cons_self]
    exact ih fun other hother => h other (List.mem_cons_of_mem message hother)

theorem settled_append (counted : Bool) (before after : List Message) :
    settled room counted (before ++ after) = settled room (settled room counted before) after :=
  List.foldl_append

theorem settled_concat (counted : Bool) (messages : List Message) (message : Message) :
    settled room counted (messages ++ [message]) =
      effect room (settled room counted messages) message := by
  rw [settled_append]
  rfl

theorem split_at {messages : List Message} {i : Nat} {message : Message}
    (hi : messages[i]? = some message) :
    messages = messages.take i ++ message :: messages.drop (i + 1) ∧
      messages.eraseIdx i = messages.take i ++ messages.drop (i + 1) := by
  obtain ⟨hlt, rfl⟩ := List.getElem?_eq_some_iff.mp hi
  refine ⟨?_, List.eraseIdx_eq_take_drop_succ ..⟩
  rw [List.getElem_cons_drop, List.take_append_drop]

/-- A message without an answer may be taken out. -/
theorem settled_eraseIdx {messages : List Message} {i : Nat} {message : Message}
    (hi : messages[i]? = some message) (hleg : message.leg.isAnswered = false) (counted : Bool) :
    settled room counted (messages.eraseIdx i) = settled room counted messages := by
  obtain ⟨hsplit, herase⟩ := split_at hi
  conv_rhs => rw [hsplit]
  rw [herase, settled_append, settled_append]
  show _ = settled room (effect room _ message) _
  rw [effect_of_not_answered hleg]

/-- The first answer may be taken out with its effect. -/
theorem settled_first {messages : List Message} {i : Nat} {message : Message}
    (hi : messages[i]? = some message)
    (hfirst : ∀ other ∈ messages.take i, other.leg.isAnswered = false) (counted : Bool) :
    settled room (effect room counted message) (messages.eraseIdx i) =
      settled room counted messages := by
  have hbefore : ∀ counted, settled room counted (messages.take i) = counted := fun counted =>
    settled_of_effectless (fun other hother => effect_of_not_answered (hfirst other hother)) counted
  obtain ⟨hsplit, herase⟩ := split_at hi
  conv_rhs => rw [hsplit]
  rw [herase, settled_append, settled_append, hbefore, hbefore]
  rfl

theorem Leaving.eraseIdx {i : Nat} {message : Message} (h : s.Leaving room)
    (hi : s.messages[i]? = some message)
    (hne : message.room = room → message.kind = .unsubscribe → message.leg ≠ .sent) :
    Leaving room { s with messages := s.messages.eraseIdx i } := by
  obtain ⟨other, hmem, hroom, hkind, hleg⟩ := h
  rcases List.mem_cons.mp ((perm_eraseIdx hi).mem_iff.mpr hmem) with rfl | hrest
  · exact absurd hleg (hne hroom hkind)
  · exact ⟨other, hrest, hroom, hkind, hleg⟩

/-! ## Each step -/

/-- A call keeps the sign of every count, and what it emits has no answer yet. -/
theorem Tracks.call (h : s.Tracks) (added : List Message) (hconnected : t.connected = s.connected)
    (hrooms : t.rooms = s.rooms) (hcounts : ∀ room, 0 < t.counts room ↔ 0 < s.counts room)
    (hmessages : t.messages = s.messages ++ added)
    (hadded : ∀ message ∈ added, message.leg = (if s.connected then .sent else .buffered) ∧
      (message.kind = .subscribe → s.counts message.room = 0)) : t.Tracks where
  cleared hdown := by
    rw [hconnected] at hdown
    obtain ⟨hempty, hbuffered⟩ := h.cleared hdown
    refine ⟨hrooms.trans hempty, ?_⟩
    have hzero : ∀ room, s.counts room = 0 → t.counts room = 0 := by
      intro room hroom
      have := hcounts room
      omega
    intro message hmem
    rw [hmessages] at hmem
    rcases List.mem_append.mp hmem with hold | hnew
    · obtain ⟨hleg, hkind⟩ := hbuffered message hold
      exact ⟨hleg, fun hsubscribe => hzero _ (hkind hsubscribe)⟩
    · obtain ⟨hleg, hkind⟩ := hadded message hnew
      rw [hdown] at hleg
      exact ⟨hleg, fun hsubscribe => hzero _ (hkind hsubscribe)⟩
  flushed hup message hmem := by
    rw [hconnected] at hup
    rw [hmessages] at hmem
    rcases List.mem_append.mp hmem with hold | hnew
    · exact h.flushed hup message hold
    · rw [(hadded message hnew).1, hup]
      exact fun h => by cases h
  tracked hup room := by
    rw [hconnected] at hup
    have hsame : settled room (0 < t.counts room) t.messages =
        settled room (0 < s.counts room) s.messages := by
      rw [hmessages, settled_append, decide_eq_decide.mpr (hcounts room)]
      refine settled_of_effectless (fun message hmem => effect_of_not_answered ?_) _
      rw [(hadded message hmem).1, hup]
      rfl
    rcases h.tracked hup room with htracked | ⟨message, hmem, hleaving⟩
    · exact .inl (by rw [hsame, htracked, hrooms])
    · exact .inr ⟨message, hmessages ▸ List.mem_append_left added hmem, hleaving⟩

theorem update_pos_iff {counts : String → Nat} {n : Nat} (h : 0 < n ↔ 0 < counts room)
    (other : String) : 0 < Function.update counts room n other ↔ 0 < counts other := by
  by_cases heq : other = room
  · rw [heq, Function.update_self]
    exact h
  · rw [Function.update_of_ne heq]

theorem Tracks.subscribeToStream (h : s.Tracks) (streamId : String) :
    (s.subscribeToStream streamId).Tracks := by
  rw [SharedSocket.subscribeToStream]
  split
  · next hpos =>
    exact h.call [] rfl rfl (update_pos_iff (iff_of_true (Nat.succ_pos _) hpos))
      (List.append_nil _).symm (List.forall_mem_nil _)
  · next hzero =>
    refine h.call _ rfl rfl (fun _ => Iff.rfl) rfl ?_
    intro message hmem
    rw [List.mem_singleton.mp hmem]
    exact ⟨rfl, fun _ => Nat.eq_zero_of_not_pos hzero⟩

theorem Tracks.unsubscribeFromStream (h : s.Tracks) (k : Nat) (consumer : Consumer) :
    (s.unsubscribeFromStream k consumer).Tracks := by
  rw [SharedSocket.unsubscribeFromStream]
  split
  · next hmany =>
    have hsign : 0 < s.counts consumer.room - 1 ↔ 0 < s.counts consumer.room := by omega
    exact h.call [] rfl rfl (update_pos_iff hsign) (List.append_nil _).symm (List.forall_mem_nil _)
  · refine h.call _ rfl rfl (fun _ => Iff.rfl) rfl ?_
    intro message hmem
    rw [List.mem_singleton.mp hmem]
    exact ⟨rfl, fun h => by cases h⟩

/-- What has been sent shows that the socket is connected. -/
theorem Tracks.connected (h : s.Tracks) {message : Message} (hmem : message ∈ s.messages)
    (hleg : message.leg ≠ .buffered) : s.connected = true := by
  cases hup : s.connected with
  | true => rfl
  | false => exact absurd ((h.cleared hup).2 message hmem).1 hleg

theorem Tracks.of_connected (hup : s.connected = true)
    (hflushed : ∀ message ∈ s.messages, message.leg ≠ .buffered)
    (htracked : ∀ room,
      settled room (0 < s.counts room) s.messages = decide (room ∈ s.rooms) ∨ s.Leaving room) :
    s.Tracks where
  cleared hdown := by
    rw [hup] at hdown
    cases hdown
  flushed _ := hflushed
  tracked _ := htracked

/-- The server has handled a message.  Its answer tells of the message's room what has become of
it, and the other rooms are as before. -/
theorem Tracks.replace {i : Nat} {message : Message} {rooms : List String} (h : s.Tracks)
    (added : List Message) (hi : s.messages[i]? = some message) (hleg : message.leg = .sent)
    (hadded : ∀ answer ∈ added, answer.room = message.room ∧ answer.leg ≠ .buffered)
    (hother : ∀ room, message.room ≠ room → (room ∈ rooms ↔ room ∈ s.rooms))
    (hroom : settled message.room (0 < s.counts message.room) (s.messages.eraseIdx i ++ added) =
        decide (message.room ∈ rooms) ∨
      s.Leaving message.room ∧ message.kind ≠ .unsubscribe) :
    Tracks { s with messages := s.messages.eraseIdx i ++ added, rooms } := by
  have hup := h.connected (List.mem_of_getElem? hi) (hleg ▸ fun h => by cases h)
  have hunanswered : message.leg.isAnswered = false := by
    rw [hleg]
    rfl
  have hleaving : ∀ room, s.Leaving room → (message.room = room → message.kind ≠ .unsubscribe) →
      Leaving room { s with messages := s.messages.eraseIdx i ++ added, rooms } := by
    intro room hleaving hkind
    obtain ⟨other, hmem, hrest⟩ := hleaving.eraseIdx hi fun hr hk => absurd hk (hkind hr)
    exact ⟨other, List.mem_append_left added hmem, hrest⟩
  refine .of_connected hup ?_ ?_
  · intro other hmem
    rcases List.mem_append.mp hmem with hold | hnew
    · exact h.flushed hup other (List.mem_of_mem_eraseIdx hold)
    · exact (hadded other hnew).2
  · intro room
    by_cases heq : message.room = room
    · subst heq
      rcases hroom with htracked | ⟨hleave, hkind⟩
      · exact .inl htracked
      · exact .inr (hleaving _ hleave fun _ => hkind)
    · rcases h.tracked hup room with htracked | hleave
      · refine .inl ?_
        have heffectless : ∀ answer ∈ added, ∀ counted, effect room counted answer = counted :=
          fun answer hanswer => effect_of_ne ((hadded answer hanswer).1 ▸ heq)
        show settled room (0 < s.counts room) (s.messages.eraseIdx i ++ added) = decide (room ∈ rooms)
        rw [settled_append, settled_of_effectless heffectless, settled_eraseIdx hi hunanswered,
          htracked, decide_eq_decide]
        exact (hother room heq).symm
      · exact .inr (hleaving room hleave fun hr => absurd hr heq)

theorem Tracks.handle {i : Nat} {message : Message} {allowed : Option Bool} (h : s.Tracks)
    (hi : s.messages[i]? = some message) (hleg : message.leg = .sent) :
    (s.handle i message allowed).Tracks := by
  obtain ⟨k, room, kind, leg⟩ := message
  have hup := h.connected (List.mem_of_getElem? hi) (hleg ▸ fun h => by cases h)
  have hunanswered : leg.isAnswered = false := by
    have hleg' : leg = .sent := hleg
    rw [hleg']
    rfl
  have herased := @settled_eraseIdx room _ i _ hi hunanswered (0 < s.counts room)
  have hanswer : ∀ ok, ∀ answer ∈ [(⟨k, room, kind, .answered ok⟩ : Message)],
      answer.room = room ∧ answer.leg ≠ .buffered := by
    intro ok answer hmem
    rw [List.mem_singleton.mp hmem]
    exact ⟨rfl, fun h => by cases h⟩
  cases kind with
  | subscribe =>
    -- Without a grant the room is as it was.
    have hkept : ∀ added : List Message, settled room (0 < s.counts room)
          (s.messages.eraseIdx i ++ added) = settled room (0 < s.counts room) s.messages →
        settled room (0 < s.counts room) (s.messages.eraseIdx i ++ added) =
            decide (room ∈ s.rooms) ∨ s.Leaving room ∧ Kind.subscribe ≠ .unsubscribe := by
      intro added hsame
      rcases h.tracked hup room with htracked | hleave
      · exact .inl (hsame.trans htracked)
      · exact .inr ⟨hleave, fun h => by cases h⟩
    cases allowed with
    | none =>
      have hdropped := h.replace [] hi hleg (List.forall_mem_nil _) (fun _ _ => Iff.rfl)
        (hkept [] (by rw [List.append_nil, herased]))
      rw [List.append_nil] at hdropped
      exact hdropped
    | some allowed =>
      cases allowed with
      | false =>
        refine h.replace _ hi hleg (hanswer false) (fun _ _ => Iff.rfl) (hkept _ ?_)
        rw [settled_concat, effect, if_pos rfl, herased]
        rfl
      | true =>
        refine h.replace _ hi hleg (hanswer true) ?_ (.inl ?_)
        · intro other hne
          simp [Ne.symm hne]
        · rw [settled_concat, effect, if_pos rfl]
          simp
  | unsubscribe =>
    refine h.replace _ hi hleg (hanswer true) ?_ (.inl ?_)
    · intro other hne
      simp [Ne.symm hne]
    · rw [settled_concat, effect, if_pos rfl]
      simp

/-- The first answer arrives. -/
theorem Tracks.resolve {i : Nat} {message : Message} {ok : Bool} (h : s.Tracks)
    (hi : s.messages[i]? = some message) (hleg : message.leg = .answered ok)
    (hfirst : ∀ other ∈ s.messages.take i, other.leg.isAnswered = false) :
    (s.resolve i message ok).Tracks := by
  obtain ⟨k, room, kind, leg⟩ := message
  have hleg' : leg = .answered ok := hleg
  subst hleg'
  have hup := h.connected (List.mem_of_getElem? hi) fun h => by cases h
  -- The count is then what the answer makes of it.
  have htracks : ∀ counts : String → Nat, ∀ consumers,
      (∀ other, decide (0 < counts other) =
        effect other (0 < s.counts other) ⟨k, room, kind, .answered ok⟩) →
      Tracks { s with messages := s.messages.eraseIdx i, counts, consumers } := by
    intro counts consumers heffect
    refine .of_connected hup ?_ ?_
    · exact fun other hmem => h.flushed hup other (List.mem_of_mem_eraseIdx hmem)
    · intro other
      rcases h.tracked hup other with htracked | hleave
      · refine .inl ?_
        show settled other (0 < counts other) (s.messages.eraseIdx i) = decide (other ∈ s.rooms)
        rw [heffect, settled_first hi hfirst, htracked]
      · obtain ⟨leaving, hmem, hrest⟩ := hleave.eraseIdx hi fun _ _ h => by cases h
        exact .inr ⟨leaving, hmem, hrest⟩
  cases kind with
  | subscribe =>
    cases ok with
    | true =>
      apply htracks
      intro other
      rw [effect]
      by_cases heq : room = other
      · simp [setCount, heq]
      · simp [setCount, heq, Function.update_of_ne (Ne.symm heq)]
    | false =>
      apply htracks
      intro other
      simp [effect]
  | unsubscribe =>
    apply htracks
    intro other
    rw [effect]
    by_cases heq : room = other
    · simp [setCount, heq]
    · simp [setCount, heq, Function.update_of_ne (Ne.symm heq)]

theorem Tracks.connect (h : s.Tracks) (hdown : s.connected = false)
    (hleaves : s.LeavesCounted .connect) :
    Tracks { s with connected := true, messages := s.messages.map Message.flush } := by
  obtain ⟨hempty, hbuffered⟩ := h.cleared hdown
  have hflush : ∀ message ∈ s.messages, message.flush = { message with leg := .sent } := by
    intro message hmem
    rw [Message.flush, if_pos (hbuffered message hmem).1]
  have hsent : ∀ message ∈ s.messages.map Message.flush, message.leg = .sent := by
    intro message hmem
    obtain ⟨old, hold, rfl⟩ := List.mem_map.mp hmem
    rw [hflush old hold]
  refine .of_connected rfl ?_ ?_
  · intro message hmem
    rw [hsent message hmem]
    exact fun h => by cases h
  · intro room
    rcases Nat.eq_zero_or_pos (s.counts room) with hzero | hpos
    · refine .inl ?_
      have heffectless : ∀ message ∈ s.messages.map Message.flush, ∀ counted,
          effect room counted message = counted := by
        intro message hmem counted
        exact effect_of_not_answered (by rw [hsent message hmem]; rfl) counted
      show settled room (0 < s.counts room) (s.messages.map Message.flush) = decide (room ∈ s.rooms)
      rw [settled_of_effectless heffectless, hzero, hempty]
      rfl
    · obtain ⟨message, hmem, hroom, hkind⟩ := hleaves room hpos
      refine .inr ⟨message.flush, List.mem_map_of_mem hmem, ?_⟩
      rw [hflush message hmem]
      exact ⟨hroom, hkind, rfl⟩

theorem Tracks.disconnect (h : s.Tracks) (hup : s.connected = true) :
    Tracks { s with
      connected := false
      messages := s.messages.filter fun message => message.leg = .buffered
      rooms := [] } where
  cleared _ := by
    refine ⟨rfl, ?_⟩
    intro message hmem
    obtain ⟨hold, hbuffered⟩ := List.mem_filter.mp hmem
    exact absurd (of_decide_eq_true hbuffered) (h.flushed hup message hold)
  flushed hup' := by cases hup'
  tracked hup' := by cases hup'

theorem Tracks.step {a : Action} (h : s.Tracks) (hleaves : s.LeavesCounted a)
    (hs : s.stepInOrder a = some t) : t.Tracks := by
  rw [stepInOrder] at hs
  split at hs
  · next horder =>
    cases a with
    | subscribe streamId =>
      rw [SharedSocket.step, Option.some.injEq] at hs
      exact hs ▸ h.subscribeToStream streamId
    | unsubscribe k =>
      rw [SharedSocket.step] at hs
      split at hs
      · split at hs
        · rw [Option.some.injEq] at hs
          exact hs ▸ h.unsubscribeFromStream k _
        · cases hs
      · cases hs
    | serve i allowed =>
      rw [SharedSocket.step] at hs
      split at hs
      · next message hi =>
        split at hs
        · next hleg =>
          rw [Option.some.injEq] at hs
          exact hs ▸ h.handle hi hleg
        · cases hs
      · cases hs
    | ack i =>
      rw [SharedSocket.step] at hs
      split at hs
      · next message hi =>
        split at hs
        · next ok hleg =>
          rw [Option.some.injEq] at hs
          exact hs ▸ h.resolve hi hleg horder
        · cases hs
      · cases hs
    | connect =>
      rw [SharedSocket.step] at hs
      split at hs
      · cases hs
      · next hdown =>
        rw [Option.some.injEq] at hs
        exact hs ▸ h.connect (Bool.eq_false_iff.mpr hdown) hleaves
    | disconnect =>
      rw [SharedSocket.step] at hs
      split at hs
      · next hup =>
        rw [Option.some.injEq] at hs
        exact hs ▸ h.disconnect hup
      · cases hs
  · cases hs

/-! ## The rooms -/

theorem Tracks.roomsSurvive (h : s.Tracks) : s.RoomsSurvive := by
  intro hup room hhandled hpos
  have heffectless : ∀ message ∈ s.messages, ∀ counted, effect room counted message = counted :=
    fun message hmem => effect_of_ne (hhandled message hmem)
  rcases h.tracked hup room with htracked | ⟨message, hmem, hroom, -⟩
  · rw [settled_of_effectless heffectless, decide_eq_decide] at htracked
    exact htracked.mp hpos
  · exact absurd hroom (hhandled message hmem)

/-- A counted room that nobody is about to leave is lost when the socket connects. -/
theorem Tracks.leavesCounted {a : Action} (h : s.Tracks) (hs : s.stepInOrder a = some t)
    (hsurvive : t.RoomsSurvive) : s.LeavesCounted a := by
  cases a with
  | connect =>
    intro room hpos
    by_contra hnone
    have horder : s.InOrder .connect := trivial
    rw [stepInOrder, if_pos horder, SharedSocket.step] at hs
    split at hs
    · cases hs
    · next hdown =>
      rw [Option.some.injEq] at hs
      subst hs
      obtain ⟨hempty, hbuffered⟩ := h.cleared (Bool.eq_false_iff.mpr hdown)
      have hhandled : ∀ message ∈ s.messages.map Message.flush, message.room ≠ room := by
        rintro flushed hmem rfl
        obtain ⟨message, hold, rfl⟩ := List.mem_map.mp hmem
        rw [message.flush_room] at hpos hnone
        cases hkind : message.kind with
        | subscribe =>
          rw [(hbuffered message hold).2 hkind] at hpos
          exact Nat.lt_irrefl 0 hpos
        | unsubscribe => exact hnone ⟨message, hold, rfl, hkind⟩
      have hjoined : room ∈ s.rooms := hsurvive rfl room hhandled hpos
      rw [hempty] at hjoined
      cases hjoined
  | _ => trivial

/-- In every run from the start, after each step every counted room whose messages have been
handled is joined, exactly when at each connection every counted room has an unsubscription
in the send buffer.  Then a socket without pending messages is in all its counted rooms. -/
theorem rooms_survive_iff (as : List Action) :
    (AllSteps stepInOrder (fun _ _ t => t.RoomsSurvive) initial as ↔
      AllSteps stepInOrder (fun s a _ => s.LeavesCounted a) initial as) ∧
    (AllSteps stepInOrder (fun s a _ => s.LeavesCounted a) initial as →
      AllSteps stepInOrder (fun _ _ t => t.connected = true → t.messages = [] →
        ∀ room, 0 < t.counts room → room ∈ t.rooms) initial as) := by
  have hiff : AllSteps stepInOrder (fun _ _ t => t.RoomsSurvive) initial as ↔
      AllSteps stepInOrder (fun s a _ => s.LeavesCounted a) initial as := allSteps_iff
    (I := fun s => s.Tracks)
    (fun s a t h hs => ⟨h.leavesCounted hs, fun hleaves => (h.step hleaves hs).roomsSurvive⟩)
    (fun s a t h hsurvive hs => h.step (h.leavesCounted hs hsurvive) hs) initial_tracks
  refine ⟨hiff, fun hleaves => (hiff.mpr hleaves).mono ?_⟩
  intro s a t hsurvive hup hempty room
  exact hsurvive hup room (hempty ▸ List.forall_mem_nil _)

/-- One consumer, whose socket loses its connection once. -/
def connectedAgain : List Action :=
  [.connect, .subscribe "1", .serve 0 (some true), .ack 0, .disconnect, .connect]

/-- The room is counted and not joined, and nothing is pending. -/
theorem rooms_lost :
    ¬∀ as, AllSteps stepInOrder (fun _ _ t => t.connected = true → t.messages = [] →
      ∀ room, 0 < t.counts room → room ∈ t.rooms) initial as := by
  intro h
  have hruns : ∃ t, run stepInOrder initial connectedAgain = some t ∧ t.connected = true ∧
      t.messages = [] ∧ 0 < t.counts "stream:1" ∧ t.rooms = [] := ⟨_, rfl, rfl, rfl, by decide, rfl⟩
  obtain ⟨t, hrun, hup, hempty, hpos, hrooms⟩ := hruns
  have hlaw := AllSteps.invariant (I := fun t => t.connected = true → t.messages = [] →
      ∀ room, 0 < t.counts room → room ∈ t.rooms) (fun _ _ _ _ hlaw _ => hlaw) nofun
    (h connectedAgain) hrun
  have hjoined := hlaw hup hempty "stream:1" hpos
  rw [hrooms] at hjoined
  cases hjoined

end SharedSocket
end App
end XStreamRoll
