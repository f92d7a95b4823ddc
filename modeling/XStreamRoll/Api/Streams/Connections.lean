/-
The gauge of active connections.

`handleConnection` increments it for a socket that it has authenticated, and
`handleDisconnect` decrements it for every socket that goes.  The gauge is therefore the
number of connected authenticated sockets, less one for each that went without having been
authenticated: those that were rejected, and for a while those that go as their token is
looked at.

Socket.IO takes a socket for disconnected and tells Nest so in one go.  A client without a
token is disconnected before the handler first waits.  Whether Nest already listens for the
disconnect then is left open.
-/
import XStreamRoll.Lists
import XStreamRoll.Transition
import XStreamRoll.Api.Auth
import XStreamRoll.Api.Streams.Visibility

namespace XStreamRoll
namespace Api

open Transition

/-- `client.handshake`. -/
structure Handshake where
  /-- `auth.token`, when that is a string -/
  authToken : Option String
  /-- `headers.authorization` -/
  authorization : Option String
deriving DecidableEq, Repr

def extractToken (handshake : Handshake) : Option String :=
  match handshake.authToken.filter (· ≠ "") with
  | some token => some token
  | none =>
    match handshake.authorization with
    | none => none
    | some authHeader =>
      if (authHeader.toList.take 7).map Char.toLower = "bearer ".toList then
        (some (trim (String.ofList (authHeader.toList.drop 7)))).filter (· ≠ "")
      else none

/-- A socket of the namespace. -/
inductive Connection where
  /-- `handleConnection` waits for `authenticate`. -/
  | awaiting (connected : Bool)
  | accepted (userId : UserId) (connected : Bool)
  /-- It has been disconnected, and Nest heard of it or not. -/
  | rejected (heard : Bool)
deriving DecidableEq, Repr

namespace Connection

def connected : Connection → Bool
  | .awaiting connected | .accepted _ connected => connected
  | .rejected _ => false

def authenticated : Connection → Bool
  | .accepted _ _ => true
  | .awaiting _ | .rejected _ => false

/-- `handleDisconnect` has run for the socket. -/
def left : Connection → Bool
  | .awaiting connected | .accepted _ connected => !connected
  | .rejected heard => heard

end Connection

structure Connections where
  sockets : List Connection
  /-- `websocketActiveConnections` -/
  active : Int
deriving DecidableEq, Repr

namespace Connections

inductive Action where
  /-- `handleConnection`, up to its first wait -/
  | connect (handshake : Handshake)
  /-- `authenticate` gives a user id, or throws -/
  | authenticate (k : Nat) (userId : Option UserId)
  | disconnect (k : Nat)

/-- The socket becomes another, and the gauge changes by so much. -/
def put (k : Nat) (socket : Connection) (change : Int) (s : Connections) : Connections :=
  { sockets := s.sockets.set k socket, active := s.active + change }

/-- `listening` says whether Nest hears of a socket that goes during the first part of
`handleConnection`. -/
def step (listening : Bool) (s : Connections) : Action → Option Connections
  | .connect handshake =>
    match extractToken handshake with
    | none => some {
        sockets := s.sockets ++ [.rejected listening]
        active := s.active - if listening then 1 else 0 }
    | some _ => some { s with sockets := s.sockets ++ [.awaiting true] }
  | .authenticate k userId =>
    match s.sockets[k]? with
    | some (.awaiting connected) =>
      match userId with
      | some id => some (s.put k (.accepted id connected) 1)
      -- The socket is disconnected, if it is still there.
      | none => some (s.put k (.rejected true) (if connected then -1 else 0))
    | _ => none
  | .disconnect k =>
    match s.sockets[k]? with
    | some (.awaiting true) => some (s.put k (.awaiting false) (-1))
    | some (.accepted id true) => some (s.put k (.accepted id false) (-1))
    | _ => none

def start : Connections := ⟨[], 0⟩

/-- The connected authenticated sockets. -/
def live (s : Connections) : Nat :=
  s.sockets.countP fun socket => socket.connected && socket.authenticated

/-- A socket for which `handleDisconnect` runs has been authenticated. -/
def LeavesKnown (listening : Bool) (s : Connections) : Action → Prop
  | .connect handshake => listening = true → (extractToken handshake).isSome = true
  | .authenticate _ userId => userId.isSome = true
  | .disconnect k => ∀ socket ∈ s.sockets[k]?, socket.authenticated = true

/-! ## What the gauge counts -/

end Connections

namespace Connection

/-- The increments less the decrements for the socket. -/
def share (socket : Connection) : Int :=
  (if socket.authenticated then 1 else 0) - (if socket.left then 1 else 0)

/-- The socket has gone without having been authenticated. -/
def stranger (socket : Connection) : Bool := socket.left && !socket.authenticated

theorem share_eq (socket : Connection) :
    socket.share + socket.stranger.toNat =
      (socket.connected && socket.authenticated).toNat := by
  cases socket with
  | awaiting connected => cases connected <;> rfl
  | accepted userId connected => cases connected <;> rfl
  | rejected heard => cases heard <;> rfl

end Connection

namespace Connections

open Connection (share stranger)

variable {listening : Bool} {s t : Connections} {a : Action} {k : Nat} {old new : Connection}

/-- The gauge misses the strangers among the sockets, and only those. -/
def Counted (s : Connections) : Prop := s.active + (s.sockets.countP stranger : Nat) = s.live

/-- No socket has gone without having been authenticated. -/
def Familiar (s : Connections) : Prop := ∀ socket ∈ s.sockets, socket.stranger = false

theorem Counted.active_eq (h : s.Counted) :
    s.active = s.live - (s.sockets.countP stranger : Nat) := by
  have counts : s.active + (s.sockets.countP stranger : Nat) = s.live := h
  omega

theorem Counted.active_eq_live_iff (h : s.Counted) : s.active = s.live ↔ s.Familiar := by
  have none : s.sockets.countP stranger = 0 ↔ s.Familiar := by
    rw [List.countP_eq_zero]
    exact forall₂_congr fun socket _ => iff_of_eq (Bool.not_eq_true _)
  rw [← none, h.active_eq]
  omega

theorem counted_append {socket : Connection} {active : Int} (h : s.Counted)
    (fits : active = s.active + socket.share) : Counted ⟨s.sockets ++ [socket], active⟩ := by
  have counts : s.active + (s.sockets.countP stranger : Nat) = s.live := h
  have one := socket.share_eq
  have strangers : (s.sockets ++ [socket]).countP stranger =
      s.sockets.countP stranger + socket.stranger.toNat := countP_concat
  have lives : live ⟨s.sockets ++ [socket], active⟩ =
      s.live + (socket.connected && socket.authenticated).toNat := countP_concat
  show active + ((s.sockets ++ [socket]).countP stranger : Nat) =
    live ⟨s.sockets ++ [socket], active⟩
  omega

theorem counted_put {change : Int} (h : s.Counted) (hk : s.sockets[k]? = some old)
    (fits : new.share = old.share + change) : (s.put k new change).Counted := by
  have counts : s.active + (s.sockets.countP stranger : Nat) = s.live := h
  have strangers : (s.sockets.set k new).countP stranger + old.stranger.toNat =
    s.sockets.countP stranger + new.stranger.toNat := countP_set hk
  have lives : (s.put k new change).live + (old.connected && old.authenticated).toNat =
    s.live + (new.connected && new.authenticated).toNat := countP_set hk
  have before := old.share_eq
  have after := new.share_eq
  show s.active + change + ((s.sockets.set k new).countP stranger : Nat) =
    (s.put k new change).live
  omega

theorem familiar_append {socket : Connection} {active : Int} :
    Familiar ⟨s.sockets ++ [socket], active⟩ ↔ s.Familiar ∧ socket.stranger = false := by
  rw [Familiar, List.forall_mem_append, List.forall_mem_singleton]
  rfl

theorem familiar_put_iff {change : Int} (h : s.Familiar) (hk : s.sockets[k]? = some old) :
    (s.put k new change).Familiar ↔ new.stranger = false := by
  have inside := (List.getElem?_eq_some_iff.mp hk).1
  constructor
  · exact fun all => all new (List.mem_set inside new)
  · exact forall_mem_set h

/-! ## One step -/

/-- What a step does to the sockets and the gauge. -/
inductive Moves (listening : Bool) (s : Connections) : Action → Connections → Prop where
  | turnAway {handshake : Handshake} (htoken : extractToken handshake = none) :
    Moves listening s (.connect handshake)
      ⟨s.sockets ++ [.rejected listening], s.active - if listening then 1 else 0⟩
  | letIn {handshake : Handshake} {token : String} (htoken : extractToken handshake = some token) :
    Moves listening s (.connect handshake) ⟨s.sockets ++ [.awaiting true], s.active⟩
  | accept {k : Nat} {connected : Bool} (id : UserId)
    (hk : s.sockets[k]? = some (.awaiting connected)) :
    Moves listening s (.authenticate k (some id)) (s.put k (.accepted id connected) 1)
  | reject {k : Nat} {connected : Bool} (hk : s.sockets[k]? = some (.awaiting connected)) :
    Moves listening s (.authenticate k none)
      (s.put k (.rejected true) (if connected then -1 else 0))
  | giveUp {k : Nat} (hk : s.sockets[k]? = some (.awaiting true)) :
    Moves listening s (.disconnect k) (s.put k (.awaiting false) (-1))
  | leave {k : Nat} {id : UserId} (hk : s.sockets[k]? = some (.accepted id true)) :
    Moves listening s (.disconnect k) (s.put k (.accepted id false) (-1))

theorem moves_of_step (h : s.step listening a = some t) : Moves listening s a t := by
  cases a with
  | connect handshake =>
    rw [step] at h
    split at h
    · next htoken =>
      cases h
      exact .turnAway htoken
    · next htoken =>
      cases h
      exact .letIn htoken
  | authenticate k userId =>
    rw [step] at h
    split at h
    · next hk =>
      split at h
      · cases h
        exact .accept _ hk
      · cases h
        exact .reject hk
    · cases h
  | disconnect k =>
    rw [step] at h
    split at h
    · next hk =>
      cases h
      exact .giveUp hk
    · next hk =>
      cases h
      exact .leave hk
    · cases h

theorem step_counted (h : s.Counted) (hs : s.step listening a = some t) : t.Counted := by
  cases moves_of_step hs with
  | turnAway htoken =>
    refine counted_append h ?_
    cases listening <;> rfl
  | letIn htoken => exact counted_append h (Int.add_zero _).symm
  | @accept k connected id hk =>
    refine counted_put h hk ?_
    cases connected <;> rfl
  | @reject k connected hk =>
    refine counted_put h hk ?_
    cases connected <;> rfl
  | giveUp hk => exact counted_put h hk rfl
  | leave hk => exact counted_put h hk rfl

/-- A step leaves no stranger behind exactly when who leaves in it is known. -/
theorem step_familiar_iff (h : s.Familiar) (hs : s.step listening a = some t) :
    t.Familiar ↔ s.LeavesKnown listening a := by
  cases moves_of_step hs with
  | turnAway htoken =>
    rw [familiar_append, and_iff_right h, LeavesKnown, htoken]
    cases listening <;> decide
  | letIn htoken =>
    rw [familiar_append, and_iff_right h, LeavesKnown, htoken]
    exact iff_of_true rfl fun _ => rfl
  | @accept k connected id hk =>
    rw [familiar_put_iff h hk]
    exact iff_of_true (Bool.and_false _) rfl
  | reject hk =>
    rw [familiar_put_iff h hk]
    exact iff_of_false Bool.noConfusion Bool.noConfusion
  | giveUp hk =>
    rw [familiar_put_iff h hk, LeavesKnown, hk]
    refine iff_of_false Bool.noConfusion fun known => ?_
    cases known _ rfl
  | leave hk =>
    rw [familiar_put_iff h hk, LeavesKnown, hk]
    refine iff_of_true rfl ?_
    rintro socket ⟨⟩
    rfl

/-! ## Every history -/

/-- The gauge is what is claimed of it. -/
def Gauged (s : Connections) : Prop := s.active = s.live ∧ 0 ≤ s.active

theorem Counted.gauged_iff (h : s.Counted) : s.Gauged ↔ s.Familiar := by
  rw [← h.active_eq_live_iff, Gauged]
  refine and_iff_left_of_imp fun same => ?_
  rw [same]
  exact Int.natCast_nonneg _

/-- In every state of a history the gauge is the number of connected authenticated sockets,
exactly when all the sockets for which `handleDisconnect` runs in it have been
authenticated. -/
theorem gauge_live_iff (listening : Bool) (as : List Action) :
    AllSteps (step listening) (fun _ _ t => t.Gauged) start as ↔
      AllSteps (step listening) (fun s a _ => s.LeavesKnown listening a) start as := by
  have one : ∀ (s : Connections) (a : Action) (t : Connections), s.Counted ∧ s.Familiar →
      s.step listening a = some t → (t.Gauged ↔ s.LeavesKnown listening a) := by
    intro s a t ⟨counted, familiar⟩ hs
    rw [(step_counted counted hs).gauged_iff, step_familiar_iff familiar hs]
  refine allSteps_iff one ?_ ⟨rfl, List.forall_mem_nil _⟩
  intro s a t ⟨counted, familiar⟩ gauged hs
  have counts := step_counted counted hs
  exact ⟨counts, counts.gauged_iff.mp gauged⟩

/-- One client with a token that is not valid. -/
def forged : List Action := [.connect ⟨some "forged", none⟩, .authenticate 0 none]

theorem gauge_forged :
    ¬∀ (listening : Bool) (as : List Action) (s : Connections),
      run (step listening) start as = some s → s.Gauged := by
  intro always
  have gauged := always false forged ⟨[.rejected true], -1⟩ rfl
  exact absurd gauged.2 (by decide)

end Connections
end Api
end XStreamRoll
