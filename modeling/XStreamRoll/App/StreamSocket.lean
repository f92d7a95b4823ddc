/-
What `useStreamSocket` shows of a shared socket, and when it reconnects it.

The hooks of one page listen on the sockets that `createStreamSocket` has cached.  A socket
connects and reconnects on its own, except when the server or the client has ended the
connection: then it waits for a call of `connect`.  A hook makes that call from a timer that it
sets when the connection is lost in another way.

Neither a new connection nor the end of one clears the timer of a hook.  Only its clean-up does,
and the timer itself.
-/
import Mathlib.Algebra.Order.Ring.Nat
import Mathlib.Data.List.DropRight
import XStreamRoll.Lists
import XStreamRoll.Time
import XStreamRoll.Transition

namespace XStreamRoll
namespace App

open Transition

def BACKOFF_INITIAL_MS : Nat := 1000

def BACKOFF_MAX_MS : Nat := 30000

def MAX_EVENTS : Nat := 100

/-- The delay before a numbered attempt, from 1 on. -/
def computeBackoff (attempt : Nat) (initial max : Nat) : Nat :=
  if attempt = 0 then 0 else min (initial * 2 ^ (attempt - 1)) max

inductive ConnectionStatus
  | connecting | connected | disconnected | error
  deriving DecidableEq

inductive StreamStatusValue
  | active | inactive | error
  deriving DecidableEq

inductive EventName
  | started | stopped | error
  deriving DecidableEq

def EventName.toString : EventName → String
  | .started => "stream:started"
  | .stopped => "stream:stopped"
  | .error => "stream:error"

/-- The ids as `String` writes them. -/
structure StreamEventPayload where
  streamId : Option String
  id : Option String
  userId : Option String
  startedAt : Option String
  stoppedAt : Option String
  occurredAt : Option String
  reason : Option String
  code : Option String
  message : Option String
  deriving DecidableEq

def StreamEventPayload.stream (payload : StreamEventPayload) : String :=
  (payload.streamId.or payload.id).getD ""

structure StreamEvent where
  id : String
  type : String
  message : String
  timestamp : String
  deriving DecidableEq

/-- An event that a socket delivers, and when. -/
structure Delivery where
  eventName : EventName
  payload : StreamEventPayload
  now : Date
  deriving DecidableEq

def mapPayload (delivery : Delivery) : StreamEvent :=
  let payload := delivery.payload
  { id := delivery.eventName.toString ++ ":" ++ payload.stream ++ ":" ++
      ToString.toString delivery.now.getTime
    type :=
      match delivery.eventName with
      | .started => "started"
      | .stopped => "stopped"
      | .error => "error"
    message :=
      match delivery.eventName with
      | .started => "Stream " ++ payload.stream ++ " started by " ++ payload.userId.getD "unknown"
      | .stopped => "Stream " ++ payload.stream ++ " stopped" ++
          match payload.reason.filter (· ≠ "") with
          | some reason => ": " ++ reason
          | none => ""
      | .error => payload.code.getD "ERROR" ++ ": " ++ payload.message.getD "unknown"
    timestamp :=
      ((payload.startedAt.or payload.stoppedAt).or payload.occurredAt).getD
        delivery.now.toISOString }

/-- What the handler of the event sets `streamStatus` to. -/
def EventName.streamStatus : EventName → StreamStatusValue
  | .started => .active
  | .stopped => .inactive
  | .error => .error

/-- The reasons of a disconnection after which nobody reconnects. -/
def intentional (reason : String) : Bool :=
  reason = "io client disconnect" || reason = "io server disconnect"

/-! ## One hook -/

structure Hook where
  mounted : Bool
  socket : String
  targetStreamId : Option String
  status : ConnectionStatus
  events : List StreamEvent
  streamStatus : Option StreamStatusValue
  attempt : Nat
  /-- when `reconnectTimerRef` is due -/
  timer : Option Nat
  /-- What has been delivered to it. -/
  received : List Delivery
  /-- What of this has come since its effect last ran. -/
  recent : List Delivery
  /-- Its socket has connected since its effect last ran. -/
  greeted : Bool
  deriving DecidableEq

namespace Hook

def matchesTarget (hook : Hook) (payload : StreamEventPayload) : Bool :=
  match hook.targetStreamId with
  | none => true
  | some targetStreamId => payload.stream = targetStreamId

/-- The first run of the effect. -/
def create (socket : String) (targetStreamId : Option String) : Hook where
  mounted := true
  socket := socket
  targetStreamId := targetStreamId
  status := .connecting
  events := []
  streamStatus := none
  attempt := 0
  timer := none
  received := []
  recent := []
  greeted := false

/-- The effect for another address or token, after the clean-up of the run before. -/
def setUp (socket : String) (targetStreamId : Option String) (hook : Hook) : Hook :=
  { hook with
    socket := socket
    targetStreamId := targetStreamId
    status := .connecting
    streamStatus := none
    attempt := 0
    timer := none
    recent := []
    greeted := false }

def cleanUp (hook : Hook) : Hook := { hook with mounted := false, timer := none }

def handleConnect (hook : Hook) : Hook :=
  { hook with attempt := 0, status := .connected, greeted := true }

def handleConnectError (hook : Hook) : Hook := { hook with status := .error }

/-- With the delays that it passes to `setTimeout`. -/
def handleDisconnect (reason : String) (now : Nat) (hook : Hook) : Hook × List Nat :=
  let hook := { hook with status := .disconnected }
  if intentional reason then (hook, [])
  else if hook.timer.isSome then (hook, [])
  else
    let attempt := hook.attempt + 1
    let delay := computeBackoff attempt BACKOFF_INITIAL_MS BACKOFF_MAX_MS
    ({ hook with attempt := attempt, timer := some (now + delay) }, [delay])

/-- `onStarted`, `onStopped` and `onError` -/
def onMessage (delivery : Delivery) (hook : Hook) : Hook :=
  { hook with
    events := (hook.events ++ [mapPayload delivery]).rtake MAX_EVENTS
    streamStatus :=
      if hook.matchesTarget delivery.payload then some delivery.eventName.streamStatus
      else hook.streamStatus
    received := hook.received ++ [delivery]
    recent := hook.recent ++ [delivery] }

/-- It has a listener on the socket. -/
def listens (socket : String) (hook : Hook) : Bool := hook.mounted && hook.socket = socket

end Hook

/-! ## The page -/

/-- One of the sockets of `socketCache`. -/
structure Link where
  connected : Bool
  /-- It is connected or connecting, or will connect without being told to. -/
  active : Bool
  deriving DecidableEq

structure Page where
  now : Nat
  /-- `socketCache` -/
  links : String → Option Link
  hooks : List Hook
  /-- The delays that the hooks have passed to `setTimeout`. -/
  delays : List Nat

namespace Page

inductive Action
  | tick (ms : Nat)
  | mount (socket : String) (targetStreamId : Option String)
  | setUp (k : Nat) (socket : String) (targetStreamId : Option String)
  | unmount (k : Nat)
  | connect (socket : String)
  | connectError (socket : String) (retries : Bool)
  | disconnect (socket reason : String)
  | message (socket : String) (eventName : EventName) (payload : StreamEventPayload)
  | fire (k : Nat)

def initial : Page where
  now := 0
  links _ := none
  hooks := []
  delays := []

def setLink (socket : String) (link : Link) (s : Page) : Page :=
  { s with links := Function.update s.links socket (some link) }

def setHook (k : Nat) (hook : Hook) (s : Page) : Page := { s with hooks := s.hooks.set k hook }

/-- `socket.connected` -/
def connected (socket : String) (s : Page) : Bool := (s.links socket).any (·.connected)

def active (socket : String) (s : Page) : Bool := (s.links socket).any (·.active)

/-- A new socket starts to connect at once. -/
def createStreamSocket (socket : String) (s : Page) : Page :=
  match s.links socket with
  | some _ => s
  | none => s.setLink socket ⟨false, true⟩

/-- The handlers of the hooks that listen on the socket. -/
def emit (socket : String) (handle : Hook → Hook) (s : Page) : Page :=
  { s with hooks := s.hooks.map fun hook => if hook.listens socket then handle hook else hook }

/-- The timers that a lost connection makes the hooks set. -/
def delaysAt (socket reason : String) (s : Page) : List Nat :=
  (s.hooks.filter (·.listens socket)).flatMap fun hook => (hook.handleDisconnect reason s.now).2

/-- The timer of a hook fires. -/
def fired (k : Nat) (hook : Hook) (s : Page) : Page :=
  let t := s.setHook k { hook with timer := none }
  if s.connected hook.socket then t
  -- `socket.connect()`
  else t.setLink hook.socket ⟨false, true⟩

def step (s : Page) : Action → Option Page
  | .tick ms => some { s with now := s.now + ms }
  | .mount socket targetStreamId =>
    let s := s.createStreamSocket socket
    some { s with hooks := s.hooks ++ [Hook.create socket targetStreamId] }
  | .setUp k socket targetStreamId =>
    match s.hooks[k]? with
    | some hook =>
      if hook.mounted then
        some ((s.createStreamSocket socket).setHook k (hook.setUp socket targetStreamId))
      else none
    | none => none
  | .unmount k =>
    match s.hooks[k]? with
    | some hook => if hook.mounted then some (s.setHook k hook.cleanUp) else none
    | none => none
  | .connect socket =>
    if s.active socket ∧ ¬ s.connected socket then
      some ((s.setLink socket ⟨true, true⟩).emit socket Hook.handleConnect)
    else none
  | .connectError socket retries =>
    if s.active socket ∧ ¬ s.connected socket then
      some ((s.setLink socket ⟨false, retries⟩).emit socket Hook.handleConnectError)
    else none
  | .disconnect socket reason =>
    if s.active socket then
      let t := s.setLink socket ⟨false, !intentional reason⟩
      some { t.emit socket fun hook => (hook.handleDisconnect reason s.now).1 with
        delays := s.delays ++ s.delaysAt socket reason }
    else none
  | .message socket eventName payload =>
    if s.connected socket then
      some (s.emit socket (Hook.onMessage ⟨eventName, payload, ⟨s.now⟩⟩))
    else none
  | .fire k =>
    match s.hooks[k]? with
    | some hook =>
      match hook.timer with
      | some due =>
        if due ≤ s.now then some (s.fired k hook) else none
      | none => none
    | none => none

/-! ## What a step makes of a hook -/

variable {s t : Page} {a : Action} {k : Nat} {hook : Hook} {socket : String}

/-- What `hook`, which is number `k` after the step, was before it. -/
inductive Change (s t : Page) (a : Action) (k : Nat) (hook : Hook) : Prop
  | same : s.hooks[k]? = some hook →
      (hook.mounted = true → t.connected hook.socket = s.connected hook.socket) → Change s t a k hook
  | created (socket : String) (targetStreamId : Option String) :
      hook = Hook.create socket targetStreamId → Change s t a k hook
  | setUp (old : Hook) (socket : String) (targetStreamId : Option String) :
      s.hooks[k]? = some old → hook = old.setUp socket targetStreamId → Change s t a k hook
  | cleanedUp (old : Hook) : s.hooks[k]? = some old → hook = old.cleanUp → Change s t a k hook
  | connected (old : Hook) : s.hooks[k]? = some old → hook = old.handleConnect →
      t.connected old.socket = true → Change s t a k hook
  | refused (old : Hook) : s.hooks[k]? = some old → hook = old.handleConnectError →
      t.connected old.socket = false → Change s t a k hook
  | lost (old : Hook) (reason : String) : s.hooks[k]? = some old → old.mounted = true →
      a = .disconnect old.socket reason → hook = (old.handleDisconnect reason s.now).1 →
      t.connected old.socket = false → Change s t a k hook
  | heard (old : Hook) (delivery : Delivery) : s.hooks[k]? = some old →
      hook = old.onMessage delivery → t.connected old.socket = s.connected old.socket →
      Change s t a k hook
  | fired (old : Hook) : s.hooks[k]? = some old → a = .fire k → old.timer.isSome = true →
      hook = { old with timer := none } → t.connected old.socket = s.connected old.socket →
      Change s t a k hook

theorem connected_setLink_same (link : Link) :
    (s.setLink socket link).connected socket = link.connected := by
  simp [connected, setLink]

theorem connected_setLink_of_ne {other : String} (h : other ≠ socket) (link : Link) :
    (s.setLink socket link).connected other = s.connected other := by
  simp [connected, setLink, Function.update_of_ne h]

theorem connected_setLink_eq {link : Link} (h : link.connected = s.connected socket)
    (other : String) : (s.setLink socket link).connected other = s.connected other := by
  by_cases same : other = socket
  · rw [same, connected_setLink_same, h]
  · exact connected_setLink_of_ne same link

theorem connected_createStreamSocket (other : String) :
    (s.createStreamSocket socket).connected other = s.connected other := by
  unfold createStreamSocket
  split
  · rfl
  · next fresh => exact connected_setLink_eq (by simp [connected, fresh]) other

theorem createStreamSocket_hooks : (s.createStreamSocket socket).hooks = s.hooks := by
  unfold createStreamSocket
  split <;> rfl

theorem createStreamSocket_now : (s.createStreamSocket socket).now = s.now := by
  unfold createStreamSocket
  split <;> rfl

theorem createStreamSocket_delays : (s.createStreamSocket socket).delays = s.delays := by
  unfold createStreamSocket
  split <;> rfl

theorem listens_iff : hook.listens socket = true ↔ hook.mounted = true ∧ hook.socket = socket := by
  simp [Hook.listens]

/-- A hook after an event of a socket. -/
theorem getElem?_emit {handle : Hook → Hook} (h : (s.emit socket handle).hooks[k]? = some hook) :
    (∃ old, s.hooks[k]? = some old ∧ old.mounted = true ∧ old.socket = socket ∧
      hook = handle old) ∨
    (s.hooks[k]? = some hook ∧ (hook.mounted = true → hook.socket ≠ socket)) := by
  rw [emit, List.getElem?_map, Option.map_eq_some_iff] at h
  obtain ⟨old, hold, rfl⟩ := h
  by_cases listening : old.listens socket = true
  · obtain ⟨mounted, same⟩ := listens_iff.mp listening
    rw [if_pos listening]
    exact .inl ⟨old, hold, mounted, same, rfl⟩
  · rw [if_neg listening]
    exact .inr ⟨hold, fun mounted same => listening (listens_iff.mpr ⟨mounted, same⟩)⟩

theorem getElem?_setHook {j : Nat} {new : Hook} (h : (s.setHook j new).hooks[k]? = some hook) :
    s.hooks[k]? = some hook ∨ (j = k ∧ hook = new) := by
  rcases getElem?_set_or h with ⟨_, old⟩ | new
  · exact .inl old
  · exact .inr new

theorem step_setUp {j : Nat} {targetStreamId : Option String}
    (h : s.step (.setUp j socket targetStreamId) = some t) :
    ∃ old, s.hooks[j]? = some old ∧ old.mounted = true ∧
      t = (s.createStreamSocket socket).setHook j (old.setUp socket targetStreamId) := by
  dsimp only [step] at h
  cases hj : s.hooks[j]? with
  | none => simp [hj] at h
  | some old =>
    simp only [hj, Option.ite_none_right_eq_some, Option.some.injEq] at h
    exact ⟨old, rfl, h.1, h.2.symm⟩

theorem step_unmount {j : Nat} (h : s.step (.unmount j) = some t) :
    ∃ old, s.hooks[j]? = some old ∧ old.mounted = true ∧ t = s.setHook j old.cleanUp := by
  dsimp only [step] at h
  cases hj : s.hooks[j]? with
  | none => simp [hj] at h
  | some old =>
    simp only [hj, Option.ite_none_right_eq_some, Option.some.injEq] at h
    exact ⟨old, rfl, h.1, h.2.symm⟩

theorem step_fire {j : Nat} (h : s.step (.fire j) = some t) :
    ∃ old due, s.hooks[j]? = some old ∧ old.timer = some due ∧ due ≤ s.now ∧
      t = s.fired j old := by
  dsimp only [step] at h
  cases hj : s.hooks[j]? with
  | none => simp [hj] at h
  | some old =>
    cases htimer : old.timer with
    | none => simp [hj, htimer] at h
    | some due =>
      simp only [hj, htimer, Option.ite_none_right_eq_some, Option.some.injEq] at h
      exact ⟨old, due, rfl, htimer, h.1, h.2.symm⟩

theorem connected_fired {j : Nat} {old : Hook} (other : String) :
    (s.fired j old).connected other = s.connected other := by
  unfold fired
  dsimp only
  split
  · rfl
  · next down => exact connected_setLink_eq (Bool.eq_false_iff.mpr down).symm other

theorem fired_hooks {j : Nat} {old : Hook} :
    (s.fired j old).hooks = s.hooks.set j { old with timer := none } := by
  unfold fired
  dsimp only
  split <;> rfl

theorem fired_now {j : Nat} {old : Hook} : (s.fired j old).now = s.now := by
  unfold fired
  dsimp only
  split <;> rfl

theorem fired_delays {j : Nat} {old : Hook} : (s.fired j old).delays = s.delays := by
  unfold fired
  dsimp only
  split <;> rfl

theorem step_change (h : s.step a = some t) (hk : t.hooks[k]? = some hook) :
    Change s t a k hook := by
  cases a with
  | tick ms =>
    obtain rfl := Option.some.inj h
    exact .same hk fun _ => rfl
  | mount socket targetStreamId =>
    obtain rfl := Option.some.inj h
    rcases getElem?_concat_or hk with old | new
    · rw [createStreamSocket_hooks] at old
      exact .same old fun _ => connected_createStreamSocket hook.socket
    · exact .created socket targetStreamId new
  | setUp j socket targetStreamId =>
    obtain ⟨old, hj, _, rfl⟩ := step_setUp h
    rcases getElem?_setHook hk with other | ⟨rfl, new⟩
    · rw [createStreamSocket_hooks] at other
      exact .same other fun _ => connected_createStreamSocket hook.socket
    · exact .setUp old socket targetStreamId hj new
  | unmount j =>
    obtain ⟨old, hj, _, rfl⟩ := step_unmount h
    rcases getElem?_setHook hk with other | ⟨rfl, new⟩
    · exact .same other fun _ => rfl
    · exact .cleanedUp old hj new
  | connect socket =>
    simp only [step, Option.ite_none_right_eq_some, Option.some.injEq] at h
    obtain ⟨_, rfl⟩ := h
    rcases getElem?_emit hk with ⟨old, hold, _, rfl, new⟩ | ⟨other, apart⟩
    · exact .connected old hold new (connected_setLink_same _)
    · exact .same other fun mounted => connected_setLink_of_ne (apart mounted) _
  | connectError socket retries =>
    simp only [step, Option.ite_none_right_eq_some, Option.some.injEq] at h
    obtain ⟨_, rfl⟩ := h
    rcases getElem?_emit hk with ⟨old, hold, _, rfl, new⟩ | ⟨other, apart⟩
    · exact .refused old hold new (connected_setLink_same _)
    · exact .same other fun mounted => connected_setLink_of_ne (apart mounted) _
  | disconnect socket reason =>
    simp only [step, Option.ite_none_right_eq_some, Option.some.injEq] at h
    obtain ⟨_, rfl⟩ := h
    rcases getElem?_emit hk with ⟨old, hold, mounted, rfl, new⟩ | ⟨other, apart⟩
    · exact .lost old reason hold mounted rfl new (connected_setLink_same _)
    · exact .same other fun mounted => connected_setLink_of_ne (apart mounted) _
  | message socket eventName payload =>
    simp only [step, Option.ite_none_right_eq_some, Option.some.injEq] at h
    obtain ⟨_, rfl⟩ := h
    rcases getElem?_emit hk with ⟨old, hold, _, rfl, new⟩ | ⟨other, _⟩
    · exact .heard old _ hold new rfl
    · exact .same other fun _ => rfl
  | fire j =>
    obtain ⟨old, due, hj, htimer, _, rfl⟩ := step_fire h
    rw [fired_hooks] at hk
    rcases getElem?_setHook (s := s) hk with other | ⟨rfl, new⟩
    · exact .same other fun _ => connected_fired hook.socket
    · exact .fired old hj rfl (by rw [htimer]; rfl) new (connected_fired old.socket)

/-! ## What a hook shows -/

theorem rtake_concat_rtake {α : Type*} (l : List α) (x : α) (n : Nat) :
    (l.rtake (n + 1) ++ [x]).rtake (n + 1) = (l ++ [x]).rtake (n + 1) := by
  rw [List.rtake_concat_succ, List.rtake_concat_succ]
  simp only [List.rtake_eq_reverse_take_reverse, List.reverse_reverse, List.take_take,
    Nat.min_eq_left (Nat.le_succ n)]

/-- What `useStreamSocket` returns, in terms of what has been delivered and of its socket. -/
structure Shown (s : Page) (hook : Hook) : Prop where
  events : hook.events = (hook.received.map mapPayload).rtake MAX_EVENTS
  /-- the last event of its stream since its effect last ran -/
  streamStatus : hook.streamStatus =
    ((hook.recent.filter fun delivery => hook.matchesTarget delivery.payload).getLast?).map
      fun delivery => delivery.eventName.streamStatus
  /-- It says `connected` when it has seen its socket connect. -/
  connected : hook.mounted = true →
    (hook.status = .connected ↔ s.connected hook.socket = true ∧ hook.greeted = true)
  lost : hook.mounted = true → hook.status = .disconnected ∨ hook.status = .error →
    s.connected hook.socket = false

theorem Shown.congr (h : s.Shown hook)
    (same : hook.mounted = true → t.connected hook.socket = s.connected hook.socket) :
    t.Shown hook where
  events := h.events
  streamStatus := h.streamStatus
  connected mounted := by rw [same mounted]; exact h.connected mounted
  lost mounted := by rw [same mounted]; exact h.lost mounted

theorem shown_create (t : Page) (socket : String) (targetStreamId : Option String) :
    t.Shown (Hook.create socket targetStreamId) where
  events := rfl
  streamStatus := rfl
  connected _ := by simp [Hook.create]
  lost _ := by simp [Hook.create]

theorem Shown.setUp (h : s.Shown hook) (t : Page) (socket : String)
    (targetStreamId : Option String) : t.Shown (hook.setUp socket targetStreamId) where
  events := h.events
  streamStatus := rfl
  connected _ := by simp [Hook.setUp]
  lost _ := by simp [Hook.setUp]

theorem Shown.cleanUp (h : s.Shown hook) (t : Page) : t.Shown hook.cleanUp where
  events := h.events
  streamStatus := h.streamStatus
  connected mounted := by cases mounted
  lost mounted := by cases mounted

theorem Shown.handleConnect (h : s.Shown hook) (up : t.connected hook.socket = true) :
    t.Shown hook.handleConnect where
  events := h.events
  streamStatus := h.streamStatus
  connected _ := by simp [Hook.handleConnect, up]
  lost _ := by simp [Hook.handleConnect]

theorem Shown.handleConnectError (h : s.Shown hook) (down : t.connected hook.socket = false) :
    t.Shown hook.handleConnectError where
  events := h.events
  streamStatus := h.streamStatus
  connected _ := by simp [Hook.handleConnectError, down]
  lost _ _ := down

/-- What `handleDisconnect` changes. -/
theorem handleDisconnect_keeps (reason : String) (now : Nat) (hook : Hook) :
    ∃ attempt timer, (hook.handleDisconnect reason now).1 =
      { hook with status := .disconnected, attempt := attempt, timer := timer } := by
  unfold Hook.handleDisconnect
  dsimp only
  split
  · exact ⟨hook.attempt, hook.timer, rfl⟩
  · split
    · exact ⟨hook.attempt, hook.timer, rfl⟩
    · exact ⟨_, _, rfl⟩

theorem Shown.handleDisconnect (h : s.Shown hook) (reason : String) (now : Nat)
    (down : t.connected hook.socket = false) :
    t.Shown (hook.handleDisconnect reason now).1 := by
  obtain ⟨attempt, timer, changed⟩ := handleDisconnect_keeps reason now hook
  rw [changed]
  exact {
    events := h.events
    streamStatus := h.streamStatus
    connected := fun _ => by simp [down]
    lost := fun _ _ => down }

theorem Shown.onMessage (h : s.Shown hook) (delivery : Delivery)
    (same : t.connected hook.socket = s.connected hook.socket) :
    t.Shown (hook.onMessage delivery) where
  events := by
    show (hook.events ++ [mapPayload delivery]).rtake MAX_EVENTS =
      ((hook.received ++ [delivery]).map mapPayload).rtake MAX_EVENTS
    rw [h.events, List.map_append, List.map_singleton]
    exact rtake_concat_rtake (hook.received.map mapPayload) (mapPayload delivery) 99
  streamStatus := by
    show (if hook.matchesTarget delivery.payload then some delivery.eventName.streamStatus
      else hook.streamStatus) = (((hook.recent ++ [delivery]).filter
        fun delivery => hook.matchesTarget delivery.payload).getLast?).map
          fun delivery => delivery.eventName.streamStatus
    rw [List.filter_append, List.filter_singleton, h.streamStatus]
    cases hook.matchesTarget delivery.payload with
    | true =>
      rw [if_pos rfl, cond_true, List.getLast?_concat]
      rfl
    | false => rw [if_neg Bool.false_ne_true, cond_false, List.append_nil]
  connected := (h.congr fun _ => same).connected
  lost := (h.congr fun _ => same).lost

theorem shown_step (h : ∀ hook ∈ s.hooks, s.Shown hook) (hst : s.step a = some t) :
    ∀ hook ∈ t.hooks, t.Shown hook := by
  intro hook hmem
  obtain ⟨k, hk⟩ := List.mem_iff_getElem?.mp hmem
  cases step_change hst hk with
  | same hold links => exact (h hook (List.mem_of_getElem? hold)).congr links
  | created socket targetStreamId new => exact new ▸ shown_create t socket targetStreamId
  | setUp old socket targetStreamId hold new =>
    exact new ▸ (h old (List.mem_of_getElem? hold)).setUp t socket targetStreamId
  | cleanedUp old hold new => exact new ▸ (h old (List.mem_of_getElem? hold)).cleanUp t
  | connected old hold new up => exact new ▸ (h old (List.mem_of_getElem? hold)).handleConnect up
  | refused old hold new down =>
    exact new ▸ (h old (List.mem_of_getElem? hold)).handleConnectError down
  | lost old reason hold _ _ new down =>
    exact new ▸ (h old (List.mem_of_getElem? hold)).handleDisconnect reason s.now down
  | heard old delivery hold new same =>
    exact new ▸ (h old (List.mem_of_getElem? hold)).onMessage delivery same
  | fired old hold _ _ new same =>
    have keeps := (h old (List.mem_of_getElem? hold)).congr fun _ => same
    rw [new]
    exact ⟨keeps.events, keeps.streamStatus, keeps.connected, keeps.lost⟩

/-- Whatever the sockets do, and however the hooks come, move and go: a hook shows the last hundred
events that it has been sent, the status that the last event of its stream has told since its effect
last ran, and `connected` if it has seen its socket connect and the socket still is. -/
theorem hooks_show {as : List Action} (h : run step initial as = some s) :
    ∀ hook ∈ s.hooks, s.Shown hook :=
  run_invariant (fun _ _ _ hshown hst => shown_step hshown hst)
    (fun _ hmem => absurd hmem List.not_mem_nil) h

/-- A socket that reconnects after a lost connection and is then sent away by the server, before
the timer of the first connection's loss has fired. -/
def sentAwayEarly : List Action :=
  let payload : StreamEventPayload :=
    ⟨some "42", none, some "7", none, none, none, none, none, none⟩
  [.mount "/streams" (some "42"), .connect "/streams", .mount "/streams" (some "8"),
    .message "/streams" .started payload, .disconnect "/streams" "transport close",
    .connect "/streams", .disconnect "/streams" "io server disconnect", .tick 1000, .fire 0,
    .connect "/streams"]

/-- A hook that comes to a connected socket says that it is connecting. -/
theorem hooks_show_late : ∃ s, run step initial (sentAwayEarly.take 4) = some s ∧
    s.connected "/streams" = true ∧
    (∀ hook ∈ s.hooks, s.Shown hook) ∧
    s.hooks.map (·.status) = [.connected, .connecting] ∧
    s.hooks.map (·.streamStatus) = [some .active, none] := by
  have ends : ∃ s, run step initial (sentAwayEarly.take 4) = some s ∧
      s.connected "/streams" = true ∧
      s.hooks.map (·.status) = [.connected, .connecting] ∧
      s.hooks.map (·.streamStatus) = [some .active, none] :=
    ⟨_, rfl, rfl, rfl, rfl⟩
  obtain ⟨s, h, up, statuses, streamStatuses⟩ := ends
  exact ⟨s, h, up, hooks_show h, statuses, streamStatuses⟩

/-! ## The delays -/

theorem computeBackoff_bounds (n : Nat) :
    BACKOFF_INITIAL_MS ≤ computeBackoff (n + 1) BACKOFF_INITIAL_MS BACKOFF_MAX_MS ∧
      computeBackoff (n + 1) BACKOFF_INITIAL_MS BACKOFF_MAX_MS ≤ BACKOFF_MAX_MS := by
  rw [computeBackoff, if_neg (Nat.succ_ne_zero n)]
  refine ⟨Nat.le_min.mpr ⟨?_, by decide⟩, Nat.min_le_right _ _⟩
  exact Nat.le_mul_of_pos_right _ (Nat.two_pow_pos _)

/-- What `handleDisconnect` does to the timer. -/
theorem handleDisconnect_timer (reason : String) (now : Nat) (hook : Hook) :
    ((hook.handleDisconnect reason now).1.attempt = hook.attempt ∧
      (hook.handleDisconnect reason now).1.timer = hook.timer ∧
      (hook.handleDisconnect reason now).2 = []) ∨
    (intentional reason = false ∧ hook.timer = none ∧
      (hook.handleDisconnect reason now).1.attempt = hook.attempt + 1 ∧
      (hook.handleDisconnect reason now).1.timer =
        some (now + computeBackoff (hook.attempt + 1) BACKOFF_INITIAL_MS BACKOFF_MAX_MS) ∧
      (hook.handleDisconnect reason now).2 =
        [computeBackoff (hook.attempt + 1) BACKOFF_INITIAL_MS BACKOFF_MAX_MS]) := by
  unfold Hook.handleDisconnect
  dsimp only
  split
  · exact .inl ⟨rfl, rfl, rfl⟩
  · next dropped =>
    split
    · exact .inl ⟨rfl, rfl, rfl⟩
    · next idle =>
      exact .inr ⟨Bool.eq_false_iff.mpr dropped, by simpa using idle, rfl, rfl, rfl⟩

theorem step_now (h : s.step a = some t) : s.now ≤ t.now := by
  cases a with
  | tick ms =>
    obtain rfl := Option.some.inj h
    exact Nat.le_add_right s.now ms
  | mount socket targetStreamId =>
    obtain rfl := Option.some.inj h
    exact Nat.le_of_eq createStreamSocket_now.symm
  | setUp j socket targetStreamId =>
    obtain ⟨old, _, _, rfl⟩ := step_setUp h
    exact Nat.le_of_eq createStreamSocket_now.symm
  | unmount j =>
    obtain ⟨old, _, _, rfl⟩ := step_unmount h
    exact Nat.le_refl s.now
  | connect socket | connectError socket retries | disconnect socket reason
  | message socket eventName payload =>
    simp only [step, Option.ite_none_right_eq_some, Option.some.injEq] at h
    obtain ⟨_, rfl⟩ := h
    exact Nat.le_refl s.now
  | fire j =>
    obtain ⟨old, due, _, _, _, rfl⟩ := step_fire h
    exact Nat.le_of_eq fired_now.symm

/-- Only a lost connection adds to the delays. -/
theorem step_delays (h : s.step a = some t) : t.delays = s.delays ∨
    ∃ socket reason, a = .disconnect socket reason ∧
      t.delays = s.delays ++ s.delaysAt socket reason := by
  cases a with
  | mount socket targetStreamId =>
    obtain rfl := Option.some.inj h
    exact .inl createStreamSocket_delays
  | setUp j socket targetStreamId =>
    obtain ⟨old, _, _, rfl⟩ := step_setUp h
    exact .inl createStreamSocket_delays
  | unmount j =>
    obtain ⟨old, _, _, rfl⟩ := step_unmount h
    exact .inl rfl
  | tick ms =>
    obtain rfl := Option.some.inj h
    exact .inl rfl
  | connect socket | connectError socket retries | message socket eventName payload =>
    simp only [step, Option.ite_none_right_eq_some, Option.some.injEq] at h
    obtain ⟨_, rfl⟩ := h
    exact .inl rfl
  | disconnect socket reason =>
    simp only [step, Option.ite_none_right_eq_some, Option.some.injEq] at h
    obtain ⟨_, rfl⟩ := h
    exact .inr ⟨socket, reason, rfl, rfl⟩
  | fire j =>
    obtain ⟨old, due, _, _, _, rfl⟩ := step_fire h
    exact .inl fired_delays

/-- A timer belongs to a hook that is mounted, and is due soon. -/
structure Armed (s : Page) (hook : Hook) : Prop where
  mounted : hook.timer.isSome = true → hook.mounted = true
  soon : ∀ due, hook.timer = some due → due ≤ s.now + BACKOFF_MAX_MS

theorem Armed.of_timer {old new : Hook} (h : s.Armed old) (le : s.now ≤ t.now)
    (timer : new.timer = old.timer) (mounted : new.mounted = old.mounted) : t.Armed new where
  mounted set := by
    rw [mounted]
    exact h.mounted (timer ▸ set)
  soon due hdue := by
    have hle : due ≤ s.now + BACKOFF_MAX_MS := h.soon due (timer ▸ hdue)
    omega

theorem armed_of_none (t : Page) (timer : hook.timer = none) : t.Armed hook where
  mounted set := by rw [timer] at set; cases set
  soon due hdue := by rw [timer] at hdue; cases hdue

theorem Armed.handleDisconnect (h : s.Armed hook) (le : s.now ≤ t.now)
    (mounted : hook.mounted = true) (reason : String) :
    t.Armed (hook.handleDisconnect reason s.now).1 := by
  obtain ⟨attempt, timer, changed⟩ := handleDisconnect_keeps reason s.now hook
  have stays : (hook.handleDisconnect reason s.now).1.mounted = hook.mounted := by rw [changed]
  rcases handleDisconnect_timer reason s.now hook with ⟨_, kept, _⟩ | ⟨_, _, _, set, _⟩
  · exact h.of_timer le kept stays
  · refine ⟨fun _ => stays.trans mounted, fun due hdue => ?_⟩
    rw [set, Option.some.injEq] at hdue
    have := (computeBackoff_bounds hook.attempt).2
    omega

theorem armed_step (h : ∀ hook ∈ s.hooks, s.Armed hook) (hst : s.step a = some t) :
    ∀ hook ∈ t.hooks, t.Armed hook := by
  intro hook hmem
  obtain ⟨k, hk⟩ := List.mem_iff_getElem?.mp hmem
  have le : s.now ≤ t.now := step_now hst
  cases step_change hst hk with
  | same hold _ => exact (h hook (List.mem_of_getElem? hold)).of_timer le rfl rfl
  | created socket targetStreamId new => exact armed_of_none t (by rw [new]; rfl)
  | setUp old socket targetStreamId _ new => exact armed_of_none t (by rw [new]; rfl)
  | cleanedUp old _ new => exact armed_of_none t (by rw [new]; rfl)
  | connected old hold new _ | refused old hold new _ | heard old _ hold new _ =>
    rw [new]
    exact (h old (List.mem_of_getElem? hold)).of_timer le rfl rfl
  | lost old reason hold mounted _ new _ =>
    rw [new]
    exact (h old (List.mem_of_getElem? hold)).handleDisconnect le mounted reason
  | fired old _ _ _ new _ => exact armed_of_none t (by rw [new])

theorem run_armed {as : List Action} (h : run step initial as = some s) :
    ∀ hook ∈ s.hooks, s.Armed hook :=
  run_invariant (fun _ _ _ harmed hst => armed_step harmed hst)
    (fun _ hmem => absurd hmem List.not_mem_nil) h

/-- A socket loses a connection that it had. -/
def InTurn (s : Page) : Action → Prop
  | .disconnect socket _ => s.connected socket = true
  | _ => True

instance (s : Page) (a : Action) : Decidable (s.InTurn a) := by
  cases a <;> unfold InTurn <;> infer_instance

/-- A hook that listens on a connected socket counts from the beginning, and none has ever waited
longer than for a first attempt. -/
structure Unhurried (s : Page) : Prop where
  attempts : ∀ hook ∈ s.hooks, hook.mounted = true → s.connected hook.socket = true →
    hook.attempt = 0
  delays : ∀ delay ∈ s.delays, delay = BACKOFF_INITIAL_MS

theorem attempt_step (h : s.Unhurried) (hst : s.step a = some t) :
    ∀ hook ∈ t.hooks, hook.mounted = true → t.connected hook.socket = true →
      hook.attempt = 0 := by
  intro hook hmem mounted up
  obtain ⟨k, hk⟩ := List.mem_iff_getElem?.mp hmem
  cases step_change hst hk with
  | same hold links =>
    exact h.attempts hook (List.mem_of_getElem? hold) mounted ((links mounted).symm.trans up)
  | created socket targetStreamId new => rw [new]; rfl
  | setUp old socket targetStreamId _ new => rw [new]; rfl
  | cleanedUp old _ new =>
    rw [new] at mounted
    cases mounted
  | connected old _ new _ => rw [new]; rfl
  | refused old _ new down =>
    rw [new] at up
    exact absurd (down.symm.trans up) Bool.false_ne_true
  | lost old reason _ _ _ new down =>
    obtain ⟨attempt, timer, changed⟩ := handleDisconnect_keeps reason s.now old
    rw [new, changed] at up
    exact absurd (down.symm.trans up) Bool.false_ne_true
  | heard old delivery hold new same =>
    subst new
    exact h.attempts old (List.mem_of_getElem? hold) mounted (same.symm.trans up)
  | fired old hold _ _ new same =>
    subst new
    exact h.attempts old (List.mem_of_getElem? hold) mounted (same.symm.trans up)

theorem delaysAt_initial (h : s.Unhurried) (up : s.connected socket = true) (reason : String) :
    ∀ delay ∈ s.delaysAt socket reason, delay = BACKOFF_INITIAL_MS := by
  intro delay hmem
  obtain ⟨hook, hfilter, hdelay⟩ := List.mem_flatMap.mp hmem
  obtain ⟨hhook, listening⟩ := List.mem_filter.mp hfilter
  obtain ⟨mounted, same⟩ := listens_iff.mp listening
  have first : hook.attempt = 0 := h.attempts hook hhook mounted (same ▸ up)
  rcases handleDisconnect_timer reason s.now hook with ⟨_, _, none⟩ | ⟨_, _, _, _, one⟩
  · rw [none] at hdelay
    exact absurd hdelay List.not_mem_nil
  · rw [one, first, List.mem_singleton] at hdelay
    exact hdelay

theorem unhurried_step (h : s.Unhurried) (inTurn : s.InTurn a) (hst : s.step a = some t) :
    t.Unhurried := by
  refine ⟨attempt_step h hst, fun delay hdelay => ?_⟩
  rcases step_delays hst with same | ⟨socket, reason, rfl, more⟩
  · exact h.delays delay (same ▸ hdelay)
  · rw [more] at hdelay
    rcases List.mem_append.mp hdelay with old | new
    · exact h.delays delay old
    · exact delaysAt_initial h inTurn reason delay new

/-- As long as sockets lose only connections that they had, the schedule of delays never gets past
its first entry: a hook whose socket reconnects and is dropped again, however often, retries after
`BACKOFF_INITIAL_MS` each time. -/
theorem delays_initial {as : List Action}
    (inTurn : AllSteps step (fun s a _ => s.InTurn a) initial as)
    (h : run step initial as = some s) : ∀ delay ∈ s.delays, delay = BACKOFF_INITIAL_MS := by
  have start : initial.Unhurried :=
    ⟨fun _ hmem => absurd hmem List.not_mem_nil, fun _ hmem => absurd hmem List.not_mem_nil⟩
  refine (AllSteps.invariant (I := Unhurried) ?_ start inTurn h).delays
  exact fun _ _ _ unhurried inTurn hst => unhurried_step unhurried inTurn hst

theorem delays_initial_early : ∃ s, run step initial sentAwayEarly = some s ∧
    s.delays.length = 2 ∧ ∀ delay ∈ s.delays, delay = BACKOFF_INITIAL_MS := by
  have ends : ∃ s, run step initial sentAwayEarly = some s ∧ s.delays.length = 2 :=
    ⟨_, rfl, rfl⟩
  obtain ⟨s, h, two⟩ := ends
  exact ⟨s, h, two, delays_initial (by decide) h⟩

/-! ## A socket that has been sent away -/

/-- The socket is waiting for a call of `connect`. -/
def SentAway (socket : String) (s : Page) : Prop := s.links socket = some ⟨false, false⟩

/-- The timer of hook number `k` is going to find the socket. -/
def Pending (socket : String) (k : Nat) (s : Page) : Prop :=
  ∃ hook, s.hooks[k]? = some hook ∧ hook.socket = socket ∧ hook.timer.isSome = true

theorem SentAway.idle (h : s.SentAway socket) : s.active socket = false := by
  rw [active, h]
  rfl

theorem SentAway.down (h : s.SentAway socket) : s.connected socket = false := by
  rw [connected, h]
  rfl

theorem links_createStreamSocket {other : String} (h : s.SentAway socket) :
    (s.createStreamSocket other).links socket = s.links socket := by
  unfold createStreamSocket
  split
  · rfl
  · next fresh =>
    have apart : socket ≠ other := by
      rintro rfl
      cases h.symm.trans fresh
    exact Function.update_of_ne apart ..

theorem step_sentAway_links (h : s.SentAway socket) (hst : s.step a = some t) :
    t.links socket = s.links socket ∨ ∃ k, a = .fire k ∧ s.Pending socket k := by
  have apart {other : String} (active : s.active other = true) : socket ≠ other :=
    fun same => absurd (h.idle.symm.trans (same ▸ active)) Bool.false_ne_true
  cases a with
  | tick ms =>
    obtain rfl := Option.some.inj hst
    exact .inl rfl
  | mount other targetStreamId =>
    obtain rfl := Option.some.inj hst
    exact .inl (links_createStreamSocket h)
  | setUp j other targetStreamId =>
    obtain ⟨old, _, _, rfl⟩ := step_setUp hst
    exact .inl (links_createStreamSocket h)
  | unmount j =>
    obtain ⟨old, _, _, rfl⟩ := step_unmount hst
    exact .inl rfl
  | connect other | connectError other retries =>
    simp only [step, Option.ite_none_right_eq_some, Option.some.injEq] at hst
    obtain ⟨⟨active, _⟩, rfl⟩ := hst
    exact .inl (Function.update_of_ne (apart active) ..)
  | disconnect other reason =>
    simp only [step, Option.ite_none_right_eq_some, Option.some.injEq] at hst
    obtain ⟨active, rfl⟩ := hst
    exact .inl (Function.update_of_ne (apart active) ..)
  | message other eventName payload =>
    simp only [step, Option.ite_none_right_eq_some, Option.some.injEq] at hst
    obtain ⟨_, rfl⟩ := hst
    exact .inl rfl
  | fire k =>
    obtain ⟨old, due, hk, htimer, _, rfl⟩ := step_fire hst
    by_cases same : socket = old.socket
    · exact .inr ⟨k, rfl, old, hk, same.symm, by rw [htimer]; rfl⟩
    · refine .inl ?_
      unfold fired
      dsimp only
      split
      · rfl
      · exact Function.update_of_ne same ..

/-- Only a connection that is lost unintentionally makes hooks set timers for the socket. -/
theorem step_pending (hst : s.step a = some t)
    (quiet : ∀ reason, a = .disconnect socket reason → intentional reason = true)
    (pending : t.Pending socket k) : s.Pending socket k := by
  obtain ⟨hook, hk, hsocket, set⟩ := pending
  cases step_change hst hk with
  | same hold _ => exact ⟨hook, hold, hsocket, set⟩
  | created other targetStreamId new => rw [new] at set; cases set
  | setUp old other targetStreamId _ new => rw [new] at set; cases set
  | cleanedUp old _ new => rw [new] at set; cases set
  | connected old hold new _ | refused old hold new _ | heard old _ hold new _ =>
    subst new
    exact ⟨old, hold, hsocket, set⟩
  | lost old reason hold _ ha new _ =>
    have same : old.socket = socket := by
      obtain ⟨attempt, timer, changed⟩ := handleDisconnect_keeps reason s.now old
      rw [new, changed] at hsocket
      exact hsocket
    rw [new] at set
    rcases handleDisconnect_timer reason s.now old with ⟨_, kept, _⟩ | ⟨dropped, _⟩
    · exact ⟨old, hold, same, kept ▸ set⟩
    · exact absurd (dropped.symm.trans (quiet reason (same ▸ ha))) Bool.false_ne_true
  | fired old _ _ _ new _ => rw [new] at set; cases set

theorem SentAway.quiet (h : s.SentAway socket) (hst : s.step a = some t) (reason : String)
    (ha : a = .disconnect socket reason) : intentional reason = true := by
  subst ha
  simp [step, h.idle] at hst

theorem run_sentAway {as : List Action} (h : s.SentAway socket) (hrun : run step s as = some t) :
    t.SentAway socket ∨ ∃ k, s.Pending socket k ∧ .fire k ∈ as := by
  induction as generalizing s with
  | nil =>
    rw [run_nil, Option.some.injEq] at hrun
    exact .inl (hrun ▸ h)
  | cons a as ih =>
    obtain ⟨r, hst, hrest⟩ := run_cons_eq_some.mp hrun
    rcases step_sentAway_links h hst with same | ⟨k, rfl, pending⟩
    · rcases ih (same.trans h) hrest with away | ⟨k, pending, hmem⟩
      · exact .inl away
      · exact .inr ⟨k, step_pending hst (h.quiet hst) pending, List.mem_cons_of_mem a hmem⟩
    · exact .inr ⟨k, pending, List.mem_cons_self⟩

/-- A socket that somebody has disconnected on purpose comes back only when a timer fires that was
set before, and that was due within the longest delay from then. -/
theorem revived {before after : List Action} {reason : String} {r : Page}
    (hbefore : run step initial before = some s)
    (sent : s.step (.disconnect socket reason) = some r) (onPurpose : intentional reason = true)
    (hafter : run step r after = some t) (back : t.connected socket = true) :
    ∃ k hook due, s.hooks[k]? = some hook ∧ hook.mounted = true ∧ hook.socket = socket ∧
      hook.timer = some due ∧ due ≤ s.now + BACKOFF_MAX_MS ∧ .fire k ∈ after := by
  have away : r.SentAway socket := by
    simp only [step, Option.ite_none_right_eq_some, Option.some.injEq, onPurpose] at sent
    obtain ⟨_, rfl⟩ := sent
    exact Function.update_self ..
  rcases run_sentAway away hafter with still | ⟨k, pending, hmem⟩
  · exact absurd (still.down.symm.trans back) Bool.false_ne_true
  · have quiet : ∀ reason', Action.disconnect socket reason = .disconnect socket reason' →
        intentional reason' = true := by
      rintro _ ⟨⟩
      exact onPurpose
    obtain ⟨hook, hk, hsocket, set⟩ := step_pending sent quiet pending
    have armed : s.Armed hook := run_armed hbefore hook (List.mem_of_getElem? hk)
    obtain ⟨due, hdue⟩ := Option.isSome_iff_exists.mp set
    exact ⟨k, hook, due, hk, armed.mounted set, hsocket, hdue, armed.soon due hdue, hmem⟩

theorem revived_early : ∃ s t, run step initial (sentAwayEarly.take 6) = some s ∧
    run step s (sentAwayEarly.drop 6) = some t ∧ t.connected "/streams" = true ∧
    ∃ (k : Nat) (hook : Hook) (due : Nat), s.hooks[k]? = some hook ∧ hook.mounted = true ∧
      hook.socket = "/streams" ∧
      hook.timer = some due ∧ due ≤ s.now + BACKOFF_MAX_MS ∧
      Action.fire k ∈ [.tick 1000, .fire 0, .connect "/streams"] := by
  have ends : ∃ s, run step initial (sentAwayEarly.take 6) = some s ∧
      ∃ r, s.step (.disconnect "/streams" "io server disconnect") = some r ∧
      ∃ t, run step r [.tick 1000, .fire 0, .connect "/streams"] = some t ∧
        t.connected "/streams" = true :=
    ⟨_, rfl, _, rfl, _, rfl, rfl⟩
  obtain ⟨s, hbefore, r, sent, t, hafter, back⟩ := ends
  exact ⟨s, t, hbefore, run_cons_eq_some.mpr ⟨r, sent, hafter⟩, back,
    revived hbefore sent (by decide) hafter back⟩

end Page

end App
end XStreamRoll
