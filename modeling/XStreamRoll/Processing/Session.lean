/-
`StreamSession`: one stream's queue, its lifecycle state and its pump.

The methods run to completion except at an `await`, so each one is a function
from the session to the session at its next `await`, with the calls it made on
the way.  A suspended `pump()` or `stop()` is a record of where it stopped.  The
`processing` flag and the suspended pumps are kept apart, as they are in the
source: that the flag lets at most one pump run is a theorem
(`Processing.Session.Pump`), not part of the representation.
-/
import Mathlib.Algebra.Order.Ring.Nat
import Mathlib.Data.List.Basic
import XStreamRoll.Time
import XStreamRoll.Transition

namespace XStreamRoll
namespace Processing

inductive SessionState where
  | idle
  | running
  | draining
  | stopped
  | errored
deriving DecidableEq, Repr

def SessionState.live : SessionState → Bool
  | .running | .draining => true
  | _ => false

/-- A timestamp text beside what `Date.parse` makes of it, `none` for `NaN`. -/
structure Timestamp where
  text : String
  parsed : Option Int
deriving DecidableEq, Repr

structure StreamEvent (Data : Type) where
  id : Option String
  streamId : String
  data : Data
  timestamp : Timestamp
deriving DecidableEq, Repr

structure ProcessedStreamEvent (Data : Type) where
  event : StreamEvent Data
  processedAt : String
  processingLatencyMs : Option Int
  workerId : String
  sessionId : String
deriving DecidableEq, Repr

/-- What a suspended `pump()` is waiting for. -/
inductive Await where
  /-- `handlers.publish` -/
  | publish
  /-- the back-off sleep before the next attempt -/
  | backoff (ms : Nat)
  /-- `handlers.deadLetter`, after the error that exhausted the budget -/
  | deadLetter (error : String)
deriving DecidableEq, Repr

/-- A suspended `pump()`: the event it took off the queue and the locals of its
retry loop. -/
structure PumpFrame (Data : Type) where
  next : StreamEvent Data
  processed : ProcessedStreamEvent Data
  attempts : Nat
  await : Await
deriving DecidableEq, Repr

structure StreamSession (Data : Type) where
  id : String
  streamId : String
  workerId : String
  maxQueueDepth : Nat
  maxPublishRetries : Nat
  /-- `handlers.deadLetter` is given. -/
  hasDeadLetter : Bool
  /-- A listener for `"error"` is registered.  `emit("error")` throws without one. -/
  errorListener : Bool
  state : SessionState
  queue : List (StreamEvent Data)
  processing : Bool
  /-- The suspended `pump()` calls. -/
  pumps : List (PumpFrame Data)
  /-- The suspended `stop()` calls, asleep until they look at `processing` again. -/
  stops : List Nat
deriving DecidableEq, Repr

/-- The calls a method makes into its surroundings, in the order it makes them. -/
inductive Effect (Data : Type) where
  | publish (event : ProcessedStreamEvent Data)
  | incrementProcessed
  | emitProcessed (event : ProcessedStreamEvent Data)
  | deadLetter (event : StreamEvent Data) (error : String) (attempts : Nat)
  | emitDeadLetter (event : StreamEvent Data) (error : String)
  | emitState (next prev : SessionState)
  | emitError (error : String)
  /-- The method throws. -/
  | throws (error : String)
deriving DecidableEq, Repr

variable {Data : Type}

/-- `Math.max(0, processedAt - startedAt)`, and `null` for an unreadable text. -/
def calculateProcessingLatencyMs (eventTimestamp : Timestamp) (processedAt : Date) : Option Int :=
  eventTimestamp.parsed.map fun startedAt => max 0 (processedAt.getTime - startedAt)

/-- 100 ms, 200 ms, 400 ms and so on, capped at 5 s. -/
def backoffMs (attempts : Nat) : Nat := min (100 * 2 ^ (attempts - 1)) 5000

namespace StreamSession

/-- A new session, before `start()`. -/
def create (suffix streamId workerId : String) (maxQueueDepth maxPublishRetries : Nat)
    (hasDeadLetter errorListener : Bool) : StreamSession Data where
  id := streamId ++ ":" ++ suffix
  streamId := streamId
  workerId := workerId
  maxQueueDepth := maxQueueDepth
  maxPublishRetries := maxPublishRetries
  hasDeadLetter := hasDeadLetter
  errorListener := errorListener
  state := .idle
  queue := []
  processing := false
  pumps := []
  stops := []

def pendingCount (s : StreamSession Data) : Nat := s.queue.length

def transition (next : SessionState) (s : StreamSession Data) :
    StreamSession Data × List (Effect Data) :=
  if s.state = next then (s, [])
  else ({ s with state := next }, [.emitState next s.state])

/-- The event as `publish` receives it. -/
def process (now : Date) (s : StreamSession Data) (next : StreamEvent Data) :
    ProcessedStreamEvent Data where
  event := next
  processedAt := now.toISOString
  processingLatencyMs := calculateProcessingLatencyMs next.timestamp now
  workerId := s.workerId
  sessionId := s.id

/-- The head of the queue loop of `pump()`: take the next event and call
`publish`, or leave the loop and clear `processing`. -/
def pumpLoop (now : Date) (s : StreamSession Data) : StreamSession Data × List (Effect Data) :=
  match s.queue with
  | next :: rest =>
    if s.state = .running ∨ s.state = .draining then
      let processed := s.process now next
      ({ s with queue := rest, pumps := s.pumps ++ [⟨next, processed, 0, .publish⟩] },
        [.publish processed])
    else ({ s with processing := false }, [])
  | [] => ({ s with processing := false }, [])

def pump (now : Date) (s : StreamSession Data) : StreamSession Data × List (Effect Data) :=
  if s.processing then (s, []) else pumpLoop now { s with processing := true }

def start (now : Date) (s : StreamSession Data) : StreamSession Data × List (Effect Data) :=
  if s.state ≠ .idle then (s, [])
  else
    let (s, emitted) := s.transition .running
    let (s, pumped) := s.pump now
    (s, emitted ++ pumped)

def enqueue (now : Date) (event : StreamEvent Data) (s : StreamSession Data) :
    Bool × StreamSession Data × List (Effect Data) :=
  if s.state ≠ .running then (false, s, [])
  else if s.maxQueueDepth ≤ s.queue.length then (false, s, [])
  else
    let s := { s with queue := s.queue ++ [event] }
    (true, if s.processing then (s, []) else s.pump now)

/-- `stop()` up to its first sleep, or to its end when no pump is running. -/
def stop (call : Nat) (s : StreamSession Data) : StreamSession Data × List (Effect Data) :=
  if s.state = .stopped ∨ s.state = .errored then (s, [])
  else
    let (s, emitted) := if s.state = .running then s.transition .draining else (s, [])
    if s.processing then ({ s with stops := s.stops ++ [call] }, emitted)
    else
      let (s, stopped) := s.transition .stopped
      (s, emitted ++ stopped)

/-- A sleeping `stop()` wakes: it sleeps again while a pump is running. -/
def stopWake (call : Nat) (s : StreamSession Data) : StreamSession Data × List (Effect Data) :=
  if s.processing then (s, [])
  else { s with stops := s.stops.erase call }.transition .stopped

def fail (error : String) (s : StreamSession Data) : StreamSession Data × List (Effect Data) :=
  let s := { s with queue := [] }
  if s.errorListener then
    let (s, emitted) := s.transition .errored
    (s, .emitError error :: emitted)
  else (s, [.throws error])

/-- The pump at position `i` leaves its `await`. -/
def resumePump (i : Nat) (s : StreamSession Data) : StreamSession Data :=
  { s with pumps := s.pumps.eraseIdx i }

/-- The pump at position `i` goes on to another `await`. -/
def setPump (i : Nat) (f : PumpFrame Data) (s : StreamSession Data) : StreamSession Data :=
  { s with pumps := s.pumps.set i f }

/-- `handlers.publish` resolved. -/
def publishResolved (now : Date) (i : Nat) (f : PumpFrame Data) (s : StreamSession Data) :
    StreamSession Data × List (Effect Data) :=
  let (s, looped) := (s.resumePump i).pumpLoop now
  (s, .incrementProcessed :: .emitProcessed f.processed :: looped)

/-- `handlers.publish` rejected: hand the event to the dead-letter store once the
budget is spent, sleep before the next attempt otherwise. -/
def publishRejected (i : Nat) (f : PumpFrame Data) (error : String) (s : StreamSession Data) :
    StreamSession Data × List (Effect Data) :=
  let attempts := f.attempts + 1
  if s.maxPublishRetries < attempts then
    (s.setPump i { f with attempts := attempts, await := .deadLetter error },
      if s.hasDeadLetter then [.deadLetter f.next error attempts] else [])
  else (s.setPump i { f with attempts := attempts, await := .backoff (backoffMs attempts) }, [])

/-- The back-off sleep is over: the retry loop calls `publish` again. -/
def backoffElapsed (i : Nat) (f : PumpFrame Data) (s : StreamSession Data) :
    StreamSession Data × List (Effect Data) :=
  (s.setPump i { f with await := .publish }, [.publish f.processed])

/-- `handlers.deadLetter` settled.  A rejection is only logged. -/
def deadLetterSettled (now : Date) (i : Nat) (f : PumpFrame Data) (error : String)
    (s : StreamSession Data) : StreamSession Data × List (Effect Data) :=
  let (s, looped) := (s.resumePump i).pumpLoop now
  (s, .emitDeadLetter f.next error :: looped)

end StreamSession

/-- What the surroundings answer to a suspended pump. -/
inductive Settlement where
  | resolved
  | rejected (error : String)
deriving DecidableEq, Repr

/-- The pump at position `i` resumes.  A sleep always resolves. -/
def StreamSession.resume (now : Date) (i : Nat) (answer : Settlement) (s : StreamSession Data) :
    Option (StreamSession Data × List (Effect Data)) :=
  match s.pumps[i]? with
  | none => none
  | some f =>
    match f.await, answer with
    | .publish, .resolved => some (s.publishResolved now i f)
    | .publish, .rejected error => some (s.publishRejected i f error)
    | .backoff _, .resolved => some (s.backoffElapsed i f)
    | .backoff _, .rejected _ => none
    | .deadLetter error, _ => some (s.deadLetterSettled now i f error)

end Processing
end XStreamRoll
