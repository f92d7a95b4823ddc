/-
`SessionRegistry`: the sessions of one worker, the lock of each, and the calls
that are waiting for a lock manager.

A method runs to its next `await` in one step.  What the heap of the process
holds at that point is a list here: the session objects ever spawned, the calls
made to the lock manager, the timers, and the suspended `route()`, heartbeat and
`drainAll()` calls.  Indices into these lists are the references of the source,
and `sessions`, `lockTokens`, `heartbeats` and `inflightAcquires` are its maps.

A promise of the lock manager goes through two steps.  First its answer arrives;
then its first continuation runs, which for an `acquire` is the `finally` that
clears the in-flight entry.  The routes that await it resume later, one by one.
-/
import Mathlib.Data.List.AList
import XStreamRoll.Processing.Session
import XStreamRoll.Processing.LeaderElection

namespace XStreamRoll
namespace Processing

variable {Data : Type}

inductive RouteResult where
  | enqueued
  | capacity
  | rejected
  | locked
deriving DecidableEq, Repr

/-- A call of the lock manager, and the answer that is on its way or has arrived. -/
structure LockCall (Request Answer : Type) where
  request : Request
  issuedAt : Date
  answer : Option (Except String Answer)
  /-- The first continuation has run. -/
  settled : Bool

structure ReleaseRequest where
  streamId : String
  token : LockToken
  /-- The release of a duplicate claim, which no counter follows. -/
  surplus : Bool
deriving DecidableEq, Repr

/-- A spawned session, beside the token of the claim it was spawned under. -/
structure SessionObject (Data : Type) where
  session : StreamSession Data
  claim : LockToken

/-- A `route()` that awaits `acquires[call]`. -/
structure RouteFrame (Data : Type) where
  event : StreamEvent Data
  call : Nat

/-- `setTimeout(tick, heartbeatMs)`, with the closure of `tick`. -/
structure HeartbeatTimer where
  streamId : String
  token : LockToken
  due : Date
  armed : Bool
deriving DecidableEq, Repr

/-- A `tick` that awaits `renews[call]`. -/
structure TickFrame where
  streamId : String
  token : LockToken
  call : Nat
deriving DecidableEq, Repr

/-- A `drainAll()` that awaits one `stop()` of each of its sessions. -/
structure DrainFrame where
  stops : List (Nat × Nat)
deriving DecidableEq, Repr

structure LockMetrics where
  lockAcquisitionsTotal : Nat
  lockAcquisitionsDenied : Nat
  lockRenewalsTotal : Nat
  lockRenewalsFailed : Nat
  lockReleasesTotal : Nat
  lockReleasesFailed : Nat
  activeLocks : Int
  concurrentRouteDedupes : Nat
deriving DecidableEq, Repr

namespace LockMetrics

def zero : LockMetrics := ⟨0, 0, 0, 0, 0, 0, 0, 0⟩

def incrementLockAcquisitions (m : LockMetrics) : LockMetrics :=
  { m with lockAcquisitionsTotal := m.lockAcquisitionsTotal + 1, activeLocks := m.activeLocks + 1 }

def incrementLockAcquisitionsDenied (m : LockMetrics) : LockMetrics :=
  { m with lockAcquisitionsDenied := m.lockAcquisitionsDenied + 1 }

def incrementLockRenewals (m : LockMetrics) : LockMetrics :=
  { m with lockRenewalsTotal := m.lockRenewalsTotal + 1 }

def incrementLockRenewalsFailed (m : LockMetrics) : LockMetrics :=
  { m with lockRenewalsFailed := m.lockRenewalsFailed + 1, activeLocks := m.activeLocks - 1 }

def incrementLockReleases (m : LockMetrics) : LockMetrics :=
  { m with lockReleasesTotal := m.lockReleasesTotal + 1, activeLocks := m.activeLocks - 1 }

def incrementLockReleasesFailed (m : LockMetrics) : LockMetrics :=
  { m with lockReleasesFailed := m.lockReleasesFailed + 1 }

def incrementConcurrentRouteDedupes (m : LockMetrics) : LockMetrics :=
  { m with concurrentRouteDedupes := m.concurrentRouteDedupes + 1 }

end LockMetrics

structure SessionRegistryOptions where
  maxConcurrentSessions : Nat
  /-- `lockManager.ttlMs` -/
  ttlMs : Nat
  heartbeatMs : Option Nat
  maxQueueDepth : Option Nat
  maxPublishRetries : Option Nat
  /-- `handlers.deadLetter` is given. -/
  hasDeadLetter : Bool
deriving DecidableEq, Repr

structure SessionRegistry (Data : Type) where
  workerId : String
  options : SessionRegistryOptions
  heartbeatMs : Nat
  sessions : AList fun _ : String => Nat
  lockTokens : AList fun _ : String => LockToken
  heartbeats : AList fun _ : String => Nat
  inflightAcquires : AList fun _ : String => Nat
  objects : List (SessionObject Data)
  acquires : List (LockCall String (Option LockToken))
  renews : List (LockCall (String × LockToken) Bool)
  releases : List (LockCall ReleaseRequest Bool)
  releaseAlls : List (LockCall Unit Unit)
  timers : List HeartbeatTimer
  routes : List (RouteFrame Data)
  ticks : List TickFrame
  drains : List DrainFrame
  /-- The number of `stop()` calls so far, which names the next one. -/
  stopCalls : Nat
  metrics : LockMetrics
  /-- What each finished `route()` returned or threw. -/
  results : List (StreamEvent Data × Except String RouteResult)
  /-- What each session object did. -/
  log : List (Nat × Effect Data)

namespace SessionRegistry

/-- A registry before any call. -/
def initial (workerId : String) (options : SessionRegistryOptions) (heartbeatMs : Nat) :
    SessionRegistry Data where
  workerId := workerId
  options := options
  heartbeatMs := heartbeatMs
  sessions := ∅
  lockTokens := ∅
  heartbeats := ∅
  inflightAcquires := ∅
  objects := []
  acquires := []
  renews := []
  releases := []
  releaseAlls := []
  timers := []
  routes := []
  ticks := []
  drains := []
  stopCalls := 0
  metrics := .zero
  results := []
  log := []

/-- The constructor.  It throws when the heartbeat could not keep a lock alive. -/
def create (workerId : String) (options : SessionRegistryOptions) :
    Except String (SessionRegistry Data) :=
  let fallback := max 1000 (options.ttlMs / 3)
  let heartbeatMs := options.heartbeatMs.getD fallback
  if options.ttlMs ≤ heartbeatMs then
    .error ("heartbeatMs (" ++ toString heartbeatMs ++
      ") must be strictly less than lockManager.ttlMs (" ++ toString options.ttlMs ++ ")")
  else .ok (initial workerId options heartbeatMs)

def size (r : SessionRegistry Data) : Nat := r.sessions.keys.length

/-- Number of locks currently held by this worker. -/
def lockCount (r : SessionRegistry Data) : Nat := r.lockTokens.keys.length

/-- Sum of pending events across all sessions. -/
def totalQueueDepth (r : SessionRegistry Data) : Nat :=
  (r.sessions.entries.map fun entry =>
    match r.objects[entry.2]? with
    | some obj => obj.session.pendingCount
    | none => 0).sum

/-! ## Calls into the lock manager -/

def acquireDeduplicated (now : Date) (streamId : String) (r : SessionRegistry Data) :
    Nat × SessionRegistry Data :=
  match r.inflightAcquires.lookup streamId with
  | some pending => (pending, r)
  | none =>
    (r.acquires.length,
      { r with
        acquires := r.acquires ++ [⟨streamId, now, none, false⟩]
        inflightAcquires := r.inflightAcquires.insert streamId r.acquires.length })

def release (now : Date) (streamId : String) (token : LockToken) (surplus : Bool)
    (r : SessionRegistry Data) : SessionRegistry Data :=
  { r with releases := r.releases ++ [⟨⟨streamId, token, surplus⟩, now, none, false⟩] }

def clearTimeout (timer : Nat) (r : SessionRegistry Data) : SessionRegistry Data :=
  { r with timers := r.timers.modify timer fun t => { t with armed := false } }

/-! ## Sessions and their listeners -/

/-- The `"state"` listener of the session object `o`: the end of the session that
is still in the map removes it, drops its token and heartbeat, and releases. -/
def stateListener (now : Date) (o : Nat) (streamId : String) (next : SessionState)
    (r : SessionRegistry Data) : SessionRegistry Data :=
  if next ≠ .stopped ∧ next ≠ .errored then r
  else if r.sessions.lookup streamId ≠ some o then r
  else
    let r := { r with sessions := r.sessions.erase streamId }
    match r.lockTokens.lookup streamId with
    | none => r
    | some token =>
      let r := { r with lockTokens := r.lockTokens.erase streamId }
      let r := match r.heartbeats.lookup streamId with
        | none => r
        | some timer =>
          { r.clearTimeout timer with heartbeats := r.heartbeats.erase streamId }
      r.release now streamId token false

/-- The listeners run inside the method that emits. -/
def notify (now : Date) (o : Nat) (streamId : String) (r : SessionRegistry Data) :
    Effect Data → SessionRegistry Data
  | .emitState next _ => r.stateListener now o streamId next
  | _ => r

/-- The session object `o` has run a method: keep its state and log, and tell the
listeners. -/
def sessionRan (now : Date) (o : Nat) (obj : SessionObject Data)
    (ran : StreamSession Data × List (Effect Data)) (r : SessionRegistry Data) :
    SessionRegistry Data :=
  let r := { r with
    objects := r.objects.set o { obj with session := ran.1 }
    log := r.log ++ ran.2.map fun e => (o, e) }
  ran.2.foldl (notify now o obj.session.streamId) r

/-- `enqueue` on the session object `o`. -/
def enqueueOn (now : Date) (o : Nat) (event : StreamEvent Data) (r : SessionRegistry Data) :
    Bool × SessionRegistry Data :=
  match r.objects[o]? with
  | none => (false, r)
  | some obj =>
    let (ok, ran) := obj.session.enqueue now event
    (ok, r.sessionRan now o obj ran)

def spawn (suffix streamId : String) (token : LockToken) (r : SessionRegistry Data) :
    Nat × SessionRegistry Data :=
  let session := StreamSession.create suffix streamId r.workerId
    (r.options.maxQueueDepth.getD 1000) (r.options.maxPublishRetries.getD 3)
    r.options.hasDeadLetter true
  (r.objects.length,
    { r with
      objects := r.objects ++ [⟨session, token⟩]
      sessions := r.sessions.insert streamId r.objects.length })

def startOn (now : Date) (o : Nat) (r : SessionRegistry Data) : SessionRegistry Data :=
  match r.objects[o]? with
  | none => r
  | some obj => r.sessionRan now o obj (obj.session.start now)

/-! ## Heartbeats -/

/-- `scheduleNext` of `startHeartbeat(streamId, token)`. -/
def scheduleNext (now : Date) (streamId : String) (token : LockToken)
    (r : SessionRegistry Data) : SessionRegistry Data :=
  match r.lockTokens.lookup streamId with
  | none => r
  | some current =>
    if current.token ≠ token.token then r
    else
      { r with
        timers := r.timers ++
          [⟨streamId, token, now.plus (Date.timeoutDelay r.heartbeatMs), true⟩]
        heartbeats := r.heartbeats.insert streamId r.timers.length }

def startHeartbeat (now : Date) (streamId : String) (token : LockToken)
    (r : SessionRegistry Data) : SessionRegistry Data :=
  r.scheduleNext now streamId token

/-- The timer fires: `tick` up to its call of `renew`. -/
def tick (now : Date) (timer : Nat) (r : SessionRegistry Data) : Option (SessionRegistry Data) :=
  match r.timers[timer]? with
  | none => none
  | some t =>
    if t.armed = false ∨ now < t.due then none
    else
      let r := r.clearTimeout timer
      let r := { r with heartbeats := r.heartbeats.erase t.streamId }
      match r.lockTokens.lookup t.streamId with
      | none => some r
      | some current =>
        if current.token ≠ t.token.token then some r
        else some { r with
          renews := r.renews ++ [⟨(t.streamId, current), now, none, false⟩]
          ticks := r.ticks ++ [⟨t.streamId, current, r.renews.length⟩] }

/-- `current.expiresAt = Date.now() + ttlMs` on the token object, which the map
holds as long as it holds that token. -/
def extendToken (now : Date) (streamId : String) (token : LockToken)
    (r : SessionRegistry Data) : SessionRegistry Data :=
  match r.lockTokens.lookup streamId with
  | none => r
  | some current =>
    if current.token ≠ token.token then r
    else { r with
      lockTokens := r.lockTokens.insert streamId
        { current with expiresAt := now.plus r.options.ttlMs } }

/-- `renew` answered false: fail the session that the map has for the stream. -/
def lockLost (now : Date) (streamId : String) (r : SessionRegistry Data) :
    SessionRegistry Data :=
  let r := { r with metrics := r.metrics.incrementLockRenewalsFailed }
  match r.sessions.lookup streamId with
  | none => r
  | some o =>
    match r.objects[o]? with
    | none => r
    | some obj =>
      if obj.session.state = .running ∨ obj.session.state = .draining then
        r.sessionRan now o obj (obj.session.fail ("lost lock for stream " ++ streamId))
      else r

/-- `tick` after its `await`. -/
def resumeTick (now : Date) (i : Nat) (r : SessionRegistry Data) :
    Option (SessionRegistry Data) :=
  match r.ticks[i]? with
  | none => none
  | some f =>
    match (r.renews[f.call]?).bind (·.answer) with
    | none => none
    | some answer =>
      let r := { r with
        ticks := r.ticks.eraseIdx i
        renews := r.renews.modify f.call fun c => { c with settled := true } }
      match answer with
      | .ok true =>
        let r := { r with metrics := r.metrics.incrementLockRenewals }
        some ((r.extendToken now f.streamId f.token).scheduleNext now f.streamId f.token)
      | .ok false => some (r.lockLost now f.streamId)
      | .error _ => some (r.scheduleNext now f.streamId f.token)

/-! ## Routing -/

/-- A `route()` is over. -/
def finish (event : StreamEvent Data) (result : Except String RouteResult)
    (r : SessionRegistry Data) : SessionRegistry Data :=
  { r with results := r.results ++ [(event, result)] }

/-- `return session.enqueue(event) ? "enqueued" : "rejected"` -/
def enqueueAndReturn (now : Date) (o : Nat) (event : StreamEvent Data)
    (r : SessionRegistry Data) : SessionRegistry Data :=
  let (ok, r) := r.enqueueOn now o event
  r.finish event (.ok (if ok then .enqueued else .rejected))

/-- `route(event)` up to its `await`. -/
def route (now : Date) (event : StreamEvent Data) (r : SessionRegistry Data) :
    SessionRegistry Data :=
  match r.sessions.lookup event.streamId with
  | some existing => r.enqueueAndReturn now existing event
  | none =>
    if r.options.maxConcurrentSessions ≤ r.size then r.finish event (.ok .capacity)
    else
      let (call, r) := r.acquireDeduplicated now event.streamId
      { r with routes := r.routes ++ [⟨event, call⟩] }

/-- A session exists by now: route into it, and drop a claim that is not its own. -/
def joinRaced (now : Date) (raced : Nat) (event : StreamEvent Data) (token : LockToken)
    (r : SessionRegistry Data) : SessionRegistry Data :=
  let r := { r with metrics := r.metrics.incrementConcurrentRouteDedupes }
  let r := if (r.lockTokens.lookup event.streamId).map (·.token) ≠ some token.token then
      r.release now event.streamId token true
    else r
  r.enqueueAndReturn now raced event

/-- Store the token, start its heartbeat, and spawn the session. -/
def spawnAndStart (now : Date) (suffix : String) (event : StreamEvent Data) (token : LockToken)
    (r : SessionRegistry Data) : SessionRegistry Data :=
  let r := { r with
    metrics := r.metrics.incrementLockAcquisitions
    lockTokens := r.lockTokens.insert event.streamId token }
  let r := r.startHeartbeat now event.streamId token
  let (session, r) := r.spawn suffix event.streamId token
  let r := r.startOn now session
  r.enqueueAndReturn now session event

/-- `route(event)` after its `await`. -/
def resumeRoute (now : Date) (i : Nat) (suffix : String) (r : SessionRegistry Data) :
    Option (SessionRegistry Data) :=
  match r.routes[i]? with
  | none => none
  | some f =>
    match r.acquires[f.call]? with
    | none => none
    | some call =>
      if call.settled = false then none
      else
        let r := { r with routes := r.routes.eraseIdx i }
        match call.answer with
        | none => none
        | some (.error message) => some (r.finish f.event (.error message))
        | some (.ok none) =>
          let r := { r with metrics := r.metrics.incrementLockAcquisitionsDenied }
          some (r.finish f.event (.ok .locked))
        | some (.ok (some token)) =>
          match r.sessions.lookup f.event.streamId with
          | some raced => some (r.joinRaced now raced f.event token)
          | none => some (r.spawnAndStart now suffix f.event token)

/-- The `finally` of `acquireDeduplicated`, once the answer of `acquires[i]` is here. -/
def settleAcquire (i : Nat) (r : SessionRegistry Data) : Option (SessionRegistry Data) :=
  match r.acquires[i]? with
  | none => none
  | some call =>
    if call.answer.isNone ∨ call.settled = true then none
    else some { r with
      acquires := r.acquires.set i { call with settled := true }
      inflightAcquires := r.inflightAcquires.erase call.request }

/-- The continuation of `releases[i]`. -/
def resumeRelease (i : Nat) (r : SessionRegistry Data) : Option (SessionRegistry Data) :=
  match r.releases[i]? with
  | none => none
  | some call =>
    if call.settled = true then none
    else
      match call.answer with
      | none => none
      | some answer =>
        let r := { r with releases := r.releases.set i { call with settled := true } }
        if call.request.surplus then some r
        else
          match answer with
          | .ok _ => some { r with metrics := r.metrics.incrementLockReleases }
          | .error _ => some { r with metrics := r.metrics.incrementLockReleasesFailed }

/-! ## Stopping -/

/-- `stop()` on the session object `o`, as the call numbered `stopCalls`. -/
def stopOn (now : Date) (r : SessionRegistry Data) (o : Nat) : SessionRegistry Data :=
  match r.objects[o]? with
  | none => r
  | some obj =>
    let r := { r with stopCalls := r.stopCalls + 1 }
    r.sessionRan now o obj (obj.session.stop (r.stopCalls - 1))

/-- `drainAll()` up to its `await`: one `stop()` of every session in the map. -/
def drainAll (now : Date) (r : SessionRegistry Data) : SessionRegistry Data :=
  let all := r.sessions.entries.map (·.2)
  let stops := all.zip (List.range' r.stopCalls all.length)
  let r := all.foldl (stopOn now) r
  { r with drains := r.drains ++ [⟨stops⟩] }

/-- That `stop()` call of the session object has returned. -/
def stopped (r : SessionRegistry Data) (stop : Nat × Nat) : Bool :=
  match r.objects[stop.1]? with
  | none => true
  | some obj => !obj.session.stops.contains stop.2

/-- `drainAll()` after all its stops: clear the maps and release everything. -/
def resumeDrain (now : Date) (i : Nat) (r : SessionRegistry Data) :
    Option (SessionRegistry Data) :=
  match r.drains[i]? with
  | none => none
  | some f =>
    if f.stops.all r.stopped then
      let r := r.heartbeats.entries.foldl (fun r entry => r.clearTimeout entry.2) r
      some { r with
        drains := r.drains.eraseIdx i
        sessions := ∅, lockTokens := ∅, inflightAcquires := ∅, heartbeats := ∅
        releaseAlls := r.releaseAlls ++ [⟨(), now, none, false⟩] }
    else none

/-- The end of `drainAll()`, whether or not `releaseAll` went through. -/
def resumeReleaseAll (i : Nat) (r : SessionRegistry Data) : Option (SessionRegistry Data) :=
  match r.releaseAlls[i]? with
  | none => none
  | some call =>
    if call.answer.isNone ∨ call.settled = true then none
    else some { r with releaseAlls := r.releaseAlls.set i { call with settled := true } }

/-! ## Steps -/

/-- The answer to a call arrives. -/
def LockCall.arrive {Request Answer : Type} (i : Nat) (answer : Except String Answer)
    (calls : List (LockCall Request Answer)) : Option (List (LockCall Request Answer)) :=
  match calls[i]? with
  | none => none
  | some call =>
    if call.answer.isSome then none else some (calls.set i { call with answer := some answer })

/-- What can happen to a registry.  The answers of the lock manager are part of
the action, and so are those that a session's pump gets from its handlers. -/
inductive Action (Data : Type) where
  | route (now : Date) (event : StreamEvent Data)
  | settleAcquire (i : Nat)
  | resumeRoute (now : Date) (i : Nat) (suffix : String)
  | tick (now : Date) (timer : Nat)
  | resumeTick (now : Date) (i : Nat)
  | resumeRelease (i : Nat)
  | pump (now : Date) (o i : Nat) (answer : Settlement)
  | stop (now : Date) (o : Nat)
  | stopWake (now : Date) (o call : Nat)
  | fail (now : Date) (o : Nat) (error : String)
  | drainAll (now : Date)
  | resumeDrain (now : Date) (i : Nat)
  | resumeReleaseAll (i : Nat)
  | acquireAnswered (i : Nat) (answer : Except String (Option LockToken))
  | renewAnswered (i : Nat) (answer : Except String Bool)
  | releaseAnswered (i : Nat) (answer : Except String Bool)
  | releaseAllAnswered (i : Nat) (answer : Except String Unit)

def step (r : SessionRegistry Data) : Action Data → Option (SessionRegistry Data)
  | .route now event => some (r.route now event)
  | .settleAcquire i => r.settleAcquire i
  | .resumeRoute now i suffix => r.resumeRoute now i suffix
  | .tick now timer => r.tick now timer
  | .resumeTick now i => r.resumeTick now i
  | .resumeRelease i => r.resumeRelease i
  | .pump now o i answer =>
    match r.objects[o]? with
    | none => none
    | some obj => (obj.session.resume now i answer).map fun ran => r.sessionRan now o obj ran
  | .stop now o => if o < r.objects.length then some (r.stopOn now o) else none
  | .stopWake now o call =>
    match r.objects[o]? with
    | none => none
    | some obj =>
      if call ∈ obj.session.stops then some (r.sessionRan now o obj (obj.session.stopWake call))
      else none
  | .fail now o error =>
    match r.objects[o]? with
    | none => none
    | some obj => some (r.sessionRan now o obj (obj.session.fail error))
  | .drainAll now => some (r.drainAll now)
  | .resumeDrain now i => r.resumeDrain now i
  | .resumeReleaseAll i => r.resumeReleaseAll i
  | .acquireAnswered i answer =>
    (LockCall.arrive i answer r.acquires).map fun calls => { r with acquires := calls }
  | .renewAnswered i answer =>
    (LockCall.arrive i answer r.renews).map fun calls => { r with renews := calls }
  | .releaseAnswered i answer =>
    (LockCall.arrive i answer r.releases).map fun calls => { r with releases := calls }
  | .releaseAllAnswered i answer =>
    (LockCall.arrive i answer r.releaseAlls).map fun calls => { r with releaseAlls := calls }

end SessionRegistry

end Processing
end XStreamRoll
