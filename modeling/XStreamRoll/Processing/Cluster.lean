/-
Any number of workers, each with its own registry, over one lock backend.

Each worker takes its own steps, and the backend executes the calls that the
workers have made, in any order and after any delay.  A call may also fail: its
answer is lost after the backend did its part, or the backend is never reached.
The clocks agree, so a worker reads `Date.now()` from the clock that is behind
`NOW()`.  That clock moves on by itself.

`leases` records what the backend granted to whom, as the grants happened.  No
step reads it.
-/
import XStreamRoll.Processing.SessionRegistry

namespace XStreamRoll
namespace Processing

variable {Data : Type}

/-! ## The lock backend -/

/-- `LOCK_BACKEND`: a map in the process of each worker, or the table they share. -/
inductive Locks where
  | memory (managers : String → MemoryLockManager)
  | postgres (table : StreamLocks)

namespace Locks

/-- `lockManager.acquire(streamId)` of the worker.  `now` is when it was called. -/
def acquire (NOW : Timestamptz) (now : Date) (uuid streamId workerId : String) (ttlMs : Nat) :
    Locks → Option LockToken × Locks
  | .memory managers =>
    let ran := (managers workerId).acquire now uuid streamId
    (ran.1, .memory (Function.update managers workerId ran.2))
  | .postgres table =>
    let ran := PostgresLockManager.acquire NOW now uuid streamId ⟨workerId, ttlMs⟩ table
    (ran.1, .postgres ran.2)

def renew (NOW : Timestamptz) (now : Date) (streamId : String) (token : LockToken)
    (workerId : String) (ttlMs : Nat) : Locks → Bool × Locks
  | .memory managers =>
    let ran := (managers workerId).renew now streamId token
    (ran.1, .memory (Function.update managers workerId ran.2))
  | .postgres table =>
    let ran := PostgresLockManager.renew NOW now streamId token ⟨workerId, ttlMs⟩ table
    (ran.1, .postgres ran.2)

def release (streamId : String) (token : LockToken) (workerId : String) (ttlMs : Nat) :
    Locks → Bool × Locks
  | .memory managers =>
    let ran := (managers workerId).release streamId token
    (ran.1, .memory (Function.update managers workerId ran.2))
  | .postgres table =>
    let ran := PostgresLockManager.release streamId token ⟨workerId, ttlMs⟩ table
    (ran.1, .postgres ran.2)

def releaseAll (workerId : String) (ttlMs : Nat) : Locks → Locks
  | .memory managers =>
    .memory (Function.update managers workerId (managers workerId).releaseAll)
  | .postgres table => .postgres (PostgresLockManager.releaseAll ⟨workerId, ttlMs⟩ table)

/-- The worker is recorded as the owner of the stream under the token. -/
def Holds (streamId workerId token : String) : Locks → Prop
  | .memory managers => (managers workerId).held streamId = some token
  | .postgres table => Lease.Holds table streamId workerId token

theorem Holds.unique {locks : Locks} {streamId workerId k k' : String}
    (h : locks.Holds streamId workerId k) (h' : locks.Holds streamId workerId k') : k = k' := by
  cases locks with
  | memory managers =>
    have hheld : (managers workerId).held streamId = some k := h
    have hheld' : (managers workerId).held streamId = some k' := h'
    rw [hheld, Option.some.injEq] at hheld'
    exact hheld'
  | postgres table => exact (Lease.Holds.unique h h').2

end Locks

/-! ## Cluster states -/

structure Cluster (Data : Type) where
  now : Timestamptz
  locks : Locks
  workers : String → SessionRegistry Data
  /-- The UUIDs that `randomUUID()` has returned. -/
  issued : List String
  leases : Lease.Tenure String String String Timestamptz

/-- What becomes of a call: its answer arrives, the answer is lost, or the call
never reaches the backend. -/
inductive Fate where
  | answered
  | lost (error : String)
  | unreached (error : String)
deriving DecidableEq, Repr

def Fate.answer {Answer : Type} (answer : Answer) : Fate → Except String Answer
  | .answered => .ok answer
  | .lost error => .error error
  | .unreached error => .error error

def Fate.reached : Fate → Bool
  | .unreached _ => false
  | _ => true

/-- The clock that the action reads. -/
def SessionRegistry.Action.clock : SessionRegistry.Action Data → Option Date
  | .route now _ | .resumeRoute now _ _ | .tick now _ | .resumeTick now _ | .pump now _ _ _
  | .stop now _ | .stopWake now _ _ | .fail now _ _ | .drainAll now | .resumeDrain now _ =>
    some now
  | _ => none

/-- The action is an answer of the lock manager. -/
def SessionRegistry.Action.answers : SessionRegistry.Action Data → Bool
  | .acquireAnswered .. | .renewAnswered .. | .releaseAnswered .. | .releaseAllAnswered .. => true
  | _ => false

namespace Cluster

inductive Action (Data : Type) where
  | worker (workerId : String) (a : SessionRegistry.Action Data)
  | acquire (workerId : String) (i : Nat) (uuid : String) (fate : Fate)
  | renew (workerId : String) (i : Nat) (fate : Fate)
  | release (workerId : String) (i : Nat) (fate : Fate)
  | releaseAll (workerId : String) (i : Nat) (fate : Fate)
  | evict (workerId : String) (timer : Nat)
  | advance (micros : Nat)

/-- The backend has dealt with a call of the worker. -/
def dealt (workerId : String) (fate : Fate) (locks : Locks) (ok : Bool)
    (op : Lease.Op String String String Timestamptz) (c : Cluster Data)
    (r : SessionRegistry Data) : Cluster Data :=
  { c with
    workers := Function.update c.workers workerId r
    locks := if fate.reached then locks else c.locks
    leases := if fate.reached then c.leases.note ok op else c.leases }

def acquire (workerId : String) (i : Nat) (uuid : String) (fate : Fate) (c : Cluster Data) :
    Option (Cluster Data) :=
  let r := c.workers workerId
  match r.acquires[i]? with
  | none => none
  | some call =>
    if uuid ∈ c.issued then none
    else
      let ran := c.locks.acquire c.now call.issuedAt uuid call.request workerId r.options.ttlMs
      let expiry := (call.issuedAt.plus r.options.ttlMs).toTimestamptz
      (r.step (.acquireAnswered i (fate.answer ran.1))).map
        ({ c with issued := uuid :: c.issued }.dealt workerId fate ran.2 ran.1.isSome
          (.claim call.request ⟨workerId, uuid, expiry⟩))

def renew (workerId : String) (i : Nat) (fate : Fate) (c : Cluster Data) :
    Option (Cluster Data) :=
  let r := c.workers workerId
  match r.renews[i]? with
  | none => none
  | some call =>
    let (streamId, token) := call.request
    let ran := c.locks.renew c.now call.issuedAt streamId token workerId r.options.ttlMs
    let expiry := (call.issuedAt.plus r.options.ttlMs).toTimestamptz
    (r.step (.renewAnswered i (fate.answer ran.1))).map
      (c.dealt workerId fate ran.2 ran.1 (.extend streamId workerId token.token expiry))

def release (workerId : String) (i : Nat) (fate : Fate) (c : Cluster Data) :
    Option (Cluster Data) :=
  let r := c.workers workerId
  match r.releases[i]? with
  | none => none
  | some call =>
    let ⟨streamId, token, _⟩ := call.request
    let ran := c.locks.release streamId token workerId r.options.ttlMs
    (r.step (.releaseAnswered i (fate.answer ran.1))).map
      (c.dealt workerId fate ran.2 ran.1 (.drop streamId workerId token.token))

def releaseAll (workerId : String) (i : Nat) (fate : Fate) (c : Cluster Data) :
    Option (Cluster Data) :=
  let r := c.workers workerId
  (r.step (.releaseAllAnswered i (fate.answer ()))).map
    (c.dealt workerId fate (c.locks.releaseAll workerId r.options.ttlMs) true (.dropAll workerId))

/-- An eviction timer of a `MemoryLockManager` runs. -/
def evict (workerId : String) (timer : Nat) (c : Cluster Data) : Option (Cluster Data) :=
  match c.locks with
  | .postgres _ => none
  | .memory managers =>
    match (managers workerId).timers.lookup timer with
    | none => none
    | some t =>
      ((managers workerId).fire c.now.toDate timer).map fun m =>
        { c with
          locks := .memory (Function.update managers workerId m)
          leases := c.leases.drop t.streamId workerId t.expectedToken }

def step (c : Cluster Data) : Action Data → Option (Cluster Data)
  | .worker workerId a =>
    if a.answers = false ∧ ∀ now ∈ a.clock, now = c.now.toDate then
      ((c.workers workerId).step a).map fun r =>
        { c with workers := Function.update c.workers workerId r }
    else none
  | .acquire workerId i uuid fate => c.acquire workerId i uuid fate
  | .renew workerId i fate => c.renew workerId i fate
  | .release workerId i fate => c.release workerId i fate
  | .releaseAll workerId i fate => c.releaseAll workerId i fate
  | .evict workerId timer => c.evict workerId timer
  | .advance micros => some { c with now := ⟨c.now.micros + micros⟩ }

/-- Every worker has just been constructed.  The backend may hold rows of earlier
processes. -/
structure Initial (c : Cluster Data) : Prop where
  workers : ∀ workerId, ∃ options,
    SessionRegistry.create workerId options = .ok (c.workers workerId)
  leases : ∀ streamId workerId, c.leases streamId workerId = none

/-- Workers with the same options, before any call. -/
def initial (locks : Locks) (options : SessionRegistryOptions) (heartbeatMs : Nat) :
    Cluster Data where
  now := ⟨0⟩
  locks := locks
  workers := fun workerId => .initial workerId options heartbeatMs
  issued := []
  leases := fun _ _ => none

theorem initial_initial {locks : Locks} {options : SessionRegistryOptions} {heartbeatMs : Nat}
    (h : options.heartbeatMs = some heartbeatMs) (hlt : heartbeatMs < options.ttlMs) :
    (initial locks options heartbeatMs : Cluster Data).Initial where
  workers := by
    intro workerId
    refine ⟨options, ?_⟩
    rw [SessionRegistry.create, h, Option.getD_some]
    exact if_neg (Nat.not_le.mpr hlt)
  leases := fun _ _ => rfl

end Cluster

end Processing
end XStreamRoll
