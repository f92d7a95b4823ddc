/-
`EventFilter` with its start, over both stores.

A change is made in the filter's own map at once and goes to the store when the start
is over, which the first change begins if nothing else has.  The start reads what is
in the store and sets every entry of it in the map.

A `RedisFilterConfigStore` sends the commands of its publisher over one connection, so
Redis executes those of one worker in the order in which they were sent.  The answers
come back in that order too, and a change is published when the answer to its write is
there.  A worker gets the messages that are published after its `SUBSCRIBE`.

Any command may fail or lose its answer.  `latest` notes for each stream whose call
changed it last.
-/
import XStreamRoll.Processing.EventFilter

namespace XStreamRoll
namespace Processing
namespace RedisFilterConfigStore

/-- `allow(event)`, of the event's stream and of its `data.type` if that is a string. -/
def FilterConfigs.allow (streamId : String) (eventType : Option String)
    (configs : FilterConfigs) : Bool :=
  match configs.lookup streamId with
  | none => true
  | some config =>
    match eventType with
    | none => true
    | some eventType => !config.blockedEventTypes.contains eventType

/-- A command on the publisher's connection. -/
inductive Command where
  /-- `HSET` or `HDEL` of a change -/
  | write (change : FilterChange)
  | publish (payload : WirePayload)
  /-- `HGETALL` of `install()`, and of `reconcile()` -/
  | install
  | reconcile
deriving DecidableEq, Repr

/-- How far `doStart()` has come. -/
inductive StartStage where
  | idle
  | loading
  | connecting (snapshot : FilterConfigs)
  /-- Redis has the subscription. -/
  | subscribed (snapshot : FilterConfigs)
  | started

structure FilterNode where
  configs : FilterConfigs
  stage : StartStage
  /-- the changes that wait for the start -/
  waiting : List FilterChange
  /-- the commands that Redis has not executed -/
  queue : List Command
  /-- the changes that are in the hash and not yet published, oldest first -/
  written : List FilterChange
  /-- the messages that have not been handled -/
  inbox : List WirePayload
  /-- what the reconciles under way have read, oldest first -/
  answers : List FilterConfigs

structure FilterFleet where
  hash : FilterHash
  nodes : String → FilterNode
  /-- the last change of each stream, and who made it -/
  latest : String → Option (String × FilterChange)

namespace FilterNode

def fresh : FilterNode := ⟨∅, .idle, [], [], [], [], []⟩

def ensureStarted (n : FilterNode) : FilterNode :=
  match n.stage with
  | .idle => { n with stage := .loading, queue := n.queue ++ [.install] }
  | _ => n

/-- `setConfig` or `clearConfig`. -/
def change (change : FilterChange) (n : FilterNode) : FilterNode :=
  let n := { n with configs := n.configs.applyChange change }
  match n.stage with
  | .started => { n with queue := n.queue ++ [.write change] }
  | _ => { n.ensureStarted with waiting := n.waiting ++ [change] }

/-- `install()` rejects, and with it the start and the calls that wait for it. -/
def failStart (n : FilterNode) : FilterNode := { n with stage := .idle, waiting := [] }

/-- A message of the channel comes in. -/
def receive (payload : WirePayload) (n : FilterNode) : FilterNode :=
  match n.stage with
  | .subscribed _ | .started => { n with inbox := n.inbox ++ [payload] }
  | _ => n

end FilterNode

namespace FilterFleet

/-- Whatever the hash holds, before any filter is used. -/
def initial (hash : FilterHash) : FilterFleet := ⟨hash, fun _ => .fresh, fun _ => none⟩

def withNode (workerId : String) (n : FilterNode) (x : FilterFleet) : FilterFleet :=
  { x with nodes := Function.update x.nodes workerId n }

inductive Action where
  | setConfig (workerId streamId : String) (config : FilterConfig)
  | clearConfig (workerId streamId : String)
  | start (workerId : String)
  /-- Redis executes the next command of the worker, or it fails. -/
  | execute (workerId : String)
  | lose (workerId : String)
  /-- The answer to the oldest write is there, or is lost. -/
  | publish (workerId : String)
  | loseAnswer (workerId : String)
  | subscribe (workerId : String)
  | failStart (workerId : String)
  /-- `doStart()` sets the entries of the snapshot, and the calls that waited go on. -/
  | finishStart (workerId : String)
  | handle (workerId : String)
  /-- The reconcile timer, and the answer to the oldest reconcile. -/
  | reconcileTimer (workerId : String)
  | reconcile (workerId : String)
deriving DecidableEq, Repr

def change (workerId : String) (change : FilterChange) (x : FilterFleet) : FilterFleet :=
  { x.withNode workerId ((x.nodes workerId).change change) with
    latest := Function.update x.latest change.streamId (some (workerId, change)) }

/-- The payload that a worker sends for a change. -/
def payload (workerId : String) (change : FilterChange) : WirePayload :=
  stringifyFilterPayload change.streamId change.config workerId

def write (workerId : String) (change : FilterChange) (hash : FilterHash) : FilterHash :=
  match change with
  | .set streamId _ => hash.insert streamId (payload workerId change)
  | .clear streamId => hash.erase streamId

def execute (workerId : String) (x : FilterFleet) : Option FilterFleet :=
  let n := x.nodes workerId
  match n.queue with
  | [] => none
  | .write change :: rest =>
    some { x.withNode workerId { n with queue := rest, written := n.written ++ [change] } with
      hash := write workerId change x.hash }
  | .publish payload :: rest =>
    let x := x.withNode workerId { n with queue := rest }
    some { x with nodes := fun w => (x.nodes w).receive payload }
  | .install :: rest =>
    some (x.withNode workerId { n with queue := rest, stage := .connecting x.hash.readHash })
  | .reconcile :: rest =>
    some (x.withNode workerId { n with
      queue := rest, answers := n.answers ++ [x.hash.readHash] })

def lose (workerId : String) (x : FilterFleet) : Option FilterFleet :=
  let n := x.nodes workerId
  match n.queue with
  | [] => none
  | .install :: rest => some (x.withNode workerId { n with queue := rest }.failStart)
  | _ :: rest => some (x.withNode workerId { n with queue := rest })

def publish (workerId : String) (x : FilterFleet) : Option FilterFleet :=
  let n := x.nodes workerId
  match n.written with
  | [] => none
  | change :: rest => some (x.withNode workerId { n with
      written := rest, queue := n.queue ++ [.publish (payload workerId change)] })

def loseAnswer (workerId : String) (x : FilterFleet) : Option FilterFleet :=
  let n := x.nodes workerId
  match n.written with
  | [] => none
  | _ :: rest => some (x.withNode workerId { n with written := rest })

def subscribe (workerId : String) (x : FilterFleet) : Option FilterFleet :=
  let n := x.nodes workerId
  match n.stage with
  | .connecting snapshot => some (x.withNode workerId { n with stage := .subscribed snapshot })
  | _ => none

def failStart (workerId : String) (x : FilterFleet) : Option FilterFleet :=
  let n := x.nodes workerId
  match n.stage with
  | .connecting _ => some (x.withNode workerId n.failStart)
  | _ => none

def finishStart (workerId : String) (x : FilterFleet) : Option FilterFleet :=
  let n := x.nodes workerId
  match n.stage with
  | .subscribed snapshot => some (x.withNode workerId { n with
      configs := FilterConfigs.reconcile snapshot n.configs, stage := .started,
      queue := n.queue ++ n.waiting.map .write, waiting := [] })
  | _ => none

def handle (workerId : String) (x : FilterFleet) : Option FilterFleet :=
  let n := x.nodes workerId
  match n.stage, n.inbox with
  | .started, payload :: rest => some (x.withNode workerId { n with
      configs := n.configs.applyChange (parseFilterPayload payload), inbox := rest })
  | _, _ => none

def reconcileTimer (workerId : String) (x : FilterFleet) : Option FilterFleet :=
  let n := x.nodes workerId
  match n.stage with
  | .started => some (x.withNode workerId { n with queue := n.queue ++ [.reconcile] })
  | _ => none

def reconcile (workerId : String) (x : FilterFleet) : Option FilterFleet :=
  let n := x.nodes workerId
  match n.answers with
  | [] => none
  | snapshot :: rest => some (x.withNode workerId { n with
      configs := FilterConfigs.reconcile snapshot n.configs, answers := rest })

def step (x : FilterFleet) : Action → Option FilterFleet
  | .setConfig workerId streamId config => some (x.change workerId (.set streamId config))
  | .clearConfig workerId streamId => some (x.change workerId (.clear streamId))
  | .start workerId => some (x.withNode workerId (x.nodes workerId).ensureStarted)
  | .execute workerId => x.execute workerId
  | .lose workerId => x.lose workerId
  | .publish workerId => x.publish workerId
  | .loseAnswer workerId => x.loseAnswer workerId
  | .subscribe workerId => x.subscribe workerId
  | .failStart workerId => x.failStart workerId
  | .finishStart workerId => x.finishStart workerId
  | .handle workerId => x.handle workerId
  | .reconcileTimer workerId => x.reconcileTimer workerId
  | .reconcile workerId => x.reconcile workerId

/-- The config that the hash has for the stream. -/
def stored (x : FilterFleet) (streamId : String) : Option FilterConfig :=
  (x.hash.lookup streamId).bind (·.config)

end FilterFleet

/-! ## The in-process store -/

/-- A filter over a `MemoryFilterConfigStore` of its own. -/
structure LocalFilter where
  configs : FilterConfigs
  store : FilterConfigs
  /-- what `install()` has returned, while `doStart()` has not gone on -/
  snapshot : Option FilterConfigs
  started : Bool
  waiting : List FilterChange
  latest : String → Option FilterChange

namespace LocalFilter

def initial (store : FilterConfigs) : LocalFilter := ⟨∅, store, none, false, [], fun _ => none⟩

inductive Action where
  | setConfig (streamId : String) (config : FilterConfig)
  | clearConfig (streamId : String)
  | start
  | finishStart
  /-- The next change that has waited for the start reaches the store. -/
  | write
deriving DecidableEq, Repr

/-- `install()` reads the store within the call. -/
def ensureStarted (x : LocalFilter) : LocalFilter :=
  if x.started ∨ x.snapshot.isSome then x else { x with snapshot := some x.store }

def change (change : FilterChange) (x : LocalFilter) : LocalFilter :=
  { x.ensureStarted with
    configs := x.configs.applyChange change
    waiting := x.waiting ++ [change]
    latest := Function.update x.latest change.streamId (some change) }

def finishStart (x : LocalFilter) : Option LocalFilter :=
  match x.snapshot with
  | none => none
  | some snapshot => some { x with
      configs := FilterConfigs.reconcile snapshot x.configs, snapshot := none, started := true }

/-- The store changes, and calls `onChange` at once. -/
def write (x : LocalFilter) : Option LocalFilter :=
  match x.started, x.waiting with
  | true, change :: rest => some { x with
      store := x.store.applyChange change, configs := x.configs.applyChange change,
      waiting := rest }
  | _, _ => none

def step (x : LocalFilter) : Action → Option LocalFilter
  | .setConfig streamId config => some (x.change (.set streamId config))
  | .clearConfig streamId => some (x.change (.clear streamId))
  | .start => some x.ensureStarted
  | .finishStart => x.finishStart
  | .write => x.write

end LocalFilter

end RedisFilterConfigStore
end Processing
end XStreamRoll
