/-
`EventFilter` over a `RedisFilterConfigStore`: the filter configs of the streams, in the
memory of every worker and in one Redis hash.

A change is three steps.  It is made in the worker's own map when the method is called,
then in the hash, then it is published on the channel to all workers.  Redis executes
one command at a time and delivers the messages to every worker in the order in which
they were published; the commands of different calls come in any order.  A reconcile
reads the hash and, when the answer is back, sets every entry of it again.

The workers have started, so their callbacks are in place.  Messages are the payloads
themselves: the text in between is `JSON.stringify` undone by `JSON.parse`.
-/
import Mathlib.Data.List.AList
import Mathlib.Logic.Function.Basic
import XStreamRoll.Transition

namespace XStreamRoll
namespace Processing
namespace RedisFilterConfigStore

structure FilterConfig where
  blockedEventTypes : List String
deriving DecidableEq, Repr

inductive FilterChange where
  | set (streamId : String) (config : FilterConfig)
  | clear (streamId : String)
deriving DecidableEq, Repr

/-- `from` names the worker that sends the payload. -/
structure WirePayload where
  streamId : String
  config : Option FilterConfig
  sender : String
deriving DecidableEq, Repr

def stringifyFilterPayload (streamId : String) (config : Option FilterConfig) (sender : String) :
    WirePayload :=
  ⟨streamId, config, sender⟩

def parseFilterPayload (parsed : WirePayload) : FilterChange :=
  match parsed.config with
  | none => .clear parsed.streamId
  | some config => .set parsed.streamId config

/-- The map of an `EventFilter`. -/
abbrev FilterConfigs := AList fun _ : String => FilterConfig

/-- The Redis hash. -/
abbrev FilterHash := AList fun _ : String => WirePayload

/-- `applyChange(change)`. -/
def FilterConfigs.applyChange (change : FilterChange) (configs : FilterConfigs) : FilterConfigs :=
  match change with
  | .clear streamId => configs.erase streamId
  | .set streamId config => configs.insert streamId config

/-- An entry of the hash is taken over if its payload has a config. -/
def FilterHash.readEntry (out : FilterConfigs) (entry : Sigma fun _ : String => WirePayload) :
    FilterConfigs :=
  match parseFilterPayload entry.2 with
  | .set _ config => out.insert entry.1 config
  | .clear _ => out

/-- `readHash()`, of what `HGETALL` returned. -/
def FilterHash.readHash (hash : FilterHash) : FilterConfigs :=
  hash.entries.foldl FilterHash.readEntry ∅

/-- The loop of `reconcile()`. -/
def FilterConfigs.reconcile (snapshot configs : FilterConfigs) : FilterConfigs :=
  snapshot.entries.foldl (fun configs entry => configs.applyChange (.set entry.1 entry.2)) configs

structure FilterWorker where
  configs : FilterConfigs
  /-- How many messages of the channel have been handled. -/
  received : Nat
  /-- What the reconciles under way have read, oldest first. -/
  reconciles : List FilterConfigs

/-- A `setConfig` or `clearConfig` that has not settled.  `written` says that the hash has
been changed and that the message is still to be published. -/
structure FilterCall where
  workerId : String
  change : FilterChange
  written : Bool
deriving DecidableEq, Repr

structure FilterCluster where
  hash : FilterHash
  published : List WirePayload
  workers : String → FilterWorker
  calls : List FilterCall

def FilterChange.streamId : FilterChange → String
  | .set streamId _ | .clear streamId => streamId

def FilterChange.config : FilterChange → Option FilterConfig
  | .set _ config => some config
  | .clear _ => none

/-- The payload that the call sends. -/
def FilterCall.payload (call : FilterCall) : WirePayload :=
  stringifyFilterPayload call.change.streamId call.change.config call.workerId

theorem FilterCall.parse_payload (call : FilterCall) :
    parseFilterPayload call.payload = call.change := by
  obtain ⟨workerId, change, written⟩ := call
  cases change with
  | set streamId config => rfl
  | clear streamId => rfl

namespace FilterCluster

inductive Action where
  | setConfig (workerId streamId : String) (config : FilterConfig)
  | clearConfig (workerId streamId : String)
  /-- `HSET` or `HDEL` of the call -/
  | write (i : Nat)
  /-- `PUBLISH` of the call, which settles -/
  | publish (i : Nat)
  | deliver (workerId : String)
  /-- `HGETALL` of a reconcile, and its answer -/
  | readHash (workerId : String)
  | reconcile (workerId : String)
deriving DecidableEq, Repr

def withWorker (workerId : String) (w : FilterWorker) (c : FilterCluster) : FilterCluster :=
  { c with workers := Function.update c.workers workerId w }

/-- The change is made in the worker's map, and the call to the store begins. -/
def change (workerId : String) (change : FilterChange) (c : FilterCluster) : FilterCluster :=
  let w := c.workers workerId
  { c.withWorker workerId { w with configs := w.configs.applyChange change } with
    calls := c.calls ++ [⟨workerId, change, false⟩] }

def write (i : Nat) (c : FilterCluster) : Option FilterCluster :=
  match c.calls[i]? with
  | none => none
  | some call =>
    if call.written then none
    else some { c with
      hash := match call.change with
        | .set streamId _ => c.hash.insert streamId call.payload
        | .clear streamId => c.hash.erase streamId
      calls := c.calls.set i { call with written := true } }

def publish (i : Nat) (c : FilterCluster) : Option FilterCluster :=
  match c.calls[i]? with
  | none => none
  | some call =>
    if call.written then
      some { c with published := c.published ++ [call.payload], calls := c.calls.eraseIdx i }
    else none

def deliver (workerId : String) (c : FilterCluster) : Option FilterCluster :=
  let w := c.workers workerId
  (c.published[w.received]?).map fun payload =>
    c.withWorker workerId { w with
      configs := w.configs.applyChange (parseFilterPayload payload), received := w.received + 1 }

def readHash (workerId : String) (c : FilterCluster) : FilterCluster :=
  let w := c.workers workerId
  c.withWorker workerId { w with reconciles := w.reconciles ++ [c.hash.readHash] }

def reconcile (workerId : String) (c : FilterCluster) : Option FilterCluster :=
  let w := c.workers workerId
  match w.reconciles with
  | [] => none
  | snapshot :: rest => some (c.withWorker workerId { w with
      configs := FilterConfigs.reconcile snapshot w.configs, reconciles := rest })

def step (c : FilterCluster) : Action → Option FilterCluster
  | .setConfig workerId streamId config => some (c.change workerId (.set streamId config))
  | .clearConfig workerId streamId => some (c.change workerId (.clear streamId))
  | .write i => c.write i
  | .publish i => c.publish i
  | .deliver workerId => c.deliver workerId
  | .readHash workerId => some (c.readHash workerId)
  | .reconcile workerId => c.reconcile workerId

/-- The config that the hash has for the stream. -/
def stored (c : FilterCluster) (streamId : String) : Option FilterConfig :=
  (c.hash.lookup streamId).bind (·.config)

/-- Every worker has just started, and has what is in the hash. -/
structure Initial (c : FilterCluster) : Prop where
  hash : ∀ streamId ∈ c.hash, (c.stored streamId).isSome = true
  published : c.published = []
  calls : c.calls = []
  configs : ∀ workerId streamId, (c.workers workerId).configs.lookup streamId = c.stored streamId
  received : ∀ workerId, (c.workers workerId).received = 0
  reconciles : ∀ workerId, (c.workers workerId).reconciles = []

end FilterCluster

end RedisFilterConfigStore
end Processing
end XStreamRoll
