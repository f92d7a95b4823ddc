/-
The requests to `StreamsController` that are about one stream, over Postgres: all but the list.

`StreamOwnershipGuard` reads the id out of the path with `Number` and asks the database whose
stream it is.  The handler reads the id once more, with `ParseIntPipe`, and makes its own
statements.  A request runs without a break from one `await` to the next, and any number of
requests take their steps in any order, while events are recorded and the cache drops entries.

A statement may reject, executed or not.  `answers` is a log of what each user was sent and when,
which no step reads.
-/
import XStreamRoll.TtlCache
import XStreamRoll.Api.Streams.Analytics
import XStreamRoll.Api.Streams.Gateway

namespace XStreamRoll
namespace Api

/-! ## Responses -/

/-- The contract of `@xstreamroll/types`, as far as the numbers of the entity go. -/
structure SharedTag where
  id : Int
  name : String
  slug : String
  createdAt : String
deriving DecidableEq, Repr

structure SharedStream where
  id : String
  userId : String
  name : String
  description : Option String
  status : StreamStatus
  visibility : StreamVisibility
  createdAt : String
  updatedAt : String
  tags : List SharedTag
deriving DecidableEq, Repr

def toTagResponse (tag : Tag) : SharedTag where
  id := tag.id
  name := tag.name
  slug := tag.slug
  createdAt := tag.createdAt.toISOString

def toStreamResponse (stream : Stream × List Tag) : SharedStream where
  id := stream.1.id.repr
  userId := stream.1.userId.repr
  name := stream.1.name
  description := stream.1.description
  status := stream.1.status
  visibility := stream.1.visibility
  createdAt := stream.1.createdAt.toISOString
  updatedAt := stream.1.updatedAt.toISOString
  tags := stream.2.map toTagResponse

/-! ## The cache -/

/-- The store that `streamsCacheConfig` chooses: the second one if `REDIS_URL` is set. -/
inductive CacheStore where
  | memory
  | redis
deriving DecidableEq, Repr

/-- `STREAM_ANALYTICS_CACHE_TTL_MS` -/
def streamAnalyticsCacheTtlMs : Nat := 60000

/-- The `ttl` of `streamsCacheConfig`, which is the same for both stores. -/
def streamsCacheTtl : Nat := 60000

/-- For how many milliseconds `set(key, value, ttl)` has a value served.  The Redis store looks
for the `ttl` of a call in an object of options; it is given a number, and takes the one of its
configuration, as seconds. -/
def CacheStore.servesMs (ttl : Nat) : CacheStore → Nat
  | .memory => ttl
  | .redis => 1000 * streamsCacheTtl

namespace StreamsController

/-- What the controller runs with. -/
structure Setup where
  store : CacheStore
  doubles : Doubles

/-- For how long the analytics of a stream are served. -/
def Setup.lifetimeMs (setup : Setup) : Nat := setup.store.servesMs streamAnalyticsCacheTtlMs

/-! ## Requests and answers -/

structure CreateStreamDto where
  name : String
  description : Option String
  visibility : Option StreamVisibility
deriving DecidableEq, Repr

/-- The routes below `/streams/:id`. -/
inductive Route where
  | findById
  | update (changes : StreamUpdateChanges)
  | delete
  | getAnalytics
  | listEvents

inductive Request where
  | create (body : CreateStreamDto)
  | onStream (id : String) (route : Route)

inductive Exception where
  | badRequest (message : String)
  | forbidden (message : String)
  | thrown (e : StreamsException)
deriving DecidableEq, Repr

inductive Answer where
  | stream (stream : SharedStream)
  | deleted
  | analytics (dto : StreamAnalyticsDto)
  | exception (e : Exception)
deriving DecidableEq, Repr

/-- What a query on `stream_events` sees. -/
structure Snapshot where
  NOW : Timestamptz
  events : List StreamEventRow
deriving DecidableEq, Repr

/-- The two queries of `getAnalytics`, and when it has returned. -/
structure Measurement where
  streamId : Int
  first : Snapshot
  second : Snapshot
  generatedAt : Date
deriving DecidableEq, Repr

/-- What `getAnalytics` returns. -/
def Measurement.dto (doubles : Doubles) (folding : CaseFolding) (m : Measurement) :
    StreamAnalyticsDto :=
  StreamsDbRepository.analytics doubles m.streamId
    (StreamsDbRepository.analyticsRow doubles folding m.first.NOW m.streamId m.first.events)
    (StreamsDbRepository.seriesRows m.second.NOW m.streamId m.second.events) m.generatedAt

/-- What a request waits for. -/
inductive Await where
  | insert (params : StreamCreateParams)
  /-- the query of the guard -/
  | owns (streamId : Int) (path : String) (route : Route)
  /-- the query of `findById` -/
  | findById (id : Int)
  | findUpdate (id : Int) (changes : StreamUpdateChanges)
  | findAnalytics (id : Int)
  | findEvents (id : Int)
  | update (id : Int) (changes : StreamUpdateChanges)
  | delete (id : Int)
  /-- the cache, and the two queries behind it -/
  | cached (id : Int)
  | stats (id : Int)
  | series (id : Int) (first : Snapshot)
  | store (m : Measurement)

structure Call where
  userId : Int
  await : Await

structure Sent where
  userId : Int
  answer : Answer
  sentAt : Date
deriving DecidableEq, Repr

end StreamsController

structure StreamsController where
  now : Date
  db : StreamsDatabase
  /-- `stream_events` -/
  events : List StreamEventRow
  cache : TtlCache String StreamAnalyticsDto Date
  calls : List StreamsController.Call
  answers : List StreamsController.Sent

namespace StreamsController

/-! ## Ids in paths -/

/-- `ParseIntPipe`: `/^-?\d+$/`, and then `parseInt`. -/
def parseIntPipe (text : String) : Option Int :=
  match text.toList with
  | '-' :: digits =>
    if digits ≠ [] ∧ digits.all Char.isDigit = true then some (-Nat.ofDigitChars 10 digits 0)
    else none
  | digits =>
    if digits ≠ [] ∧ digits.all Char.isDigit = true then some (Nat.ofDigitChars 10 digits 0)
    else none

theorem parseIntPipe_repr (n : Int) : parseIntPipe n.repr = some n := by
  have digits (m : Nat) :
      Nat.toDigits 10 m ≠ [] ∧ (Nat.toDigits 10 m).all Char.isDigit = true :=
    ⟨Nat.toDigits_ne_nil, List.all_eq_true.mpr fun c hc =>
      Nat.isDigit_of_mem_toDigits (by decide) (by decide) hc⟩
  by_cases hpos : 0 ≤ n
  · rw [Int.repr_eq_if, if_pos hpos, parseIntPipe, Nat.toList_repr]
    split
    · next minus rest heq =>
      have hminus : '-' ∈ Nat.toDigits 10 n.toNat := by simp [heq]
      cases Nat.isDigit_of_mem_toDigits (by decide) (by decide) hminus
    · rw [if_pos (digits _), Nat.ofDigitChars_ten_toDigits, Int.toNat_of_nonneg hpos]
  · have list : n.repr.toList = '-' :: Nat.toDigits 10 (-n).toNat := by
      rw [Int.repr_eq_if, if_neg hpos, String.toList_append, Nat.toList_repr]
      rfl
    rw [parseIntPipe, list]
    split
    · next minus rest heq =>
      cases heq
      rw [if_pos (digits _), Nat.ofDigitChars_ten_toDigits]
      congr 1
      omega
    · next other => exact absurd rfl (other _)

/-- `Number` and `parseInt` read the same number out of digits, unless it is too large for both
to be exact. -/
structure PathNumbers extends TextNumbers where
  ofText_digits : ∀ text n id, parseIntPipe text = some n → ofText text = some id →
    fitsInteger id = true → n = id

/-! ## Turns of a request -/

/-- How a turn ends: at the next `await`, or with an answer. -/
inductive Outcome where
  | waits (await : Await)
  | answers (answer : Answer)

def refuses (e : Exception) : Outcome := .answers (.exception e)

def throws (e : StreamsException) : Outcome := refuses (.thrown e)

def notStreamOwner (userId streamId : Int) : Exception :=
  .forbidden ("user " ++ userId.repr ++ " does not own stream " ++ streamId.repr)

/-- What the guard does up to its query. -/
def Request.start (numbers : PathNumbers) (userId : Int) : Request → Outcome
  | .create body => .waits (.insert ⟨userId, trim body.name, body.description.map trim,
      body.visibility⟩)
  | .onStream path route =>
    match (numbers.ofText path).filter (0 < ·) with
    | none => refuses (.forbidden "invalid stream id")
    | some streamId => .waits (.owns streamId path route)

/-- The handler, behind its guard and its pipe. -/
def Route.handle (path : String) (route : Route) : Outcome :=
  match parseIntPipe path with
  | none => refuses (.badRequest "Validation failed (numeric string is expected)")
  | some id =>
    match route with
    | .findById => .waits (.findById id)
    | .update changes => .waits (.findUpdate id changes)
    | .delete => .waits (.delete id)
    | .getAnalytics => .waits (.cached id)
    | .listEvents => .waits (.findEvents id)

def analyticsKey (id : Int) : String := "streams:" ++ id.repr ++ ":analytics"

variable (pg : Postgres)

/-- `findById` of the service: the stream, or a 404. -/
def found (id : Int) (next : Stream → Outcome) (s : StreamsController) : Outcome :=
  match StreamsService.findById (StreamsDbRepository.repository pg) id s.db with
  | .error e => throws e
  | .ok stream => next stream

/-- `DELETE FROM streams`, which the rows of `stream_events` hold up as well. -/
def erased (id : Int) (s : StreamsController) : Except StreamsException Bool × StreamsDatabase :=
  if s.events.any fun event => event.streamId = id then (.error databaseUnavailable, s.db)
  else StreamsDbRepository.delete id s.db

def snapshot (s : StreamsController) : Snapshot := ⟨s.now.toTimestamptz, s.events⟩

def measurement (id : Int) (first : Snapshot) (s : StreamsController) : Measurement :=
  ⟨id, first, s.snapshot, s.now⟩

/-- The statement that the request waits for is executed. -/
def executed (setup : Setup) (s : StreamsController) : Await → StreamsController
  | .insert params => { s with db := (StreamsDbRepository.create pg s.now params s.db).2 }
  | .update id changes =>
    { s with
      db := (StreamsDbRepository.update s.now id (StreamsService.trimChanges changes) s.db).2 }
  | .delete id => { s with db := (s.erased id).2 }
  | .store m =>
    { s with
      cache := s.cache.set (analyticsKey m.streamId) (m.dto setup.doubles pg.folding)
        (some (s.now.plus setup.lifetimeMs)) }
  | _ => s

/-- What the request does with what its statement returns, up to the next `await`. -/
def outcome (setup : Setup) (s : StreamsController) (userId : Int) : Await → Outcome
  | .insert params =>
    match (StreamsDbRepository.create pg s.now params s.db).1 with
    | .error e => throws e
    | .ok stream => .answers (.stream (toStreamResponse (stream, [])))
  | .owns streamId path route =>
    if fitsInteger streamId = true then
      if (s.db.streams.find streamId).any fun row => row.userId = userId then route.handle path
      else refuses (notStreamOwner userId streamId)
    else throws databaseUnavailable
  | .findById id =>
    s.found pg id fun stream => .answers (.stream (toStreamResponse (stream, [])))
  | .findUpdate id changes =>
    s.found pg id fun stream =>
      match StreamsService.validateChanges stream changes with
      | .error e => throws e
      | .ok () => .waits (.update id changes)
  | .findAnalytics id => s.found pg id fun _ => .waits (.stats id)
  | .findEvents id =>
    s.found pg id fun _ => throws (.uncaught "this.repo.listEventsForStream is not a function")
  | .update id changes =>
    match (StreamsDbRepository.update s.now id (StreamsService.trimChanges changes) s.db).1 with
    | .error e => throws e
    | .ok updated => .answers (.stream (toStreamResponse (updated, [])))
  | .delete id =>
    match (s.erased id).1 with
    | .error e => throws e
    | .ok false => throws (streamNotFound id)
    | .ok true => .answers .deleted
  | .cached id =>
    match s.cache.get s.now (analyticsKey id) with
    | some dto => .answers (.analytics dto)
    | none => .waits (.findAnalytics id)
  | .stats id => .waits (.series id s.snapshot)
  | .series id first => .waits (.store (s.measurement id first))
  | .store m => .answers (.analytics (m.dto setup.doubles pg.folding))

/-! ## Steps -/

inductive Action where
  | advance (ms : Nat)
  /-- an event is recorded, or one is ingested -/
  | record (event : StreamEventRow)
  | ingest (dto : IngestStreamEventDto)
  /-- the cache drops an entry -/
  | evict (key : String)
  | request (userId : Int) (request : Request)
  /-- the statement that the `i`-th request waits for is executed -/
  | resume (i : Nat)
  /-- it rejects -/
  | reject (i : Nat) (executed : Bool)

/-- The `i`-th request is over, or it waits again. -/
def settle (i : Nat) (userId : Int) (s : StreamsController) : Outcome → StreamsController
  | .waits await => { s with calls := s.calls.set i ⟨userId, await⟩ }
  | .answers answer =>
    { s with calls := s.calls.eraseIdx i, answers := s.answers ++ [⟨userId, answer, s.now⟩] }

def begin (userId : Int) (s : StreamsController) : Outcome → StreamsController
  | .waits await => { s with calls := s.calls ++ [⟨userId, await⟩] }
  | .answers answer => { s with answers := s.answers ++ [⟨userId, answer, s.now⟩] }

def step (numbers : PathNumbers) (setup : Setup) (s : StreamsController) :
    Action → Option StreamsController
  | .advance ms => some { s with now := s.now.plus ms }
  | .record event =>
    if (s.db.streams.find event.streamId).isSome then some { s with events := s.events ++ [event] }
    else none
  | .ingest dto =>
    some { s with
      db := (StreamsService.ingestEvent (StreamsDbRepository.repository pg) s.now dto s.db).2 }
  | .evict key => some { s with cache := ⟨Function.update s.cache.entries key none⟩ }
  | .request userId request => some (s.begin userId (request.start numbers userId))
  | .resume i =>
    (s.calls[i]?).map fun call =>
      (s.executed pg setup call.await).settle i call.userId
        (s.outcome pg setup call.userId call.await)
  | .reject i executed =>
    (s.calls[i]?).map fun call =>
      (if executed then s.executed pg setup call.await else s).settle i call.userId
        (throws databaseUnavailable)

/-- Before the first request. -/
def Fresh (s : StreamsController) : Prop :=
  s.cache = .empty ∧ s.calls = [] ∧ s.answers = []

end StreamsController

end Api
end XStreamRoll
