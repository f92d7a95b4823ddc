/-
`StreamsService`, over either of its repositories.

The service is written once, against a record of the methods that both repositories have.
`findById` of the in-memory repository gives the stored object itself, which later reads
as whatever the store has made of it; `reread` is that difference.  `NOW()` and
`new Date()` are the instant of the call, a whole millisecond.
-/
import XStreamRoll.Api.Sanitize
import XStreamRoll.Api.Streams
import XStreamRoll.Json

namespace XStreamRoll
namespace Api

structure StreamCreateParams where
  userId : Int
  name : String
  description : Option String
  visibility : Option StreamVisibility
deriving DecidableEq, Repr

structure StreamUpdateChanges where
  name : Option String
  description : Option String
  status : Option StreamStatus
  visibility : Option StreamVisibility
deriving DecidableEq, Repr

/-! ## Status transitions -/

/-- The table of `validateStatusTransition`. -/
def allowedTransitions : StreamStatus → List StreamStatus
  | .inactive => [.active, .error]
  | .active => [.inactive, .error]
  | .error => [.inactive]

def validateStatusTransition (current next : StreamStatus) : Except StreamsException Unit :=
  if next ∈ allowedTransitions current then .ok ()
  else .error (.conflict ("cannot transition stream from \"" ++ current.text ++ "\" to \"" ++
    next.text ++ "\""))

/-- `STATUS_TO_WEBHOOK_EVENT`, and the event that the gateway emits for the status. -/
def statusEvent : StreamStatus → String
  | .active => "stream:started"
  | .inactive => "stream:stopped"
  | .error => "stream:error"

theorem statusEvent_injective : Function.Injective statusEvent := by
  intro a b h
  cases a <;> cases b <;> first | rfl | exact absurd h (by decide)

/-- The field of a payload that holds the instant. -/
def statusField : StreamStatus → String
  | .active => "startedAt"
  | .inactive => "stoppedAt"
  | .error => "occurredAt"

structure StatusPayload where
  streamId : Int
  userId : Int
  field : String
  at_ : Date
deriving DecidableEq, Repr

inductive SideEffect where
  /-- `webhooksService.dispatchStreamEvent(streamId, event, payload)` -/
  | webhook (streamId : Int) (event : String) (payload : StatusPayload)
  /-- `emitStarted`, `emitStopped` or `emitError`, the last with a code and a message -/
  | socket (event : String) (payload : StatusPayload) (error : Option (String × String))
deriving DecidableEq, Repr

def dispatchStatusSideEffects (now : Date) (stream : Stream) (newStatus : StreamStatus) :
    List SideEffect :=
  let payload : StatusPayload := ⟨stream.id, stream.userId, statusField newStatus, now⟩
  [.webhook stream.id (statusEvent newStatus) payload,
    .socket (statusEvent newStatus) payload (if newStatus = .error then
      some ("STREAM_ERROR", "stream " ++ stream.id.repr ++ " entered error state") else none)]

/-! ## The methods of a repository -/

structure Repository (σ Data : Type) where
  findById : Int → σ → Except StreamsException (Option Stream)
  /-- What an object that `findById` gave reads as in a later state. -/
  reread : Stream → σ → Stream
  listPaginated : Nat → Nat → Int → StreamListPredicate → σ → Except StreamsException StreamPage
  create : Date → StreamCreateParams → σ → Except StreamsException Stream × σ
  update : Date → Int → StreamUpdateChanges → σ → Except StreamsException Stream × σ
  delete : Int → σ → Except StreamsException Bool × σ
  insertPendingEvent : Date → Int → Data → σ → Except StreamsException (PendingStreamEvent Data) × σ
  getPendingEvents : Nat → Option String → σ →
    Except StreamsException (List (PendingStreamEvent Data) × Option String)
  /-- `none` for a class without the method. -/
  listEventsForStream : Option (Int → Nat → Nat → σ → List (StreamEventRecord Data) × Nat)

structure Tag where
  id : Int
  name : String
  slug : String
  createdAt : Date
deriving DecidableEq, Repr

/-- What the listing asks of `TagsService`. -/
structure TagsService where
  resolveTag : String → Option Tag
  listForStreamIds : List Int → Int → List Tag

structure StreamListFilter where
  status : Option StreamStatus
  visibility : Option StreamVisibility
  ownerOnly : Bool
  q : Option String
  tag : Option String
deriving DecidableEq, Repr

structure PagedStreams where
  data : List (Stream × List Tag)
  page : Nat
  limit : Nat
  total : Nat
  hasMore : Bool
deriving DecidableEq, Repr

structure PagedEvents (Data : Type) where
  data : List (StreamEventRecord Data)
  page : Nat
  limit : Nat
  total : Nat
  hasMore : Bool
deriving DecidableEq, Repr

/-- The DTO has a text of digits. -/
structure IngestStreamEventDto where
  streamId : String
  data : Option Json
  digits : streamId.toList ≠ [] ∧ ∀ c ∈ streamId.toList, c.isDigit = true

/-- `Number(streamId)`, as far as a double holds it. -/
def IngestStreamEventDto.number (dto : IngestStreamEventDto) : Int :=
  Nat.ofDigitChars 10 dto.streamId.toList 0

def MAX_INGEST_PAYLOAD_BYTES : Nat := 64 * 1024

def streamNotFound (id : Int) : StreamsException := .notFound ("stream " ++ id.repr ++ " not found")

namespace StreamsService

variable {σ : Type} (repo : Repository σ Json)

def create (now : Date) (params : StreamCreateParams) (s : σ) : Except StreamsException Stream × σ :=
  repo.create now { params with
    name := trim params.name
    description := params.description.map trim } s

def findById (id : Int) (s : σ) : Except StreamsException Stream :=
  match repo.findById id s with
  | .error e => .error e
  | .ok none => .error (streamNotFound id)
  | .ok (some stream) => .ok stream

/-- The predicate that a filter stands for, or `none` when its tag is unknown. -/
def predicateOf (tags : TagsService) (filter : StreamListFilter) : Option StreamListPredicate :=
  let predicate : StreamListPredicate :=
    { status := filter.status
      visibility := filter.visibility
      ownerOnly := filter.ownerOnly
      q := (filter.q.map trim).filter (· ≠ "")
      tagId := none }
  match filter.tag.filter (· ≠ "") with
  | none => some predicate
  | some raw => (tags.resolveTag raw).map fun tag => { predicate with tagId := some tag.id }

/-- `list`, once the predicate is there. -/
def listPage (tags : TagsService) (page limit : Nat) (viewerUserId : Int)
    (predicate : StreamListPredicate) (s : σ) : Except StreamsException PagedStreams :=
  match repo.listPaginated page limit viewerUserId predicate s with
  | .error e => .error e
  | .ok result =>
    let tagsByStream := tags.listForStreamIds (result.items.map Stream.id)
    .ok ⟨result.items.map fun stream => (stream, tagsByStream stream.id), page, limit, result.total,
      decide (page * limit < result.total)⟩

def list (tags : TagsService) (page limit : Nat) (viewerUserId : Int) (filter : StreamListFilter)
    (s : σ) : Except StreamsException PagedStreams :=
  if viewerUserId ≤ 0 then .error (.notFound "invalid viewer")
  else
    match predicateOf tags filter with
    | none => .ok ⟨[], page, limit, 0, false⟩
    | some predicate => listPage repo tags page limit viewerUserId predicate s

/-- The check before the repository is asked to write. -/
def validateChanges (stream : Stream) (changes : StreamUpdateChanges) :
    Except StreamsException Unit :=
  match changes.status with
  | none => .ok ()
  | some status => validateStatusTransition stream.status status

theorem validateChanges_ok_iff {stream : Stream} {changes : StreamUpdateChanges} :
    validateChanges stream changes = .ok () ↔
      ∀ status ∈ changes.status, status ∈ allowedTransitions stream.status := by
  unfold validateChanges validateStatusTransition
  cases changes.status with
  | none => simp
  | some status => simp

def trimChanges (changes : StreamUpdateChanges) : StreamUpdateChanges :=
  { changes with name := changes.name.map trim, description := changes.description.map trim }

/-- What follows the write: `stream` is the object that was checked, as it reads now. -/
def sideEffectsOf (now : Date) (changes : StreamUpdateChanges) (stream updated : Stream) :
    List SideEffect :=
  match changes.status with
  | none => []
  | some status =>
    if status ≠ stream.status then dispatchStatusSideEffects now updated status else []

def update (now : Date) (id : Int) (changes : StreamUpdateChanges) (s : σ) :
    Except StreamsException (Stream × List SideEffect) × σ :=
  match findById repo id s with
  | .error e => (.error e, s)
  | .ok stream =>
    match validateChanges stream changes with
    | .error e => (.error e, s)
    | .ok () =>
      match repo.update now id (trimChanges changes) s with
      | (.error e, t) => (.error e, t)
      | (.ok updated, t) =>
        (.ok (updated, sideEffectsOf now changes (repo.reread stream t) updated), t)

def delete (id : Int) (s : σ) : Except StreamsException Unit × σ :=
  match repo.delete id s with
  | (.error e, t) => (.error e, t)
  | (.ok false, t) => (.error (streamNotFound id), t)
  | (.ok true, t) => (.ok (), t)

def ingestEvent (now : Date) (dto : IngestStreamEventDto) (s : σ) :
    Except StreamsException (PendingStreamEvent Json) × σ :=
  match dto.data with
  | some (.object fields) =>
    if MAX_INGEST_PAYLOAD_BYTES < Json.length (Json.object fields).stringify then
      (.error (.payloadTooLarge ("event payload exceeds " ++ MAX_INGEST_PAYLOAD_BYTES.repr ++
        " bytes")), s)
    else repo.insertPendingEvent now dto.number (.object fields) s
  | _ => (.error (.badRequest "data must be a JSON object"), s)

def getPendingEvents (limit : Nat) (cursor : Option String) (s : σ) :
    Except StreamsException (List (PendingStreamEvent Json) × Option String) :=
  repo.getPendingEvents limit cursor s

/-- Call `getPendingEvents` and follow `nextCursor` until it is null, at most so many times. -/
def walkPendingEvents (limit : Nat) (s : σ) :
    Nat → Option String → Option (Except StreamsException (List (PendingStreamEvent Json)))
  | 0, _ => none
  | calls + 1, cursor =>
    match getPendingEvents repo limit cursor s with
    | .error e => some (.error e)
    | .ok (data, none) => some (.ok data)
    | .ok (data, some next) =>
      (walkPendingEvents limit s calls (some next)).map (Except.map (data ++ ·))

def listEvents (id : Int) (page limit : Nat) (s : σ) : Except StreamsException (PagedEvents Json) :=
  match findById repo id s with
  | .error e => .error e
  | .ok _ =>
    match repo.listEventsForStream with
    | none => .error (.uncaught "this.repo.listEventsForStream is not a function")
    | some listEventsForStream =>
      let (items, total) := listEventsForStream id page limit s
      .ok ⟨items, page, limit, total, decide (page * limit < total)⟩

end StreamsService

end Api
end XStreamRoll
