/-
`StreamsService` over the in-memory repository and over Postgres, side by side.

Every call is served by both at one instant, a later one than the call before.  What
`TagsService` answers is the same on both sides; what their two stores of tags hold comes
with the call.  The side effects of an update are not among its results, and neither is
what becomes of an object that the in-memory repository gave out before.
-/
import XStreamRoll.Api.Streams.Updates

namespace XStreamRoll
namespace Api

open Transition

/-! ## The operations -/

inductive StreamsOperation where
  | create (params : StreamCreateParams)
  | findById (id : Int)
  /-- page `index + 1` of a listing -/
  | list (tags : TagsService) (index limit : Nat) (viewerUserId : Int) (filter : StreamListFilter)
  | update (id : Int) (changes : StreamUpdateChanges)
  | delete (id : Int)
  | ingestEvent (dto : IngestStreamEventDto)
  /-- `getPendingEvents` from the first page, and on along the cursor for so many calls -/
  | walkPendingEvents (limit calls : Nat)
  /-- page `index + 1` of a stream's events -/
  | listEvents (id : Int) (index limit : Nat)

inductive StreamsAnswer where
  | stream (result : Except StreamsException Stream)
  | deleted (result : Except StreamsException Unit)
  | page (result : Except StreamsException PagedStreams)
  | event (result : Except StreamsException (PendingStreamEvent Json))
  /-- `none` when the calls did not reach the last page -/
  | pending (result : Option (Except StreamsException (List (PendingStreamEvent Json))))
  | records (result : Except StreamsException (PagedEvents Json))

namespace StreamsService

variable {σ : Type} (repo : Repository σ Json)

def serve (now : Date) : StreamsOperation → σ → StreamsAnswer × σ
  | .create params, s =>
    let (result, t) := create repo now params s
    (.stream result, t)
  | .findById id, s => (.stream (findById repo id s), s)
  | .list tags index limit viewerUserId filter, s =>
    (.page (list repo tags (index + 1) limit viewerUserId filter s), s)
  | .update id changes, s =>
    let (result, t) := update repo now id changes s
    (.stream (result.map Prod.fst), t)
  | .delete id, s =>
    let (result, t) := delete repo id s
    (.deleted result, t)
  | .ingestEvent dto, s =>
    let (result, t) := ingestEvent repo now dto s
    (.event result, t)
  | .walkPendingEvents limit calls, s => (.pending (walkPendingEvents repo limit s calls none), s)
  | .listEvents id index limit, s => (.records (listEvents repo id (index + 1) limit s), s)

end StreamsService

structure StreamsCall where
  now : Date
  operation : StreamsOperation
  /-- the rows of `stream_tags` -/
  streamTags : List (Int × Int)
  /-- what the injected `TagsRepository` holds, if one was injected -/
  tagsRepository : Option (List (Int × Int))

structure Backends where
  memory : StreamsRepository Json
  db : StreamsDatabase
  /-- The instant of the last call. -/
  clock : Date

namespace Backends

variable (pg : Postgres)

def serveMemory (s : Backends) (c : StreamsCall) : StreamsAnswer × StreamsRepository Json :=
  StreamsService.serve (StreamsRepository.repository pg.folding c.tagsRepository) c.now c.operation
    s.memory

def serveDatabase (s : Backends) (c : StreamsCall) : StreamsAnswer × StreamsDatabase :=
  StreamsService.serve (StreamsDbRepository.repository { pg with streamTags := c.streamTags }) c.now
    c.operation s.db

def step (s : Backends) (c : StreamsCall) : Option Backends :=
  if s.clock < c.now then
    some ⟨(s.serveMemory pg c).2, (s.serveDatabase pg c).2, c.now⟩
  else none

/-- Both stores are new. -/
structure Fresh (s : Backends) : Prop where
  streams : s.memory.streamsById = []
  nextId : s.memory.nextId = 1
  pendingEvents : s.memory.pendingEvents = []
  rows : s.db.streams.rows = []
  nextRowId : s.db.streams.nextId = 1
  dataRows : s.db.streamData.rows = []

/-! ## What is to hold -/

/-- The same event, whatever its id. -/
def SameContent (e e' : PendingStreamEvent Json) : Prop :=
  e'.streamId = e.streamId ∧ e'.data = e.data ∧ e'.timestamp = e.timestamp

/-- One event in the two stores: the events that were created at one place in the order of
creation. -/
def SameEvent (s : Backends) (e e' : PendingStreamEvent Json) : Prop :=
  SameContent e e' ∧ ∃ k : Nat, s.memory.pendingEvents[k]? = some e ∧
    (s.db.streamData.rows[k]?).map StreamDataRow.toPendingEvent = some e'

/-- The answers agree, with the ids of events matched in order of creation; and a finished
walk gives every event that was ingested, oldest first. -/
def Agree (s : Backends) : StreamsAnswer → StreamsAnswer → Prop
  | .event (.ok e), .event (.ok e') => s.SameEvent e e'
  | .pending (some (.ok events)), .pending (some (.ok events')) =>
    events = s.memory.pendingEvents ∧
      events' = s.db.streamData.rows.map StreamDataRow.toPendingEvent ∧
      List.Forall₂ s.SameEvent events events'
  | answer, answer' => answer = answer'

end Backends

/-- The object that is stored, when the checks of `ingestEvent` let it through. -/
def IngestStreamEventDto.payload (dto : IngestStreamEventDto) : Option Json :=
  match dto.data with
  | some (.object fields) =>
    if MAX_INGEST_PAYLOAD_BYTES < Json.length (Json.object fields).stringify then none
    else some (.object fields)
  | _ => none

namespace Backends

variable (pg : Postgres)

/-- The INSERT of a stream goes through. -/
def Creates (params : StreamCreateParams) (db : StreamsDatabase) : Prop :=
  (Param.number params.userId).accepted = true ∧ (Param.text params.name).accepted = true ∧
    (params.description.map Param.text).all Param.accepted = true ∧
    db.streams.nextId ≤ 2147483647 ∧ pg.users params.userId = true ∧
    fitsVarchar 255 params.name = true

/-- The two sides find the search text, and the tag, on the same rows. -/
def SearchesAlike (c : StreamsCall) (predicate : StreamListPredicate) (row : StreamRow) : Prop :=
  (∀ q ∈ predicate.q,
    (includes (pg.folding.toLowerCase q) (pg.folding.toLowerCase row.name) ||
      includes (pg.folding.toLowerCase q) (pg.folding.toLowerCase (row.description.getD ""))) =
    (ilike pg.folding ("%" ++ escapeLikePattern q ++ "%") row.name ||
      row.description.any (ilike pg.folding ("%" ++ escapeLikePattern q ++ "%")))) ∧
  ∀ tagId ∈ predicate.tagId,
    (row.id, tagId) ∈ c.tagsRepository.getD [] ↔ (row.id, tagId) ∈ c.streamTags

/-- What the rest of the filter asks. -/
def withoutSearch (predicate : StreamListPredicate) : StreamListPredicate :=
  { predicate with q := none, tagId := none }

/-- Where the two backends serve a call alike. -/
def ServesAlike (s : Backends) (c : StreamsCall) : Prop :=
  match c.operation with
  | .create params => Creates pg { params with
      name := trim params.name
      description := params.description.map trim } s.db
  | .findById id => fitsInteger id = true
  | .list tags _ _ viewerUserId filter => 0 < viewerUserId →
      ∀ predicate ∈ StreamsService.predicateOf tags filter,
        (listWhere viewerUserId predicate).params.all Param.accepted = true ∧
        ∀ row ∈ s.db.streams.rows,
          (listWhere viewerUserId (withoutSearch predicate)).holds pg.folding [] row = true →
          SearchesAlike pg c predicate row
  | .update id changes => fitsInteger id = true ∧ ∀ row ∈ s.db.streams.find id,
      StreamsService.validateChanges row.rowToStream changes = .ok () →
      changes.isEmpty = false ∧
        StreamsDbRepository.takes id (StreamsService.trimChanges changes) = true
  | .delete id => fitsInteger id = true ∧
      ((s.db.streams.find id).isSome = true → s.db.Unreferenced id)
  | .ingestEvent dto => ∀ data ∈ dto.payload,
      fitsInteger dto.number = true ∧ s.db.nextDataId ≤ 2147483647 ∧
        ∃ stored, pg.jsonb data = some stored ∧
          ((s.db.streams.find dto.number).isSome = true → stored = data)
  | .walkPendingEvents limit calls => calls ≠ 0 → 0 < limit ∧ s.db.streamData.rows = []
  | .listEvents id _ _ => fitsInteger id = true ∧ s.db.streams.find id = none

/-! ## The streams -/

/-- The two stores hold the same streams, and the same events up to their ids. -/
structure Simulates (s : Backends) : Prop where
  streams : s.memory.streamsById = s.db.streams.rows.map StreamRow.rowToStream
  nextId : s.memory.nextId = s.db.streams.nextId
  created : s.memory.streamsById.Pairwise fun a b => a.createdAt < b.createdAt
  before : ∀ stream ∈ s.memory.streamsById,
    stream.createdAt ≤ s.clock ∧ stream.updatedAt ≤ s.clock
  events : List.Forall₂ SameContent s.memory.pendingEvents
    (s.db.streamData.rows.map StreamDataRow.toPendingEvent)

variable {pg} {s t : Backends} {now : Date}

theorem Simulates.later (h : s.Simulates) (hnow : s.clock < now) :
    Simulates ⟨s.memory, s.db, now⟩ :=
  ⟨h.streams, h.nextId, h.created,
    fun stream hstream => (h.before stream hstream).imp (·.trans hnow.le) (·.trans hnow.le),
    h.events⟩

theorem Simulates.findById_eq (h : s.Simulates) (id : Int) :
    s.memory.findById id = (s.db.streams.find id).map StreamRow.rowToStream := by
  rw [StreamsRepository.findById, h.streams, List.find?_map]
  rfl

variable {c : StreamsCall}

/-- The in-memory repository, as a call sees it. -/
abbrev memoryRepository (pg : Postgres) (c : StreamsCall) :
    Repository (StreamsRepository Json) Json :=
  StreamsRepository.repository pg.folding c.tagsRepository

/-- The database repository, as a call sees it. -/
abbrev databaseRepository (pg : Postgres) (c : StreamsCall) : Repository StreamsDatabase Json :=
  StreamsDbRepository.repository { pg with streamTags := c.streamTags }

theorem Simulates.service_findById (h : s.Simulates) {id : Int} (hid : fitsInteger id = true) :
    StreamsService.findById (memoryRepository pg c) id s.memory =
      StreamsService.findById (databaseRepository pg c) id s.db := by
  have hdb : (databaseRepository pg c).findById id s.db = .ok (s.memory.findById id) := by
    rw [h.findById_eq]
    exact if_pos hid
  unfold StreamsService.findById
  rw [hdb]
  rfl

theorem findById_missing {id : Int} (hid : fitsInteger id = true)
    (hrow : s.db.streams.find id = none) :
    StreamsService.findById (databaseRepository pg c) id s.db = .error (streamNotFound id) := by
  have hdb : (databaseRepository pg c).findById id s.db = .ok none := by
    show StreamsDbRepository.findById id s.db.streams = _
    rw [StreamsDbRepository.findById, if_pos hid, hrow, Option.map_none]
  rw [StreamsService.findById, hdb]

theorem findById_found {id : Int} (hid : fitsInteger id = true) {row : StreamRow}
    (hrow : s.db.streams.find id = some row) :
    StreamsService.findById (databaseRepository pg c) id s.db = .ok row.rowToStream := by
  have hdb : (databaseRepository pg c).findById id s.db = .ok (some row.rowToStream) := by
    show StreamsDbRepository.findById id s.db.streams = _
    rw [StreamsDbRepository.findById, if_pos hid, hrow, Option.map_some]
  rw [StreamsService.findById, hdb]

theorem Simulates.create (h : s.Simulates) (hnow : s.clock < now) {params : StreamCreateParams}
    (hc : Creates pg params s.db) :
    (StreamsDbRepository.create pg now params s.db).1 = .ok (s.memory.created now params) ∧
      Simulates ⟨(s.memory.create now params).2, (StreamsDbRepository.create pg now params s.db).2,
        now⟩ := by
  obtain ⟨huser, hname, hdescription, hnext, hexists, hfits⟩ := hc
  have haccepted : ((Param.number params.userId).accepted && (Param.text params.name).accepted &&
      (params.description.map Param.text).all Param.accepted) = true := by
    rw [huser, hname, hdescription]
    rfl
  have hcreated : (s.db.streams.created now.toTimestamptz params).rowToStream =
      s.memory.created now params := by
    simp only [StreamRow.rowToStream, StreamsTable.created, StreamsRepository.created, h.nextId,
      Date.toTimestamptz_toDate]
  have hresult : StreamsDbRepository.create pg now params s.db =
      (.ok (s.memory.created now params), s.db.insertStream now.toTimestamptz params hnext) := by
    unfold StreamsDbRepository.create
    rw [dif_pos ⟨haccepted, hnext⟩, if_pos (by rw [hexists, hfits]; rfl), hcreated]
  rw [hresult]
  refine ⟨rfl, ?_, ?_, ?_, ?_, h.events⟩
  · show s.memory.streamsById ++ [s.memory.created now params] =
      (s.db.streams.rows ++ [s.db.streams.created now.toTimestamptz params]).map _
    rw [List.map_append, List.map_singleton, hcreated, h.streams]
  · exact congrArg (· + 1) h.nextId
  · refine List.pairwise_append.mpr ⟨h.created, List.pairwise_singleton _ _, ?_⟩
    intro a ha b hb
    rw [List.mem_singleton.mp hb]
    exact lt_of_le_of_lt (h.before a ha).1 hnow
  · intro stream hstream
    rcases List.mem_append.mp hstream with hold | hnew
    · exact (h.later hnow).before stream hold
    · rw [List.mem_singleton.mp hnew]
      exact ⟨le_refl _, le_refl _⟩

theorem rowToStream_changed (changes : StreamUpdateChanges) (row : StreamRow) :
    (StreamsTable.changed now.toTimestamptz changes row).rowToStream =
      StreamsRepository.changed now changes row.rowToStream := by
  simp only [StreamRow.rowToStream, StreamsTable.changed, StreamsRepository.changed,
    Date.toTimestamptz_toDate]

theorem Simulates.set (h : s.Simulates) (hnow : s.clock < now) (id : Int)
    (changes : StreamUpdateChanges) :
    Simulates ⟨s.memory.set now id changes, s.db.setStream now.toTimestamptz id changes, now⟩ := by
  have hkept : ∀ stream : Stream, (if stream.id = id then
      StreamsRepository.changed now changes stream else stream).createdAt = stream.createdAt := by
    intro stream
    split <;> rfl
  refine ⟨?_, h.nextId, ?_, ?_, h.events⟩
  · show s.memory.streamsById.map _ = (s.db.streams.rows.map _).map _
    rw [h.streams, List.map_map, List.map_map]
    apply List.map_congr_left
    intro row _
    simp only [Function.comp_apply]
    by_cases hid : row.id = id
    · rw [if_pos hid, if_pos (show row.rowToStream.id = id from hid), rowToStream_changed]
    · rw [if_neg hid, if_neg (show ¬row.rowToStream.id = id from hid)]
  · apply List.pairwise_map.mpr
    simp only [hkept]
    exact h.created
  · intro stream hstream
    obtain ⟨old, hold, rfl⟩ := List.mem_map.mp hstream
    have hbefore := (h.later hnow).before old hold
    refine ⟨by rw [hkept]; exact hbefore.1, ?_⟩
    split
    · exact le_refl _
    · exact hbefore.2

theorem Simulates.erase (h : s.Simulates) (hnow : s.clock < now) {id : Int}
    (hfree : s.db.Unreferenced id) :
    Simulates ⟨(s.memory.delete id).2, s.db.eraseStream id hfree, now⟩ := by
  refine ⟨?_, h.nextId, h.created.filter _, ?_, h.events⟩
  · show s.memory.streamsById.filter _ = (s.db.streams.rows.filter _).map _
    rw [h.streams, List.filter_map]
    rfl
  · intro stream hstream
    exact (h.later hnow).before stream (List.mem_filter.mp hstream).1

theorem isEmpty_trimChanges (changes : StreamUpdateChanges) :
    (StreamsService.trimChanges changes).isEmpty = changes.isEmpty := by
  simp only [StreamUpdateChanges.isEmpty, StreamsService.trimChanges, Option.isNone_map]

theorem Simulates.update (h : s.Simulates) (hnow : s.clock < now) {id : Int}
    {changes : StreamUpdateChanges} (hid : fitsInteger id = true)
    (hc : ∀ row ∈ s.db.streams.find id,
      StreamsService.validateChanges row.rowToStream changes = .ok () → changes.isEmpty = false ∧
        StreamsDbRepository.takes id (StreamsService.trimChanges changes) = true) :
    (StreamsService.update (memoryRepository pg c) now id changes s.memory).1.map Prod.fst =
        (StreamsService.update (databaseRepository pg c) now id changes s.db).1.map Prod.fst ∧
      Simulates ⟨(StreamsService.update (memoryRepository pg c) now id changes s.memory).2,
        (StreamsService.update (databaseRepository pg c) now id changes s.db).2, now⟩ := by
  unfold StreamsService.update
  rw [h.service_findById hid]
  cases hrow : s.db.streams.find id with
  | none =>
    rw [findById_missing hid hrow]
    exact ⟨rfl, h.later hnow⟩
  | some row =>
    rw [findById_found hid hrow]
    cases hvalid : StreamsService.validateChanges row.rowToStream changes with
    | error e =>
      simp only [hvalid]
      exact ⟨trivial, h.later hnow⟩
    | ok checked =>
      obtain ⟨hne, htakes⟩ := hc row hrow hvalid
      have hdb : (databaseRepository pg c).update now id (StreamsService.trimChanges changes) s.db =
          (.ok (StreamsRepository.changed now (StreamsService.trimChanges changes) row.rowToStream),
            s.db.setStream now.toTimestamptz id (StreamsService.trimChanges changes)) := by
        rw [← rowToStream_changed]
        exact StreamsDbRepository.update_of_takes now (by rw [isEmpty_trimChanges, hne]) htakes hrow
      have hmemory : (memoryRepository pg c).update now id (StreamsService.trimChanges changes)
          s.memory =
          (.ok (StreamsRepository.changed now (StreamsService.trimChanges changes) row.rowToStream),
            s.memory.set now id (StreamsService.trimChanges changes)) := by
        show s.memory.update now id _ = _
        rw [StreamsRepository.update, h.findById_eq, hrow]
        rfl
      simp only [hvalid, hdb, hmemory]
      exact ⟨rfl, h.set hnow id _⟩

theorem Simulates.delete (h : s.Simulates) (hnow : s.clock < now) {id : Int}
    (hid : fitsInteger id = true)
    (hc : (s.db.streams.find id).isSome = true → s.db.Unreferenced id) :
    (StreamsService.delete (memoryRepository pg c) id s.memory).1 =
        (StreamsService.delete (databaseRepository pg c) id s.db).1 ∧
      Simulates ⟨(StreamsService.delete (memoryRepository pg c) id s.memory).2,
        (StreamsService.delete (databaseRepository pg c) id s.db).2, now⟩ := by
  have hmemory : (memoryRepository pg c).delete id s.memory =
      (.ok (s.db.streams.find id).isSome, (s.memory.delete id).2) := by
    rw [← @Option.isSome_map _ _ StreamRow.rowToStream, ← h.findById_eq]
    rfl
  unfold StreamsService.delete
  rw [hmemory]
  cases hrow : s.db.streams.find id with
  | none =>
    have hdb : (databaseRepository pg c).delete id s.db = (.ok false, s.db) := by
      show StreamsDbRepository.delete id s.db = _
      rw [StreamsDbRepository.delete, if_pos hid, hrow]
    rw [hdb]
    refine ⟨rfl, ?_, h.nextId, h.created.filter _, ?_, h.events⟩
    · have hnone := StreamsTable.find_eq_none_iff.mp hrow
      refine (List.filter_eq_self.mpr ?_).trans h.streams
      intro stream hstream
      rw [h.streams] at hstream
      obtain ⟨row, hmem, rfl⟩ := List.mem_map.mp hstream
      exact decide_eq_true (hnone row hmem)
    · intro stream hstream
      exact (h.later hnow).before stream (List.mem_filter.mp hstream).1
  | some row =>
    have hfree := hc (by rw [hrow]; rfl)
    have hdb : (databaseRepository pg c).delete id s.db =
        (.ok true, s.db.eraseStream id hfree) := by
      show StreamsDbRepository.delete id s.db = _
      rw [StreamsDbRepository.delete, if_pos hid, hrow]
      exact dif_pos hfree
    rw [hdb]
    exact ⟨rfl, h.erase hnow hfree⟩

/-! ## The events -/

theorem ingestEvent_object {σ : Type} (repo : Repository σ Json) (now : Date)
    {dto : IngestStreamEventDto} {fields : List (String × Json)}
    (hdata : dto.data = some (.object fields)) (s : σ) :
    StreamsService.ingestEvent repo now dto s =
      if MAX_INGEST_PAYLOAD_BYTES < Json.length (Json.object fields).stringify then
        (.error (.payloadTooLarge ("event payload exceeds " ++ MAX_INGEST_PAYLOAD_BYTES.repr ++
          " bytes")), s)
      else repo.insertPendingEvent now dto.number (.object fields) s := by
  rw [StreamsService.ingestEvent, hdata]

theorem payload_object {dto : IngestStreamEventDto} {fields : List (String × Json)}
    (hdata : dto.data = some (.object fields)) :
    dto.payload = if MAX_INGEST_PAYLOAD_BYTES < Json.length (Json.object fields).stringify then none
      else some (.object fields) := by
  rw [IngestStreamEventDto.payload, hdata]

/-- An event comes with an object, or is refused for that. -/
theorem object_or_refused (dto : IngestStreamEventDto) :
    (∃ fields, dto.data = some (.object fields)) ∨ dto.payload = none ∧
      ∀ {σ : Type} (repo : Repository σ Json) (now : Date) (s : σ),
        StreamsService.ingestEvent repo now dto s =
          (.error (.badRequest "data must be a JSON object"), s) := by
  unfold IngestStreamEventDto.payload StreamsService.ingestEvent
  cases dto.data with
  | none => exact .inr ⟨rfl, fun _ _ _ => rfl⟩
  | some data =>
    cases data with
    | object fields => exact .inl ⟨fields, rfl⟩
    | _ => exact .inr ⟨rfl, fun _ _ _ => rfl⟩

theorem ingestEvent_refused {dto : IngestStreamEventDto} (h : dto.payload = none) :
    ∃ e, ∀ {σ : Type} (repo : Repository σ Json) (now : Date) (s : σ),
      StreamsService.ingestEvent repo now dto s = (.error e, s) := by
  rcases object_or_refused dto with ⟨fields, hdata⟩ | ⟨-, hrefused⟩
  · rw [payload_object hdata] at h
    by_cases hlarge : MAX_INGEST_PAYLOAD_BYTES < Json.length (Json.object fields).stringify
    · refine ⟨.payloadTooLarge ("event payload exceeds " ++ MAX_INGEST_PAYLOAD_BYTES.repr ++
        " bytes"), fun repo now s => ?_⟩
      rw [ingestEvent_object repo now hdata, if_pos hlarge]
    · rw [if_neg hlarge] at h
      cases h
  · exact ⟨_, hrefused⟩

theorem ingestEvent_stored {σ : Type} (repo : Repository σ Json) (now : Date)
    {dto : IngestStreamEventDto} {data : Json} (h : dto.payload = some data) (s : σ) :
    StreamsService.ingestEvent repo now dto s =
      repo.insertPendingEvent now dto.number data s := by
  rcases object_or_refused dto with ⟨fields, hdata⟩ | ⟨hnone, -⟩
  · rw [payload_object hdata] at h
    by_cases hlarge : MAX_INGEST_PAYLOAD_BYTES < Json.length (Json.object fields).stringify
    · rw [if_pos hlarge] at h
      cases h
    · rw [if_neg hlarge, Option.some.injEq] at h
      rw [ingestEvent_object repo now hdata, if_neg hlarge, h]
  · rw [hnone] at h
    cases h

theorem Simulates.ingestEvent (h : s.Simulates) (hnow : s.clock < now) {dto : IngestStreamEventDto}
    (hc : ∀ data ∈ dto.payload, fitsInteger dto.number = true ∧ s.db.nextDataId ≤ 2147483647 ∧
      ∃ stored, pg.jsonb data = some stored ∧
        ((s.db.streams.find dto.number).isSome = true → stored = data)) :
    let memory := StreamsService.ingestEvent (memoryRepository pg c) now dto s.memory
    let database := StreamsService.ingestEvent (databaseRepository pg c) now dto s.db
    Agree ⟨memory.2, database.2, now⟩ (.event memory.1) (.event database.1) ∧
      Simulates ⟨memory.2, database.2, now⟩ := by
  intro memory database
  cases hpayload : dto.payload with
  | none =>
    obtain ⟨e, hrefused⟩ := ingestEvent_refused hpayload
    simp only [memory, database, hrefused]
    exact ⟨rfl, h.later hnow⟩
  | some data =>
    obtain ⟨hid, hnext, stored, hstored, hsame⟩ := hc data hpayload
    simp only [memory, database, ingestEvent_stored _ _ hpayload]
    cases hrow : s.db.streams.find dto.number with
    | none =>
      have hmemory : (memoryRepository pg c).insertPendingEvent now dto.number data s.memory =
          (.error (streamNotFound dto.number), s.memory) := by
        show s.memory.insertPendingEvent now dto.number data = _
        rw [StreamsRepository.insertPendingEvent, h.findById_eq, hrow]
        rfl
      have hdb : (databaseRepository pg c).insertPendingEvent now dto.number data s.db =
          (.error (streamNotFound dto.number), s.db.skipData) := by
        show StreamsDbRepository.insertPendingEvent _ now dto.number data s.db = _
        rw [StreamsDbRepository.insertPendingEvent, if_pos ⟨hid, hnext⟩]
        simp only [hstored, hrow, Option.isSome_none, Bool.false_eq_true, dif_neg,
          not_false_eq_true]
      rw [hmemory, hdb]
      have hlater := h.later hnow
      exact ⟨rfl, hlater.streams, hlater.nextId, hlater.created, hlater.before, hlater.events⟩
    | some row =>
      have hsome : (s.db.streams.find dto.number).isSome = true := by rw [hrow]; rfl
      have hdata : stored = data := hsame hsome
      subst hdata
      let event : PendingStreamEvent Json :=
        ⟨s.memory.nextPendingEventId.repr, dto.number.repr, stored, now.toISOString⟩
      let created := s.db.createdData dto.number stored now.toTimestamptz
      have hmemory : (memoryRepository pg c).insertPendingEvent now dto.number stored s.memory =
          (.ok event, { s.memory with
            nextPendingEventId := s.memory.nextPendingEventId + 1
            pendingEvents := s.memory.pendingEvents ++ [event] }) := by
        show s.memory.insertPendingEvent now dto.number stored = _
        rw [StreamsRepository.insertPendingEvent, h.findById_eq, hrow]
        rfl
      have hdb : (databaseRepository pg c).insertPendingEvent now dto.number stored s.db =
          (.ok created.toPendingEvent,
            s.db.insertData dto.number stored now.toTimestamptz hsome) := by
        show StreamsDbRepository.insertPendingEvent _ now dto.number stored s.db = _
        rw [StreamsDbRepository.insertPendingEvent, if_pos ⟨hid, hnext⟩]
        simp only [hstored, hsome, dif_pos]
        rfl
      have hcontent : SameContent event created.toPendingEvent := by
        refine ⟨rfl, rfl, ?_⟩
        show now.toTimestamptz.toDate.toISOString = now.toISOString
        rw [Date.toTimestamptz_toDate]
      rw [hmemory, hdb]
      have hlength : s.memory.pendingEvents.length = s.db.streamData.rows.length := by
        rw [h.events.length_eq, List.length_map]
      have hlater := h.later hnow
      refine ⟨⟨hcontent, s.memory.pendingEvents.length, List.getElem?_concat_length, ?_⟩,
        hlater.streams, hlater.nextId, hlater.created, hlater.before, ?_⟩
      · show ((s.db.streamData.rows ++ [created])[s.memory.pendingEvents.length]?).map _ = _
        rw [hlength, List.getElem?_concat_length]
        rfl
      · show List.Forall₂ SameContent (s.memory.pendingEvents ++ [event])
          ((s.db.streamData.rows ++ [created]).map _)
        rw [List.map_append]
        exact List.rel_append h.events (.cons hcontent .nil)

end Backends

/-! ## The listing -/

/-- What the in-memory filters ask of a stream. -/
theorem StreamsRepository.listed_iff {folding : CaseFolding}
    {tagsRepository : Option (List (Int × Int))} {viewerUserId : Int}
    {filter : StreamListPredicate} {s : Stream} :
    listed folding tagsRepository viewerUserId filter s = true ↔
      (if filter.ownerOnly then s.userId = viewerUserId
        else s.visibility = .isPublic ∨ s.userId = viewerUserId) ∧
      (∀ status ∈ filter.status, s.status = status) ∧
      (∀ visibility ∈ filter.visibility, s.visibility = visibility) ∧
      (∀ q ∈ filter.q.filter (· ≠ ""),
        (includes (folding.toLowerCase q) (folding.toLowerCase s.name) ||
          includes (folding.toLowerCase q) (folding.toLowerCase (s.description.getD ""))) = true) ∧
      ∀ tagId ∈ filter.tagId, (s.id, tagId) ∈ tagsRepository.getD [] := by
  unfold listed
  cases filter.ownerOnly <;>
    simp only [Bool.and_eq_true, Option.all_eq_true, decide_eq_true_eq, mem_streamIdsOf, if_true,
      if_false, Bool.false_eq_true, Option.mem_def, and_assoc, and_left_comm]

/-- JavaScript lower-cases the text character by character, and as Postgres does. -/
def CaseFolding.Plain (folding : CaseFolding) (text : String) : Prop :=
  folding.toLowerCase text = String.ofList (text.toList.map folding.lower)

theorem toList_pattern (q : String) :
    ("%" ++ escapeLikePattern q ++ "%").toList = Like.containing '\\' q.toList := by
  have escaped : (escapeLikePattern q).toList = Like.escaped '\\' q.toList := String.toList_ofList
  rw [String.toList_append, String.toList_append, escaped]
  rfl

theorem includes_eq_ilike {folding : CaseFolding} {q text : String} (hq : folding.Plain q)
    (htext : folding.Plain text) :
    includes (folding.toLowerCase q) (folding.toLowerCase text) =
      ilike folding ("%" ++ escapeLikePattern q ++ "%") text := by
  have hne : '\\' ≠ '%' := by decide
  rw [Bool.eq_iff_iff, includes, decide_eq_true_iff, ilike, toList_pattern,
    Like.map_containing folding.lower_special, Like.like_containing hne, hq, htext,
    String.toList_ofList, String.toList_ofList]

/-- On such texts the two searches say the same of a row. -/
theorem search_eq_of_plain {folding : CaseFolding} {q : String} {row : StreamRow} (hne : q ≠ "")
    (hq : folding.Plain q) (hname : folding.Plain row.name) (hempty : folding.Plain "")
    (hdescription : ∀ description ∈ row.description, folding.Plain description) :
    (includes (folding.toLowerCase q) (folding.toLowerCase row.name) ||
      includes (folding.toLowerCase q) (folding.toLowerCase (row.description.getD ""))) =
    (ilike folding ("%" ++ escapeLikePattern q ++ "%") row.name ||
      row.description.any (ilike folding ("%" ++ escapeLikePattern q ++ "%"))) := by
  rw [includes_eq_ilike hq hname]
  congr 1
  cases htext : row.description with
  | none =>
    -- A search text that is not empty is in no empty text, and NULL matches nothing.
    have hlower : (folding.toLowerCase q).toList ≠ [] := by
      rw [hq, String.toList_ofList]
      intro hnil
      exact hne (String.toList_eq_nil_iff.mp (List.map_eq_nil_iff.mp hnil))
    rw [Option.any_none, Option.getD_none, includes, hempty]
    refine decide_eq_false fun hinfix => hlower ?_
    simpa using hinfix
  | some description =>
    rw [Option.any_some, Option.getD_some]
    exact includes_eq_ilike hq (hdescription description htext)

namespace Backends

variable {pg : Postgres} {c : StreamsCall} {s t : Backends} {now : Date}

/-- The filters of the two sides keep the same rows. -/
theorem listed_eq_holds {viewerUserId : Int} {predicate : StreamListPredicate} {row : StreamRow}
    (hsearch : (listWhere viewerUserId (withoutSearch predicate)).holds pg.folding [] row = true →
      SearchesAlike pg c predicate row) :
    StreamsRepository.listed pg.folding c.tagsRepository viewerUserId predicate row.rowToStream =
      (listWhere viewerUserId predicate).holds pg.folding c.streamTags row := by
  rw [listWhere_holds_iff] at hsearch
  rw [Bool.eq_iff_iff, listWhere_holds_iff, StreamsRepository.listed_iff]
  unfold Listed at hsearch ⊢
  -- The rest of the filter is the same on both sides.
  refine and_congr_right fun hacl => and_congr_right fun hstatus => and_congr_right
    fun hvisibility => ?_
  obtain ⟨htext, htag⟩ := hsearch ⟨hacl, hstatus, hvisibility, by rintro q ⟨⟩, by rintro q ⟨⟩⟩
  refine and_congr (forall₂_congr fun q hq => ?_) (forall₂_congr fun tagId htagId => ?_)
  · have hmem : q ∈ predicate.q := (Option.mem_filter_iff.mp hq).1
    refine (Bool.eq_iff_iff.mp (htext q hmem)).trans ?_
    rw [Bool.or_eq_true, Option.any_eq_true]
    rfl
  · exact htag tagId htagId

/-- Where both sides keep the same rows, they give the same page of them. -/
theorem Simulates.listPaginated (h : s.Simulates) {viewerUserId : Int}
    {predicate : StreamListPredicate} (page limit : Nat)
    (haccepted : (listWhere viewerUserId predicate).params.all Param.accepted = true)
    (hsearch : ∀ row ∈ s.db.streams.rows,
      (listWhere viewerUserId (withoutSearch predicate)).holds pg.folding [] row = true →
      SearchesAlike pg c predicate row) :
    (memoryRepository pg c).listPaginated page limit viewerUserId predicate s.memory =
      (databaseRepository pg c).listPaginated page limit viewerUserId predicate s.db := by
  let rows := StreamsDbRepository.matching pg.folding c.streamTags viewerUserId predicate
    s.db.streams
  have hfilter : s.memory.streamsById.filter
      (StreamsRepository.listed pg.folding c.tagsRepository viewerUserId predicate) =
      rows.map StreamRow.rowToStream := by
    rw [h.streams, List.filter_map]
    congr 1
    exact List.filter_congr fun row hrow => listed_eq_holds (hsearch row hrow)
  have hsub : (rows.map StreamRow.rowToStream).Sublist s.memory.streamsById := by
    rw [← hfilter]
    exact List.filter_sublist
  -- No two streams were created at one instant, so newest first is one order only.
  have hkeys : ((rows.map StreamRow.rowToStream).map Stream.createdAt).Nodup := by
    refine List.pairwise_map.mpr ((h.created.sublist hsub).imp ?_)
    intro a b hab
    exact hab.ne
  have hdb : OffsetPaging.Ordered Stream.createdAt (rows.map StreamRow.rowToStream)
      ((pg.orderBy.arrange rows).map StreamRow.rowToStream) := by
    obtain ⟨hperm, hsorted⟩ := pg.orderBy.newestFirst rows
    refine ⟨hperm.map _, List.pairwise_map.mpr (hsorted.imp ?_)⟩
    intro a b hab
    exact Int.ediv_le_ediv (by decide) hab
  have hmemory : s.memory.listFiltered pg.folding c.tagsRepository viewerUserId predicate =
      (pg.orderBy.arrange rows).map StreamRow.rowToStream := by
    rw [StreamsRepository.listFiltered_eq, hfilter]
    exact (OffsetPaging.ordered_insertionSort _).unique hdb hkeys
  show Except.ok (s.memory.listPaginated pg.folding c.tagsRepository page limit viewerUserId
    predicate) = StreamsDbRepository.listPaginated pg.folding c.streamTags pg.orderBy page limit
      viewerUserId predicate s.db.streams
  rw [StreamsRepository.listPaginated, StreamsDbRepository.listPaginated, if_pos haccepted, hmemory]
  simp only [OffsetPaging.page, List.map_take, List.map_drop, List.length_map,
    (pg.orderBy.newestFirst rows).length_eq]
  rfl

theorem Simulates.list (h : s.Simulates) {tags : TagsService} {viewerUserId : Int}
    {filter : StreamListFilter} (page limit : Nat)
    (hc : 0 < viewerUserId → ∀ predicate ∈ StreamsService.predicateOf tags filter,
      (listWhere viewerUserId predicate).params.all Param.accepted = true ∧
      ∀ row ∈ s.db.streams.rows,
        (listWhere viewerUserId (withoutSearch predicate)).holds pg.folding [] row = true →
        SearchesAlike pg c predicate row) :
    StreamsService.list (memoryRepository pg c) tags page limit viewerUserId filter s.memory =
      StreamsService.list (databaseRepository pg c) tags page limit viewerUserId filter s.db := by
  unfold StreamsService.list
  split
  · rfl
  · next hviewer =>
    cases hpredicate : StreamsService.predicateOf tags filter with
    | none => rfl
    | some predicate =>
      obtain ⟨haccepted, hsearch⟩ := hc (not_le.mp hviewer) predicate hpredicate
      simp only [StreamsService.listPage]
      rw [h.listPaginated page limit haccepted hsearch]

/-! ## Every call -/

theorem walkPendingEvents_empty (pg : Postgres) (c : StreamsCall) {limit : Nat}
    {db : StreamsDatabase} (hlimit : 0 < limit) (hrows : db.streamData.rows = []) (calls : Nat) :
    StreamsService.walkPendingEvents (databaseRepository pg c) limit db (calls + 1) none =
      some (.ok []) := by
  have hselect : db.streamData.select none limit = [] := by
    rw [StreamData.select, Keyset.after, hrows]
    exact List.take_nil
  have hpage : getPendingEvents pg.readTimestamptz db.streamData limit none = .ok ([], none) := by
    rw [getPendingEvents, selectPending_eq rfl, hselect]
    exact if_pos hlimit
  have hget : StreamsService.getPendingEvents (databaseRepository pg c) limit none db =
      .ok ([], none) := by
    show (getPendingEvents pg.readTimestamptz db.streamData limit none).mapError _ = _
    rw [hpage]
    rfl
  rw [StreamsService.walkPendingEvents, hget]

/-- A call that both backends serve alike gets answers that agree, and leaves stores that do. -/
theorem step_agree (h : s.Simulates) (hc : s.ServesAlike pg c) (hs : s.step pg c = some t) :
    t.Agree (s.serveMemory pg c).1 (s.serveDatabase pg c).1 ∧ t.Simulates := by
  unfold step at hs
  split at hs
  · next hnow =>
    cases hs
    obtain ⟨now, operation, streamTags, tagsRepository⟩ := c
    cases operation with
    | create params =>
      obtain ⟨hresult, hsimulates⟩ := h.create hnow hc
      exact ⟨congrArg StreamsAnswer.stream hresult.symm, hsimulates⟩
    | findById id =>
      exact ⟨congrArg StreamsAnswer.stream (h.service_findById hc), h.later hnow⟩
    | list tags index limit viewerUserId filter =>
      exact ⟨congrArg StreamsAnswer.page (h.list (index + 1) limit hc), h.later hnow⟩
    | update id changes =>
      obtain ⟨hresult, hsimulates⟩ := h.update hnow hc.1 hc.2
      exact ⟨congrArg StreamsAnswer.stream hresult, hsimulates⟩
    | delete id =>
      obtain ⟨hresult, hsimulates⟩ := h.delete hnow hc.1 hc.2
      exact ⟨congrArg StreamsAnswer.deleted hresult, hsimulates⟩
    | ingestEvent dto => exact h.ingestEvent hnow hc
    | walkPendingEvents limit calls =>
      refine ⟨?_, h.later hnow⟩
      cases calls with
      | zero => rfl
      | succ calls =>
        obtain ⟨hlimit, hrows⟩ := hc (Nat.succ_ne_zero calls)
        have hempty : s.memory.pendingEvents = [] := by
          have hevents := h.events
          rw [hrows] at hevents
          exact List.forall₂_nil_right_iff.mp hevents
        have hdb := walkPendingEvents_empty pg ⟨now, .walkPendingEvents limit (calls + 1),
          streamTags, tagsRepository⟩ hlimit hrows calls
        show Agree _ (.pending (some (.ok []))) (.pending _)
        rw [hdb]
        refine ⟨hempty.symm, ?_, .nil⟩
        show [] = s.db.streamData.rows.map _
        rw [hrows, List.map_nil]
    | listEvents id index limit =>
      refine ⟨congrArg StreamsAnswer.records ?_, h.later hnow⟩
      unfold StreamsService.listEvents
      rw [h.service_findById hc.1, findById_missing hc.1 hc.2]
  · cases hs

theorem fresh_simulates (h : s.Fresh) : s.Simulates := by
  refine ⟨?_, ?_, ?_, ?_, ?_⟩
  · rw [h.streams, h.rows, List.map_nil]
  · rw [h.nextId, h.nextRowId]
  · rw [h.streams]
    exact .nil
  · rw [h.streams]
    intro stream hstream
    cases hstream
  · rw [h.pendingEvents, h.dataRows]
    exact .nil

theorem memory_findById_ne (id : Int) (store : StreamsRepository Json) :
    StreamsService.findById (memoryRepository pg c) id store ≠ .error databaseUnavailable := by
  have hget : (memoryRepository pg c).findById id store = .ok (store.findById id) := rfl
  rw [StreamsService.findById, hget]
  intro h
  cases hfind : store.findById id with
  | none =>
    rw [hfind] at h
    cases h
  | some stream =>
    rw [hfind] at h
    cases h

theorem findById_unfit {id : Int} (hid : ¬fitsInteger id = true) (db : StreamsDatabase) :
    StreamsService.findById (databaseRepository pg c) id db = .error databaseUnavailable := by
  have hget : (databaseRepository pg c).findById id db = .error databaseUnavailable := by
    show StreamsDbRepository.findById id db.streams = _
    rw [StreamsDbRepository.findById, if_neg hid]
  rw [StreamsService.findById, hget]

theorem validateChanges_ne (stream : Stream) (changes : StreamUpdateChanges) :
    StreamsService.validateChanges stream changes ≠ .error databaseUnavailable := by
  unfold StreamsService.validateChanges
  split
  · rintro ⟨⟩
  · unfold validateStatusTransition
    split <;> rintro ⟨⟩

theorem memory_update_ne (id : Int) (changes : StreamUpdateChanges)
    (store : StreamsRepository Json) :
    (StreamsService.update (memoryRepository pg c) now id changes store).1 ≠
      .error databaseUnavailable := by
  have hwrite : (memoryRepository pg c).update now id (StreamsService.trimChanges changes) store =
      store.update now id (StreamsService.trimChanges changes) := rfl
  unfold StreamsService.update
  rw [hwrite]
  split
  · next e hfind =>
    intro h
    rw [Except.error.inj h] at hfind
    exact memory_findById_ne id store hfind
  · next stream hfind =>
    split
    · next e hvalid =>
      intro h
      rw [Except.error.inj h] at hvalid
      exact validateChanges_ne stream changes hvalid
    · unfold StreamsRepository.update
      cases store.findById id with
      | none => rintro ⟨⟩
      | some stream => rintro ⟨⟩

theorem creates_of_create_ok {params : StreamCreateParams} {db : StreamsDatabase} {stream : Stream}
    (h : (StreamsDbRepository.create pg now params db).1 = .ok stream) : Creates pg params db := by
  unfold StreamsDbRepository.create at h
  split at h
  · next haccepted =>
    split at h
    · next htaken =>
      rw [Bool.and_eq_true] at htaken
      rw [Bool.and_eq_true, Bool.and_eq_true] at haccepted
      obtain ⟨⟨⟨huser, hname⟩, hdescription⟩, hnext⟩ := haccepted
      exact ⟨huser, hname, hdescription, hnext, htaken.1, htaken.2⟩
    · cases h
  · cases h

/-- An update whose results agree sets something that Postgres takes, when it gets past the
checks. -/
theorem Simulates.of_update (h : s.Simulates) (hnow : s.clock < now) {id : Int}
    {changes : StreamUpdateChanges}
    (hsame :
      (StreamsService.update (memoryRepository pg c) now id changes s.memory).1.map Prod.fst =
      (StreamsService.update (databaseRepository pg c) now id changes s.db).1.map Prod.fst) :
    fitsInteger id = true ∧ ∀ row ∈ s.db.streams.find id,
      StreamsService.validateChanges row.rowToStream changes = .ok () → changes.isEmpty = false ∧
        StreamsDbRepository.takes id (StreamsService.trimChanges changes) = true := by
  have hid : fitsInteger id = true := by
    by_contra hid
    have hdb : (StreamsService.update (databaseRepository pg c) now id changes s.db).1 =
        .error databaseUnavailable := by
      rw [StreamsService.update, findById_unfit hid]
    have hne := @memory_update_ne pg c now id changes s.memory
    rw [hdb] at hsame
    cases hmemory : (StreamsService.update (memoryRepository pg c) now id changes s.memory).1 with
    | ok result =>
      rw [hmemory] at hsame
      cases hsame
    | error e =>
      rw [hmemory] at hsame hne
      exact hne (congrArg Except.error (Except.error.inj hsame))
  refine ⟨hid, fun row hrow hvalid => ?_⟩
  have hmemory : (memoryRepository pg c).update now id (StreamsService.trimChanges changes)
      s.memory =
      (.ok (StreamsRepository.changed now (StreamsService.trimChanges changes) row.rowToStream),
        s.memory.set now id (StreamsService.trimChanges changes)) := by
    show s.memory.update now id _ = _
    rw [StreamsRepository.update, h.findById_eq, hrow]
    rfl
  have hwrite : (databaseRepository pg c).update now id (StreamsService.trimChanges changes) s.db =
      StreamsDbRepository.update now id (StreamsService.trimChanges changes) s.db := rfl
  unfold StreamsService.update at hsame
  rw [h.service_findById hid, findById_found hid hrow] at hsame
  simp only [hvalid, hmemory, hwrite] at hsame
  cases hupdate : StreamsDbRepository.update now id (StreamsService.trimChanges changes) s.db with
  | mk result db =>
    rw [hupdate] at hsame
    cases result with
    | error e => cases hsame
    | ok updated =>
      have hne : changes.isEmpty = false := by
        by_contra hempty
        rw [Bool.not_eq_false, ← isEmpty_trimChanges] at hempty
        unfold StreamsDbRepository.update at hupdate
        rw [if_pos hempty, StreamsDbRepository.findById, if_pos hid, hrow] at hupdate
        have hsameStream := Except.ok.inj hsame
        rw [← Except.ok.inj (Prod.mk.inj hupdate).1] at hsameStream
        have hstale : row.rowToStream.updatedAt ≤ s.clock := by
          refine (h.before row.rowToStream ?_).2
          rw [h.streams]
          exact List.mem_map_of_mem (StreamsTable.find_eq_some_iff.mp hrow).1
        have hnew : now = row.rowToStream.updatedAt := congrArg Stream.updatedAt hsameStream
        exact absurd hstale (not_le.mpr (hnew ▸ hnow))
      exact ⟨hne, StreamsDbRepository.takes_of_update_ok (by rw [isEmpty_trimChanges, hne]) hupdate⟩

theorem Simulates.of_delete (h : s.Simulates) {id : Int}
    (hsame : (StreamsService.delete (memoryRepository pg c) id s.memory).1 =
      (StreamsService.delete (databaseRepository pg c) id s.db).1) :
    fitsInteger id = true ∧ ((s.db.streams.find id).isSome = true → s.db.Unreferenced id) := by
  have hmemory : (memoryRepository pg c).delete id s.memory =
      (.ok (s.db.streams.find id).isSome, (s.memory.delete id).2) := by
    rw [← @Option.isSome_map _ _ StreamRow.rowToStream, ← h.findById_eq]
    rfl
  have hwrite : (databaseRepository pg c).delete id s.db = StreamsDbRepository.delete id s.db := rfl
  have hmemoryNe : (StreamsService.delete (memoryRepository pg c) id s.memory).1 ≠
      .error databaseUnavailable := by
    rw [StreamsService.delete, hmemory]
    cases (s.db.streams.find id).isSome with
    | true => rintro ⟨⟩
    | false => rintro ⟨⟩
  have hdbNe : (StreamsDbRepository.delete id s.db).1 ≠ .error databaseUnavailable := by
    intro hdelete
    apply hmemoryNe
    rw [hsame, StreamsService.delete, hwrite]
    cases hresult : StreamsDbRepository.delete id s.db with
    | mk result db =>
      rw [hresult] at hdelete
      rw [show result = _ from hdelete]
  unfold StreamsDbRepository.delete at hdbNe
  split at hdbNe
  · next hid =>
    refine ⟨hid, fun hsome => ?_⟩
    split at hdbNe
    · next hnone =>
      rw [hnone] at hsome
      cases hsome
    · split at hdbNe
      · next hfree => exact hfree
      · exact absurd rfl hdbNe
  · exact absurd rfl hdbNe

/-- The in-memory repository stores what it is given. -/
theorem memory_insertPendingEvent (now : Date) (streamId : Int) (data : Json)
    (store : StreamsRepository Json) :
    (store.insertPendingEvent now streamId data).1 = .error (streamNotFound streamId) ∨
      ∃ event, (store.insertPendingEvent now streamId data).1 = .ok event ∧ event.data = data := by
  unfold StreamsRepository.insertPendingEvent
  cases store.findById streamId with
  | none => exact .inl rfl
  | some stream => exact .inr ⟨_, rfl, rfl⟩

theorem of_ingestEvent {dto : IngestStreamEventDto}
    (hagree : t.Agree
      (.event (StreamsService.ingestEvent (memoryRepository pg c) now dto s.memory).1)
      (.event (StreamsService.ingestEvent (databaseRepository pg c) now dto s.db).1)) :
    ∀ data ∈ dto.payload, fitsInteger dto.number = true ∧ s.db.nextDataId ≤ 2147483647 ∧
      ∃ stored, pg.jsonb data = some stored ∧
        ((s.db.streams.find dto.number).isSome = true → stored = data) := by
  intro data hpayload
  rw [ingestEvent_stored _ now hpayload, ingestEvent_stored _ now hpayload] at hagree
  have hwrite : (databaseRepository pg c).insertPendingEvent now dto.number data s.db =
      StreamsDbRepository.insertPendingEvent { pg with streamTags := c.streamTags } now dto.number
        data s.db := rfl
  have hread : (memoryRepository pg c).insertPendingEvent now dto.number data s.memory =
      s.memory.insertPendingEvent now dto.number data := rfl
  rw [hwrite, hread] at hagree
  have hmemory := memory_insertPendingEvent now dto.number data s.memory
  -- The database has not answered that it is unavailable.
  have hreached : ¬t.Agree (.event (s.memory.insertPendingEvent now dto.number data).1)
      (.event (.error databaseUnavailable)) := by
    rcases hmemory with herror | ⟨event, hok, -⟩
    · rw [herror]
      rintro ⟨⟩
    · rw [hok]
      rintro ⟨⟩
  unfold StreamsDbRepository.insertPendingEvent at hagree
  split at hagree
  · next htaken =>
    split at hagree
    · exact absurd hagree hreached
    · next stored hstored =>
      refine ⟨htaken.1, htaken.2, stored, hstored, fun hsome => ?_⟩
      rw [dif_pos hsome] at hagree
      rcases hmemory with herror | ⟨event, hok, hdata⟩
      · rw [herror] at hagree
        cases hagree
      · rw [hok] at hagree
        exact hagree.1.2.1.trans hdata
  · exact absurd hagree hreached

theorem Simulates.of_walkPendingEvents (h : s.Simulates) {limit calls : Nat}
    (hagree : Agree ⟨s.memory, s.db, now⟩
      (.pending
        (StreamsService.walkPendingEvents (memoryRepository pg c) limit s.memory calls none))
      (.pending
        (StreamsService.walkPendingEvents (databaseRepository pg c) limit s.db calls none)))
    (hcalls : calls ≠ 0) : 0 < limit ∧ s.db.streamData.rows = [] := by
  obtain ⟨calls, rfl⟩ := Nat.exists_eq_succ_of_ne_zero hcalls
  have hmemory : StreamsService.walkPendingEvents (memoryRepository pg c) limit s.memory
      (calls + 1) none = some (.ok []) := rfl
  rw [hmemory] at hagree
  cases hdb : StreamsService.walkPendingEvents (databaseRepository pg c) limit s.db (calls + 1)
      none with
  | none =>
    rw [hdb] at hagree
    cases hagree
  | some result =>
    rw [hdb] at hagree
    cases result with
    | error e => cases hagree
    | ok events =>
      have hempty : s.memory.pendingEvents = [] := hagree.1.symm
      have hrows : s.db.streamData.rows = [] := by
        have hevents := h.events
        rw [hempty] at hevents
        exact List.map_eq_nil_iff.mp (List.forall₂_nil_left_iff.mp hevents)
      refine ⟨Nat.pos_of_ne_zero ?_, hrows⟩
      rintro rfl
      have hselect : s.db.streamData.select none 0 = [] := List.take_zero
      have hget : StreamsService.getPendingEvents (databaseRepository pg c) 0 none s.db =
          .error databaseUnavailable := by
        show (getPendingEvents pg.readTimestamptz s.db.streamData 0 none).mapError _ = _
        rw [getPendingEvents, selectPending_eq rfl, hselect]
        rfl
      rw [StreamsService.walkPendingEvents, hget] at hdb
      cases hdb

theorem Simulates.of_listEvents (h : s.Simulates) {id : Int} {page limit : Nat}
    (hsame : StreamsService.listEvents (memoryRepository pg c) id page limit s.memory =
      StreamsService.listEvents (databaseRepository pg c) id page limit s.db) :
    fitsInteger id = true ∧ s.db.streams.find id = none := by
  have hmissing : (databaseRepository pg c).listEventsForStream = none := rfl
  unfold StreamsService.listEvents at hsame
  have hid : fitsInteger id = true := by
    by_contra hid
    have hne := @memory_findById_ne pg c id s.memory
    rw [findById_unfit hid] at hsame
    cases hfind : StreamsService.findById (memoryRepository pg c) id s.memory with
    | error e =>
      rw [hfind] at hsame hne
      exact hne (congrArg Except.error (Except.error.inj hsame))
    | ok stream =>
      rw [hfind] at hsame
      cases hsame
  refine ⟨hid, ?_⟩
  cases hrow : s.db.streams.find id with
  | none => rfl
  | some row =>
    rw [h.service_findById hid, findById_found hid hrow, hmissing] at hsame
    cases hsame

/-- What comes out alike was served alike, unless it is a listing: there the two may differ
on rows that are not on the page. -/
theorem servesAlike_of_agree (h : s.Simulates) (hs : s.step pg c = some t)
    (hagree : t.Agree (s.serveMemory pg c).1 (s.serveDatabase pg c).1)
    (hlist : ∀ tags index limit viewerUserId filter,
      c.operation ≠ .list tags index limit viewerUserId filter) : s.ServesAlike pg c := by
  unfold step at hs
  split at hs
  · next hnow =>
    cases hs
    obtain ⟨now, operation, streamTags, tagsRepository⟩ := c
    cases operation with
    | create params => exact creates_of_create_ok (StreamsAnswer.stream.inj hagree).symm
    | findById id =>
      have hsame := StreamsAnswer.stream.inj hagree
      show fitsInteger id = true
      by_contra hid
      exact memory_findById_ne id s.memory (hsame.trans (findById_unfit hid s.db))
    | list tags index limit viewerUserId filter => exact absurd rfl (hlist _ _ _ _ _)
    | update id changes => exact h.of_update hnow (StreamsAnswer.stream.inj hagree)
    | delete id => exact h.of_delete (StreamsAnswer.deleted.inj hagree)
    | ingestEvent dto => exact of_ingestEvent hagree
    | walkPendingEvents limit calls => exact h.of_walkPendingEvents hagree
    | listEvents id index limit => exact h.of_listEvents (StreamsAnswer.records.inj hagree)
  · cases hs

/-- In a run without listings whose answers all agree, every call was one that the two
backends serve alike. -/
theorem servesAlike_of_run_agree {as : List StreamsCall} (h : s.Fresh)
    (hagree : AllSteps (step pg)
      (fun s c t => t.Agree (s.serveMemory pg c).1 (s.serveDatabase pg c).1) s as)
    (hlist : ∀ c ∈ as, ∀ tags index limit viewerUserId filter,
      c.operation ≠ .list tags index limit viewerUserId filter) :
    AllSteps (step pg) (fun s c _ => s.ServesAlike pg c) s as := by
  refine AllSteps.of_invariant (I := Simulates) ?_ ?_ (fresh_simulates h)
    (hagree.and_actions hlist)
  · rintro s c t hsimulates ⟨hagree, hlist⟩ hs
    exact (step_agree hsimulates (servesAlike_of_agree hsimulates hs hagree hlist) hs).2
  · rintro s c t hsimulates ⟨hagree, hlist⟩ hs
    exact servesAlike_of_agree hsimulates hs hagree hlist

/-! ## The queue of the database -/

/-- The rows of `stream_data` stand in the order of their instants. -/
structure Queued (s : Backends) : Prop where
  sorted : s.db.streamData.rows.Pairwise fun a b => a.timestamp < b.timestamp
  whole : ∀ row ∈ s.db.streamData.rows, row.timestamp.toDate.toTimestamptz = row.timestamp
  before : ∀ row ∈ s.db.streamData.rows, row.timestamp ≤ s.clock.toTimestamptz

theorem update_streamData (now : Date) (id : Int) (changes : StreamUpdateChanges)
    (db : StreamsDatabase) :
    (StreamsDbRepository.update now id changes db).2.streamData = db.streamData := by
  cases hupdate : StreamsDbRepository.update now id changes db with
  | mk result db' =>
    cases result with
    | error e => rw [StreamsDbRepository.update_error hupdate]
    | ok updated =>
      obtain ⟨-, row, row', -, -, -, rfl | rfl⟩ := StreamsDbRepository.update_ok hupdate
      · rfl
      · rfl

theorem delete_streamData (id : Int) (db : StreamsDatabase) :
    (StreamsDbRepository.delete id db).2.streamData = db.streamData := by
  unfold StreamsDbRepository.delete
  split
  · split
    · rfl
    · split <;> rfl
  · rfl

/-- An INSERT into `stream_data` adds its row at the end, if any. -/
theorem insertPendingEvent_rows (pg : Postgres) (now : Date) (streamId : Int) (data : Json)
    (db : StreamsDatabase) :
    (StreamsDbRepository.insertPendingEvent pg now streamId data db).2.streamData.rows =
        db.streamData.rows ∨
      ∃ row, row.timestamp = now.toTimestamptz ∧
        (StreamsDbRepository.insertPendingEvent pg now streamId data db).2.streamData.rows =
          db.streamData.rows ++ [row] := by
  unfold StreamsDbRepository.insertPendingEvent
  split
  · split
    · exact .inl rfl
    · next stored hstored =>
      split
      · exact .inr ⟨db.createdData streamId stored now.toTimestamptz, rfl, rfl⟩
      · exact .inl rfl
  · exact .inl rfl

/-- A call adds at most one row, of its own instant, at the end. -/
theorem serveDatabase_rows (pg : Postgres) (s : Backends) (c : StreamsCall) :
    (s.serveDatabase pg c).2.streamData.rows = s.db.streamData.rows ∨
      ∃ row, row.timestamp = c.now.toTimestamptz ∧
        (s.serveDatabase pg c).2.streamData.rows = s.db.streamData.rows ++ [row] := by
  obtain ⟨now, operation, streamTags, tagsRepository⟩ := c
  cases operation with
  | create params =>
    refine .inl ?_
    show (StreamsDbRepository.create _ now _ s.db).2.streamData.rows = _
    unfold StreamsDbRepository.create
    split
    · split <;> rfl
    · rfl
  | findById id => exact .inl rfl
  | list tags index limit viewerUserId filter => exact .inl rfl
  | update id changes =>
    refine .inl ?_
    show (StreamsService.update _ now id changes s.db).2.streamData.rows = _
    have hupdate := congrArg StreamData.rows
      (update_streamData now id (StreamsService.trimChanges changes) s.db)
    unfold StreamsService.update
    split
    · rfl
    · split
      · rfl
      · split
        · next heq => exact (congrArg (fun r => r.2.streamData.rows) heq).symm.trans hupdate
        · next heq => exact (congrArg (fun r => r.2.streamData.rows) heq).symm.trans hupdate
  | delete id =>
    refine .inl ?_
    show (StreamsService.delete _ id s.db).2.streamData.rows = _
    have hdelete := congrArg StreamData.rows (delete_streamData id s.db)
    unfold StreamsService.delete
    split
    · next heq => exact (congrArg (fun r => r.2.streamData.rows) heq).symm.trans hdelete
    · next heq => exact (congrArg (fun r => r.2.streamData.rows) heq).symm.trans hdelete
    · next heq => exact (congrArg (fun r => r.2.streamData.rows) heq).symm.trans hdelete
  | ingestEvent dto =>
    show (StreamsService.ingestEvent _ now dto s.db).2.streamData.rows = _ ∨ ∃ row, _ ∧
      (StreamsService.ingestEvent _ now dto s.db).2.streamData.rows = _
    cases hpayload : dto.payload with
    | none =>
      obtain ⟨e, hrefused⟩ := ingestEvent_refused hpayload
      rw [hrefused]
      exact .inl rfl
    | some data =>
      rw [ingestEvent_stored _ now hpayload]
      exact insertPendingEvent_rows _ now dto.number data s.db
  | walkPendingEvents limit calls => exact .inl rfl
  | listEvents id index limit => exact .inl rfl

theorem step_queued (h : s.Queued) (hs : s.step pg c = some t) : t.Queued := by
  unfold step at hs
  split at hs
  · next hnow =>
    cases hs
    have hlater : s.clock.toTimestamptz < c.now.toTimestamptz :=
      Int.mul_lt_mul_of_pos_left hnow (by decide)
    rcases serveDatabase_rows pg s c with hsame | ⟨row, hrow, hnew⟩
    · refine ⟨?_, ?_, ?_⟩
      · exact hsame ▸ h.sorted
      · exact hsame ▸ h.whole
      · intro row hrow
        rw [hsame] at hrow
        exact (h.before row hrow).trans hlater.le
    · have hlast : ∀ old ∈ s.db.streamData.rows, old.timestamp < row.timestamp := by
        intro old hold
        rw [hrow]
        exact lt_of_le_of_lt (h.before old hold) hlater
      refine ⟨?_, ?_, ?_⟩
      · rw [hnew]
        refine List.pairwise_append.mpr ⟨h.sorted, List.pairwise_singleton _ _, ?_⟩
        intro a ha b hb
        rw [List.mem_singleton.mp hb]
        exact hlast a ha
      · intro other hother
        rw [hnew] at hother
        rcases List.mem_append.mp hother with hold | hlast
        · exact h.whole other hold
        · rw [List.mem_singleton.mp hlast, hrow, Date.toTimestamptz_toDate]
      · intro other hother
        rw [hnew] at hother
        rcases List.mem_append.mp hother with hold | hlast
        · exact (h.before other hold).trans hlater.le
        · rw [List.mem_singleton.mp hlast, hrow]
  · cases hs

theorem fresh_queued (h : s.Fresh) : s.Queued := by
  refine ⟨?_, ?_, ?_⟩ <;> simp [h.dataRows]

theorem Queued.ordered_eq (h : s.Queued) : s.db.streamData.ordered = s.db.streamData.rows := by
  refine List.Pairwise.insertionSort_eq ?_
  exact h.sorted.imp fun hlt => (Prod.Lex.toLex_le_toLex.mpr (.inl hlt))

/-- The walk is the one of the repository. -/
theorem walkPendingEvents_eq (limit : Nat) (db : StreamsDatabase) (calls : Nat)
    (cursor : Option String) :
    StreamsService.walkPendingEvents (databaseRepository pg c) limit db calls cursor =
      (collect pg.readTimestamptz db.streamData limit calls cursor).map
        (Except.mapError .serviceUnavailable) := by
  induction calls generalizing cursor with
  | zero => rfl
  | succ calls ih =>
    have hget : StreamsService.getPendingEvents (databaseRepository pg c) limit cursor db =
        (getPendingEvents pg.readTimestamptz db.streamData limit cursor).mapError
          .serviceUnavailable := rfl
    rw [StreamsService.walkPendingEvents, collect, hget]
    cases getPendingEvents pg.readTimestamptz db.streamData limit cursor with
    | error message => rfl
    | ok page =>
      obtain ⟨data, next⟩ := page
      cases next with
      | none => rfl
      | some next =>
        show (StreamsService.walkPendingEvents _ limit db calls (some next)).map _ =
          Option.map _ (Option.map _ (collect _ _ limit calls (some next)))
        rw [ih, Option.map_map, Option.map_map]
        congr 1
        funext result
        cases result <;> rfl

/-- On the database a walk gives the events that were ingested, oldest first, in every state
of a run; on the in-memory repository it gives none. -/
theorem walkPendingEvents_fifo {as : List StreamsCall} (h : s.Fresh)
    (hrun : run (step pg) s as = some t)
    (hread : ∀ row ∈ t.db.streamData.rows,
      pg.readTimestamptz row.timestamp.toDate.toISOString = some row.timestamp)
    {limit : Nat} (hlimit : 0 < limit) :
    (∃ calls, StreamsService.walkPendingEvents (databaseRepository pg c) limit t.db calls none =
        some (.ok (t.db.streamData.rows.map StreamDataRow.toPendingEvent))) ∧
      ∀ calls, StreamsService.walkPendingEvents (memoryRepository pg c) limit t.memory (calls + 1)
        none = some (.ok []) := by
  have hqueued : t.Queued := run_invariant (fun s c t hs hst => step_queued hs hst) (fresh_queued h)
    hrun
  refine ⟨?_, fun calls => rfl⟩
  have hiso : ReadsIsoTexts pg.readTimestamptz t.db.streamData := by
    intro row hrow timestamp htimestamp
    rw [hread row hrow, Option.some.injEq] at htimestamp
    rw [← htimestamp, hqueued.whole row hrow]
  have hall : ∀ i row, t.db.streamData.ordered[(i + 1) * limit - 1]? = some row →
      Recoverable pg.readTimestamptz row := by
    intro i row hrow
    rw [hqueued.ordered_eq] at hrow
    have hmem := List.mem_of_getElem? hrow
    refine ⟨?_, by rw [hread row hmem]; rfl⟩
    exact (Timestamptz.toDate_toTimestamptz_eq_iff _).mp (hqueued.whole row hmem)
  obtain ⟨calls, hcalls⟩ := (collect_complete_iff hiso hlimit).mpr hall
  refine ⟨calls, ?_⟩
  rw [walkPendingEvents_eq, hcalls, hqueued.ordered_eq]
  rfl

/-! ## Two runs -/

def newBackends : Backends where
  memory := ⟨[], 1, [], [], 1, .nil, List.forall_mem_nil _, Int.one_pos⟩
  db :=
    { streams := ⟨[], 1, .nil, List.forall_mem_nil _, Int.one_pos, by decide⟩
      streamData := ⟨[], .nil⟩
      nextDataId := 1
      dataSerial := List.forall_mem_nil _
      nextDataId_pos := Int.one_pos
      foreignKey := List.forall_mem_nil _ }
  clock := ⟨0⟩

theorem fresh_newBackends : newBackends.Fresh := ⟨rfl, rfl, rfl, rfl, rfl, rfl⟩

def callAt (ms : Int) (operation : StreamsOperation) : StreamsCall := ⟨⟨ms⟩, operation, [], some []⟩

/-- An event without fields for the stream of that digit. -/
def emptyEvent (digit : Char) (h : digit.isDigit = true) : IngestStreamEventDto where
  streamId := String.ofList [digit]
  data := some (.object [])
  digits := by
    rw [String.toList_ofList]
    refine ⟨List.cons_ne_nil _ _, fun c hc => ?_⟩
    rw [List.mem_singleton.mp hc]
    exact h

/-- A public stream of user 1 is listed, started and deleted; an event for another stream
finds none. -/
def servedAlike : List StreamsCall :=
  [callAt 1 (.create ⟨1, "news", none, some .isPublic⟩),
    callAt 2 (.list noTags 0 20 2 ⟨none, none, false, some "new", none⟩),
    callAt 3 (.update 1 (Updates.toStatus .active)),
    callAt 4 (.ingestEvent (emptyEvent '7' rfl)),
    callAt 5 (.walkPendingEvents 100 2), callAt 6 (.delete 1), callAt 7 (.findById 1)]

/-- An event is ingested for a stream that exists, and then the pending events are asked
for. -/
def ingestedAndPolled : List StreamsCall :=
  [callAt 1 (.create ⟨1, "news", none, none⟩), callAt 2 (.ingestEvent (emptyEvent '1' rfl)),
    callAt 3 (.walkPendingEvents 100 1)]

end Backends

end Api
end XStreamRoll
