/-
The two repositories behind `StreamsService`: what they write, and both as the record of
methods that the service is written against.

The database refuses a value that its column does not take, and with it the statement.  A
sequence moves on with every INSERT that gets as far as its row, refused or not.
-/
import XStreamRoll.Lists
import XStreamRoll.Api.Streams.Service

namespace XStreamRoll
namespace Api

/-- The fields that an update sets, on a stream or on a row. -/
def StreamUpdateChanges.isEmpty (changes : StreamUpdateChanges) : Bool :=
  changes.name.isNone && changes.description.isNone && changes.status.isNone &&
    changes.visibility.isNone

/-! ## Postgres -/

/-- What the database has beside the tables of streams, and what it does to values. -/
structure Postgres where
  folding : CaseFolding
  orderBy : OrderBy
  /-- the ids of `users` -/
  users : Int → Bool
  streamTags : List (Int × Int)
  /-- What a JSONB column gives back, or `none` for a value that it does not take. -/
  jsonb : Json → Option Json
  readTimestamptz : String → Option Timestamptz

/-- The tables `streams` and `stream_data`, with the sequence of the second. -/
structure StreamsDatabase where
  streams : StreamsTable
  streamData : StreamData Json
  nextDataId : Int
  dataSerial : ∀ row ∈ streamData.rows, 0 < row.id ∧ row.id < nextDataId
  nextDataId_pos : 0 < nextDataId
  foreignKey : ∀ row ∈ streamData.rows, ∃ stream ∈ streams.rows, stream.id = row.streamId

namespace StreamsTable

/-- `nextval`, for a row that is then refused. -/
def skip (table : StreamsTable) (h : table.nextId ≤ 2147483647) : StreamsTable where
  rows := table.rows
  nextId := table.nextId + 1
  primaryKey := table.primaryKey
  serial row hrow := by
    have hserial := table.serial row hrow
    omega
  nextId_pos := by
    have hpos := table.nextId_pos
    omega
  nextId_le := by omega

/-- The row that an INSERT makes. -/
def created (now : Timestamptz) (params : StreamCreateParams) (table : StreamsTable) :
    StreamRow where
  id := table.nextId
  userId := params.userId
  name := params.name
  description := params.description
  status := .inactive
  visibility := params.visibility.getD .isPrivate
  createdAt := now
  updatedAt := now

def insert (now : Timestamptz) (params : StreamCreateParams) (table : StreamsTable)
    (h : table.nextId ≤ 2147483647) : StreamsTable where
  rows := table.rows ++ [table.created now params]
  nextId := table.nextId + 1
  primaryKey := nodup_concat table.primaryKey fun row hrow => ne_of_lt (table.serial row hrow).2
  serial row hrow := by
    have hpos := table.nextId_pos
    rcases List.mem_append.mp hrow with hold | hnew
    · have hserial := table.serial row hold
      omega
    · rw [List.mem_singleton.mp hnew]
      show 0 < table.nextId ∧ table.nextId < table.nextId + 1
      omega
  nextId_pos := by
    have hpos := table.nextId_pos
    omega
  nextId_le := by omega

/-- The columns after `UPDATE streams SET …, updated_at = NOW()`. -/
def changed (now : Timestamptz) (changes : StreamUpdateChanges) (row : StreamRow) : StreamRow :=
  { row with
    name := changes.name.getD row.name
    description := changes.description.or row.description
    status := changes.status.getD row.status
    visibility := changes.visibility.getD row.visibility
    updatedAt := now }

def set (now : Timestamptz) (id : Int) (changes : StreamUpdateChanges) (table : StreamsTable) :
    StreamsTable where
  rows := table.rows.map fun row => if row.id = id then changed now changes row else row
  nextId := table.nextId
  primaryKey := by
    rw [List.map_map]
    have hid : (StreamRow.id ∘ fun row => if row.id = id then changed now changes row else row) =
        StreamRow.id := by
      funext row
      simp only [Function.comp_apply]
      split <;> rfl
    rw [hid]
    exact table.primaryKey
  serial row hrow := by
    obtain ⟨old, hold, rfl⟩ := List.mem_map.mp hrow
    split
    · exact table.serial old hold
    · exact table.serial old hold
  nextId_pos := table.nextId_pos
  nextId_le := table.nextId_le

def erase (id : Int) (table : StreamsTable) : StreamsTable where
  rows := table.rows.filter fun row => row.id ≠ id
  nextId := table.nextId
  primaryKey := (List.filter_sublist.map _).nodup table.primaryKey
  serial row hrow := table.serial row (List.mem_filter.mp hrow).1
  nextId_pos := table.nextId_pos
  nextId_le := table.nextId_le

end StreamsTable

namespace StreamsDatabase

theorem foreignKey_of_ids {db : StreamsDatabase} {table : StreamsTable}
    (h : ∀ row ∈ db.streams.rows, ∃ row' ∈ table.rows, row'.id = row.id) :
    ∀ data ∈ db.streamData.rows, ∃ stream ∈ table.rows, stream.id = data.streamId := by
  intro data hdata
  obtain ⟨stream, hstream, hid⟩ := db.foreignKey data hdata
  obtain ⟨stream', hstream', hid'⟩ := h stream hstream
  exact ⟨stream', hstream', hid'.trans hid⟩

def skipStream (db : StreamsDatabase) (h : db.streams.nextId ≤ 2147483647) : StreamsDatabase :=
  { db with
    streams := db.streams.skip h
    foreignKey := db.foreignKey }

def insertStream (now : Timestamptz) (params : StreamCreateParams) (db : StreamsDatabase)
    (h : db.streams.nextId ≤ 2147483647) : StreamsDatabase :=
  { db with
    streams := db.streams.insert now params h
    foreignKey := foreignKey_of_ids fun row hrow => ⟨row, List.mem_append_left _ hrow, rfl⟩ }

def setStream (now : Timestamptz) (id : Int) (changes : StreamUpdateChanges)
    (db : StreamsDatabase) : StreamsDatabase :=
  { db with
    streams := db.streams.set now id changes
    foreignKey := foreignKey_of_ids fun row hrow => by
      refine ⟨_, List.mem_map_of_mem hrow, ?_⟩
      split <;> rfl }

/-- No row of `stream_data` refers to the stream. -/
def Unreferenced (id : Int) (db : StreamsDatabase) : Prop :=
  ∀ data ∈ db.streamData.rows, data.streamId ≠ id

instance (id : Int) (db : StreamsDatabase) : Decidable (db.Unreferenced id) :=
  inferInstanceAs (Decidable (∀ _ ∈ _, _))

def eraseStream (id : Int) (db : StreamsDatabase) (h : db.Unreferenced id) : StreamsDatabase :=
  { db with
    streams := db.streams.erase id
    foreignKey := by
      intro data hdata
      obtain ⟨stream, hstream, hid⟩ := db.foreignKey data hdata
      refine ⟨stream, List.mem_filter.mpr ⟨hstream, ?_⟩, hid⟩
      rw [hid]
      exact decide_eq_true (h data hdata) }

def skipData (db : StreamsDatabase) : StreamsDatabase :=
  { db with
    nextDataId := db.nextDataId + 1
    dataSerial := by
      intro row hrow
      have hserial := db.dataSerial row hrow
      omega
    nextDataId_pos := by
      have hpos := db.nextDataId_pos
      omega }

/-- The row that an INSERT into `stream_data` makes. -/
def createdData (streamId : Int) (data : Json) (timestamp : Timestamptz) (db : StreamsDatabase) :
    StreamDataRow Json :=
  ⟨db.nextDataId, streamId, data, timestamp⟩

def insertData (streamId : Int) (data : Json) (timestamp : Timestamptz) (db : StreamsDatabase)
    (h : (db.streams.find streamId).isSome = true) : StreamsDatabase where
  streams := db.streams
  streamData :=
    { rows := db.streamData.rows ++ [db.createdData streamId data timestamp]
      primaryKey := nodup_concat db.streamData.primaryKey fun row hrow =>
        ne_of_lt (db.dataSerial row hrow).2 }
  nextDataId := db.nextDataId + 1
  dataSerial row hrow := by
    have hpos := db.nextDataId_pos
    rcases List.mem_append.mp hrow with hold | hnew
    · have hserial := db.dataSerial row hold
      omega
    · rw [List.mem_singleton.mp hnew]
      show 0 < db.nextDataId ∧ db.nextDataId < db.nextDataId + 1
      omega
  nextDataId_pos := by
    have hpos := db.nextDataId_pos
    omega
  foreignKey row hrow := by
    rcases List.mem_append.mp hrow with hold | hnew
    · exact db.foreignKey row hold
    · obtain ⟨stream, hstream⟩ := Option.isSome_iff_exists.mp h
      obtain ⟨hmem, hid⟩ := StreamsTable.find_eq_some_iff.mp hstream
      rw [List.mem_singleton.mp hnew]
      exact ⟨stream, hmem, hid⟩

end StreamsDatabase

/-- A text that a column of that many characters takes. -/
def fitsVarchar (limit : Nat) (s : String) : Bool := decide (s.length ≤ limit)

/-- A number that a `LIMIT` and an `OFFSET` take. -/
def fitsBigint (n : Nat) : Bool := decide (n ≤ 9223372036854775807)

namespace StreamsDbRepository

variable (pg : Postgres)

def create (now : Date) (params : StreamCreateParams) (db : StreamsDatabase) :
    Except StreamsException Stream × StreamsDatabase :=
  if h : ((Param.number params.userId).accepted && (Param.text params.name).accepted &&
      (params.description.map Param.text).all Param.accepted) = true ∧
      db.streams.nextId ≤ 2147483647 then
    if pg.users params.userId && fitsVarchar 255 params.name then
      (.ok (db.streams.created now.toTimestamptz params).rowToStream,
        db.insertStream now.toTimestamptz params h.2)
    else (.error databaseUnavailable, db.skipStream h.2)
  else (.error databaseUnavailable, db)

/-- The values of `SET` and of the `WHERE id` are taken. -/
def acceptsChanges (id : Int) (changes : StreamUpdateChanges) : Bool :=
  (Param.number id).accepted && (changes.name.map Param.text).all Param.accepted &&
    (changes.description.map Param.text).all Param.accepted

/-- Postgres takes the values of the UPDATE. -/
def takes (id : Int) (changes : StreamUpdateChanges) : Bool :=
  acceptsChanges id changes && changes.name.all (fitsVarchar 255)

def update (now : Date) (id : Int) (changes : StreamUpdateChanges) (db : StreamsDatabase) :
    Except StreamsException Stream × StreamsDatabase :=
  let missing : StreamsException := .internalServerError ("stream " ++ id.repr ++ " not found")
  if changes.isEmpty = true then
    match findById id db.streams with
    | .error e => (.error e, db)
    | .ok none => (.error missing, db)
    | .ok (some stream) => (.ok stream, db)
  else if acceptsChanges id changes = true then
    match db.streams.find id with
    | none => (.error missing, db)
    | some row =>
      if changes.name.all (fitsVarchar 255) = true then
        (.ok (StreamsTable.changed now.toTimestamptz changes row).rowToStream,
          db.setStream now.toTimestamptz id changes)
      else (.error databaseUnavailable, db)
  else (.error databaseUnavailable, db)

/-- A row that `stream_data` refers to cannot be deleted. -/
def delete (id : Int) (db : StreamsDatabase) : Except StreamsException Bool × StreamsDatabase :=
  if fitsInteger id = true then
    match db.streams.find id with
    | none => (.ok false, db)
    | some _ =>
      if h : db.Unreferenced id then (.ok true, db.eraseStream id h)
      else (.error databaseUnavailable, db)
  else (.error databaseUnavailable, db)

def insertPendingEvent (now : Date) (streamId : Int) (data : Json) (db : StreamsDatabase) :
    Except StreamsException (PendingStreamEvent Json) × StreamsDatabase :=
  if fitsInteger streamId = true ∧ db.nextDataId ≤ 2147483647 then
    match pg.jsonb data with
    | none => (.error databaseUnavailable, db)
    | some stored =>
      if h : (db.streams.find streamId).isSome = true then
        (.ok (db.createdData streamId stored now.toTimestamptz).toPendingEvent,
          db.insertData streamId stored now.toTimestamptz h)
      else (.error (streamNotFound streamId), db.skipData)
  else (.error databaseUnavailable, db)

/-- The database, behind the methods of the repository. -/
def repository : Repository StreamsDatabase Json where
  findById id db := findById id db.streams
  reread stream _ := stream
  listPaginated page limit viewerUserId filter db :=
    listPaginated pg.folding pg.streamTags pg.orderBy page limit viewerUserId filter db.streams
  create now params db := create pg now params db
  update now id changes db := update now id changes db
  delete id db := delete id db
  insertPendingEvent now streamId data db := insertPendingEvent pg now streamId data db
  getPendingEvents limit cursor db :=
    (getPendingEvents pg.readTimestamptz db.streamData limit cursor).mapError .serviceUnavailable
  listEventsForStream := none

end StreamsDbRepository

/-! ## The maps of the in-memory repository -/

namespace StreamsRepository

variable {Data : Type}

def created (now : Date) (params : StreamCreateParams) (store : StreamsRepository Data) :
    Stream where
  id := store.nextId
  userId := params.userId
  name := params.name
  description := params.description
  status := .inactive
  visibility := params.visibility.getD .isPrivate
  createdAt := now
  updatedAt := now

def create (now : Date) (params : StreamCreateParams) (store : StreamsRepository Data) :
    Stream × StreamsRepository Data :=
  (store.created now params,
    { store with
      streamsById := store.streamsById ++ [store.created now params]
      nextId := store.nextId + 1
      eventsByStream := store.eventsByStream ++ [(store.nextId, [])]
      keys := by
        refine List.pairwise_append.mpr ⟨store.keys, List.pairwise_singleton _ _, ?_⟩
        intro a ha b hb
        rw [List.mem_singleton.mp hb]
        exact (store.serial a ha).2
      serial := by
        intro s hs
        have hpos := store.nextId_pos
        rcases List.mem_append.mp hs with hold | hnew
        · have hserial := store.serial s hold
          omega
        · rw [List.mem_singleton.mp hnew]
          show 0 < store.nextId ∧ store.nextId < store.nextId + 1
          omega
      nextId_pos := by
        have hpos := store.nextId_pos
        omega })

def changed (now : Date) (changes : StreamUpdateChanges) (stream : Stream) : Stream :=
  { stream with
    name := changes.name.getD stream.name
    description := changes.description.or stream.description
    status := changes.status.getD stream.status
    visibility := changes.visibility.getD stream.visibility
    updatedAt := now }

/-- The field that an update of a missing stream fails on. -/
def firstField (changes : StreamUpdateChanges) : String :=
  if changes.name.isSome then "name"
  else if changes.description.isSome then "description"
  else if changes.status.isSome then "status"
  else if changes.visibility.isSome then "visibility"
  else "updatedAt"

def set (now : Date) (id : Int) (changes : StreamUpdateChanges) (store : StreamsRepository Data) :
    StreamsRepository Data :=
  { store with
    streamsById := store.streamsById.map fun s => if s.id = id then changed now changes s else s
    keys := by
      apply List.pairwise_map.mpr
      refine store.keys.imp ?_
      intro a b hab
      have hid : ∀ s : Stream, (if s.id = id then changed now changes s else s).id = s.id := by
        intro s
        split <;> rfl
      rw [hid, hid]
      exact hab
    serial := by
      intro s hs
      obtain ⟨old, hold, rfl⟩ := List.mem_map.mp hs
      split
      · exact store.serial old hold
      · exact store.serial old hold }

def update (now : Date) (id : Int) (changes : StreamUpdateChanges)
    (store : StreamsRepository Data) :
    Except StreamsException Stream × StreamsRepository Data :=
  match store.findById id with
  | none => (.error (.uncaught ("Cannot set properties of undefined (setting '" ++
      firstField changes ++ "')")), store)
  | some stream => (.ok (changed now changes stream), store.set now id changes)

def delete (id : Int) (store : StreamsRepository Data) : Bool × StreamsRepository Data :=
  ((store.findById id).isSome,
    { store with
      eventsByStream := store.eventsByStream.filter fun entry => entry.1 ≠ id
      streamsById := store.streamsById.filter fun s => s.id ≠ id
      keys := store.keys.filter _
      serial := fun s hs => store.serial s (List.mem_filter.mp hs).1 })

def insertPendingEvent (now : Date) (streamId : Int) (data : Data)
    (store : StreamsRepository Data) :
    Except StreamsException (PendingStreamEvent Data) × StreamsRepository Data :=
  match store.findById streamId with
  | none => (.error (streamNotFound streamId), store)
  | some _ =>
    let event : PendingStreamEvent Data :=
      ⟨store.nextPendingEventId.repr, streamId.repr, data, now.toISOString⟩
    (.ok event, { store with
      nextPendingEventId := store.nextPendingEventId + 1
      pendingEvents := store.pendingEvents ++ [event] })

/-- The limit and the cursor are not read, and neither is the queue. -/
def getPendingEvents (_limit : Nat) (_cursor : Option String) (_store : StreamsRepository Data) :
    List (PendingStreamEvent Data) × Option String :=
  ([], none)

/-- Newest first.  The comparison never says "equal", which puts the later of two records of
one instant first. -/
def listEventsForStream (streamId : Int) (page limit : Nat) (store : StreamsRepository Data) :
    List (StreamEventRecord Data) × Nat :=
  let log := ((store.eventsByStream.find? fun entry => entry.1 = streamId).map (·.2)).getD []
  let sorted := log.reverse.insertionSort fun a b => ¬Json.before a.occurredAt b.occurredAt
  (OffsetPaging.page limit (page - 1) sorted, sorted.length)

/-- The store, behind the methods of the repository. -/
def repository (folding : CaseFolding) (tagsRepository : Option (List (Int × Int))) :
    Repository (StreamsRepository Json) Json where
  findById id store := .ok (store.findById id)
  reread stream store := (store.findById stream.id).getD stream
  listPaginated page limit viewerUserId filter store :=
    .ok (store.listPaginated folding tagsRepository page limit viewerUserId filter)
  create now params store := (.ok (store.create now params).1, (store.create now params).2)
  update now id changes store := store.update now id changes
  delete id store := (.ok (store.delete id).1, (store.delete id).2)
  insertPendingEvent now streamId data store := store.insertPendingEvent now streamId data
  getPendingEvents limit cursor store := .ok (store.getPendingEvents limit cursor)
  listEventsForStream := some fun id page limit store => store.listEventsForStream id page limit

end StreamsRepository

end Api
end XStreamRoll
