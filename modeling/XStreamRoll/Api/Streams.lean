/-
Streams, and how they are listed: `StreamsDbRepository` over Postgres, the in-memory
`StreamsRepository`, and the rule of `StreamOwnershipService`.

The WHERE clause of the database listing is assembled from the filter, with its
parameters, and then evaluated.  What Postgres and JavaScript do to the case of a text is
a parameter, and so is the order in which one execution of the query returns rows that
were created at the same instant.
-/
import Mathlib.Data.List.Sort
import XStreamRoll.Api.Auth
import XStreamRoll.Api.PendingEvents
import XStreamRoll.Like
import XStreamRoll.OffsetPaging
import XStreamRoll.Time

namespace XStreamRoll
namespace Api

inductive StreamStatus where
  | inactive
  | active
  | error
deriving DecidableEq, Repr

def StreamStatus.text : StreamStatus → String
  | .inactive => "inactive"
  | .active => "active"
  | .error => "error"

inductive StreamVisibility where
  | isPublic
  | isPrivate
deriving DecidableEq, Repr

def StreamVisibility.text : StreamVisibility → String
  | .isPublic => "public"
  | .isPrivate => "private"

structure Stream where
  id : Int
  userId : Int
  name : String
  description : Option String
  status : StreamStatus
  visibility : StreamVisibility
  createdAt : Date
  updatedAt : Date
deriving DecidableEq, Repr

inductive StreamsException where
  | badRequest (message : String)
  | notFound (message : String)
  | conflict (message : String)
  | payloadTooLarge (message : String)
  | internalServerError (message : String)
  | serviceUnavailable (message : String)
  /-- an error of another class, which the framework answers with 500 -/
  | uncaught (message : String)
deriving DecidableEq, Repr

/-- What `handleDbError` throws. -/
def databaseUnavailable : StreamsException := .serviceUnavailable handleDbError

structure StreamListPredicate where
  status : Option StreamStatus
  visibility : Option StreamVisibility
  ownerOnly : Bool
  q : Option String
  tagId : Option Int
deriving DecidableEq, Repr

/-- No filter. -/
def StreamListPredicate.none : StreamListPredicate := ⟨.none, .none, false, .none, .none⟩

/-- How the two sides fold case.  Postgres goes character by character, and leaves alone
what means something in a pattern. -/
structure CaseFolding where
  toLowerCase : String → String
  lower : Char → Char
  lower_special : ∀ c, (lower c ∈ Like.special '\\' ↔ c ∈ Like.special '\\') ∧
    (c ∈ Like.special '\\' → lower c = c)

theorem StreamStatus.text_injective : Function.Injective StreamStatus.text := by
  intro a b h
  cases a <;> cases b <;> first | rfl | exact absurd h (by decide)

theorem StreamVisibility.text_injective : Function.Injective StreamVisibility.text := by
  intro a b h
  cases a <;> cases b <;> first | rfl | exact absurd h (by decide)

/-! ## The table `streams` -/

structure StreamRow where
  id : Int
  userId : Int
  name : String
  description : Option String
  status : StreamStatus
  visibility : StreamVisibility
  createdAt : Timestamptz
  updatedAt : Timestamptz
deriving DecidableEq, Repr

def StreamRow.rowToStream (row : StreamRow) : Stream where
  id := row.id
  userId := row.userId
  name := row.name
  description := row.description
  status := row.status
  visibility := row.visibility
  createdAt := row.createdAt.toDate
  updatedAt := row.updatedAt.toDate

/-- The values of an INTEGER column. -/
def fitsInteger (n : Int) : Bool := decide (-2147483648 ≤ n) && decide (n ≤ 2147483647)

/-- The rows, and the next value of the sequence behind `id`. -/
structure StreamsTable where
  rows : List StreamRow
  nextId : Int
  primaryKey : (rows.map StreamRow.id).Nodup
  serial : ∀ row ∈ rows, 0 < row.id ∧ row.id < nextId
  nextId_pos : 0 < nextId
  nextId_le : nextId ≤ 2147483648

namespace StreamsTable

theorem fitsInteger_id (table : StreamsTable) {row : StreamRow} (h : row ∈ table.rows) :
    fitsInteger row.id = true := by
  obtain ⟨hpos, hlt⟩ := table.serial row h
  have hle := table.nextId_le
  simp only [fitsInteger, Bool.and_eq_true, decide_eq_true_eq]
  omega

theorem nodup (table : StreamsTable) : table.rows.Nodup := table.primaryKey.of_map

theorem eq_of_id (table : StreamsTable) {a b : StreamRow} (ha : a ∈ table.rows)
    (hb : b ∈ table.rows) (h : a.id = b.id) : a = b :=
  List.inj_on_of_nodup_map table.primaryKey ha hb h

/-- `SELECT … FROM streams WHERE id = $1`. -/
def find (id : Int) (table : StreamsTable) : Option StreamRow :=
  table.rows.find? fun row => row.id = id

theorem find_eq_some_iff {table : StreamsTable} {id : Int} {row : StreamRow} :
    table.find id = some row ↔ row ∈ table.rows ∧ row.id = id := by
  constructor
  · intro h
    exact ⟨List.mem_of_find?_eq_some h, by simpa using List.find?_some h⟩
  · rintro ⟨hmem, rfl⟩
    obtain ⟨found, hfound⟩ : ∃ found, table.find row.id = some found := by
      rw [← Option.isSome_iff_exists, find, List.find?_isSome]
      exact ⟨row, hmem, by simp⟩
    have hid : found.id = row.id := by simpa using List.find?_some hfound
    rw [hfound, table.eq_of_id (List.mem_of_find?_eq_some hfound) hmem hid]

theorem find_eq_none_iff {table : StreamsTable} {id : Int} :
    table.find id = none ↔ ∀ row ∈ table.rows, row.id ≠ id := by
  simp [find]

end StreamsTable

/-! ## The WHERE clause -/

inductive Param where
  | number (n : Int)
  | text (s : String)
deriving DecidableEq, Repr

/-- Postgres takes the value for the column it is compared with.  A text has no NUL. -/
def Param.accepted : Param → Bool
  | .number n => fitsInteger n
  | .text s => decide (Char.ofNat 0 ∉ s.toList)

/-- The comparisons of the clause, each with one placeholder `$N`. -/
inductive Comparison where
  /-- `user_id = $N` -/
  | ownedBy
  /-- `(visibility = 'public' OR user_id = $N)` -/
  | visibleTo
  /-- `status = $N` -/
  | statusIs
  /-- `visibility = $N` -/
  | visibilityIs
  /-- `(name ILIKE $N ESCAPE '\' OR description ILIKE $N ESCAPE '\')` -/
  | matchesText
  /-- `EXISTS (SELECT 1 FROM stream_tags …)` -/
  | tagged
deriving DecidableEq, Repr

structure Condition where
  comparison : Comparison
  placeholder : Nat
deriving DecidableEq, Repr

/-- The clause `WHERE c₁ AND c₂ …` with the values of its placeholders. -/
structure Where where
  params : List Param
  conditions : List Condition
deriving DecidableEq, Repr

/-- `params.push(…)` and `conditions.push(…)`. -/
def Where.push (param : Param) (comparison : Comparison) (w : Where) : Where where
  params := w.params ++ [param]
  conditions := w.conditions ++ [⟨comparison, w.params.length + 1⟩]

/-- The pushes that an `if` on the value guards. -/
def Where.pushIf (value : Option Param) (comparison : Comparison) (w : Where) : Where :=
  match value with
  | none => w
  | some param => w.push param comparison

def escapeLikePattern (input : String) : String :=
  String.ofList (Like.escaped '\\' input.toList)

/-- The clause of `listPaginated`. -/
def listWhere (viewerUserId : Int) (filter : StreamListPredicate) : Where :=
  let acl : Where := ⟨[.number viewerUserId],
    [⟨if filter.ownerOnly then .ownedBy else .visibleTo, 1⟩]⟩
  acl.pushIf (filter.status.map fun status => .text status.text) .statusIs
    |>.pushIf (filter.visibility.map fun visibility => .text visibility.text) .visibilityIs
    |>.pushIf ((filter.q.filter (· ≠ "")).map fun q => .text ("%" ++ escapeLikePattern q ++ "%"))
      .matchesText
    |>.pushIf (filter.tagId.map .number) .tagged

section

variable (folding : CaseFolding)

/-- `text ILIKE pattern ESCAPE '\'`. -/
def ilike (pattern text : String) : Bool :=
  Like.like '\\' (pattern.toList.map folding.lower) (text.toList.map folding.lower)

variable (streamTags : List (Int × Int))

/-- A comparison of a row with the value of its placeholder. -/
def Comparison.holds (row : StreamRow) : Comparison → Param → Bool
  | .ownedBy, .number n => row.userId = n
  | .visibleTo, .number n => row.visibility = .isPublic ∨ row.userId = n
  | .statusIs, .text s => row.status.text = s
  | .visibilityIs, .text s => row.visibility.text = s
  | .matchesText, .text s => ilike folding s row.name || row.description.any (ilike folding s)
  | .tagged, .number n => (row.id, n) ∈ streamTags
  | _, _ => false

def Condition.holds (params : List Param) (row : StreamRow) (c : Condition) : Bool :=
  (params[c.placeholder - 1]?).any (c.comparison.holds folding streamTags row)

def Where.holds (w : Where) (row : StreamRow) : Bool :=
  w.conditions.all (Condition.holds folding streamTags w.params row)

end

/-- Every condition refers to a value that is there. -/
def Where.Closed (w : Where) : Prop :=
  ∀ c ∈ w.conditions, 0 < c.placeholder ∧ c.placeholder ≤ w.params.length

theorem Where.Closed.push {w : Where} (h : w.Closed) (param : Param) (comparison : Comparison) :
    (w.push param comparison).Closed := by
  intro c hc
  simp only [Where.push, List.mem_append, List.mem_singleton, List.length_append,
    List.length_singleton] at hc ⊢
  rcases hc with hc | rfl
  · have hplace := h c hc
    omega
  · simp

/-- A condition pushed onto a clause narrows it, and leaves the others what they were. -/
theorem Where.holds_push {folding : CaseFolding} {streamTags : List (Int × Int)} {w : Where}
    (h : w.Closed) (param : Param) (comparison : Comparison) (row : StreamRow) :
    (w.push param comparison).holds folding streamTags row =
      (w.holds folding streamTags row && comparison.holds folding streamTags row param) := by
  have hold : ∀ c ∈ w.conditions,
      Condition.holds folding streamTags (w.params ++ [param]) row c =
        Condition.holds folding streamTags w.params row c := by
    intro c hc
    have hplace := h c hc
    rw [Condition.holds, Condition.holds, List.getElem?_append_left (by omega)]
  have hnew : Condition.holds folding streamTags (w.params ++ [param]) row
      ⟨comparison, w.params.length + 1⟩ = comparison.holds folding streamTags row param := by
    rw [Condition.holds]
    simp
  rw [Where.holds, Where.push, List.all_append, List.all_cons, List.all_nil, Bool.and_true, hnew,
    Where.holds]
  congr 1
  exact Bool.eq_iff_iff.mpr (by
    simp only [List.all_eq_true]
    exact forall₂_congr fun c hc => by rw [hold c hc])

theorem Where.Closed.pushIf {w : Where} (h : w.Closed) (value : Option Param)
    (comparison : Comparison) : (w.pushIf value comparison).Closed := by
  cases value with
  | none => exact h
  | some param => exact h.push param comparison

theorem Where.holds_pushIf {folding : CaseFolding} {streamTags : List (Int × Int)} {w : Where}
    (h : w.Closed) (value : Option Param) (comparison : Comparison) (row : StreamRow) :
    (w.pushIf value comparison).holds folding streamTags row =
      (w.holds folding streamTags row &&
        value.all (comparison.holds folding streamTags row)) := by
  cases value with
  | none => exact (Bool.and_true _).symm
  | some param => exact Where.holds_push h param comparison row

/-- What the clause asks of a row. -/
def Listed (folding : CaseFolding) (streamTags : List (Int × Int)) (viewerUserId : Int)
    (filter : StreamListPredicate) (row : StreamRow) : Prop :=
  (if filter.ownerOnly then row.userId = viewerUserId
    else row.visibility = .isPublic ∨ row.userId = viewerUserId) ∧
  (∀ status ∈ filter.status, row.status = status) ∧
  (∀ visibility ∈ filter.visibility, row.visibility = visibility) ∧
  (∀ q ∈ filter.q.filter (· ≠ ""),
    ilike folding ("%" ++ escapeLikePattern q ++ "%") row.name = true ∨
      ∃ description ∈ row.description,
        ilike folding ("%" ++ escapeLikePattern q ++ "%") description = true) ∧
  ∀ tagId ∈ filter.tagId, (row.id, tagId) ∈ streamTags

/-- The assembled clause selects exactly those rows. -/
theorem listWhere_holds_iff {folding : CaseFolding} {streamTags : List (Int × Int)}
    {viewerUserId : Int} {filter : StreamListPredicate} {row : StreamRow} :
    (listWhere viewerUserId filter).holds folding streamTags row = true ↔
      Listed folding streamTags viewerUserId filter row := by
  have hacl : Where.Closed ⟨[.number viewerUserId],
      [⟨if filter.ownerOnly then .ownedBy else .visibleTo, 1⟩]⟩ := by
    simp [Where.Closed]
  rw [listWhere, Where.holds_pushIf (((hacl.pushIf _ _).pushIf _ _).pushIf _ _),
    Where.holds_pushIf ((hacl.pushIf _ _).pushIf _ _), Where.holds_pushIf (hacl.pushIf _ _),
    Where.holds_pushIf hacl]
  simp only [Bool.and_eq_true, and_assoc, Listed]
  refine and_congr ?_ (and_congr ?_ (and_congr ?_ (and_congr ?_ ?_)))
  · cases filter.ownerOnly <;> simp [Where.holds, Condition.holds, Comparison.holds]
  · cases filter.status with
    | none => simp
    | some status => simp [Comparison.holds, StreamStatus.text_injective.eq_iff]
  · cases filter.visibility with
    | none => simp
    | some visibility => simp [Comparison.holds, StreamVisibility.text_injective.eq_iff]
  · cases filter.q.filter (· ≠ "") with
    | none => simp
    | some q => simp [Comparison.holds, Option.any_eq_true]
  · cases filter.tagId with
    | none => simp
    | some tagId => simp [Comparison.holds]

/-! ## The database repository -/

/-- How one execution of a query arranges rows under `ORDER BY created_at DESC`. -/
structure OrderBy where
  arrange : List StreamRow → List StreamRow
  newestFirst : ∀ rows, OffsetPaging.Ordered StreamRow.createdAt rows (arrange rows)

/-- Rows of one instant in a fixed order of their ids. -/
def OrderBy.fixed (ties : LinearOrder Int) : OrderBy where
  arrange rows := (rows.insertionSort fun a b => ties.le a.id b.id).insertionSort
    fun a b => b.createdAt ≤ a.createdAt
  newestFirst rows := by
    obtain ⟨hperm, hsorted⟩ := @OffsetPaging.ordered_insertionSort _ _ _
      StreamRow.createdAt (rows.insertionSort fun a b => ties.le a.id b.id)
    exact ⟨hperm.trans (List.perm_insertionSort _ rows), hsorted⟩

/-- One page, and how many streams there are on all pages. -/
structure StreamPage where
  items : List Stream
  total : Nat
deriving DecidableEq, Repr

namespace StreamsDbRepository

def findById (id : Int) (table : StreamsTable) : Except StreamsException (Option Stream) :=
  if fitsInteger id = true then .ok ((table.find id).map StreamRow.rowToStream)
  else .error databaseUnavailable

variable (folding : CaseFolding) (streamTags : List (Int × Int))

/-- The rows that the clause selects. -/
def matching (viewerUserId : Int) (filter : StreamListPredicate) (table : StreamsTable) :
    List StreamRow :=
  table.rows.filter ((listWhere viewerUserId filter).holds folding streamTags)

/-- `page` counts from 1.  `COUNT(*)` and the page are two queries with one clause. -/
def listPaginated (orderBy : OrderBy) (page limit : Nat) (viewerUserId : Int)
    (filter : StreamListPredicate) (table : StreamsTable) : Except StreamsException StreamPage :=
  if (listWhere viewerUserId filter).params.all Param.accepted = true then
    let rows := matching folding streamTags viewerUserId filter table
    .ok ⟨(OffsetPaging.page limit (page - 1) (orderBy.arrange rows)).map StreamRow.rowToStream,
      rows.length⟩
  else .error databaseUnavailable

end StreamsDbRepository

/-! ## The access rule -/

/-- What `canSubscribe` makes of the columns `user_id` and `visibility` of the row, if there
is one. -/
def subscribable (userId : Int) : Option (Int × StreamVisibility) → Bool
  | none => false
  | some (owner, visibility) => decide (owner = userId) || decide (visibility = .isPublic)

def canSubscribe (userId streamId : Int) (table : StreamsTable) : Except StreamsException Bool :=
  if fitsInteger streamId = true then
    .ok (subscribable userId ((table.find streamId).map fun row => (row.userId, row.visibility)))
  else .error databaseUnavailable

/-! ## The in-memory repository -/

structure StreamEventRecord (Data : Type) where
  id : String
  streamId : String
  eventType : String
  payload : Data
  occurredAt : String
deriving DecidableEq, Repr

/-- The maps and arrays of `StreamsRepository`.  A `Map` keeps the order in which its keys
came. -/
structure StreamsRepository (Data : Type) where
  streamsById : List Stream
  nextId : Int
  eventsByStream : List (Int × List (StreamEventRecord Data))
  pendingEvents : List (PendingStreamEvent Data)
  nextPendingEventId : Int
  keys : streamsById.Pairwise fun a b => a.id < b.id
  serial : ∀ stream ∈ streamsById, 0 < stream.id ∧ stream.id < nextId
  nextId_pos : 0 < nextId

/-- The streams that carry a tag, from the rows `(stream, tag)` of the join. -/
def listStreamIdsForTag (tagId : Int) (streamTags : List (Int × Int)) : List Int :=
  (streamTags.filter fun row => row.2 = tagId).map Prod.fst

/-- `text.includes(needle)`. -/
def includes (needle text : String) : Bool := decide (needle.toList <:+: text.toList)

namespace StreamsRepository

variable {Data : Type} (folding : CaseFolding)

def findById (id : Int) (store : StreamsRepository Data) : Option Stream :=
  store.streamsById.find? fun stream => stream.id = id

/-- The `filter` call that an `if` on the value guards. -/
def narrow {β : Type} (value : Option β) (keep : β → Stream → Bool) (results : List Stream) :
    List Stream :=
  match value with
  | none => results
  | some v => results.filter (keep v)

/-- The streams that carry a tag; none when no `TagsRepository` was injected. -/
def streamIdsOf (tagsRepository : Option (List (Int × Int))) (tagId : Int) : List Int :=
  match tagsRepository with
  | none => []
  | some streamTags => listStreamIdsForTag tagId streamTags

def listFiltered (tagsRepository : Option (List (Int × Int))) (viewerUserId : Int)
    (filter : StreamListPredicate) (store : StreamsRepository Data) : List Stream :=
  let results := narrow filter.status (fun status s => s.status = status) store.streamsById
  let results :=
    if filter.ownerOnly then results.filter fun s => s.userId = viewerUserId
    else results.filter fun s => s.visibility = .isPublic ∨ s.userId = viewerUserId
  let results := narrow filter.visibility (fun visibility s => s.visibility = visibility) results
  let results := narrow (filter.q.filter (· ≠ "")) (fun q s =>
    includes (folding.toLowerCase q) (folding.toLowerCase s.name) ||
      includes (folding.toLowerCase q) (folding.toLowerCase (s.description.getD ""))) results
  let results := narrow filter.tagId (fun tagId s => s.id ∈ streamIdsOf tagsRepository tagId) results
  results.insertionSort fun a b => b.createdAt ≤ a.createdAt

def listPaginated (tagsRepository : Option (List (Int × Int))) (page limit : Nat)
    (viewerUserId : Int) (filter : StreamListPredicate) (store : StreamsRepository Data) :
    StreamPage :=
  let filtered := store.listFiltered folding tagsRepository viewerUserId filter
  ⟨OffsetPaging.page limit (page - 1) filtered, filtered.length⟩

/-- What the filters ask of a stream, all at once. -/
def listed (tagsRepository : Option (List (Int × Int))) (viewerUserId : Int)
    (filter : StreamListPredicate) (s : Stream) : Bool :=
  filter.status.all (fun status => s.status = status) &&
  (if filter.ownerOnly then decide (s.userId = viewerUserId)
    else decide (s.visibility = .isPublic ∨ s.userId = viewerUserId)) &&
  filter.visibility.all (fun visibility => s.visibility = visibility) &&
  (filter.q.filter (· ≠ "")).all (fun q =>
    includes (folding.toLowerCase q) (folding.toLowerCase s.name) ||
      includes (folding.toLowerCase q) (folding.toLowerCase (s.description.getD ""))) &&
  filter.tagId.all fun tagId => decide (s.id ∈ streamIdsOf tagsRepository tagId)

theorem mem_streamIdsOf {id tagId : Int} {tagsRepository : Option (List (Int × Int))} :
    id ∈ streamIdsOf tagsRepository tagId ↔ (id, tagId) ∈ tagsRepository.getD [] := by
  cases tagsRepository with
  | none => simp [streamIdsOf]
  | some streamTags => simp [streamIdsOf, listStreamIdsForTag]

theorem narrow_eq {β : Type} (value : Option β) (keep : β → Stream → Bool)
    (results : List Stream) :
    narrow value keep results = results.filter fun s => value.all (keep · s) := by
  cases value with
  | none => exact (List.filter_eq_self.mpr fun s _ => rfl).symm
  | some v => rfl

theorem listFiltered_eq (tagsRepository : Option (List (Int × Int))) (viewerUserId : Int)
    (filter : StreamListPredicate) (store : StreamsRepository Data) :
    store.listFiltered folding tagsRepository viewerUserId filter =
      (store.streamsById.filter (listed folding tagsRepository viewerUserId filter)).insertionSort
        fun a b => b.createdAt ≤ a.createdAt := by
  -- Filters one after another are one filter.
  have hand : ∀ (p q : Stream → Bool) (l : List Stream),
      (l.filter p).filter q = l.filter fun s => p s && q s := by
    intro p q l
    rw [List.filter_filter]
    exact List.filter_congr fun s _ => Bool.and_comm _ _
  have hlisted : listed folding tagsRepository viewerUserId filter =
      fun s => listed folding tagsRepository viewerUserId filter s := rfl
  rw [hlisted]
  unfold listFiltered listed
  cases filter.ownerOnly with
  | false => simp only [narrow_eq, hand, if_false, Bool.false_eq_true]
  | true => simp only [narrow_eq, hand, if_true]

end StreamsRepository

end Api
end XStreamRoll
