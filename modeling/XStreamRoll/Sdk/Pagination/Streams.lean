/-
`client.paginateAll("/streams")` against `GET /streams`.

The iterator asks for page after page, and in between the service goes on: streams are
created, started and stopped.  A page is cut out of the order, newest first, in which the
streams stand at that moment.  What comes into the listing meanwhile must be newer than all
that is in it, which is so for streams that are created, and not for one that its owner makes
public; and nothing may leave it.

The instants of creation are all different.  The tags do not change.
-/
import XStreamRoll.Api.Streams.Controller
import XStreamRoll.Api.Streams.Pages
import XStreamRoll.Sdk.Pagination.Growing

namespace XStreamRoll
namespace Api

/-! ## `GET /streams` -/

/-- The messages of the checks of `PaginationQueryDto` that fail. -/
def paginationErrors (page limit : Nat) : List String :=
  (if 1 ≤ page then [] else ["page must be >= 1"]) ++
    (if 1 ≤ limit then [] else ["limit must be >= 1"]) ++
    if limit ≤ 100 then [] else ["limit must be <= 100"]

inductive ListRefusal where
  | badRequest (messages : List String)
  | thrown (e : StreamsException)
deriving DecidableEq, Repr

structure StreamsResponse where
  data : List SharedStream
  page : Nat
  limit : Nat
  total : Nat
  hasMore : Bool
deriving DecidableEq, Repr

namespace StreamsController

/-- `list`, behind the validation of its query. -/
def list {σ : Type} (repo : Repository σ Json) (tags : TagsService) (page limit : Nat)
    (viewerUserId : Int) (filter : StreamListFilter) (s : σ) : Except ListRefusal StreamsResponse :=
  if paginationErrors page limit = [] then
    match StreamsService.list repo tags page limit viewerUserId filter s with
    | .error e => .error (.thrown e)
    | .ok paged =>
      .ok ⟨paged.data.map toStreamResponse, paged.page, paged.limit, paged.total, paged.hasMore⟩
  else .error (.badRequest (paginationErrors page limit))

end StreamsController

/-! ## The listing as time goes on -/

/-- The rows of a listing at two moments: none has left, none has been dated anew, and those
that came in are newer. -/
structure Grows (rows rows' : List StreamRow) : Prop where
  stay : ∀ row ∈ rows, ∃ row' ∈ rows', row'.id = row.id ∧ row'.createdAt = row.createdAt
  enter : ∀ row' ∈ rows', (∃ row ∈ rows, row.id = row'.id) ∨
    ∀ row ∈ rows, row.createdAt < row'.createdAt

/-- What a row is sorted by, and its id. -/
def StreamRow.place (row : StreamRow) : Timestamptz × Int := (row.createdAt, row.id)

theorem ordered_place {rows l : List StreamRow}
    (h : OffsetPaging.Ordered StreamRow.createdAt rows l) :
    OffsetPaging.Ordered Prod.fst (rows.map StreamRow.place) (l.map StreamRow.place) :=
  ⟨h.1.map _, List.pairwise_map.mpr h.2⟩

theorem Grows.suffix {rows rows' l l' : List StreamRow} (h : Grows rows rows')
    (ids : (rows.map StreamRow.id).Nodup) (ids' : (rows'.map StreamRow.id).Nodup)
    (instants' : (rows'.map StreamRow.createdAt).Nodup)
    (hl : OffsetPaging.Ordered StreamRow.createdAt rows l)
    (hl' : OffsetPaging.Ordered StreamRow.createdAt rows' l') :
    l.map StreamRow.place <:+ l'.map StreamRow.place := by
  refine (ordered_place hl).suffix (ordered_place hl') ?_ ?_ ?_ ?_
  · have hmap : rows.map StreamRow.id = (rows.map StreamRow.place).map Prod.snd := by
      rw [List.map_map]
      rfl
    rw [hmap] at ids
    exact ids.of_map
  · rw [List.map_map]
    exact instants'
  · intro place hplace
    obtain ⟨row, hrow, rfl⟩ := List.mem_map.mp hplace
    obtain ⟨row', hrow', hid, hdate⟩ := h.stay row hrow
    refine List.mem_map.mpr ⟨row', hrow', ?_⟩
    rw [StreamRow.place, StreamRow.place, hid, hdate]
  · intro place hplace
    obtain ⟨row', hrow', rfl⟩ := List.mem_map.mp hplace
    rcases h.enter row' hrow' with ⟨row, hrow, hid⟩ | newer
    · left
      obtain ⟨other, hother, hotherId, hdate⟩ := h.stay row hrow
      have same : other = row' :=
        List.inj_on_of_nodup_map ids' hother hrow' (hotherId.trans hid)
      refine List.mem_map.mpr ⟨row, hrow, ?_⟩
      rw [StreamRow.place, StreamRow.place, hid, ← hdate, same]
    · right
      intro place hplace
      obtain ⟨row, hrow, rfl⟩ := List.mem_map.mp hplace
      exact newer row hrow

/-- A stream that is created after all that are listed, and that the viewer may see or not. -/
theorem grows_create (pg : Postgres) (now : Date) (params : StreamCreateParams)
    (db : StreamsDatabase) (viewerUserId : Int) (predicate : StreamListPredicate)
    (later : ∀ row ∈ db.streams.rows, row.createdAt < now.toTimestamptz) :
    Grows (StreamsDbRepository.matching pg.folding pg.streamTags viewerUserId predicate db.streams)
      (StreamsDbRepository.matching pg.folding pg.streamTags viewerUserId predicate
        (StreamsDbRepository.create pg now params db).2.streams) := by
  have same : ∀ table : StreamsTable, table.rows = db.streams.rows →
      StreamsDbRepository.matching pg.folding pg.streamTags viewerUserId predicate table =
        StreamsDbRepository.matching pg.folding pg.streamTags viewerUserId predicate
          db.streams := by
    intro table hrows
    rw [StreamsDbRepository.matching, hrows, StreamsDbRepository.matching]
  have refl : ∀ rows, Grows rows rows := fun rows =>
    ⟨fun row hrow => ⟨row, hrow, rfl, rfl⟩, fun row hrow => .inl ⟨row, hrow, rfl⟩⟩
  unfold StreamsDbRepository.create
  split
  · split
    · constructor
      · intro row hrow
        obtain ⟨hmem, hlisted⟩ := mem_matching.mp hrow
        exact ⟨row, mem_matching.mpr ⟨List.mem_append_left _ hmem, hlisted⟩, rfl, rfl⟩
      · intro row' hrow'
        obtain ⟨hmem, hlisted⟩ := mem_matching.mp hrow'
        rcases List.mem_append.mp hmem with hold | hnew
        · exact .inl ⟨row', mem_matching.mpr ⟨hold, hlisted⟩, rfl⟩
        · right
          intro row hrow
          rw [List.mem_singleton.mp hnew]
          exact later row (mem_matching.mp hrow).1
    · rw [same _ rfl]
      exact refl _
  · exact refl _

end Api

namespace Sdk

open Api
open StreamsDbRepository (matching)

/-- The fetcher of `client.paginateAll("/streams")`.  The request of each call finds the
database as it is then, and Postgres picks an order of its own. -/
def fetchStreams (pg : Postgres) (tags : TagsService) (viewerUserId : Int)
    (filter : StreamListFilter) (orders : Nat → OrderBy) (dbs : Nat → StreamsDatabase) :
    PaginatedFetcher SharedStream ListRefusal := fun call params =>
  (StreamsController.list (StreamsDbRepository.repository { pg with orderBy := orders call }) tags
    params.page params.limit viewerUserId filter (dbs call)).map fun response =>
      ⟨some (response.data.map some), some (.number response.total)⟩

/-- A stream of a response but for its tags. -/
def bare (stream : SharedStream) : SharedStream := { stream with tags := [] }

/-- What the response says of a row. -/
def rowResponse (row : StreamRow) : SharedStream := toStreamResponse (row.rowToStream, [])

theorem rowResponse_id (row : StreamRow) : (rowResponse row).id = row.id.repr := rfl

variable {pg : Postgres} {tags : TagsService} {viewerUserId : Int} {filter : StreamListFilter}
  {predicate : StreamListPredicate} {orders : Nat → OrderBy} {dbs : Nat → StreamsDatabase}

/-- Below the limit of the DTO the endpoint honours the parameters. -/
theorem servesEach_fetchStreams (hviewer : 0 < viewerUserId)
    (hpredicate : StreamsService.predicateOf tags filter = some predicate)
    (haccepts : AcceptsFilter viewerUserId predicate) {limit : Nat} (hpos : 1 ≤ limit)
    (hlimit : limit ≤ 100) :
    PaginatedIterator.ServesEach bare
      (fun call => ((orders call).arrange (matching pg.folding pg.streamTags viewerUserId predicate
        (dbs call).streams)).map rowResponse) limit
      (fetchStreams pg tags viewerUserId filter orders dbs) := by
  intro call index
  let rows := matching pg.folding pg.streamTags viewerUserId predicate (dbs call).streams
  let items := (OffsetPaging.page limit index ((orders call).arrange rows)).map StreamRow.rowToStream
  let data := items.map fun stream =>
    toStreamResponse (stream, tags.listForStreamIds (items.map Stream.id) stream.id)
  have hchecks : paginationErrors (index + 1) limit = [] := by
    rw [paginationErrors, if_pos (Nat.le_add_left 1 index), if_pos hpos, if_pos hlimit]
    rfl
  have hlisted : StreamsDbRepository.listPaginated pg.folding pg.streamTags (orders call) (index + 1)
      limit viewerUserId predicate (dbs call).streams = .ok ⟨items, rows.length⟩ :=
    StreamsDbRepository.listPaginated_eq haccepts _ _
  refine ⟨data, ?_, ?_⟩
  · rw [OffsetPaging.page, ← List.map_drop, ← List.map_take, List.map_map, List.map_map]
    rfl
  · rw [fetchStreams, StreamsController.list, if_pos hchecks, StreamsService.list,
      if_neg (not_le_of_gt hviewer), hpredicate]
    simp only [StreamsService.listPage, StreamsDbRepository.repository, hlisted, Except.map]
    rw [List.length_map, ((orders call).newestFirst rows).length_eq, List.map_map]
    simp only [data, List.map_map]
    rfl

/-- Whatever order each page comes in, an iteration from page 1 misses no stream that was listed
when it began, as long as nothing leaves the listing and only newer streams come in.  All that it
yields was listed for the viewer at one of its fetches. -/
theorem iteration_misses_none (hviewer : 0 < viewerUserId)
    (hpredicate : StreamsService.predicateOf tags filter = some predicate)
    (haccepts : AcceptsFilter viewerUserId predicate) (options : PaginateAllOptions)
    (hstart : (PaginatedIterator.new SharedStream options).page = 1)
    (hlimit : (PaginatedIterator.new SharedStream options).limit ≤ 100)
    (grows : ∀ k, Grows
      (matching pg.folding pg.streamTags viewerUserId predicate (dbs k).streams)
      (matching pg.folding pg.streamTags viewerUserId predicate (dbs (k + 1)).streams))
    (instants : ∀ k, ((matching pg.folding pg.streamTags viewerUserId predicate
      (dbs k).streams).map StreamRow.createdAt).Nodup)
    (room : ∀ k, (matching pg.folding pg.streamTags viewerUserId predicate
        (dbs k).streams).length ≤
      (PaginatedIterator.new SharedStream options).maxPages *
        (PaginatedIterator.new SharedStream options).limit) :
    ∃ enough, ∀ fuel ≥ enough, ∃ ended out,
      (PaginatedIterator.new SharedStream options).toArray
          (fetchStreams pg tags viewerUserId filter orders dbs) (fun _ => false) fuel [] =
        (ended, some (.ok out)) ∧
      (∀ row ∈ matching pg.folding pg.streamTags viewerUserId predicate (dbs 0).streams,
        ∃ item ∈ out, item.id = row.id.repr) ∧
      ∀ item ∈ out, ∃ k, ∃ row ∈ (dbs k).streams.rows,
        Listed pg.folding pg.streamTags viewerUserId predicate row ∧ bare item = rowResponse row := by
  let rows := fun k => matching pg.folding pg.streamTags viewerUserId predicate (dbs k).streams
  let lists := fun k => (orders k).arrange (rows k)
  have ordered : ∀ k, OffsetPaging.Ordered StreamRow.createdAt (rows k) (lists k) :=
    fun k => (orders k).newestFirst (rows k)
  have hserves := @servesEach_fetchStreams pg tags viewerUserId filter predicate orders dbs hviewer
    hpredicate haccepts _ (PaginatedIterator.new SharedStream options).limit_pos hlimit
  obtain ⟨enough, hall⟩ := PaginatedIterator.toArray_walks options hstart hserves
  refine ⟨enough, fun fuel hfuel => ?_⟩
  obtain ⟨ended, out, hended, count, hwalk, hreach⟩ := hall fuel hfuel
  rw [← OffsetPaging.map_walk] at hwalk
  refine ⟨ended, out, hended, ?_, ?_⟩
  · intro row hrow
    have suffix : ∀ k, (lists k).map StreamRow.place <:+ (lists (k + 1)).map StreamRow.place :=
      fun k => (grows k).suffix (matching_nodup_id _ _) (matching_nodup_id _ _) (instants (k + 1))
        (ordered k) (ordered (k + 1))
    have nodup : ∀ k, ((lists k).map StreamRow.place).Nodup := by
      intro k
      have hdates : ((lists k).map StreamRow.createdAt).Nodup :=
        ((ordered k).1.map _).nodup_iff.mpr (instants k)
      have hmap : (lists k).map StreamRow.createdAt =
          ((lists k).map StreamRow.place).map Prod.fst := by
        rw [List.map_map]
        rfl
      rw [hmap] at hdates
      exact hdates.of_map
    have reaches : ((lists count).map StreamRow.place).length ≤
        (count + 1) * (PaginatedIterator.new SharedStream options).limit := by
      rw [List.length_map]
      rcases hreach with hend | hceiling
      · rwa [List.length_map] at hend
      · rw [(ordered count).length_eq]
        exact le_trans (room count) (Nat.mul_le_mul_right _ hceiling)
    have there : row.place ∈ (lists 0).map StreamRow.place :=
      List.mem_map_of_mem ((ordered 0).1.mem_iff.mpr hrow)
    have met := OffsetPaging.mem_walk_of_grows suffix nodup reaches there
    rw [← OffsetPaging.map_walk] at met
    obtain ⟨row', hrow', hplace⟩ := List.mem_map.mp met
    have yielded : rowResponse row' ∈ out.map bare := by
      rw [hwalk]
      exact List.mem_map_of_mem hrow'
    obtain ⟨item, hitem, hbare⟩ := List.mem_map.mp yielded
    refine ⟨item, hitem, ?_⟩
    have hid : row'.id = row.id := congrArg Prod.snd hplace
    rw [← hid, ← rowResponse_id, ← hbare]
    rfl
  · intro item hitem
    have met : bare item ∈ out.map bare := List.mem_map_of_mem hitem
    rw [hwalk] at met
    obtain ⟨row, hrow, hbare⟩ := List.mem_map.mp met
    obtain ⟨k, -, hlist⟩ := OffsetPaging.exists_of_mem_walk hrow
    obtain ⟨hmem, hlisted⟩ := mem_matching.mp ((ordered k).1.subset hlist)
    exact ⟨k, row, hmem, hlisted, hbare.symm⟩

/-- Two streams, and a third that is created after the first page. -/
def thirdStream (k : Nat) : StreamsDatabase :=
  if k = 0 then twoStreams ⟨1000⟩
  else (StreamsDbRepository.create plainPostgres ⟨2⟩ ⟨1, "talk", none, some .isPublic⟩
    (twoStreams ⟨1000⟩)).2

theorem instants_thirdStream (k : Nat) :
    (matching plainFolding [] 1 .none (thirdStream k).streams).map
      (fun row => (row.id, row.createdAt)) =
        if k = 0 then [(1, ⟨0⟩), (2, ⟨1000⟩)] else [(1, ⟨0⟩), (2, ⟨1000⟩), (3, ⟨2000⟩)] := by
  unfold thirdStream
  split
  · decide
  · decide

theorem iteration_misses_none_third :
    ∃ enough, ∀ fuel ≥ enough, ∃ ended out,
      (PaginatedIterator.new SharedStream { limit := some 1 }).toArray
          (fetchStreams plainPostgres noTags 1 ⟨none, none, false, none, none⟩
            (fun _ => .fixed inferInstance) thirdStream) (fun _ => false) fuel [] =
        (ended, some (.ok out)) ∧
      (∃ item ∈ out, item.id = "1") ∧ ∃ item ∈ out, item.id = "2" := by
  have predicate : StreamsService.predicateOf noTags ⟨none, none, false, none, none⟩ =
      some .none := rfl
  have accepts : AcceptsFilter 1 .none := by
    simp [AcceptsFilter, StreamListPredicate.none, fitsInteger]
  have grows : ∀ k, Grows
      (matching plainPostgres.folding plainPostgres.streamTags 1 .none (thirdStream k).streams)
      (matching plainPostgres.folding plainPostgres.streamTags 1 .none
        (thirdStream (k + 1)).streams) := by
    intro k
    cases k with
    | zero => exact grows_create _ _ _ _ _ _ (by decide)
    | succ k => exact ⟨fun row hrow => ⟨row, hrow, rfl, rfl⟩, fun row hrow => .inl ⟨row, hrow, rfl⟩⟩
  have instants : ∀ k, ((matching plainPostgres.folding plainPostgres.streamTags 1 .none
      (thirdStream k).streams).map StreamRow.createdAt).Nodup := by
    intro k
    have dates := congrArg (List.map Prod.snd) (instants_thirdStream k)
    rw [List.map_map] at dates
    rw [show (matching plainPostgres.folding plainPostgres.streamTags 1 .none
      (thirdStream k).streams).map StreamRow.createdAt = _ from dates]
    split
    · decide
    · decide
  have room : ∀ k, (matching plainPostgres.folding plainPostgres.streamTags 1 .none
      (thirdStream k).streams).length ≤ 1000 * 1 := by
    intro k
    have length := congrArg List.length (instants_thirdStream k)
    rw [List.length_map] at length
    rw [show (matching plainPostgres.folding plainPostgres.streamTags 1 .none
      (thirdStream k).streams).length = _ from length]
    split
    · decide
    · decide
  obtain ⟨enough, hall⟩ := iteration_misses_none (by decide) predicate accepts
    { limit := some 1 } rfl (by decide) grows instants room
  refine ⟨enough, fun fuel hfuel => ?_⟩
  obtain ⟨ended, out, hended, yields, -⟩ := hall fuel hfuel
  have listed : ∀ id ∈ [(1 : Int), 2], ∃ row ∈ matching plainPostgres.folding
      plainPostgres.streamTags 1 .none (thirdStream 0).streams, row.id = id := by decide
  obtain ⟨first, hfirst, hone⟩ := listed 1 (by decide)
  obtain ⟨second, hsecond, htwo⟩ := listed 2 (by decide)
  refine ⟨ended, out, hended, ?_, ?_⟩
  · obtain ⟨item, hitem, hid⟩ := yields first hfirst
    exact ⟨item, hitem, hid.trans (hone ▸ rfl)⟩
  · obtain ⟨item, hitem, hid⟩ := yields second hsecond
    exact ⟨item, hitem, hid.trans (htwo ▸ rfl)⟩

end Sdk
end XStreamRoll
