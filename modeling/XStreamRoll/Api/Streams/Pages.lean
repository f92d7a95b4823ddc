/-
Walking the pages of the database listing.

Each page is an execution of the query of its own, and `ORDER BY created_at DESC` says
nothing about rows of one instant.  So one stream may stand on two pages and another on
none, exactly when two streams of one instant stand on either side of a page border.
-/
import XStreamRoll.Api.Streams.Repositories
import XStreamRoll.Api.Streams.Visibility

namespace XStreamRoll
namespace Api

open OffsetPaging (FallsAtBorders)

/-- The viewer and the filter are values that Postgres takes. -/
def AcceptsFilter (viewerUserId : Int) (filter : StreamListPredicate) : Prop :=
  fitsInteger viewerUserId = true ∧ (∀ q ∈ filter.q, Char.ofNat 0 ∉ q.toList) ∧
    ∀ tagId ∈ filter.tagId, fitsInteger tagId = true

theorem nul_mem_escapeLikePattern {q : String} :
    Char.ofNat 0 ∈ (escapeLikePattern q).toList ↔ Char.ofNat 0 ∈ q.toList := by
  rw [escapeLikePattern, String.toList_ofList, Like.escaped, List.mem_flatMap]
  constructor
  · rintro ⟨c, hc, hmem⟩
    split at hmem
    · simp only [List.mem_cons, List.not_mem_nil, or_false] at hmem
      rcases hmem with hbad | rfl
      · exact absurd hbad (by decide)
      · exact hc
    · rw [List.mem_singleton.mp hmem]
      exact hc
  · intro h
    exact ⟨_, h, by simp [Like.special]⟩

/-- The parameters of the clause are the viewer and the filter. -/
theorem accepted_listWhere_iff {viewerUserId : Int} {filter : StreamListPredicate} :
    (listWhere viewerUserId filter).params.all Param.accepted = true ↔
      AcceptsFilter viewerUserId filter := by
  have hpush : ∀ (w : Where) (value : Option Param) (comparison : Comparison),
      (w.pushIf value comparison).params.all Param.accepted =
        (w.params.all Param.accepted && value.all Param.accepted) := by
    intro w value comparison
    cases value with
    | none => simp [Where.pushIf]
    | some param => simp [Where.pushIf, Where.push]
  have hstatus : (filter.status.map fun status => Param.text status.text).all Param.accepted =
      true := by
    cases filter.status with
    | none => rfl
    | some status => cases status <;> decide
  have hvisibility : (filter.visibility.map fun visibility => Param.text visibility.text).all
      Param.accepted = true := by
    cases filter.visibility with
    | none => rfl
    | some visibility => cases visibility <;> decide
  have hpattern : ∀ q : String,
      Param.accepted (.text ("%" ++ escapeLikePattern q ++ "%")) = true ↔
        Char.ofNat 0 ∉ q.toList := by
    intro q
    rw [Param.accepted, decide_eq_true_eq, String.toList_append, String.toList_append,
      List.mem_append, List.mem_append, nul_mem_escapeLikePattern]
    simp
  have htext : ((filter.q.filter (· ≠ "")).map fun q =>
      Param.text ("%" ++ escapeLikePattern q ++ "%")).all Param.accepted = true ↔
      ∀ q ∈ filter.q, Char.ofNat 0 ∉ q.toList := by
    cases filter.q with
    | none => simp
    | some q =>
      by_cases hempty : q = ""
      · simp [Option.filter, hempty]
      · simp [Option.filter, hempty, hpattern]
  have htag : (filter.tagId.map Param.number).all Param.accepted = true ↔
      ∀ tagId ∈ filter.tagId, fitsInteger tagId = true := by
    cases filter.tagId <;> simp [Param.accepted]
  rw [listWhere, hpush, hpush, hpush, hpush, hstatus, hvisibility, Bool.and_true, Bool.and_true,
    Bool.and_eq_true, Bool.and_eq_true, htext, htag, and_assoc]
  simp [AcceptsFilter, Param.accepted]

/-! ## The walk -/

namespace StreamsDbRepository

variable (folding : CaseFolding) (streamTags : List (Int × Int)) (orderBy : Nat → OrderBy)
  (limit : Nat) (viewerUserId : Int) (filter : StreamListPredicate) (table : StreamsTable)

/-- The items of pages 1 to `count`, page `p` from an execution that orders by `orderBy p`. -/
def walkPages : Nat → Except StreamsException (List Stream)
  | 0 => .ok []
  | count + 1 =>
    match walkPages count with
    | .error e => .error e
    | .ok items =>
      match listPaginated folding streamTags (orderBy (count + 1)) (count + 1) limit viewerUserId
          filter table with
      | .error e => .error e
      | .ok result => .ok (items ++ result.items)

variable {folding streamTags orderBy limit viewerUserId filter table}

theorem listPaginated_eq (h : AcceptsFilter viewerUserId filter) (order : OrderBy) (page : Nat) :
    listPaginated folding streamTags order page limit viewerUserId filter table =
      .ok ⟨(OffsetPaging.page limit (page - 1)
          (order.arrange (matching folding streamTags viewerUserId filter table))).map
          StreamRow.rowToStream,
        (matching folding streamTags viewerUserId filter table).length⟩ :=
  if_pos (accepted_listWhere_iff.mpr h)

theorem accepts_of_listPaginated_ok {order : OrderBy} {page : Nat} {result : StreamPage}
    (h : listPaginated folding streamTags order page limit viewerUserId filter table =
      .ok result) : AcceptsFilter viewerUserId filter := by
  by_contra haccepts
  rw [listPaginated, if_neg fun hall => haccepts (accepted_listWhere_iff.mp hall)] at h
  cases h

/-- The walk over the pages is a walk over the orders of the matching rows. -/
theorem walkPages_eq (h : AcceptsFilter viewerUserId filter) (count : Nat) :
    walkPages folding streamTags orderBy limit viewerUserId filter table count =
      .ok ((OffsetPaging.walk limit (fun index => (orderBy (index + 1)).arrange
        (matching folding streamTags viewerUserId filter table)) count).map
        StreamRow.rowToStream) := by
  induction count with
  | zero => rfl
  | succ count ih =>
    rw [walkPages, ih]
    simp only [listPaginated_eq h, OffsetPaging.walk_succ, List.map_append, Nat.add_sub_cancel]

end StreamsDbRepository

open StreamsDbRepository

/-- Whatever order each execution of the query picks, the pages hold every matching stream
once. -/
def PagesPartition (folding : CaseFolding) (streamTags : List (Int × Int)) (limit : Nat)
    (viewerUserId : Int) (filter : StreamListPredicate) (table : StreamsTable) : Prop :=
  ∀ orderBy : Nat → OrderBy, ∃ items,
    walkPages folding streamTags orderBy limit viewerUserId filter table
      (OffsetPaging.pages limit
        (matching folding streamTags viewerUserId filter table).length) = .ok items ∧
    items.Perm ((matching folding streamTags viewerUserId filter table).map StreamRow.rowToStream)

/-- `hasMore` of a page says whether the next one has a stream, whatever order either picks. -/
def HasMoreIsRight (pg : Postgres) (tags : TagsService) (limit : Nat) (viewerUserId : Int)
    (filter : StreamListPredicate) (db : StreamsDatabase) : Prop :=
  ∀ (order next : OrderBy) (page : Nat), 1 ≤ page → ∃ answer result,
    StreamsService.listPage (repository { pg with orderBy := order }) tags page limit viewerUserId
      filter db = .ok answer ∧
    listPaginated pg.folding pg.streamTags next (page + 1) limit viewerUserId filter db.streams =
      .ok result ∧
    (answer.hasMore = true ↔ result.items ≠ [])

theorem hasMoreIsRight_iff {pg : Postgres} {tags : TagsService} {limit : Nat} (hlimit : 0 < limit)
    {viewerUserId : Int} {filter : StreamListPredicate} {db : StreamsDatabase} :
    HasMoreIsRight pg tags limit viewerUserId filter db ↔ AcceptsFilter viewerUserId filter := by
  constructor
  · intro h
    obtain ⟨answer, result, -, hresult, -⟩ := h pg.orderBy pg.orderBy 1 (Nat.le_refl 1)
    exact accepts_of_listPaginated_ok hresult
  · intro h order next page hpage
    have hanswer : ∃ answer, StreamsService.listPage (repository { pg with orderBy := order }) tags
        page limit viewerUserId filter db = .ok answer ∧
        answer.hasMore = decide (page * limit <
          (matching pg.folding pg.streamTags viewerUserId filter db.streams).length) := by
      unfold StreamsService.listPage repository
      simp only [listPaginated_eq h]
      exact ⟨_, rfl, rfl⟩
    obtain ⟨answer, hok, hmore⟩ := hanswer
    refine ⟨answer, _, hok, listPaginated_eq h next (page + 1), ?_⟩
    have hlength := (next.newestFirst
      (matching pg.folding pg.streamTags viewerUserId filter db.streams)).length_eq
    rw [hmore, decide_eq_true_eq, Nat.add_sub_cancel, Ne, List.map_eq_nil_iff, ← Ne,
      OffsetPaging.page_ne_nil_iff hlimit, hlength]

/-- An execution may pick any order that the query allows. -/
theorem OrderBy.exists_arrange {rows ordered : List StreamRow}
    (h : OffsetPaging.Ordered StreamRow.createdAt rows ordered) :
    ∃ orderBy : OrderBy, orderBy.arrange rows = ordered := by
  refine ⟨⟨fun l => if l = rows then ordered
    else l.insertionSort fun a b => b.createdAt ≤ a.createdAt, ?_⟩, if_pos rfl⟩
  intro l
  by_cases hl : l = rows
  · rw [if_pos hl, hl]
    exact h
  · rw [if_neg hl]
    exact OffsetPaging.ordered_insertionSort l

theorem pagesPartition_iff {folding : CaseFolding} {streamTags : List (Int × Int)} {limit : Nat}
    (hlimit : 0 < limit) {viewerUserId : Int} {filter : StreamListPredicate}
    {table : StreamsTable} (haccepts : AcceptsFilter viewerUserId filter) :
    PagesPartition folding streamTags limit viewerUserId filter table ↔
      FallsAtBorders limit (OffsetPaging.keys StreamRow.createdAt
        (matching folding streamTags viewerUserId filter table)) := by
  let rows := matching folding streamTags viewerUserId filter table
  have hids : (rows.map StreamRow.rowToStream).Nodup := by
    have hrows : (rows.map StreamRow.id).Nodup := matching_nodup_id streamTags table
    have hmap : rows.map StreamRow.id = (rows.map StreamRow.rowToStream).map Stream.id := by
      rw [List.map_map]
      rfl
    rw [hmap] at hrows
    exact hrows.of_map
  constructor
  · intro h
    apply OffsetPaging.fallsAtBorders_of_nodup hlimit
    intro order horder
    choose orderBy horderBy using fun index => OrderBy.exists_arrange (horder index)
    obtain ⟨items, hitems, hperm⟩ := h fun page => orderBy (page - 1)
    rw [walkPages_eq haccepts, Except.ok.injEq] at hitems
    simp only [Nat.add_sub_cancel, horderBy] at hitems
    have hnodup := hperm.nodup_iff.mpr hids
    rw [← hitems] at hnodup
    exact hnodup.of_map
  · intro hfalls orderBy
    refine ⟨_, walkPages_eq haccepts _, ?_⟩
    exact (OffsetPaging.walk_perm hlimit hfalls fun index =>
      (orderBy (index + 1)).newestFirst rows).map StreamRow.rowToStream

/-- The pages of a listing partition it, and each says rightly whether there is another,
exactly when Postgres takes the values of the query and streams on either side of a page
border were created at different instants. -/
theorem list_pages_iff {pg : Postgres} {tags : TagsService} {limit : Nat} (hlimit : 0 < limit)
    {viewerUserId : Int} {filter : StreamListPredicate} {db : StreamsDatabase} :
    PagesPartition pg.folding pg.streamTags limit viewerUserId filter db.streams ∧
      HasMoreIsRight pg tags limit viewerUserId filter db ↔
    AcceptsFilter viewerUserId filter ∧ FallsAtBorders limit (OffsetPaging.keys
      StreamRow.createdAt (matching pg.folding pg.streamTags viewerUserId filter db.streams)) := by
  rw [hasMoreIsRight_iff hlimit]
  constructor
  · rintro ⟨hpages, haccepts⟩
    exact ⟨haccepts, (pagesPartition_iff hlimit haccepts).mp hpages⟩
  · rintro ⟨haccepts, hfalls⟩
    exact ⟨(pagesPartition_iff hlimit haccepts).mpr hfalls, haccepts⟩

/-! ## Two streams, of two instants and of one -/

/-- A database without tags that keeps JSON as it is. -/
def plainPostgres : Postgres where
  folding := plainFolding
  orderBy := .fixed inferInstance
  users _ := true
  streamTags := []
  jsonb := some
  readTimestamptz _ := none

def noTags : TagsService := ⟨fun _ => none, fun _ _ => []⟩

/-- Two public streams, the first created at the epoch. -/
def twoStreams (second : Timestamptz) : StreamsDatabase where
  streams :=
    { rows := [⟨1, 1, "news", none, .inactive, .isPublic, ⟨0⟩, ⟨0⟩⟩,
        ⟨2, 1, "music", none, .inactive, .isPublic, second, second⟩]
      nextId := 3
      primaryKey := by
        show [(1 : Int), 2].Nodup
        decide
      serial := by
        intro row hrow
        rcases List.mem_pair.mp hrow with rfl | rfl
        · exact ⟨Int.one_pos, (by decide : (1 : Int) < 3)⟩
        · exact ⟨(by decide : (0 : Int) < 2), (by decide : (2 : Int) < 3)⟩
      nextId_pos := withPrivate.nextId_pos
      nextId_le := withPrivate.nextId_le }
  streamData := ⟨[], by decide⟩
  nextDataId := 1
  dataSerial := by intro row hrow; cases hrow
  nextDataId_pos := Int.one_pos
  foreignKey := by intro row hrow; cases hrow

theorem list_pages_iff_twoInstants :
    PagesPartition plainFolding [] 1 1 .none (twoStreams ⟨1000⟩).streams ∧
      HasMoreIsRight plainPostgres noTags 1 1 .none (twoStreams ⟨1000⟩) := by
  apply (@list_pages_iff plainPostgres noTags 1 (by decide) 1 .none (twoStreams ⟨1000⟩)).mpr
  refine ⟨by simp [AcceptsFilter, StreamListPredicate.none, fitsInteger], ?_⟩
  apply OffsetPaging.fallsAtBorders_of_pairwise (by decide)
  decide

/-- The ids from the highest down. -/
abbrev descending : LinearOrder Int := inferInstanceAs (LinearOrder (OrderDual Int))

/-- The first page takes the lower of two ids first, and the second the higher: stream 1 comes
twice, and stream 2 never. -/
theorem list_pages_repeat :
    ¬PagesPartition plainFolding [] 1 1 .none (twoStreams ⟨0⟩).streams := by
  intro h
  obtain ⟨items, hitems, hperm⟩ := h fun page =>
    if page = 1 then .fixed inferInstance else .fixed descending
  have hids : (walkPages plainFolding [] (fun page =>
      if page = 1 then .fixed inferInstance else .fixed descending) 1 1 .none
      (twoStreams ⟨0⟩).streams 2).map (List.map Stream.id) = .ok [1, 1] := by decide
  have hpages : OffsetPaging.pages 1
      (matching plainFolding [] 1 .none (twoStreams ⟨0⟩).streams).length = 2 := by decide
  rw [hpages] at hitems
  rw [hitems, Except.map, Except.ok.injEq] at hids
  have hmatching : (matching plainFolding [] 1 .none (twoStreams ⟨0⟩).streams).map
      (Stream.id ∘ StreamRow.rowToStream) = [1, 2] := by decide
  have hsame := hperm.map Stream.id
  rw [hids, List.map_map, hmatching] at hsame
  exact absurd hsame (by decide)

end Api
end XStreamRoll
