/-
Searching the streams, in the database and in memory.

The database searches with `ILIKE` for a pattern, and the in-memory repository with
`includes`.  The pattern is the search text with a backslash before everything that means
something in a pattern, between two wildcards, so it fits the texts that hold the search
text.  That the two sides fold case alike is taken for granted here.

Postgres takes no text with a NUL.  A search for one is refused by the database, while the
in-memory repository answers it.
-/
import XStreamRoll.Api.Streams.Backends

namespace XStreamRoll
namespace Api

/-- JavaScript folds case as Postgres does. -/
def CaseFolding.charwise (folding : CaseFolding) : CaseFolding :=
  { folding with toLowerCase := fun text => String.ofList (text.toList.map folding.lower) }

theorem CaseFolding.plain_charwise (folding : CaseFolding) (text : String) :
    folding.charwise.Plain text := rfl

/-! ## Patterns -/

/-- The pattern means the search text and nothing else. -/
theorem like_pattern (q text : String) :
    Like.like '\\' ("%" ++ escapeLikePattern q ++ "%").toList text.toList = true ↔
      q.toList <:+: text.toList := by
  have other : '\\' ≠ '%' := by decide
  rw [toList_pattern, Like.like_containing other]

/-! ## The two searches -/

section

variable {Data : Type}

/-- The two repositories hold the same streams. -/
def SameStreams (table : StreamsTable) (store : StreamsRepository Data) : Prop :=
  store.streamsById.Perm (table.rows.map StreamRow.rowToStream)

/-- On a page that has room for them all, both searches give the same streams. -/
def SearchAgrees (folding : CaseFolding) (streamTags : List (Int × Int)) (orderBy : OrderBy)
    (viewerUserId : Int) (filter : StreamListPredicate) (table : StreamsTable)
    (store : StreamsRepository Data) : Prop :=
  ∀ limit, table.rows.length ≤ limit → ∃ answer,
    StreamsDbRepository.listPaginated folding streamTags orderBy 1 limit viewerUserId filter
      table = .ok answer ∧
    answer.items.Perm
      (store.listPaginated folding (some streamTags) 1 limit viewerUserId filter).items ∧
    answer.total = (store.listPaginated folding (some streamTags) 1 limit viewerUserId filter).total

variable {folding : CaseFolding} {streamTags : List (Int × Int)} {orderBy : OrderBy}
  {viewerUserId : Int} {filter : StreamListPredicate} {table : StreamsTable}
  {store : StreamsRepository Data}

/-- The filters keep the same streams. -/
theorem listed_eq_listWhere (row : StreamRow) :
    StreamsRepository.listed folding.charwise (some streamTags) viewerUserId filter
        row.rowToStream =
      (listWhere viewerUserId filter).holds folding.charwise streamTags row := by
  rw [Bool.eq_iff_iff, StreamsRepository.listed_iff, listWhere_holds_iff]
  unfold Listed
  refine and_congr Iff.rfl (and_congr Iff.rfl (and_congr Iff.rfl (and_congr ?_ Iff.rfl)))
  refine forall₂_congr fun q hq => ?_
  have nonempty : q ≠ "" := of_decide_eq_true (Option.mem_filter_iff.mp hq).2
  have same := @search_eq_of_plain folding.charwise q row nonempty (folding.plain_charwise q)
    (folding.plain_charwise _) (folding.plain_charwise _) fun _ _ => folding.plain_charwise _
  refine (Bool.eq_iff_iff.mp same).trans ?_
  rw [Bool.or_eq_true, Option.any_eq_true]
  rfl

/-- The filtered streams of the store are those of the rows that the clause selects. -/
theorem listFiltered_perm (same : SameStreams table store) :
    (store.listFiltered folding.charwise (some streamTags) viewerUserId filter).Perm
      ((StreamsDbRepository.matching folding.charwise streamTags viewerUserId filter table).map
        StreamRow.rowToStream) := by
  have keeps : (fun row : StreamRow => StreamsRepository.listed folding.charwise (some streamTags)
      viewerUserId filter row.rowToStream) =
      (listWhere viewerUserId filter).holds folding.charwise streamTags :=
    funext listed_eq_listWhere
  rw [StreamsRepository.listFiltered_eq]
  refine (List.perm_insertionSort _ _).trans ((same.filter _).trans ?_)
  rw [List.filter_map, StreamsDbRepository.matching, ← keeps]
  rfl

/-- The two searches agree as soon as the database takes the values. -/
theorem searchAgrees_iff (same : SameStreams table store) :
    SearchAgrees folding.charwise streamTags orderBy viewerUserId filter table store ↔
      AcceptsFilter viewerUserId filter := by
  rw [← accepted_listWhere_iff]
  constructor
  · intro agrees
    obtain ⟨answer, answers, -⟩ := agrees _ (le_refl _)
    unfold StreamsDbRepository.listPaginated at answers
    split at answers
    · next accepted => exact accepted
    · cases answers
  · intro accepted limit room
    let rows := StreamsDbRepository.matching folding.charwise streamTags viewerUserId filter table
    have perm : (store.listFiltered folding.charwise (some streamTags) viewerUserId filter).Perm
      (rows.map StreamRow.rowToStream) := listFiltered_perm same
    have arranged : (orderBy.arrange rows).Perm rows := (orderBy.newestFirst rows).1
    have fewer : rows.length ≤ limit := le_trans (List.length_filter_le _ _) room
    have filtered := perm.length_eq
    rw [List.length_map] at filtered
    refine ⟨_, if_pos accepted, ?_, ?_⟩
    · rw [OffsetPaging.page_of_length_le (by rw [arranged.length_eq]; exact fewer)]
      show ((orderBy.arrange rows).map StreamRow.rowToStream).Perm (OffsetPaging.page limit (1 - 1)
        (store.listFiltered folding.charwise (some streamTags) viewerUserId filter))
      rw [OffsetPaging.page_of_length_le (by rw [filtered]; exact fewer)]
      exact (arranged.map _).trans perm.symm
    · exact filtered.symm

end

/-- The pattern of a search text fits exactly the texts that hold it, and the two searches
give the same streams exactly when Postgres takes the search text and the ids. -/
theorem search_literal (folding : CaseFolding) :
    (∀ q text : String,
      Like.like '\\' ("%" ++ escapeLikePattern q ++ "%").toList text.toList = true ↔
        q.toList <:+: text.toList) ∧
    ∀ (Data : Type) (streamTags : List (Int × Int)) (orderBy : OrderBy) (viewerUserId : Int)
      (filter : StreamListPredicate) (table : StreamsTable) (store : StreamsRepository Data),
      SameStreams table store →
      (SearchAgrees folding.charwise streamTags orderBy viewerUserId filter table store ↔
        AcceptsFilter viewerUserId filter) :=
  ⟨like_pattern, fun _ _ _ _ _ _ _ same => searchAgrees_iff same⟩

def searchFor (q : String) : StreamListPredicate := { StreamListPredicate.none with q := some q }

theorem sameStreams_withPrivate : SameStreams withPrivate storeWithPrivate := List.Perm.refl _

theorem search_literal_percent :
    SearchAgrees plainFolding.charwise [] (.fixed inferInstance) 1 (searchFor "100%") withPrivate
      storeWithPrivate :=
  ((search_literal plainFolding).2 _ _ _ _ _ _ _ sameStreams_withPrivate).mpr
    ⟨by decide, by decide, by rintro tagId ⟨⟩⟩

/-- The database answers no search for a NUL. -/
theorem search_nul :
    ¬∀ (folding : CaseFolding) (Data : Type) (streamTags : List (Int × Int)) (orderBy : OrderBy)
      (viewerUserId : Int) (q : String) (table : StreamsTable) (store : StreamsRepository Data),
      SameStreams table store → fitsInteger viewerUserId = true →
      SearchAgrees folding.charwise streamTags orderBy viewerUserId (searchFor q) table store := by
  intro always
  have accepts := (searchAgrees_iff sameStreams_withPrivate).mp (always plainFolding Unit []
    (.fixed inferInstance) 1 (String.singleton (Char.ofNat 0)) _ _ sameStreams_withPrivate
    (by decide))
  exact absurd (accepts.2.1 _ rfl) (by decide)

end Api
end XStreamRoll
