/-
What a listing tells its viewer.

Two contents of a repository are the same for a viewer when they differ in private
streams of other users only.  Both repositories answer every page of every filter alike
over such contents, and without filters they list the streams that the viewer may
subscribe to.
-/
import XStreamRoll.Api.Streams

namespace XStreamRoll
namespace Api

/-- A value of `users.id`. -/
abbrev UserId := { n : Int // fitsInteger n = true }

/-- The access rule on the columns of a stream. -/
def VisibleTo (viewer owner : Int) (visibility : StreamVisibility) : Prop :=
  visibility = .isPublic ∨ owner = viewer

instance (viewer owner : Int) (visibility : StreamVisibility) :
    Decidable (VisibleTo viewer owner visibility) :=
  inferInstanceAs (Decidable (_ ∨ _))

theorem subscribable_some {viewer owner : Int} {visibility : StreamVisibility} :
    subscribable viewer (some (owner, visibility)) = true ↔ VisibleTo viewer owner visibility := by
  rw [subscribable, Bool.or_eq_true, decide_eq_true_eq, decide_eq_true_eq, VisibleTo, or_comm]

/-! ## The database -/

namespace StreamsTable

/-- Two tables, with their tags, that differ in private streams of other users only. -/
structure SameFor (viewer : Int) (table table' : StreamsTable) (tags tags' : List (Int × Int)) :
    Prop where
  rows : ∀ row : StreamRow, VisibleTo viewer row.userId row.visibility →
    (row ∈ table.rows ↔ row ∈ table'.rows)
  tags : ∀ row ∈ table.rows, VisibleTo viewer row.userId row.visibility →
    ∀ tagId, (row.id, tagId) ∈ tags ↔ (row.id, tagId) ∈ tags'

end StreamsTable

section Database

open StreamsDbRepository

variable {folding : CaseFolding} {viewer : Int} {filter : StreamListPredicate}

theorem Listed.visibleTo {tags : List (Int × Int)} {row : StreamRow}
    (h : Listed folding tags viewer filter row) : VisibleTo viewer row.userId row.visibility := by
  have hacl := h.1
  cases hown : filter.ownerOnly with
  | true =>
    rw [hown, if_pos rfl] at hacl
    exact .inr hacl
  | false =>
    rw [hown, if_neg Bool.false_ne_true] at hacl
    exact hacl

theorem Listed.congr_tags {tags tags' : List (Int × Int)} {row : StreamRow}
    (htags : ∀ tagId, (row.id, tagId) ∈ tags ↔ (row.id, tagId) ∈ tags') :
    Listed folding tags viewer filter row ↔ Listed folding tags' viewer filter row := by
  simp only [Listed, htags]

theorem mem_matching {tags : List (Int × Int)} {table : StreamsTable} {row : StreamRow} :
    row ∈ matching folding tags viewer filter table ↔
      row ∈ table.rows ∧ Listed folding tags viewer filter row := by
  rw [matching, List.mem_filter, listWhere_holds_iff]

theorem matching_nodup_id (tags : List (Int × Int)) (table : StreamsTable) :
    ((matching folding tags viewer filter table).map StreamRow.id).Nodup :=
  (List.filter_sublist.map _).nodup table.primaryKey

theorem matching_nodup (tags : List (Int × Int)) (table : StreamsTable) :
    (matching folding tags viewer filter table).Nodup :=
  (matching_nodup_id tags table).of_map

/-- The clause selects the same rows from both tables. -/
theorem matching_perm {table table' : StreamsTable} {tags tags' : List (Int × Int)}
    (h : StreamsTable.SameFor viewer table table' tags tags') :
    (matching folding tags viewer filter table).Perm
      (matching folding tags' viewer filter table') := by
  rw [List.perm_ext_iff_of_nodup (matching_nodup tags table) (matching_nodup tags' table')]
  intro row
  rw [mem_matching, mem_matching]
  constructor
  · rintro ⟨hmem, hlisted⟩
    have hvisible := hlisted.visibleTo
    exact ⟨(h.rows row hvisible).mp hmem,
      (Listed.congr_tags (h.tags row hmem hvisible)).mp hlisted⟩
  · rintro ⟨hmem', hlisted⟩
    have hvisible := hlisted.visibleTo
    have hmem := (h.rows row hvisible).mpr hmem'
    exact ⟨hmem, (Listed.congr_tags (h.tags row hmem hvisible)).mpr hlisted⟩

/-- A fixed order of the ids leaves no choice among rows of different ids. -/
theorem OrderBy.fixed_eq_of_perm (ties : LinearOrder Int) {rows rows' : List StreamRow}
    (hperm : rows.Perm rows') (hids : (rows.map StreamRow.id).Nodup) :
    (OrderBy.fixed ties).arrange rows = (OrderBy.fixed ties).arrange rows' := by
  let r : StreamRow → StreamRow → Prop := fun a b => ties.le a.id b.id
  have htotal : Std.Total r := ⟨fun a b => ties.le_total a.id b.id⟩
  have htrans : IsTrans StreamRow r := ⟨fun a b c hab hbc => ties.le_trans _ _ _ hab hbc⟩
  have hsorted : ∀ l : List StreamRow, (l.insertionSort r).Pairwise r :=
    fun l => List.pairwise_insertionSort r l
  have hinner : rows.insertionSort r = rows'.insertionSort r := by
    have hboth : (rows.insertionSort r).Perm (rows'.insertionSort r) :=
      ((List.perm_insertionSort r rows).trans hperm).trans (List.perm_insertionSort r rows').symm
    apply hboth.eq_of_pairwise _ (hsorted rows) (hsorted rows')
    intro a b ha hb hab hba
    have ha' : a ∈ rows := (List.perm_insertionSort r rows).subset ha
    have hb' : b ∈ rows :=
      hperm.symm.subset ((List.perm_insertionSort r rows').subset hb)
    exact List.inj_on_of_nodup_map hids ha' hb' (ties.le_antisymm _ _ hab hba)
  exact congrArg (List.insertionSort fun a b => b.createdAt ≤ a.createdAt) hinner

theorem listPaginated_sameFor {table table' : StreamsTable} {tags tags' : List (Int × Int)}
    (h : StreamsTable.SameFor viewer table table' tags tags') (ties : LinearOrder Int)
    (page limit : Nat) :
    listPaginated folding tags (OrderBy.fixed ties) page limit viewer filter table =
      listPaginated folding tags' (OrderBy.fixed ties) page limit viewer filter table' := by
  have hperm : (matching folding tags viewer filter table).Perm
      (matching folding tags' viewer filter table') := matching_perm h
  unfold listPaginated
  simp only [OrderBy.fixed_eq_of_perm ties hperm (matching_nodup_id tags table), hperm.length_eq]

/-- The page that a place of a list is on. -/
theorem mem_some_page {α : Type} {limit : Nat} (hlimit : 0 < limit) {l : List α} {a : α}
    (ha : a ∈ l) : ∃ page, 1 ≤ page ∧ a ∈ OffsetPaging.page limit (page - 1) l := by
  obtain ⟨i, hi⟩ := List.mem_iff_getElem?.mp ha
  refine ⟨i / limit + 1, Nat.le_add_left 1 _, ?_⟩
  rw [Nat.add_sub_cancel]
  apply List.mem_of_getElem? (i := i % limit)
  rw [OffsetPaging.getElem?_page (Nat.mod_lt i hlimit), Nat.div_add_mod', hi]

/-- Some page of the listing without filters shows a stream of that id. -/
def AppearsInDb (folding : CaseFolding) (tags : List (Int × Int)) (orderBy : OrderBy)
    (limit : Nat) (viewer id : Int) (table : StreamsTable) : Prop :=
  ∃ page result, 1 ≤ page ∧
    listPaginated folding tags orderBy page limit viewer .none table = .ok result ∧
    ∃ s ∈ result.items, s.id = id

theorem listed_none_iff {tags : List (Int × Int)} {row : StreamRow} :
    Listed folding tags viewer .none row ↔ VisibleTo viewer row.userId row.visibility := by
  simp [Listed, StreamListPredicate.none, VisibleTo]

theorem appearsInDb_iff {viewer : UserId} {limit : Nat} (hlimit : 0 < limit)
    (tags : List (Int × Int)) (orderBy : OrderBy) (id : Int) (table : StreamsTable) :
    AppearsInDb folding tags orderBy limit viewer id table ↔
      canSubscribe viewer id table = .ok true := by
  have hparams : (listWhere viewer .none).params.all Param.accepted = true := by
    simp [listWhere, StreamListPredicate.none, Where.pushIf, Param.accepted, viewer.property]
  let rows := matching folding tags viewer .none table
  have hperm := (orderBy.newestFirst rows).1
  have hlist : ∀ page, listPaginated folding tags orderBy page limit viewer .none table =
      .ok ⟨(OffsetPaging.page limit (page - 1) (orderBy.arrange rows)).map StreamRow.rowToStream,
        rows.length⟩ := fun page => if_pos hparams
  have hsome : AppearsInDb folding tags orderBy limit viewer id table ↔
      ∃ row ∈ rows, row.id = id := by
    constructor
    · rintro ⟨page, result, -, hresult, s, hs, hid⟩
      rw [hlist, Except.ok.injEq] at hresult
      rw [← hresult] at hs
      obtain ⟨row, hrow, rfl⟩ := List.mem_map.mp hs
      exact ⟨row, hperm.subset (OffsetPaging.mem_of_mem_page hrow), hid⟩
    · rintro ⟨row, hrow, hid⟩
      obtain ⟨page, hpage, hmem⟩ := mem_some_page hlimit (hperm.symm.subset hrow)
      exact ⟨page, _, hpage, hlist page, row.rowToStream, List.mem_map_of_mem hmem, hid⟩
  rw [hsome]
  constructor
  · rintro ⟨row, hrow, rfl⟩
    obtain ⟨hmem, hlisted⟩ := mem_matching.mp hrow
    rw [canSubscribe, if_pos (table.fitsInteger_id hmem),
      StreamsTable.find_eq_some_iff.mpr ⟨hmem, rfl⟩]
    exact congrArg Except.ok (subscribable_some.mpr (listed_none_iff.mp hlisted))
  · intro h
    unfold canSubscribe at h
    split at h
    · rw [Except.ok.injEq] at h
      cases hfind : table.find id with
      | none =>
        rw [hfind] at h
        cases h
      | some row =>
        rw [hfind] at h
        obtain ⟨hmem, hid⟩ := StreamsTable.find_eq_some_iff.mp hfind
        exact ⟨row, mem_matching.mpr ⟨hmem, listed_none_iff.mpr (subscribable_some.mp h)⟩, hid⟩
    · cases h

end Database

/-! ## The in-memory repository -/

namespace StreamsRepository

variable {Data : Type} {folding : CaseFolding} {viewer : Int} {filter : StreamListPredicate}

/-- Two stores, with their tags, that differ in private streams of other users only. -/
structure SameFor (viewer : Int) (store store' : StreamsRepository Data)
    (tags tags' : Option (List (Int × Int))) : Prop where
  streams : ∀ s : Stream, VisibleTo viewer s.userId s.visibility →
    (s ∈ store.streamsById ↔ s ∈ store'.streamsById)
  tags : ∀ s ∈ store.streamsById, VisibleTo viewer s.userId s.visibility →
    ∀ tagId, s.id ∈ streamIdsOf tags tagId ↔ s.id ∈ streamIdsOf tags' tagId

theorem listed_visibleTo {tags : Option (List (Int × Int))} {s : Stream}
    (h : listed folding tags viewer filter s = true) : VisibleTo viewer s.userId s.visibility := by
  simp only [listed, Bool.and_eq_true] at h
  have hacl := h.1.1.1.2
  cases hown : filter.ownerOnly with
  | true =>
    rw [hown, if_pos rfl, decide_eq_true_eq] at hacl
    exact .inr hacl
  | false =>
    rw [hown, if_neg Bool.false_ne_true, decide_eq_true_eq] at hacl
    exact hacl

theorem listed_congr_tags {tags tags' : Option (List (Int × Int))} {s : Stream}
    (htags : ∀ tagId, s.id ∈ streamIdsOf tags tagId ↔ s.id ∈ streamIdsOf tags' tagId) :
    listed folding tags viewer filter s = listed folding tags' viewer filter s := by
  simp only [listed, htags]

theorem nodup (store : StreamsRepository Data) : store.streamsById.Nodup :=
  store.keys.imp fun hlt heq => absurd (congrArg Stream.id heq) (ne_of_lt hlt)

/-- The filters select the same streams from both stores, in the same order. -/
theorem filter_listed_eq {store store' : StreamsRepository Data}
    {tags tags' : Option (List (Int × Int))} (h : SameFor viewer store store' tags tags') :
    store.streamsById.filter (listed folding tags viewer filter) =
      store'.streamsById.filter (listed folding tags' viewer filter) := by
  have hperm : (store.streamsById.filter (listed folding tags viewer filter)).Perm
      (store'.streamsById.filter (listed folding tags' viewer filter)) := by
    rw [List.perm_ext_iff_of_nodup (store.nodup.filter _) (store'.nodup.filter _)]
    intro s
    rw [List.mem_filter, List.mem_filter]
    constructor
    · rintro ⟨hmem, hlisted⟩
      have hvisible := listed_visibleTo hlisted
      exact ⟨(h.streams s hvisible).mp hmem,
        listed_congr_tags (h.tags s hmem hvisible) ▸ hlisted⟩
    · rintro ⟨hmem', hlisted⟩
      have hvisible := listed_visibleTo hlisted
      have hmem := (h.streams s hvisible).mpr hmem'
      exact ⟨hmem, (listed_congr_tags (h.tags s hmem hvisible)).symm ▸ hlisted⟩
  apply hperm.eq_of_pairwise _ (store.keys.filter _) (store'.keys.filter _)
  intro a b _ _ hab hba
  exact absurd hba (not_lt_of_gt hab)

theorem listPaginated_sameFor {store store' : StreamsRepository Data}
    {tags tags' : Option (List (Int × Int))} (h : SameFor viewer store store' tags tags')
    (page limit : Nat) :
    store.listPaginated folding tags page limit viewer filter =
      store'.listPaginated folding tags' page limit viewer filter := by
  have hlist : store.listFiltered folding tags viewer filter =
      store'.listFiltered folding tags' viewer filter := by
    rw [listFiltered_eq, listFiltered_eq, filter_listed_eq h]
  unfold listPaginated
  rw [hlist]

/-- Some page of the listing without filters shows a stream of that id. -/
def Appears (folding : CaseFolding) (tags : Option (List (Int × Int))) (limit : Nat)
    (viewer id : Int) (store : StreamsRepository Data) : Prop :=
  ∃ page, 1 ≤ page ∧
    ∃ s ∈ (store.listPaginated folding tags page limit viewer .none).items, s.id = id

theorem findById_eq_some_iff {store : StreamsRepository Data} {id : Int} {s : Stream} :
    store.findById id = some s ↔ s ∈ store.streamsById ∧ s.id = id := by
  constructor
  · intro h
    exact ⟨List.mem_of_find?_eq_some h, by simpa using List.find?_some h⟩
  · rintro ⟨hmem, rfl⟩
    obtain ⟨found, hfound⟩ : ∃ found, store.findById s.id = some found := by
      rw [← Option.isSome_iff_exists, findById, List.find?_isSome]
      exact ⟨s, hmem, by simp⟩
    have hid : found.id = s.id := by simpa using List.find?_some hfound
    have hids : (store.streamsById.map Stream.id).Nodup :=
      List.pairwise_map.mpr (store.keys.imp fun hlt => ne_of_lt hlt)
    rw [hfound, List.inj_on_of_nodup_map hids (List.mem_of_find?_eq_some hfound) hmem hid]

theorem listed_none_iff {tags : Option (List (Int × Int))} {s : Stream} :
    listed folding tags viewer .none s = true ↔ VisibleTo viewer s.userId s.visibility := by
  simp [listed, StreamListPredicate.none, VisibleTo]

theorem appears_iff {limit : Nat} (hlimit : 0 < limit) (tags : Option (List (Int × Int)))
    (id : Int) (store : StreamsRepository Data) :
    Appears folding tags limit viewer id store ↔
      subscribable viewer ((store.findById id).map fun s => (s.userId, s.visibility)) = true := by
  have hmem : ∀ s, s ∈ store.listFiltered folding tags viewer .none ↔
      s ∈ store.streamsById ∧ VisibleTo viewer s.userId s.visibility := by
    intro s
    rw [listFiltered_eq, List.mem_insertionSort, List.mem_filter, listed_none_iff]
  constructor
  · rintro ⟨page, -, s, hs, rfl⟩
    obtain ⟨hstored, hvisible⟩ := (hmem s).mp (OffsetPaging.mem_of_mem_page hs)
    rw [findById_eq_some_iff.mpr ⟨hstored, rfl⟩]
    exact subscribable_some.mpr hvisible
  · intro h
    cases hfind : store.findById id with
    | none =>
      rw [hfind] at h
      cases h
    | some s =>
      rw [hfind] at h
      obtain ⟨hstored, hid⟩ := findById_eq_some_iff.mp hfind
      obtain ⟨page, hpage, hs⟩ :=
        mem_some_page hlimit ((hmem s).mpr ⟨hstored, subscribable_some.mp h⟩)
      exact ⟨page, hpage, s, hs, hid⟩

end StreamsRepository

/-! ## Both repositories -/

/-- What both repositories tell a viewer depends on the streams that the viewer may see,
and without filters those are all that they list. -/
theorem list_visibility {Data : Type} (folding : CaseFolding) (viewer : UserId)
    (filter : StreamListPredicate) (ties : LinearOrder Int) (page limit : Nat)
    (hlimit : 0 < limit)
    {table table' : StreamsTable} {tags tags' : List (Int × Int)}
    (htable : StreamsTable.SameFor viewer table table' tags tags')
    {store store' : StreamsRepository Data} {joined joined' : Option (List (Int × Int))}
    (hstore : StreamsRepository.SameFor viewer store store' joined joined') :
    (StreamsDbRepository.listPaginated folding tags (.fixed ties) page limit viewer filter table =
      StreamsDbRepository.listPaginated folding tags' (.fixed ties) page limit viewer filter
        table') ∧
    (store.listPaginated folding joined page limit viewer filter =
      store'.listPaginated folding joined' page limit viewer filter) ∧
    (∀ id, AppearsInDb folding tags (.fixed ties) limit viewer id table ↔
      canSubscribe viewer id table = .ok true) ∧
    ∀ id, store.Appears folding joined limit viewer id ↔
      subscribable viewer ((store.findById id).map fun s => (s.userId, s.visibility)) = true :=
  ⟨listPaginated_sameFor htable ties page limit,
    StreamsRepository.listPaginated_sameFor hstore page limit,
    fun id => appearsInDb_iff hlimit tags (.fixed ties) id table,
    fun id => StreamsRepository.appears_iff hlimit joined id store⟩

/-! ## A private stream that comes and goes -/

/-- Case folding on texts without capitals. -/
def plainFolding : CaseFolding where
  toLowerCase text := text
  lower c := c
  lower_special _ := ⟨Iff.rfl, fun _ => rfl⟩

def publicRow : StreamRow := ⟨1, 2, "news", none, .active, .isPublic, ⟨0⟩, ⟨0⟩⟩
def privateRow : StreamRow := ⟨2, 2, "drafts", none, .inactive, .isPrivate, ⟨1000⟩, ⟨1000⟩⟩

def withPrivate : StreamsTable :=
  ⟨[publicRow, privateRow], 3, by decide, by decide, by decide, by decide⟩
def withoutPrivate : StreamsTable := ⟨[publicRow], 3, by decide, by decide, by decide, by decide⟩

def storeWithPrivate : StreamsRepository Unit :=
  ⟨[publicRow.rowToStream, privateRow.rowToStream], 3, [], [], 1, by decide, by decide, by decide⟩
def storeWithoutPrivate : StreamsRepository Unit :=
  ⟨[publicRow.rowToStream], 3, [], [], 1, by decide, by decide, by decide⟩

theorem sameFor_withPrivate : StreamsTable.SameFor 1 withPrivate withoutPrivate [(2, 5)] [] where
  rows row hvisible := by
    have hhidden : row ≠ privateRow := by
      rintro rfl
      exact absurd hvisible (by decide)
    simp [withPrivate, withoutPrivate, hhidden]
  tags row hrow hvisible tagId := by
    have hid : row.id ≠ 2 := by
      rcases List.mem_cons.mp hrow with rfl | hrow
      · decide
      · rw [List.mem_singleton.mp hrow] at hvisible
        exact absurd hvisible (by decide)
    simp [hid]

theorem sameFor_storeWithPrivate : StreamsRepository.SameFor 1 storeWithPrivate
    storeWithoutPrivate (some [(2, 5)]) none where
  streams s hvisible := by
    have hhidden : s ≠ privateRow.rowToStream := by
      rintro rfl
      exact absurd hvisible (by decide)
    simp [storeWithPrivate, storeWithoutPrivate, hhidden]
  tags s hs hvisible tagId := by
    have hid : s.id ≠ 2 := by
      rcases List.mem_cons.mp hs with rfl | hs
      · decide
      · rw [List.mem_singleton.mp hs] at hvisible
        exact absurd hvisible (by decide)
    simp [StreamsRepository.streamIdsOf, listStreamIdsForTag, hid]

theorem list_visibility_withPrivate :
    (StreamsDbRepository.listPaginated plainFolding [(2, 5)] (.fixed inferInstance) 1 20 1 .none
        withPrivate =
      StreamsDbRepository.listPaginated plainFolding [] (.fixed inferInstance) 1 20 1 .none
        withoutPrivate) ∧
    (storeWithPrivate.listPaginated plainFolding (some [(2, 5)]) 1 20 1 .none =
      storeWithoutPrivate.listPaginated plainFolding none 1 20 1 .none) ∧
    (∀ id, AppearsInDb plainFolding [(2, 5)] (.fixed inferInstance) 20 1 id withPrivate ↔
      canSubscribe 1 id withPrivate = .ok true) ∧
    ∀ id, storeWithPrivate.Appears plainFolding (some [(2, 5)]) 20 1 id ↔
      subscribable 1 ((storeWithPrivate.findById id).map fun s => (s.userId, s.visibility)) =
        true :=
  list_visibility plainFolding ⟨1, by decide⟩ .none inferInstance 1 20 (by decide)
    sameFor_withPrivate sameFor_storeWithPrivate

end Api
end XStreamRoll
