/-
`TagsService` over the in-memory repository and over the database, side by side.

The two stores hand out ids of their own, so a call names a tag by both: the ids of the
tags that were created at one place in the order of creation, or two ids that no tag has.
Both serve a call at one instant.

The answers agree along a run exactly when no step of it gives a tag another name, and no
step of it asks of the database what it refuses or orders otherwise.
-/
import XStreamRoll.Api.Tags
import XStreamRoll.Transition

namespace XStreamRoll
namespace Api

open Transition

/-! ## The operations -/

inductive TagsOperation (Id : Type) where
  | attachToStream (streamId : Int) (rawName : String)
  | detachFromStream (streamId : Int) (tagId : Id)
  /-- page `index + 1` -/
  | list (index limit : Nat)
  | findById (tagId : Id)
  | findBySlug (slug : String)
  | listForStreamIds (streamIds : List Int)
  /-- page `index + 1` -/
  | listForStream (streamId : Int) (index limit : Nat)
deriving DecidableEq, Repr

namespace TagsOperation

variable {Id Id' : Type}

def map (f : Id → Id') : TagsOperation Id → TagsOperation Id'
  | attachToStream streamId rawName => attachToStream streamId rawName
  | detachFromStream streamId tagId => detachFromStream streamId (f tagId)
  | list index limit => list index limit
  | findById tagId => findById (f tagId)
  | findBySlug slug => findBySlug slug
  | listForStreamIds streamIds => listForStreamIds streamIds
  | listForStream streamId index limit => listForStream streamId index limit

/-- The tag that the operation names by its id. -/
def tagId? : TagsOperation Id → Option Id
  | detachFromStream _ tagId => some tagId
  | findById tagId => some tagId
  | _ => none

end TagsOperation

inductive TagsAnswer where
  | tag (result : Except TagsException Tag)
  | detached (result : Except TagsException Unit)
  | page (result : Except TagsException PagedTags)
  | found (result : Except TagsException (Option Tag))
  | streams (result : Except TagsException (List (Int × List Tag)))

namespace Tags.TagsService

def serve {σ : Type} (p : TagsPlatform) (tags : TagsStore σ) (now : Date) :
    TagsOperation Int → σ → TagsAnswer × σ
  | .attachToStream streamId rawName, s =>
    let (result, t) := attachToStream p tags now streamId rawName s
    (.tag result, t)
  | .detachFromStream streamId tagId, s =>
    let (result, t) := detachFromStream tags streamId tagId s
    (.detached result, t)
  | .list index limit, s => (.page (list tags (index + 1) limit s), s)
  | .findById tagId, s => (.found (tags.findById tagId s), s)
  | .findBySlug slug, s => (.found (tags.findBySlug slug s), s)
  | .listForStreamIds streamIds, s => (.streams (listForStreamIds tags streamIds s), s)
  | .listForStream streamId index limit, s =>
    (.page (listForStream tags streamId (index + 1) limit s), s)

end Tags.TagsService

/-- The first of two ids is one of the memory, the second one of the database. -/
structure TagsCall where
  now : Date
  operation : TagsOperation (Int × Int)

structure TagBackends where
  memory : TagsRepository
  db : TagsDatabase

namespace TagBackends

open Tags (TagsService.serve)

variable (p : TagsPlatform)

theorem nodup_noIds : ([] : List Int).Nodup := List.nodup_nil

def initial : TagBackends where
  memory := ⟨[], [], 1, .nil, nodup_noIds, List.forall_mem_nil _⟩
  db :=
    { tags := ⟨[], 1, nodup_noIds, .nil, .nil, List.forall_mem_nil _, Int.one_pos, one_le_serial⟩
      streamTags := []
      streamTagsKey := .nil
      foreignKey := List.forall_mem_nil _ }

/-- The place of an id of the memory in the order of creation. -/
def place (id : Int) (s : TagBackends) : Option Nat := (s.memory.tagsBySlug.map Tag.id).idxOf? id

/-- The place of an id of the database in the order of creation. -/
def place' (id : Int) (s : TagBackends) : Option Nat := (s.db.tags.rows.map TagRow.id).idxOf? id

/-- Two ids of one tag, or of none. -/
def Matched (s : TagBackends) (id id' : Int) : Prop := s.place id = s.place' id'

instance (s : TagBackends) (id id' : Int) : Decidable (s.Matched id id') :=
  inferInstanceAs (Decidable (_ = _))

def serveMemory (s : TagBackends) (c : TagsCall) : TagsAnswer × TagsRepository :=
  TagsService.serve p (TagsRepository.repository p) c.now (c.operation.map Prod.fst) s.memory

def serveDatabase (s : TagBackends) (c : TagsCall) : TagsAnswer × TagsDatabase :=
  TagsService.serve p (TagsDbRepository.repository p) c.now (c.operation.map Prod.snd) s.db

def step (s : TagBackends) (c : TagsCall) : Option TagBackends :=
  if ∀ ids ∈ c.operation.tagId?, s.Matched ids.1 ids.2 then
    some ⟨(s.serveMemory p c).2, (s.serveDatabase p c).2⟩
  else none

/-! ## What is to hold -/

/-- The same tag, whatever its id. -/
def SameContent (tag tag' : Tag) : Prop :=
  tag'.name = tag.name ∧ tag'.slug = tag.slug ∧ tag'.createdAt = tag.createdAt

/-- One tag in the two stores: the tags that were created at one place in the order of
creation, with the same name and slug. -/
def SameTag (s : TagBackends) (tag tag' : Tag) : Prop :=
  SameContent tag tag' ∧ ∃ k : Nat, s.memory.tagsBySlug[k]? = some tag ∧
    (s.db.tags.rows[k]?).map TagRow.rowToTag = some tag'

def SameException (s : TagBackends) : TagsException → TagsException → Prop
  | .tagNotFound tagId, .tagNotFound tagId' => s.Matched tagId tagId'
  | .notAttached tagId streamId, .notAttached tagId' streamId' =>
    s.Matched tagId tagId' ∧ streamId' = streamId
  | e, e' => e = e'

def SameResult {α : Type} (s : TagBackends) (same : α → α → Prop) :
    Except TagsException α → Except TagsException α → Prop
  | .ok a, .ok a' => same a a'
  | .error e, .error e' => s.SameException e e'
  | _, _ => False

def SamePage (s : TagBackends) (page page' : PagedTags) : Prop :=
  List.Forall₂ s.SameTag page.data page'.data ∧ page'.page = page.page ∧
    page'.limit = page.limit ∧ page'.total = page.total ∧ page'.hasMore = page.hasMore

/-- The tags of one stream. -/
def SameEntry (s : TagBackends) (entry entry' : Int × List Tag) : Prop :=
  entry'.1 = entry.1 ∧ List.Forall₂ s.SameTag entry.2 entry'.2

/-- The answers agree, with the ids of tags matched in order of creation. -/
def Agree (s : TagBackends) : TagsAnswer → TagsAnswer → Prop
  | .tag result, .tag result' => s.SameResult s.SameTag result result'
  | .detached result, .detached result' => s.SameResult Eq result result'
  | .page result, .page result' => s.SameResult s.SamePage result result'
  | .found result, .found result' => s.SameResult (Option.Rel s.SameTag) result result'
  | .streams result, .streams result' => s.SameResult (List.Forall₂ s.SameEntry) result result'
  | _, _ => False

/-- The upsert goes through, and does not give a tag another name. -/
def KeepsNames (name slug : String) (db : TagsDatabase) : Prop :=
  (Param.text name).accepted = true ∧ db.tags.nextId ≤ 2147483647 ∧ fitsVarchar 64 name = true ∧
    db.tags.Available name slug ∧ ∀ row ∈ db.tags.findSlug slug, row.name = name

/-- Both orders put the same slugs on the page. -/
def PagedAlike (index limit : Nat) (slugs : List String) : Prop :=
  OffsetPaging.page limit index (slugs.mergeSort p.localeCompare) =
    OffsetPaging.page limit index (slugs.mergeSort p.collation)

/-- The slugs of the tags of a stream. -/
def slugsOf (streamId : Int) (db : TagsDatabase) : List String :=
  (TagsDbRepository.tagsOf streamId db).map Tag.slug

/-- Where the two backends serve a call alike. -/
def ServesAlike (s : TagBackends) (c : TagsCall) : Prop :=
  match c.operation with
  | .attachToStream streamId rawName => p.slugify rawName = "" ∨
      KeepsNames (trim rawName) (p.slugify rawName) s.db ∧ fitsInteger streamId = true ∧
        p.streams streamId = true
  | .detachFromStream streamId (_, tagId) => fitsInteger tagId = true ∧
      ((s.db.tags.find tagId).isSome = true → fitsInteger streamId = true)
  | .list index limit => fitsBigint limit = true ∧ fitsBigint (index * limit) = true ∧
      PagedAlike p index limit (s.db.tags.rows.map TagRow.slug)
  | .findById (_, tagId) => fitsInteger tagId = true
  | .findBySlug slug => (Param.text slug).accepted = true
  | .listForStreamIds streamIds => ∀ id ∈ streamIds, fitsInteger id = true ∧
      (slugsOf id s.db).mergeSort p.localeCompare = (slugsOf id s.db).mergeSort p.collation
  | .listForStream streamId index limit => fitsInteger streamId = true ∧
      PagedAlike p index limit (slugsOf streamId s.db)

instance (name slug : String) (db : TagsDatabase) : Decidable (KeepsNames name slug db) :=
  inferInstanceAs (Decidable (_ ∧ _ ∧ _ ∧ _ ∧ ∀ _ ∈ _, _))

instance (index limit : Nat) (slugs : List String) : Decidable (PagedAlike p index limit slugs) :=
  inferInstanceAs (Decidable (_ = _))

instance (s : TagBackends) (c : TagsCall) : Decidable (s.ServesAlike p c) :=
  match c with
  | ⟨_, .attachToStream _ _⟩ => inferInstanceAs (Decidable (_ ∨ _ ∧ _ ∧ _))
  | ⟨_, .detachFromStream _ (_, _)⟩ => inferInstanceAs (Decidable (_ ∧ (_ → _)))
  | ⟨_, .list _ _⟩ => inferInstanceAs (Decidable (_ ∧ _ ∧ _))
  | ⟨_, .findById (_, _)⟩ => inferInstanceAs (Decidable (_ = _))
  | ⟨_, .findBySlug _⟩ => inferInstanceAs (Decidable (_ = _))
  | ⟨_, .listForStreamIds _⟩ => inferInstanceAs (Decidable (∀ _ ∈ _, _ ∧ _))
  | ⟨_, .listForStream _ _ _⟩ => inferInstanceAs (Decidable (_ ∧ _))

/-! ## The two stores -/

/-- One link in the two stores: of one stream, to one tag. -/
def SameLink (s : TagBackends) (link : StreamTag) (link' : StreamTagRow) : Prop :=
  link'.streamId = link.streamId ∧
    ∃ tag tag', s.SameTag tag tag' ∧ tag.id = link.tagId ∧ tag'.id = link'.tagId

/-- The two stores hold the same tags and the same links, in the order in which they came. -/
structure Simulates (s : TagBackends) : Prop where
  tags : List.Forall₂ SameContent s.memory.tagsBySlug (s.db.tags.rows.map TagRow.rowToTag)
  links : List.Forall₂ s.SameLink s.memory.streamTags s.db.streamTags
  streams : ∀ row ∈ s.db.streamTags, p.streams row.streamId = true

/-- The tags are the same before and after. -/
structure TagsKept (s t : TagBackends) : Prop where
  memory : t.memory.tagsBySlug = s.memory.tagsBySlug
  db : t.db.tags.rows = s.db.tags.rows

variable {p} {s t : TagBackends}

theorem initial_simulates : Simulates p initial :=
  ⟨.nil, .nil, List.forall_mem_nil _⟩

theorem TagsKept.sameTag_eq (h : TagsKept s t) : t.SameTag = s.SameTag := by
  funext tag tag'
  rw [SameTag, SameTag, h.memory, h.db]

theorem TagsKept.sameLink_eq (h : TagsKept s t) : t.SameLink = s.SameLink := by
  funext link link'
  rw [SameLink, SameLink, h.sameTag_eq]

/-- The place of a tag of the memory holds one of the same content in the database. -/
theorem Simulates.content (h : Simulates p s) {k : Nat} {tag : Tag}
    (htag : s.memory.tagsBySlug[k]? = some tag) :
    ∃ row, s.db.tags.rows[k]? = some row ∧ SameContent tag row.rowToTag := by
  obtain ⟨hk, rfl⟩ := List.getElem?_eq_some_iff.mp htag
  obtain ⟨hlength, hall⟩ := List.forall₂_iff_get.mp h.tags
  rw [List.length_map] at hlength
  have hcontent := hall k hk (by rw [List.length_map, ← hlength]; exact hk)
  refine ⟨s.db.tags.rows[k], List.getElem?_eq_getElem _, ?_⟩
  simpa only [List.get_eq_getElem, List.getElem_map] using hcontent

theorem SameTag.name_eq {tag tag' : Tag} (h : s.SameTag tag tag') : tag'.name = tag.name := h.1.1

theorem Simulates.slugs_eq (h : Simulates p s) :
    s.memory.tagsBySlug.map Tag.slug = s.db.tags.rows.map TagRow.slug := by
  have hslugs : ∀ {l l' : List Tag}, List.Forall₂ SameContent l l' →
      l.map Tag.slug = l'.map Tag.slug := by
    intro l l' hll'
    induction hll' with
    | nil => rfl
    | cons hab _ ih => rw [List.map_cons, List.map_cons, ih, hab.2.1]
  rw [hslugs h.tags, List.map_map]
  rfl

/-- Tags of the two stores are the same when their slugs are. -/
theorem Simulates.sameTag_iff (h : Simulates p s) {tag tag' : Tag} :
    s.SameTag tag tag' ↔ tag ∈ s.memory.tagsBySlug ∧
      tag' ∈ s.db.tags.rows.map TagRow.rowToTag ∧ tag.slug = tag'.slug := by
  constructor
  · rintro ⟨hcontent, k, htag, htag'⟩
    rw [← List.getElem?_map] at htag'
    exact ⟨List.mem_of_getElem? htag, List.mem_of_getElem? htag', hcontent.2.1.symm⟩
  · rintro ⟨hmem, hmem', hslug⟩
    obtain ⟨k, htag⟩ := List.mem_iff_getElem?.mp hmem
    obtain ⟨row', hrow', rfl⟩ := List.mem_map.mp hmem'
    obtain ⟨row, hrow, hcontent⟩ := h.content htag
    have hsame : row = row' :=
      s.db.tags.eq_of_slug (List.mem_of_getElem? hrow) hrow' (hcontent.2.1.trans hslug)
    subst hsame
    exact ⟨hcontent, k, htag, by rw [hrow]; rfl⟩

/-- A tag has one id in each of the stores. -/
theorem Simulates.id_eq_iff (h : Simulates p s) {a a' b b' : Tag} (ha : s.SameTag a a')
    (hb : s.SameTag b b') : a.id = b.id ↔ a'.id = b'.id := by
  obtain ⟨hmema, hmema', hslug⟩ := h.sameTag_iff.mp ha
  obtain ⟨hmemb, hmemb', hslug'⟩ := h.sameTag_iff.mp hb
  obtain ⟨rowa, hrowa, rfl⟩ := List.mem_map.mp hmema'
  obtain ⟨rowb, hrowb, rfl⟩ := List.mem_map.mp hmemb'
  constructor
  · intro hid
    have hab : a = b := List.inj_on_of_nodup_map s.memory.ids hmema hmemb hid
    have hrows : rowa = rowb :=
      s.db.tags.eq_of_slug hrowa hrowb (hslug.symm.trans ((congrArg Tag.slug hab).trans hslug'))
    rw [hrows]
  · intro hid
    have hrows : rowa = rowb := List.inj_on_of_nodup_map s.db.tags.primaryKey hrowa hrowb hid
    have hslugs : a.slug = b.slug := by
      rw [hslug, hslug', hrows]
    rw [List.inj_on_of_nodup_map s.memory.keys hmema hmemb hslugs]

/-- Lists of tags of the two stores are the same when their slugs are. -/
theorem Simulates.forall₂_iff (h : Simulates p s) {tags tags' : List Tag}
    (hmem : ∀ tag ∈ tags, tag ∈ s.memory.tagsBySlug)
    (hmem' : ∀ tag' ∈ tags', tag' ∈ s.db.tags.rows.map TagRow.rowToTag) :
    List.Forall₂ s.SameTag tags tags' ↔ tags.map Tag.slug = tags'.map Tag.slug := by
  induction tags generalizing tags' with
  | nil => cases tags' <;> simp
  | cons tag tags ih =>
    cases tags' with
    | nil => simp
    | cons tag' tags' =>
      obtain ⟨htag, hrest⟩ := List.forall_mem_cons.mp hmem
      obtain ⟨htag', hrest'⟩ := List.forall_mem_cons.mp hmem'
      rw [List.forall₂_cons, ih hrest hrest', h.sameTag_iff, List.map_cons, List.map_cons,
        List.cons.injEq]
      exact and_congr_left fun _ => ⟨fun hall => hall.2.2, fun hslug => ⟨htag, htag', hslug⟩⟩

/-- The ids of one tag find it. -/
theorem Simulates.find_of_same (h : Simulates p s) {tag tag' : Tag} (hsame : s.SameTag tag tag') :
    s.memory.findById tag.id = some tag ∧
      (s.db.tags.find tag'.id).map TagRow.rowToTag = some tag' := by
  obtain ⟨hmem, hmem', -⟩ := h.sameTag_iff.mp hsame
  obtain ⟨row, hrow, rfl⟩ := List.mem_map.mp hmem'
  refine ⟨find?_of_nodup s.memory.ids hmem, ?_⟩
  have hfound : s.db.tags.find row.rowToTag.id = some row :=
    TagsTable.find_eq_some_iff.mpr ⟨hrow, rfl⟩
  rw [hfound]
  rfl

/-- Matched ids find one tag, or none. -/
theorem Simulates.find_of_matched (h : Simulates p s) {id id' : Int} (hids : s.Matched id id') :
    (∃ tag tag', s.SameTag tag tag' ∧ tag.id = id ∧ tag'.id = id') ∨
      s.memory.findById id = none ∧ s.db.tags.find id' = none := by
  rw [Matched] at hids
  cases hplace : s.place id with
  | none =>
    rw [hplace] at hids
    refine .inr ⟨List.find?_eq_none.mpr ?_, List.find?_eq_none.mpr ?_⟩
    · intro tag htag
      have hnot := List.isNone_idxOf?.mp (Option.isNone_iff_eq_none.mpr hplace)
      simp only [decide_eq_true_eq]
      rintro rfl
      exact hnot (List.mem_map_of_mem htag)
    · intro row hrow
      have hnot := List.isNone_idxOf?.mp (Option.isNone_iff_eq_none.mpr hids.symm)
      simp only [decide_eq_true_eq]
      rintro rfl
      exact hnot (List.mem_map_of_mem hrow)
  | some k =>
    rw [hplace] at hids
    obtain ⟨hk, hid, -⟩ := List.idxOf?_eq_some_iff.mp hplace
    obtain ⟨hk', hid', -⟩ := List.idxOf?_eq_some_iff.mp hids.symm
    rw [List.length_map] at hk hk'
    rw [List.getElem_map] at hid hid'
    have htag := List.getElem?_eq_getElem hk
    obtain ⟨row, hrow, hcontent⟩ := h.content htag
    have hrowid : row.id = id' := by
      rw [List.getElem?_eq_getElem hk', Option.some.injEq] at hrow
      rw [← hrow]
      exact hid'
    exact .inl ⟨_, row.rowToTag, ⟨hcontent, k, htag, by rw [hrow]; rfl⟩, hid, hrowid⟩

/-! ## Reading -/

theorem map_slug_page (limit index : Nat) (tags : List Tag) :
    (OffsetPaging.page limit index tags).map Tag.slug =
      OffsetPaging.page limit index (tags.map Tag.slug) := by
  rw [OffsetPaging.page, OffsetPaging.page, List.map_take, List.map_drop]

theorem length_sortBySlug (order : String → String → Bool) (tags : List Tag) :
    (sortBySlug order tags).length = tags.length :=
  (List.mergeSort_perm _ _).length_eq

theorem Simulates.mem_of_forall₂ (h : Simulates p s) {tags tags' : List Tag}
    (hsame : List.Forall₂ s.SameTag tags tags') :
    (∀ tag ∈ tags, tag ∈ s.memory.tagsBySlug) ∧
      ∀ tag' ∈ tags', tag' ∈ s.db.tags.rows.map TagRow.rowToTag := by
  induction hsame with
  | nil => exact ⟨List.forall_mem_nil _, List.forall_mem_nil _⟩
  | cons hab _ ih =>
    obtain ⟨hmem, hmem', -⟩ := h.sameTag_iff.mp hab
    exact ⟨List.forall_mem_cons.mpr ⟨hmem, ih.1⟩, List.forall_mem_cons.mpr ⟨hmem', ih.2⟩⟩

/-- The same tags, sorted, are the same when the two orders sort their slugs alike; and so are
parts of them. -/
theorem Simulates.sorted_iff (h : Simulates p s) {tags tags' : List Tag}
    (hsame : List.Forall₂ s.SameTag tags tags') (part : {α : Type} → List α → List α)
    (hpart : ∀ {α : Type} {l : List α} {a : α}, a ∈ part l → a ∈ l)
    (hmap : ∀ l : List Tag, (part l).map Tag.slug = part (l.map Tag.slug)) :
    List.Forall₂ s.SameTag (part (sortBySlug p.localeCompare tags))
        (part (sortBySlug p.collation tags')) ↔
      part ((tags'.map Tag.slug).mergeSort p.localeCompare) =
        part ((tags'.map Tag.slug).mergeSort p.collation) := by
  obtain ⟨hmem, hmem'⟩ := h.mem_of_forall₂ hsame
  have hslugs := (h.forall₂_iff hmem hmem').mp hsame
  rw [h.forall₂_iff (fun tag htag => hmem tag (mem_sortBySlug.mp (hpart htag)))
      (fun tag' htag' => hmem' tag' (mem_sortBySlug.mp (hpart htag'))),
    hmap, hmap, map_slug_sortBySlug, map_slug_sortBySlug, hslugs]

/-- Pages of the same tags agree when the two orders put the same slugs on them. -/
theorem Simulates.page_iff (h : Simulates p s) {tags tags' : List Tag}
    (hsame : List.Forall₂ s.SameTag tags tags') (index limit : Nat) :
    s.SamePage
        ⟨OffsetPaging.page limit index (sortBySlug p.localeCompare tags), index + 1, limit,
          (sortBySlug p.localeCompare tags).length,
          decide ((index + 1) * limit < (sortBySlug p.localeCompare tags).length)⟩
        ⟨OffsetPaging.page limit index (sortBySlug p.collation tags'), index + 1, limit,
          (sortBySlug p.collation tags').length,
          decide ((index + 1) * limit < (sortBySlug p.collation tags').length)⟩ ↔
      PagedAlike p index limit (tags'.map Tag.slug) := by
  have hdata := h.sorted_iff hsame (OffsetPaging.page limit index) OffsetPaging.mem_of_mem_page
    (map_slug_page limit index)
  have hlength : (sortBySlug p.collation tags').length =
      (sortBySlug p.localeCompare tags).length := by
    rw [length_sortBySlug, length_sortBySlug, hsame.length_eq]
  rw [PagedAlike, ← hdata]
  constructor
  · exact fun hpage => hpage.1
  · exact fun hsorted => ⟨hsorted, rfl, rfl, hlength, by rw [hlength]⟩

/-- All the tags, in order of creation. -/
theorem Simulates.all (h : Simulates p s) :
    List.Forall₂ s.SameTag s.memory.tagsBySlug (s.db.tags.rows.map TagRow.rowToTag) := by
  refine (h.forall₂_iff (fun _ htag => htag) (fun _ htag' => htag')).mpr ?_
  rw [h.slugs_eq, List.map_map]
  rfl

/-- The tags of a stream, in the order in which they were attached. -/
theorem Simulates.tagsOf (h : Simulates p s) (streamId : Int) :
    List.Forall₂ s.SameTag (s.memory.tagsOf streamId) (TagsDbRepository.tagsOf streamId s.db) := by
  refine List.rel_filterMap (R := s.SameLink) ?_ (List.rel_filter ?_ h.links)
  · rintro link link' ⟨-, tag, tag', hsame, hid, hid'⟩
    obtain ⟨hfound, hfound'⟩ := h.find_of_same hsame
    rw [hid] at hfound
    rw [hid'] at hfound'
    simp only [hfound, hfound']
    exact .some hsame
  · rintro link link' ⟨hstream, -⟩
    simp only [hstream]

/-! ### What the methods answer -/

theorem Simulates.list (h : Simulates p s) (index limit : Nat) :
    s.SameResult s.SamePage
        (Tags.TagsService.list (TagsRepository.repository p) (index + 1) limit s.memory)
        (Tags.TagsService.list (TagsDbRepository.repository p) (index + 1) limit s.db) ↔
      fitsBigint limit = true ∧ fitsBigint (index * limit) = true ∧
        PagedAlike p index limit (s.db.tags.rows.map TagRow.slug) := by
  have hpage := h.page_iff h.all index limit
  rw [List.map_map, length_sortBySlug p.collation] at hpage
  have hpaged : (TagsDbRepository.repository p).listPaginated (index + 1) limit s.db =
      if (fitsBigint limit && fitsBigint (index * limit)) = true then
        .ok ⟨OffsetPaging.page limit index
            (sortBySlug p.collation (s.db.tags.rows.map TagRow.rowToTag)),
          (s.db.tags.rows.map TagRow.rowToTag).length⟩
      else .error .serviceUnavailable := rfl
  unfold Tags.TagsService.list
  rw [hpaged]
  by_cases hfits : (fitsBigint limit && fitsBigint (index * limit)) = true
  · rw [if_pos hfits]
    rw [Bool.and_eq_true] at hfits
    exact hpage.trans ⟨fun hall => ⟨hfits.1, hfits.2, hall⟩, fun hall => hall.2.2⟩
  · rw [if_neg hfits]
    refine ⟨False.elim, fun hall => hfits ?_⟩
    rw [hall.1, hall.2.1]
    rfl

theorem Simulates.findById (h : Simulates p s) {id id' : Int} (hids : s.Matched id id') :
    s.SameResult (Option.Rel s.SameTag) ((TagsRepository.repository p).findById id s.memory)
        ((TagsDbRepository.repository p).findById id' s.db) ↔ fitsInteger id' = true := by
  show s.SameResult _ (.ok (s.memory.findById id)) (TagsDbRepository.findById id' s.db) ↔ _
  rw [TagsDbRepository.findById]
  by_cases hfits : fitsInteger id' = true
  · rw [if_pos hfits]
    refine iff_of_true ?_ hfits
    rcases h.find_of_matched hids with ⟨tag, tag', hsame, rfl, rfl⟩ | ⟨hnone, hnone'⟩
    · obtain ⟨hfound, hfound'⟩ := h.find_of_same hsame
      rw [hfound, hfound']
      exact .some hsame
    · rw [hnone, hnone']
      exact .none
  · rw [if_neg hfits]
    exact iff_of_false False.elim hfits

/-- A slug finds one tag, or none. -/
theorem Simulates.find_slug (h : Simulates p s) (slug : String) :
    (∃ tag row, s.memory.findBySlug slug = some tag ∧ s.db.tags.findSlug slug = some row ∧
        s.SameTag tag row.rowToTag) ∨
      s.memory.findBySlug slug = none ∧ s.db.tags.findSlug slug = none := by
  have hslugs := h.slugs_eq
  cases hrow : s.db.tags.findSlug slug with
  | none =>
    refine .inr ⟨List.find?_eq_none.mpr ?_, rfl⟩
    intro tag htag
    have hmem : tag.slug ∈ s.db.tags.rows.map TagRow.slug := hslugs ▸ List.mem_map_of_mem htag
    obtain ⟨row, hmem, hslug⟩ := List.mem_map.mp hmem
    simp only [decide_eq_true_eq, ← hslug]
    exact TagsTable.findSlug_eq_none_iff.mp hrow row hmem
  | some row =>
    obtain ⟨hmem, rfl⟩ := TagsTable.findSlug_eq_some_iff.mp hrow
    have hslug : row.slug ∈ s.memory.tagsBySlug.map Tag.slug :=
      hslugs ▸ List.mem_map_of_mem hmem
    obtain ⟨tag, htag, hslug⟩ := List.mem_map.mp hslug
    refine .inl ⟨tag, row, ?_, rfl, h.sameTag_iff.mpr ⟨htag, List.mem_map_of_mem hmem, hslug⟩⟩
    rw [← hslug]
    exact find?_of_nodup s.memory.keys htag

theorem Simulates.findBySlug (h : Simulates p s) (slug : String) :
    s.SameResult (Option.Rel s.SameTag) ((TagsRepository.repository p).findBySlug slug s.memory)
        ((TagsDbRepository.repository p).findBySlug slug s.db) ↔
      (Param.text slug).accepted = true := by
  show s.SameResult _ (.ok (s.memory.findBySlug slug)) (TagsDbRepository.findBySlug slug s.db) ↔ _
  rw [TagsDbRepository.findBySlug]
  by_cases haccepted : (Param.text slug).accepted = true
  · rw [if_pos haccepted]
    refine iff_of_true ?_ haccepted
    rcases h.find_slug slug with ⟨tag, row, htag, hrow, hsame⟩ | ⟨hnone, hnone'⟩
    · rw [htag, hrow]
      exact .some hsame
    · rw [hnone, hnone']
      exact .none
  · rw [if_neg haccepted]
    exact iff_of_false False.elim haccepted

theorem Simulates.listForStreamIds (h : Simulates p s) (streamIds : List Int) :
    s.SameResult (List.Forall₂ s.SameEntry)
        (Tags.TagsService.listForStreamIds (TagsRepository.repository p) streamIds s.memory)
        (Tags.TagsService.listForStreamIds (TagsDbRepository.repository p) streamIds s.db) ↔
      ∀ id ∈ streamIds, fitsInteger id = true ∧
        (slugsOf id s.db).mergeSort p.localeCompare = (slugsOf id s.db).mergeSort p.collation := by
  have hsorted : ∀ id, List.Forall₂ s.SameTag (sortBySlug p.localeCompare (s.memory.tagsOf id))
      (sortBySlug p.collation (TagsDbRepository.tagsOf id s.db)) ↔
        (slugsOf id s.db).mergeSort p.localeCompare = (slugsOf id s.db).mergeSort p.collation :=
    fun id => h.sorted_iff (h.tagsOf id) (fun l => l) (fun hmem => hmem) fun _ => rfl
  by_cases hempty : streamIds.isEmpty = true
  · rw [List.isEmpty_iff.mp hempty]
    exact iff_of_true .nil (List.forall_mem_nil _)
  · have hdb : (TagsDbRepository.repository p).listForStreamIds streamIds s.db =
        if streamIds.all fitsInteger then .ok (streamIds.eraseDups.map fun id =>
          (id, sortBySlug p.collation (TagsDbRepository.tagsOf id s.db)))
        else .error .serviceUnavailable := if_neg hempty
    rw [Tags.TagsService.listForStreamIds, Tags.TagsService.listForStreamIds, if_neg hempty,
      if_neg hempty, hdb]
    by_cases hfits : streamIds.all fitsInteger = true
    · rw [if_pos hfits]
      show List.Forall₂ s.SameEntry (streamIds.eraseDups.map _) (streamIds.eraseDups.map _) ↔ _
      rw [List.forall₂_map_left_iff, List.forall₂_map_right_iff, List.forall₂_same]
      simp only [List.mem_eraseDups, SameEntry, hsorted, true_and]
      exact forall₂_congr fun id hid => (and_iff_right (List.all_eq_true.mp hfits id hid)).symm
    · rw [if_neg hfits]
      refine iff_of_false False.elim fun hall => hfits ?_
      exact List.all_eq_true.mpr fun id hid => (hall id hid).1

theorem Simulates.listForStream (h : Simulates p s) (streamId : Int) (index limit : Nat) :
    s.SameResult s.SamePage
        (Tags.TagsService.listForStream (TagsRepository.repository p) streamId (index + 1) limit
          s.memory)
        (Tags.TagsService.listForStream (TagsDbRepository.repository p) streamId (index + 1) limit
          s.db) ↔
      fitsInteger streamId = true ∧ PagedAlike p index limit (slugsOf streamId s.db) := by
  have hpage := h.page_iff (h.tagsOf streamId) index limit
  have hentry : ∀ tags : List Tag,
      ((([(streamId, tags)] : List (Int × List Tag)).find? fun entry => entry.1 = streamId).map
        Prod.snd).getD [] = tags := by
    intro tags
    simp
  by_cases hfits : fitsInteger streamId = true
  · have hdb : Tags.TagsService.listForStreamIds (TagsDbRepository.repository p) [streamId] s.db =
        .ok [(streamId, sortBySlug p.collation (TagsDbRepository.tagsOf streamId s.db))] := by
      show (if [streamId].all fitsInteger = true then _ else _) = _
      rw [if_pos (by simpa using hfits)]
      rfl
    have hmemory : Tags.TagsService.listForStreamIds (TagsRepository.repository p) [streamId]
        s.memory = .ok [(streamId, sortBySlug p.localeCompare (s.memory.tagsOf streamId))] := rfl
    rw [Tags.TagsService.listForStream, Tags.TagsService.listForStream, hdb, hmemory]
    simp only [hentry, Nat.add_sub_cancel]
    exact hpage.trans (and_iff_right hfits).symm
  · have hdb : Tags.TagsService.listForStreamIds (TagsDbRepository.repository p) [streamId] s.db =
        .error .serviceUnavailable := by
      show (if [streamId].all fitsInteger = true then _ else _) = _
      rw [if_neg (by simpa using hfits)]
    rw [Tags.TagsService.listForStream, Tags.TagsService.listForStream, hdb]
    exact iff_of_false False.elim fun hall => hfits hall.1

/-! ## Linking -/

/-- The two keys of a link are those of the other one. -/
theorem Simulates.refers_eq (h : Simulates p s) {tag tag' : Tag} (hsame : s.SameTag tag tag')
    (streamId : Int) {link : StreamTag} {link' : StreamTagRow} (hlink : s.SameLink link link') :
    (decide (link.streamId = streamId) && decide (link.tagId = tag.id)) =
      (decide (link'.streamId = streamId) && decide (link'.tagId = tag'.id)) := by
  obtain ⟨hstream, linked, linked', hboth, hid, hid'⟩ := hlink
  rw [hstream, ← hid, ← hid', decide_eq_decide.mpr (h.id_eq_iff hboth hsame)]

theorem any_eq_of_forall₂ {α β : Type} {R : α → β → Prop} {f : α → Bool} {g : β → Bool}
    (hfg : ∀ a b, R a b → f a = g b) {l : List α} {l' : List β} (h : List.Forall₂ R l l') :
    l.any f = l'.any g := by
  induction h with
  | nil => rfl
  | cons hab _ ih => rw [List.any_cons, List.any_cons, hfg _ _ hab, ih]

theorem Simulates.link_isSome (h : Simulates p s) {tag tag' : Tag} (hsame : s.SameTag tag tag')
    (streamId : Int) :
    (s.memory.link streamId tag.id).isSome = (s.db.link streamId tag'.id).isSome := by
  rw [TagsRepository.link, TagsDatabase.link, List.isSome_find?, List.isSome_find?]
  exact any_eq_of_forall₂ (fun _ _ hlink => h.refers_eq hsame streamId hlink) h.links

/-- The link is made in both stores, or is in both. -/
theorem Simulates.attach (h : Simulates p s) (now : Date) {tag tag' : Tag}
    (hsame : s.SameTag tag tag') {streamId : Int} (hfits : fitsInteger streamId = true)
    (hstream : p.streams streamId = true) :
    ∃ link db', TagsDbRepository.attachToStream p now streamId tag'.id s.db = (.ok link, db') ∧
      TagsKept s ⟨(s.memory.attachToStream now streamId tag.id).2, db'⟩ ∧
      Simulates p ⟨(s.memory.attachToStream now streamId tag.id).2, db'⟩ := by
  obtain ⟨-, hmem', -⟩ := h.sameTag_iff.mp hsame
  obtain ⟨row, hrow, rfl⟩ := List.mem_map.mp hmem'
  have htagfits : fitsInteger row.rowToTag.id = true := s.db.tags.fitsInteger_id hrow
  have hboth := h.link_isSome hsame streamId
  unfold TagsDbRepository.attachToStream TagsRepository.attachToStream
  rw [if_pos (by rw [hfits, htagfits]; rfl)]
  split
  · next link' hlink' =>
    rw [hlink'] at hboth
    obtain ⟨link, hlink⟩ := Option.isSome_iff_exists.mp hboth
    rw [hlink]
    exact ⟨link'.toStreamTag, s.db, rfl, ⟨rfl, rfl⟩, h⟩
  · next hlink' =>
    rw [hlink'] at hboth
    rw [Option.not_isSome_iff_eq_none.mp (Bool.eq_false_iff.mp hboth)]
    have hfound : (s.db.tags.find row.rowToTag.id).isSome = true := by
      rw [Option.isSome_iff_exists]
      exact ⟨row, TagsTable.find_eq_some_iff.mpr ⟨hrow, rfl⟩⟩
    rw [dif_pos ⟨hstream, hfound⟩]
    have hkept : TagsKept s ⟨{ s.memory with
        streamTags := s.memory.streamTags ++ [⟨streamId, tag.id, now⟩] },
        s.db.insertLink now.toTimestamptz streamId row.rowToTag.id hlink' hfound⟩ := ⟨rfl, rfl⟩
    refine ⟨_, _, rfl, hkept, h.tags, ?_, ?_⟩
    · rw [hkept.sameLink_eq]
      exact List.rel_append h.links (.cons ⟨rfl, tag, row.rowToTag, hsame, rfl, rfl⟩ .nil)
    · intro link' hlink
      rcases List.mem_append.mp hlink with hold | hnew
      · exact h.streams link' hold
      · rw [List.mem_singleton.mp hnew]
        exact hstream

/-- Without the link the two stores stay alike. -/
theorem Simulates.detach (h : Simulates p s) {tag tag' : Tag} (hsame : s.SameTag tag tag')
    (streamId : Int) :
    Simulates p
      ⟨(s.memory.detachFromStream streamId tag.id).2, s.db.deleteLink streamId tag'.id⟩ := by
  have hkept : TagsKept s
      ⟨(s.memory.detachFromStream streamId tag.id).2, s.db.deleteLink streamId tag'.id⟩ :=
    ⟨rfl, rfl⟩
  refine ⟨h.tags, ?_, fun link' hlink => h.streams link' (List.mem_filter.mp hlink).1⟩
  rw [hkept.sameLink_eq]
  refine List.rel_filter (R := s.SameLink) ?_ h.links
  intro link link' hlink
  simp only [h.refers_eq hsame streamId hlink]

/-- Only the database is ever unavailable. -/
theorem differ_of_unavailable {α : Type} {same : α → α → Prop} {result : Except TagsException α}
    (h : result ≠ .error .serviceUnavailable) :
    ¬s.SameResult same result (.error .serviceUnavailable) := by
  intro hsame
  match result with
  | .ok _ => exact hsame
  | .error .serviceUnavailable => exact h rfl
  | .error (.badRequest _) => cases hsame
  | .error (.tagNotFound _) => cases hsame
  | .error (.notAttached _ _) => cases hsame

theorem detachFromStream_memory (streamId id : Int) (store : TagsRepository) :
    Tags.TagsService.detachFromStream (TagsRepository.repository p) streamId id store =
      if (store.findById id).isSome = true then
        (if (store.link streamId id).isSome = true then .ok () else
          .error (.notAttached id streamId), (store.detachFromStream streamId id).2)
      else (.error (.tagNotFound id), store) := by
  have hfind : (TagsRepository.repository p).findById id store = .ok (store.findById id) := rfl
  have hdetach : (TagsRepository.repository p).detachFromStream streamId id store =
      (.ok (store.link streamId id).isSome, (store.detachFromStream streamId id).2) := rfl
  unfold Tags.TagsService.detachFromStream
  rw [hfind, hdetach]
  cases store.findById id with
  | none => rfl
  | some tag => cases (store.link streamId id).isSome <;> rfl

theorem detachFromStream_database (streamId id : Int) (db : TagsDatabase) :
    Tags.TagsService.detachFromStream (TagsDbRepository.repository p) streamId id db =
      if fitsInteger id = true then
        if (db.tags.find id).isSome = true then
          if fitsInteger streamId = true then
            (if (db.link streamId id).isSome = true then .ok () else
              .error (.notAttached id streamId), db.deleteLink streamId id)
          else (.error .serviceUnavailable, db)
        else (.error (.tagNotFound id), db)
      else (.error .serviceUnavailable, db) := by
  have hfind : (TagsDbRepository.repository p).findById id db =
      if fitsInteger id = true then .ok ((db.tags.find id).map TagRow.rowToTag)
      else .error .serviceUnavailable := rfl
  have hdetach : (TagsDbRepository.repository p).detachFromStream streamId id db =
      if (fitsInteger streamId && fitsInteger id) = true then
        (.ok (db.link streamId id).isSome, db.deleteLink streamId id)
      else (.error .serviceUnavailable, db) := rfl
  unfold Tags.TagsService.detachFromStream
  rw [hfind, hdetach]
  by_cases hid : fitsInteger id = true
  · rw [if_pos hid, if_pos hid, hid, Bool.and_true]
    cases db.tags.find id with
    | none => rfl
    | some row =>
      by_cases hstream : fitsInteger streamId = true
      · simp only [hstream]
        cases (db.link streamId id).isSome <;> rfl
      · simp only [hstream]
        rfl
  · rw [if_neg hid, if_neg hid]

/-- A DELETE is answered alike when the database takes the ids that it comes to. -/
theorem Simulates.detachFromStream (h : Simulates p s) (streamId : Int) {id id' : Int}
    (hids : s.Matched id id') {memory : TagsRepository} {db : TagsDatabase}
    {result result' : Except TagsException Unit}
    (hmemory : Tags.TagsService.detachFromStream (TagsRepository.repository p) streamId id
      s.memory = (result, memory))
    (hdb : Tags.TagsService.detachFromStream (TagsDbRepository.repository p) streamId id' s.db =
      (result', db)) :
    (SameResult ⟨memory, db⟩ Eq result result' ↔ fitsInteger id' = true ∧
      ((s.db.tags.find id').isSome = true → fitsInteger streamId = true)) ∧
      (SameResult ⟨memory, db⟩ Eq result result' → Simulates p ⟨memory, db⟩) := by
  have havailable : result ≠ .error .serviceUnavailable := by
    rw [detachFromStream_memory] at hmemory
    have hresult := congrArg Prod.fst hmemory
    rintro rfl
    split at hresult
    · split at hresult <;> cases hresult
    · cases hresult
  have hdiffer := fun {s : TagBackends} => @differ_of_unavailable s Unit Eq result havailable
  rw [detachFromStream_memory] at hmemory
  rw [detachFromStream_database] at hdb
  by_cases hfits : fitsInteger id' = true
  · rw [if_pos hfits] at hdb
    rcases h.find_of_matched hids with ⟨tag, tag', hsame, rfl, rfl⟩ | ⟨hnone, hnone'⟩
    · obtain ⟨hfound, hfound'⟩ := h.find_of_same hsame
      have hisSome : (s.db.tags.find tag'.id).isSome = true := by
        rw [← Option.isSome_map, hfound']
        rfl
      rw [hfound, Option.isSome_some, if_pos rfl] at hmemory
      rw [if_pos hisSome] at hdb
      by_cases hstream : fitsInteger streamId = true
      · rw [if_pos hstream, ← h.link_isSome hsame streamId] at hdb
        obtain ⟨rfl, rfl⟩ := Prod.mk.inj hmemory
        obtain ⟨rfl, rfl⟩ := Prod.mk.inj hdb
        refine ⟨iff_of_true ?_ ⟨hfits, fun _ => hstream⟩, fun _ => h.detach hsame streamId⟩
        split
        · rfl
        · exact ⟨hids, rfl⟩
      · rw [if_neg hstream] at hdb
        obtain ⟨rfl, rfl⟩ := Prod.mk.inj hdb
        exact ⟨iff_of_false hdiffer fun hall => hstream (hall.2 hisSome),
          fun hagree => absurd hagree hdiffer⟩
    · have hmissing : ¬(none : Option TagRow).isSome = true := nofun
      rw [hnone, if_neg nofun] at hmemory
      rw [hnone', if_neg hmissing] at hdb
      obtain ⟨rfl, rfl⟩ := Prod.mk.inj hmemory
      obtain ⟨rfl, rfl⟩ := Prod.mk.inj hdb
      rw [hnone']
      exact ⟨iff_of_true hids ⟨hfits, nofun⟩, fun _ => h⟩
  · rw [if_neg hfits] at hdb
    obtain ⟨rfl, rfl⟩ := Prod.mk.inj hdb
    exact ⟨iff_of_false hdiffer fun hall => hfits hall.1, fun hagree => absurd hagree hdiffer⟩

/-! ## Attaching -/

theorem upsertBySlug_found {store : TagsRepository} {slug : String} {tag : Tag}
    (h : store.findBySlug slug = some tag) (now : Date) (name : String) :
    store.upsertBySlug now name slug = (tag, store) := by
  unfold TagsRepository.upsertBySlug
  split
  · next existing hexisting =>
    rw [hexisting, Option.some.injEq] at h
    rw [h]
  · next hnone =>
    rw [hnone] at h
    cases h

theorem upsertBySlug_new {store : TagsRepository} {slug : String}
    (h : store.findBySlug slug = none) (now : Date) (name : String) :
    store.upsertBySlug now name slug =
      (store.created now name slug, store.insert now name slug h) := by
  unfold TagsRepository.upsertBySlug
  split
  · next existing hexisting =>
    rw [hexisting] at h
    cases h
  · rfl

/-- An upsert of the database that goes through renames the tag of the slug, or makes one. -/
theorem upsertBySlug_cases {now : Date} {name slug : String} {db db' : TagsDatabase} {tag' : Tag}
    (h : TagsDbRepository.upsertBySlug now name slug db = (.ok tag', db')) :
    db'.streamTags = db.streamTags ∧
      ((∃ row, db.tags.findSlug slug = some row ∧
          tag' = (TagsTable.named name slug row).rowToTag ∧
          db'.tags.rows = db.tags.rows.map (TagsTable.named name slug)) ∨
        db.tags.findSlug slug = none ∧
          tag' = (db.tags.created now.toTimestamptz name slug).rowToTag ∧
          db'.tags.rows = db.tags.rows ++ [db.tags.created now.toTimestamptz name slug]) := by
  unfold TagsDbRepository.upsertBySlug at h
  split at h
  · split at h
    · split at h
      · next row hrow =>
        obtain ⟨htag, rfl⟩ := Prod.mk.inj h
        cases htag
        exact ⟨rfl, .inl ⟨row, hrow, rfl, rfl⟩⟩
      · next hrow =>
        obtain ⟨htag, rfl⟩ := Prod.mk.inj h
        cases htag
        exact ⟨rfl, .inr ⟨hrow, rfl, rfl⟩⟩
    · cases h
  · cases h

/-- An upsert of the database goes through, or it is unavailable. -/
theorem upsertBySlug_ok_or (now : Date) (name : String) {slug : String} {db : TagsDatabase}
    (haccepted : (Param.text slug).accepted = true) (hfits : fitsVarchar 64 slug = true) :
    ((Param.text name).accepted = true ∧ db.tags.nextId ≤ 2147483647 ∧
        fitsVarchar 64 name = true ∧ db.tags.Available name slug ∧
        ∃ tag' db', TagsDbRepository.upsertBySlug now name slug db = (.ok tag', db')) ∨
      ¬((Param.text name).accepted = true ∧ db.tags.nextId ≤ 2147483647 ∧
        fitsVarchar 64 name = true ∧ db.tags.Available name slug) ∧
        ∃ db', TagsDbRepository.upsertBySlug now name slug db =
          (.error .serviceUnavailable, db') := by
  unfold TagsDbRepository.upsertBySlug
  simp only [TagsDbRepository.storable, haccepted, hfits, Bool.and_true]
  split
  · next hserial =>
    split
    · next hstored =>
      refine .inl ⟨hserial.1, hserial.2, hstored.1, hstored.2, ?_⟩
      split <;> exact ⟨_, _, rfl⟩
    · next hnot => exact .inr ⟨fun hall => hnot ⟨hall.2.2.1, hall.2.2.2⟩, _, rfl⟩
  · next hnot => exact .inr ⟨fun hall => hnot ⟨hall.1, hall.2.1⟩, _, rfl⟩

/-- A tag that has the name already keeps its row. -/
theorem map_named_eq {table : TagsTable} {name slug : String} {row : TagRow}
    (hrow : table.findSlug slug = some row) (hname : row.name = name) :
    table.rows.map (TagsTable.named name slug) = table.rows := by
  obtain ⟨hmem, hslug⟩ := TagsTable.findSlug_eq_some_iff.mp hrow
  have hkept : ∀ other ∈ table.rows, TagsTable.named name slug other = id other := by
    intro other hother
    rw [TagsTable.named]
    split
    · next hsame =>
      rw [table.eq_of_slug hother hmem (hsame.trans hslug.symm), ← hname]
      rfl
    · rfl
  rw [List.map_congr_left hkept, List.map_id]

/-- Both stores make a tag of the name and the slug. -/
theorem Simulates.insert (h : Simulates p s) {now : Date} {name slug : String}
    (hnone : s.memory.findBySlug slug = none) {db' : TagsDatabase}
    (hrows : db'.tags.rows = s.db.tags.rows ++ [s.db.tags.created now.toTimestamptz name slug])
    (hlinks : db'.streamTags = s.db.streamTags) :
    Simulates p ⟨s.memory.insert now name slug hnone, db'⟩ ∧
      SameTag ⟨s.memory.insert now name slug hnone, db'⟩ (s.memory.created now name slug)
        (s.db.tags.created now.toTimestamptz name slug).rowToTag := by
  have hcontent : SameContent (s.memory.created now name slug)
      (s.db.tags.created now.toTimestamptz name slug).rowToTag :=
    ⟨rfl, rfl, Date.toTimestamptz_toDate now⟩
  have hlength : s.memory.tagsBySlug.length = s.db.tags.rows.length := by
    rw [h.tags.length_eq, List.length_map]
  have hmono : ∀ tag tag', s.SameTag tag tag' →
      SameTag ⟨s.memory.insert now name slug hnone, db'⟩ tag tag' := by
    rintro tag tag' ⟨hboth, k, htag, htag'⟩
    have hk := (List.getElem?_eq_some_iff.mp htag).1
    refine ⟨hboth, k, (List.getElem?_append_left hk).trans htag, ?_⟩
    show (db'.tags.rows[k]?).map TagRow.rowToTag = some tag'
    rw [hrows, List.getElem?_append_left (hlength ▸ hk)]
    exact htag'
  refine ⟨⟨?_, ?_, ?_⟩, hcontent, s.memory.tagsBySlug.length, List.getElem?_concat_length, ?_⟩
  · show List.Forall₂ SameContent (s.memory.tagsBySlug ++ [s.memory.created now name slug])
      (db'.tags.rows.map TagRow.rowToTag)
    rw [hrows, List.map_append]
    exact List.rel_append h.tags (.cons hcontent .nil)
  · show List.Forall₂ _ s.memory.streamTags db'.streamTags
    rw [hlinks]
    refine h.links.imp ?_
    rintro link link' ⟨hstream, tag, tag', hsame, hids⟩
    exact ⟨hstream, tag, tag', hmono tag tag' hsame, hids⟩
  · show ∀ row ∈ db'.streamTags, _
    rw [hlinks]
    exact h.streams
  · show (db'.tags.rows[s.memory.tagsBySlug.length]?).map TagRow.rowToTag = _
    rw [hrows, hlength, List.getElem?_concat_length]
    rfl

/-- An upsert of the database that goes through, and does not give a tag another name, does
what the one of the memory does. -/
theorem Simulates.upsert (h : Simulates p s) {now : Date} {name slug : String} {tag' : Tag}
    {db' : TagsDatabase}
    (hdb : TagsDbRepository.upsertBySlug now name slug s.db = (.ok tag', db'))
    (hnames : ∀ row ∈ s.db.tags.findSlug slug, row.name = name) :
    Simulates p ⟨(s.memory.upsertBySlug now name slug).2, db'⟩ ∧
      SameTag ⟨(s.memory.upsertBySlug now name slug).2, db'⟩
        (s.memory.upsertBySlug now name slug).1 tag' := by
  obtain ⟨hlinks, ⟨row, hrow, rfl, hrows⟩ | ⟨hrow, rfl, hrows⟩⟩ := upsertBySlug_cases hdb
  · rw [map_named_eq hrow (hnames row hrow)] at hrows
    obtain ⟨hmem, rfl⟩ := TagsTable.findSlug_eq_some_iff.mp hrow
    have hsame : TagsTable.named name row.slug row = row := by
      rw [TagsTable.named, if_pos rfl, ← hnames row hrow]
    rcases h.find_slug row.slug with ⟨tag, found, htag, hfound, hboth⟩ | ⟨-, hnone⟩
    · rw [hrow, Option.some.injEq] at hfound
      subst hfound
      have hkept : TagsKept s ⟨s.memory, db'⟩ := ⟨rfl, hrows⟩
      rw [upsertBySlug_found htag, hsame, hkept.sameTag_eq]
      refine ⟨⟨?_, ?_, ?_⟩, hboth⟩
      · show List.Forall₂ SameContent s.memory.tagsBySlug (db'.tags.rows.map TagRow.rowToTag)
        rw [hrows]
        exact h.tags
      · rw [hkept.sameLink_eq]
        show List.Forall₂ s.SameLink s.memory.streamTags db'.streamTags
        rw [hlinks]
        exact h.links
      · show ∀ row ∈ db'.streamTags, _
        rw [hlinks]
        exact h.streams
    · rw [hrow] at hnone
      cases hnone
  · rcases h.find_slug slug with ⟨tag, found, -, hfound, -⟩ | ⟨hnone, -⟩
    · rw [hrow] at hfound
      cases hfound
    · rw [upsertBySlug_new hnone]
      exact h.insert hnone hrows hlinks

/-- Where the two upserts return one name, the tag of the slug had it. -/
theorem Simulates.keepsNames (h : Simulates p s) {now : Date} {name slug : String} {tag' : Tag}
    {db' : TagsDatabase}
    (hdb : TagsDbRepository.upsertBySlug now name slug s.db = (.ok tag', db'))
    (hname : tag'.name = (s.memory.upsertBySlug now name slug).1.name) :
    ∀ row ∈ s.db.tags.findSlug slug, row.name = name := by
  intro row hrow
  obtain ⟨-, ⟨row', hrow', rfl, -⟩ | ⟨hnone, -⟩⟩ := upsertBySlug_cases hdb
  · rw [Option.mem_def.mp hrow, Option.some.injEq] at hrow'
    subst hrow'
    rcases h.find_slug slug with ⟨tag, found, htag, hfound, hsame⟩ | ⟨-, hnone⟩
    · rw [Option.mem_def.mp hrow, Option.some.injEq] at hfound
      subst hfound
      rw [upsertBySlug_found htag, TagsTable.named,
        if_pos (TagsTable.findSlug_eq_some_iff.mp hrow).2] at hname
      exact hsame.1.1.trans hname.symm
    · rw [Option.mem_def.mp hrow] at hnone
      cases hnone
  · rw [Option.mem_def.mp hrow] at hnone
    cases hnone

/-- A link of the database is there or goes through, or it is unavailable. -/
theorem attachToStream_ok_or (now : Date) (streamId tagId : Int) (db : TagsDatabase) :
    (fitsInteger streamId = true ∧
        (p.streams streamId = true ∨ ∃ row ∈ db.streamTags, row.streamId = streamId) ∧
        ∃ link db', TagsDbRepository.attachToStream p now streamId tagId db = (.ok link, db')) ∨
      ∃ db', TagsDbRepository.attachToStream p now streamId tagId db =
        (.error .serviceUnavailable, db') := by
  unfold TagsDbRepository.attachToStream
  split
  · next hfits =>
    have hstream := (Bool.and_eq_true _ _ ▸ hfits).1
    split
    · next row hrow =>
      have hkeys := List.find?_some hrow
      rw [Bool.and_eq_true, decide_eq_true_eq] at hkeys
      exact .inl ⟨hstream, .inr ⟨row, List.mem_of_find?_eq_some hrow, hkeys.1⟩, _, _, rfl⟩
    · split
      · next hrefers => exact .inl ⟨hstream, .inl hrefers.1, _, _, rfl⟩
      · exact .inr ⟨_, rfl⟩
  · exact .inr ⟨_, rfl⟩

section

variable {σ : Type} {tags : TagsStore σ} {now : Date} {streamId : Int} {rawName : String}
  {store store₁ store₂ : σ} {tag : Tag} {e : TagsException} {link : StreamTag}

theorem attachToStream_of_empty (hslug : p.slugify rawName = "") :
    Tags.TagsService.attachToStream p tags now streamId rawName store =
      (.error (.badRequest "name must contain at least one alphanumeric character"), store) := by
  unfold Tags.TagsService.attachToStream
  simp only [if_pos hslug]

theorem attachToStream_of_error (hslug : p.slugify rawName ≠ "")
    (hupsert : tags.upsertBySlug now (trim rawName) (p.slugify rawName) store = (.error e, store₁)) :
    Tags.TagsService.attachToStream p tags now streamId rawName store = (.error e, store₁) := by
  unfold Tags.TagsService.attachToStream
  simp only [if_neg hslug, hupsert]

theorem attachToStream_of_unlinked (hslug : p.slugify rawName ≠ "")
    (hupsert : tags.upsertBySlug now (trim rawName) (p.slugify rawName) store = (.ok tag, store₁))
    (hlink : tags.attachToStream now streamId tag.id store₁ = (.error e, store₂)) :
    Tags.TagsService.attachToStream p tags now streamId rawName store = (.error e, store₂) := by
  unfold Tags.TagsService.attachToStream
  simp only [if_neg hslug, hupsert, hlink]

theorem attachToStream_of_linked (hslug : p.slugify rawName ≠ "")
    (hupsert : tags.upsertBySlug now (trim rawName) (p.slugify rawName) store = (.ok tag, store₁))
    (hlink : tags.attachToStream now streamId tag.id store₁ = (.ok link, store₂)) :
    Tags.TagsService.attachToStream p tags now streamId rawName store = (.ok tag, store₂) := by
  unfold Tags.TagsService.attachToStream
  simp only [if_neg hslug, hupsert, hlink]

end

theorem repository_upsertBySlug :
    (TagsDbRepository.repository p).upsertBySlug = TagsDbRepository.upsertBySlug := rfl

theorem repository_attachToStream :
    (TagsDbRepository.repository p).attachToStream = TagsDbRepository.attachToStream p := rfl

/-- A POST is answered alike when it names no tag, or gives a new tag or the one of its slug
the name that it has, and the stream exists. -/
theorem Simulates.attachToStream (h : Simulates p s) {now : Date} {streamId : Int}
    {rawName : String} {memory : TagsRepository} {db : TagsDatabase}
    {result result' : Except TagsException Tag}
    (hmemory : Tags.TagsService.attachToStream p (TagsRepository.repository p) now streamId rawName
      s.memory = (result, memory))
    (hdb : Tags.TagsService.attachToStream p (TagsDbRepository.repository p) now streamId rawName
      s.db = (result', db)) :
    (SameResult ⟨memory, db⟩ (SameTag ⟨memory, db⟩) result result' ↔ p.slugify rawName = "" ∨
      KeepsNames (trim rawName) (p.slugify rawName) s.db ∧ fitsInteger streamId = true ∧
        p.streams streamId = true) ∧
      (SameResult ⟨memory, db⟩ (SameTag ⟨memory, db⟩) result result' →
        Simulates p ⟨memory, db⟩) := by
  by_cases hslug : p.slugify rawName = ""
  · rw [attachToStream_of_empty hslug] at hmemory hdb
    obtain ⟨rfl, rfl⟩ := Prod.mk.inj hmemory
    obtain ⟨rfl, rfl⟩ := Prod.mk.inj hdb
    exact ⟨iff_of_true rfl (.inl hslug), fun _ => h⟩
  rcases hmade : s.memory.upsertBySlug now (trim rawName) (p.slugify rawName) with ⟨tag, store₁⟩
  have hupserted : (TagsRepository.repository p).upsertBySlug now (trim rawName)
      (p.slugify rawName) s.memory = (.ok tag, store₁) := by
    show (Except.ok (s.memory.upsertBySlug now (trim rawName) (p.slugify rawName)).1,
      (s.memory.upsertBySlug now (trim rawName) (p.slugify rawName)).2) = _
    rw [hmade]
  obtain ⟨rfl, rfl⟩ := Prod.mk.inj ((attachToStream_of_linked hslug hupserted rfl).symm.trans
    hmemory)
  rcases upsertBySlug_ok_or now (trim rawName) (slugify_accepted rawName p)
    (slugify_fits rawName p) with ⟨haccepted, hnext, hfits, havailable, tag', db₁, hupsert⟩ |
      ⟨hnot, db₁, hupsert⟩
  · obtain ⟨hlinks, hcases⟩ := upsertBySlug_cases hupsert
    have hupsert' := hupsert
    rw [← @repository_upsertBySlug p] at hupsert'
    rcases attachToStream_ok_or (p := p) now streamId tag'.id db₁ with
      ⟨hstream, hexists, link, db₂, hlink⟩ | ⟨db₂, hlink⟩
    · have hserved' : Tags.TagsService.attachToStream p (TagsDbRepository.repository p) now streamId
          rawName s.db = (.ok tag', db₂) := attachToStream_of_linked hslug hupsert' (by
            rw [repository_attachToStream]
            exact hlink)
      obtain ⟨rfl, rfl⟩ := Prod.mk.inj (hserved'.symm.trans hdb)
      have hstreams : p.streams streamId = true := by
        rcases hexists with hexists | ⟨row, hrow, rfl⟩
        · exact hexists
        · exact h.streams row (hlinks ▸ hrow)
      have halike : (∀ row ∈ s.db.tags.findSlug (p.slugify rawName), row.name = trim rawName) →
          SameTag ⟨(store₁.attachToStream now streamId tag.id).2, db₂⟩ tag tag' ∧
            Simulates p ⟨(store₁.attachToStream now streamId tag.id).2, db₂⟩ := by
        intro hnames
        obtain ⟨hsimulates, hsame⟩ := h.upsert hupsert hnames
        rw [hmade] at hsimulates hsame
        obtain ⟨link', db₃, hok, hkept, hafter⟩ := hsimulates.attach now hsame hstream hstreams
        rw [hlink] at hok
        cases hok
        exact ⟨hkept.sameTag_eq ▸ hsame, hafter⟩
      have hkeeps : SameTag ⟨(store₁.attachToStream now streamId tag.id).2, db₂⟩ tag tag' →
          ∀ row ∈ s.db.tags.findSlug (p.slugify rawName), row.name = trim rawName := by
        intro hagree
        apply h.keepsNames hupsert
        rw [hmade]
        exact hagree.name_eq
      refine ⟨⟨fun hagree => ?_, ?_⟩, fun hagree => (halike (hkeeps hagree)).2⟩
      · exact .inr ⟨⟨haccepted, hnext, hfits, havailable, hkeeps hagree⟩, hstream, hstreams⟩
      · rintro (hempty | ⟨⟨-, -, -, -, hnames⟩, -⟩)
        · exact absurd hempty hslug
        · exact (halike hnames).1
    · have hserved' : Tags.TagsService.attachToStream p (TagsDbRepository.repository p) now streamId
          rawName s.db = (.error .serviceUnavailable, db₂) :=
        attachToStream_of_unlinked hslug hupsert' (by
          rw [repository_attachToStream]
          exact hlink)
      obtain ⟨rfl, rfl⟩ := Prod.mk.inj (hserved'.symm.trans hdb)
      refine ⟨iff_of_false False.elim ?_, False.elim⟩
      rintro (hempty | ⟨⟨-, -, -, -, hnames⟩, hstream, hexists⟩)
      · exact hslug hempty
      · obtain ⟨hsimulates, hsame⟩ := h.upsert hupsert hnames
        rw [hmade] at hsimulates hsame
        obtain ⟨link, db₃, hok, -⟩ := hsimulates.attach now hsame hstream hexists
        rw [hlink] at hok
        cases hok
  · have hserved' : Tags.TagsService.attachToStream p (TagsDbRepository.repository p) now streamId
        rawName s.db = (.error .serviceUnavailable, db₁) := attachToStream_of_error hslug (by
          rw [repository_upsertBySlug]
          exact hupsert)
    obtain ⟨rfl, rfl⟩ := Prod.mk.inj (hserved'.symm.trans hdb)
    refine ⟨iff_of_false False.elim ?_, False.elim⟩
    rintro (hempty | ⟨⟨haccepted, hnext, hfits, havailable, -⟩, -⟩)
    · exact hslug hempty
    · exact hnot ⟨haccepted, hnext, hfits, havailable⟩

/-! ## Runs -/

variable {c : TagsCall}

theorem step_eq_some (hs : s.step p c = some t) :
    (∀ ids ∈ c.operation.tagId?, s.Matched ids.1 ids.2) ∧
      t = ⟨(s.serveMemory p c).2, (s.serveDatabase p c).2⟩ := by
  unfold step at hs
  split at hs
  · next hids => exact ⟨hids, (Option.some.inj hs).symm⟩
  · cases hs

/-- A step is answered alike when the two backends serve its call alike, and then the stores
stay alike. -/
theorem Simulates.step (h : Simulates p s) (hs : s.step p c = some t) :
    (t.Agree (s.serveMemory p c).1 (s.serveDatabase p c).1 ↔ s.ServesAlike p c) ∧
      (t.Agree (s.serveMemory p c).1 (s.serveDatabase p c).1 → Simulates p t) := by
  obtain ⟨hids, rfl⟩ := step_eq_some hs
  obtain ⟨now, operation⟩ := c
  cases operation with
  | attachToStream streamId rawName =>
    rcases hmemory : Tags.TagsService.attachToStream p (TagsRepository.repository p) now streamId
      rawName s.memory with ⟨result, memory⟩
    rcases hdb : Tags.TagsService.attachToStream p (TagsDbRepository.repository p) now streamId
      rawName s.db with ⟨result', db⟩
    have hserved : s.serveMemory p ⟨now, .attachToStream streamId rawName⟩ =
        (.tag result, memory) := by
      simp only [serveMemory, TagsOperation.map, TagsService.serve, hmemory]
    have hserved' : s.serveDatabase p ⟨now, .attachToStream streamId rawName⟩ =
        (.tag result', db) := by
      simp only [serveDatabase, TagsOperation.map, TagsService.serve, hdb]
    rw [hserved, hserved']
    exact h.attachToStream hmemory hdb
  | detachFromStream streamId ids =>
    rcases hmemory : Tags.TagsService.detachFromStream (TagsRepository.repository p) streamId ids.1
      s.memory with ⟨result, memory⟩
    rcases hdb : Tags.TagsService.detachFromStream (TagsDbRepository.repository p) streamId ids.2
      s.db with ⟨result', db⟩
    have hserved : s.serveMemory p ⟨now, .detachFromStream streamId ids⟩ =
        (.detached result, memory) := by
      simp only [serveMemory, TagsOperation.map, TagsService.serve, hmemory]
    have hserved' : s.serveDatabase p ⟨now, .detachFromStream streamId ids⟩ =
        (.detached result', db) := by
      simp only [serveDatabase, TagsOperation.map, TagsService.serve, hdb]
    rw [hserved, hserved']
    exact h.detachFromStream streamId (hids ids rfl) hmemory hdb
  | list index limit => exact ⟨h.list index limit, fun _ => h⟩
  | findById ids => exact ⟨h.findById (hids ids rfl), fun _ => h⟩
  | findBySlug slug => exact ⟨h.findBySlug slug, fun _ => h⟩
  | listForStreamIds streamIds => exact ⟨h.listForStreamIds streamIds, fun _ => h⟩
  | listForStream streamId index limit => exact ⟨h.listForStream streamId index limit, fun _ => h⟩

/-- The two repositories answer every call of a run alike exactly when each step of it keeps
the names of the tags, and asks of the database nothing that it refuses or orders
otherwise. -/
theorem tags_agree_iff (p : TagsPlatform) (calls : List TagsCall) :
    AllSteps (step p)
        (fun s c t => t.Agree (s.serveMemory p c).1 (s.serveDatabase p c).1) initial calls ↔
      AllSteps (step p) (fun s c _ => s.ServesAlike p c) initial calls :=
  allSteps_iff (I := Simulates p) (fun _ _ _ hs hst => (hs.step hst).1)
    (fun _ _ _ hs hagree hst => (hs.step hst).2 hagree) initial_simulates

/-- Orders that agree on the slugs put the same ones on every page. -/
theorem pagedAlike_of_orders {slugs : List String}
    (h : ∀ a ∈ slugs, ∀ b ∈ slugs, p.localeCompare a b = p.collation a b) (index limit : Nat) :
    PagedAlike p index limit slugs := by
  have hsorted := List.map_mergeSort (f := id) h
  rw [List.map_id, List.map_id] at hsorted
  rw [PagedAlike, hsorted]

/-! ## A name in other letters -/

/-- Texts of plain letters, one order, and the stream 1. -/
def plainTags : TagsPlatform where
  normalizeNFD := fun text => text
  toLowerCase := fun text => String.ofList (text.toList.map Char.toLower)
  localeCompare := fun a b => decide (a ≤ b)
  collation := fun a b => decide (a ≤ b)
  streams := fun id => decide (id = 1)

/-- A tag is attached, and attached again under the same slug. -/
def renamed : List TagsCall :=
  [⟨⟨1⟩, .attachToStream 1 "Live Streaming"⟩, ⟨⟨2⟩, .attachToStream 1 "live streaming"⟩]

/-- The memory returns the tag that there is, the database renames it. -/
theorem tags_disagree :
    ¬∀ (p : TagsPlatform) (calls : List TagsCall), AllSteps (step p)
      (fun s c t => t.Agree (s.serveMemory p c).1 (s.serveDatabase p c).1) initial calls := by
  intro h
  have halike := (allSteps_iff (I := Simulates plainTags) (fun _ _ _ hs hst => (hs.step hst).1)
    (fun _ _ _ hs hagree hst => (hs.step hst).2 hagree) initial_simulates).mp (h plainTags renamed)
  revert halike
  decide +kernel

end TagBackends

end Api
end XStreamRoll
