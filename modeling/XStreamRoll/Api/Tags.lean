/-
Tags, and the streams that they are attached to: the in-memory `TagsRepository`,
`TagsDbRepository` over Postgres, and `TagsService` over either of them.

A tag that is attached again under its slug keeps its name in memory, and takes the new
one in the database.  The sequence behind the ids of the database moves on with every
upsert, whether it makes a row or not.

What JavaScript does to letters is a parameter, and so are the two orders of texts and the
streams that there are.  `NOW()` and `new Date()` are the instant of the call.
-/
import XStreamRoll.Api.Streams.Repositories
import XStreamRoll.Lists

namespace XStreamRoll
namespace Api

inductive TagsException where
  | badRequest (message : String)
  | tagNotFound (tagId : Int)
  | notAttached (tagId streamId : Int)
  | serviceUnavailable
deriving DecidableEq, Repr

def TagsException.message : TagsException → String
  | .badRequest message => message
  | .tagNotFound tagId => "tag " ++ tagId.repr ++ " not found"
  | .notAttached tagId streamId =>
    "tag " ++ tagId.repr ++ " is not attached to stream " ++ streamId.repr
  | .serviceUnavailable => handleDbError

structure StreamTag where
  streamId : Int
  tagId : Int
  createdAt : Date
deriving DecidableEq, Repr

structure TagsPlatform where
  normalizeNFD : String → String
  toLowerCase : String → String
  /-- `a.localeCompare(b) <= 0` -/
  localeCompare : String → String → Bool
  /-- `ORDER BY` does not put `b` before `a`. -/
  collation : String → String → Bool
  /-- the ids of `streams` -/
  streams : Int → Bool

/-! ## `slugify` -/

/-- `[a-z0-9]` -/
def isSlugChar (c : Char) : Bool := ('a' ≤ c && c ≤ 'z') || ('0' ≤ c && c ≤ '9')

/-- `[\u0300-\u036f]` -/
def isCombiningMark (c : Char) : Bool := 0x300 ≤ c.toNat && c.toNat ≤ 0x36f

/-- `replace(/[^a-z0-9]+/g, "-")`.  The flag tells whether a run has begun. -/
def dashRuns : Bool → List Char → List Char
  | _, [] => []
  | inRun, c :: cs =>
    if isSlugChar c then c :: dashRuns false cs
    else if inRun then dashRuns true cs else '-' :: dashRuns true cs

/-- `replace(/^-+|-+$/g, "")` -/
def stripDashes (cs : List Char) : List Char :=
  ((cs.dropWhile (· = '-')).reverse.dropWhile (· = '-')).reverse

def TagsPlatform.slugify (input : String) (p : TagsPlatform) : String :=
  let marks := (p.normalizeNFD input).toList.filter fun c => !isCombiningMark c
  let lowered := (p.toLowerCase (String.ofList marks)).toList
  String.ofList ((stripDashes (dashRuns false lowered)).take 64)

theorem mem_dashRuns {c : Char} {cs : List Char} {inRun : Bool} (h : c ∈ dashRuns inRun cs) :
    isSlugChar c = true ∨ c = '-' := by
  induction cs generalizing inRun with
  | nil => cases h
  | cons d cs ih =>
    rw [dashRuns] at h
    split at h
    · next hd =>
      rcases List.mem_cons.mp h with rfl | htail
      · exact .inl hd
      · exact ih htail
    · split at h
      · exact ih h
      · rcases List.mem_cons.mp h with rfl | htail
        · exact .inr rfl
        · exact ih htail

theorem stripDashes_sublist (cs : List Char) : (stripDashes cs).Sublist cs := by
  have hends := (List.dropWhile_sublist (· = '-')
    (l := (cs.dropWhile (· = '-')).reverse)).reverse
  rw [List.reverse_reverse] at hends
  exact hends.trans (List.dropWhile_sublist _)

/-- A slug has no NUL. -/
theorem slugify_accepted (input : String) (p : TagsPlatform) :
    (Param.text (p.slugify input)).accepted = true := by
  rw [Param.accepted, decide_eq_true_eq, TagsPlatform.slugify, String.toList_ofList]
  intro hmem
  have hchar := mem_dashRuns ((stripDashes_sublist _).subset (List.mem_of_mem_take hmem))
  revert hchar
  decide

theorem slugify_fits (input : String) (p : TagsPlatform) :
    fitsVarchar 64 (p.slugify input) = true := by
  rw [fitsVarchar, decide_eq_true_eq, TagsPlatform.slugify, String.length_ofList]
  exact List.length_take_le _ _

/-! ## The tables -/

structure TagRow where
  id : Int
  name : String
  slug : String
  createdAt : Timestamptz
deriving DecidableEq, Repr

def TagRow.rowToTag (row : TagRow) : Tag where
  id := row.id
  name := row.name
  slug := row.slug
  createdAt := row.createdAt.toDate

structure StreamTagRow where
  streamId : Int
  tagId : Int
  createdAt : Timestamptz
deriving DecidableEq, Repr

def StreamTagRow.toStreamTag (row : StreamTagRow) : StreamTag where
  streamId := row.streamId
  tagId := row.tagId
  createdAt := row.createdAt.toDate

theorem one_le_serial : (1 : Int) ≤ 2147483648 := by decide

structure TagsTable where
  rows : List TagRow
  nextId : Int
  primaryKey : (rows.map TagRow.id).Nodup
  uniqueName : (rows.map TagRow.name).Nodup
  uniqueSlug : (rows.map TagRow.slug).Nodup
  serial : ∀ row ∈ rows, 0 < row.id ∧ row.id < nextId
  nextId_pos : 0 < nextId
  nextId_le : nextId ≤ 2147483648

namespace TagsTable

theorem eq_of_slug (table : TagsTable) {a b : TagRow} (ha : a ∈ table.rows) (hb : b ∈ table.rows)
    (h : a.slug = b.slug) : a = b :=
  List.inj_on_of_nodup_map table.uniqueSlug ha hb h

theorem fitsInteger_id (table : TagsTable) {row : TagRow} (h : row ∈ table.rows) :
    fitsInteger row.id = true := by
  obtain ⟨hpos, hlt⟩ := table.serial row h
  have hle := table.nextId_le
  simp only [fitsInteger, Bool.and_eq_true, decide_eq_true_eq]
  omega

def find (id : Int) (table : TagsTable) : Option TagRow := table.rows.find? fun row => row.id = id

def findSlug (slug : String) (table : TagsTable) : Option TagRow :=
  table.rows.find? fun row => row.slug = slug

/-- `nextval`. -/
def skip (table : TagsTable) (h : table.nextId ≤ 2147483647) : TagsTable where
  rows := table.rows
  nextId := table.nextId + 1
  primaryKey := table.primaryKey
  uniqueName := table.uniqueName
  uniqueSlug := table.uniqueSlug
  serial row hrow := by
    have hserial := table.serial row hrow
    omega
  nextId_pos := by
    have hpos := table.nextId_pos
    omega
  nextId_le := by omega

/-- The name is not that of a tag with another slug. -/
def Available (name slug : String) (table : TagsTable) : Prop :=
  ∀ row ∈ table.rows, row.slug ≠ slug → row.name ≠ name

instance (name slug : String) (table : TagsTable) : Decidable (table.Available name slug) :=
  inferInstanceAs (Decidable (∀ _ ∈ _, _))

/-- The row that an INSERT makes. -/
def created (now : Timestamptz) (name slug : String) (table : TagsTable) : TagRow :=
  ⟨table.nextId, name, slug, now⟩

theorem findSlug_eq_none_iff {table : TagsTable} {slug : String} :
    table.findSlug slug = none ↔ ∀ row ∈ table.rows, row.slug ≠ slug := by
  simp [findSlug]

theorem findSlug_eq_some_iff {table : TagsTable} {slug : String} {row : TagRow} :
    table.findSlug slug = some row ↔ row ∈ table.rows ∧ row.slug = slug := by
  constructor
  · intro h
    exact ⟨List.mem_of_find?_eq_some h, by simpa using List.find?_some h⟩
  · rintro ⟨hmem, rfl⟩
    exact find?_of_nodup table.uniqueSlug hmem

theorem find_eq_some_iff {table : TagsTable} {id : Int} {row : TagRow} :
    table.find id = some row ↔ row ∈ table.rows ∧ row.id = id := by
  constructor
  · intro h
    exact ⟨List.mem_of_find?_eq_some h, by simpa using List.find?_some h⟩
  · rintro ⟨hmem, rfl⟩
    exact find?_of_nodup table.primaryKey hmem

def insert (now : Timestamptz) (name slug : String) (table : TagsTable)
    (h : table.nextId ≤ 2147483647) (havailable : table.Available name slug)
    (hslug : table.findSlug slug = none) : TagsTable where
  rows := table.rows ++ [table.created now name slug]
  nextId := table.nextId + 1
  primaryKey := nodup_concat table.primaryKey fun row hrow => ne_of_lt (table.serial row hrow).2
  uniqueName := nodup_concat table.uniqueName fun row hrow =>
    havailable row hrow (findSlug_eq_none_iff.mp hslug row hrow)
  uniqueSlug := nodup_concat table.uniqueSlug (findSlug_eq_none_iff.mp hslug)
  serial row hrow := by
    have hpos := table.nextId_pos
    rcases List.mem_append.mp hrow with hold | hnew
    · have hserial := table.serial row hold
      omega
    · rw [List.mem_singleton.mp hnew]
      exact ⟨hpos, Int.lt_add_one_of_le (le_refl _)⟩
  nextId_pos := by
    have hpos := table.nextId_pos
    omega
  nextId_le := by omega

def named (name slug : String) (row : TagRow) : TagRow :=
  if row.slug = slug then { row with name } else row

theorem named_id (name slug : String) (row : TagRow) : (named name slug row).id = row.id := by
  rw [named]
  split <;> rfl

theorem map_id_named (name slug : String) (rows : List TagRow) :
    (rows.map (named name slug)).map TagRow.id = rows.map TagRow.id := by
  rw [List.map_map]
  exact List.map_congr_left fun row _ => named_id name slug row

theorem map_slug_named (name slug : String) (rows : List TagRow) :
    (rows.map (named name slug)).map TagRow.slug = rows.map TagRow.slug := by
  rw [List.map_map]
  refine List.map_congr_left fun row _ => ?_
  rw [Function.comp_apply, named]
  split <;> rfl

/-- `DO UPDATE SET name = EXCLUDED.name`. -/
def setName (name slug : String) (table : TagsTable) (havailable : table.Available name slug) :
    TagsTable where
  rows := table.rows.map (named name slug)
  nextId := table.nextId
  primaryKey := (map_id_named name slug table.rows).symm ▸ table.primaryKey
  uniqueName := by
    rw [List.map_map]
    have hnames := List.pairwise_map.mp table.uniqueName
    have hslugs := List.pairwise_map.mp table.uniqueSlug
    refine List.pairwise_map.mpr ((hnames.and hslugs).imp_of_mem ?_)
    rintro a b ha hb ⟨hname, hslug⟩
    simp only [Function.comp_apply, named]
    by_cases haslug : a.slug = slug
    · have hbslug : b.slug ≠ slug := fun heq => hslug (haslug.trans heq.symm)
      rw [if_pos haslug, if_neg hbslug]
      exact (havailable b hb hbslug).symm
    · rw [if_neg haslug]
      split
      · exact havailable a ha haslug
      · exact hname
  uniqueSlug := (map_slug_named name slug table.rows).symm ▸ table.uniqueSlug
  serial row hrow := by
    obtain ⟨old, hold, rfl⟩ := List.mem_map.mp hrow
    rw [named_id]
    exact table.serial old hold
  nextId_pos := table.nextId_pos
  nextId_le := table.nextId_le

end TagsTable

/-- The tables `tags` and `stream_tags`. -/
structure TagsDatabase where
  tags : TagsTable
  streamTags : List StreamTagRow
  streamTagsKey : (streamTags.map fun row => (row.streamId, row.tagId)).Nodup
  foreignKey : ∀ row ∈ streamTags, ∃ tag ∈ tags.rows, tag.id = row.tagId

namespace TagsDatabase

/-- A table of tags that keeps the ids keeps the references to them. -/
def withTags (tags : TagsTable) (db : TagsDatabase)
    (h : ∀ id ∈ db.tags.rows.map TagRow.id, id ∈ tags.rows.map TagRow.id) : TagsDatabase where
  tags := tags
  streamTags := db.streamTags
  streamTagsKey := db.streamTagsKey
  foreignKey row hrow := by
    obtain ⟨tag, htag, hid⟩ := db.foreignKey row hrow
    obtain ⟨tag', htag', hid'⟩ := List.mem_map.mp (h tag.id (List.mem_map_of_mem htag))
    exact ⟨tag', htag', hid'.trans hid⟩

/-- The row that refers to both. -/
def link (streamId tagId : Int) (db : TagsDatabase) : Option StreamTagRow :=
  db.streamTags.find? fun row => row.streamId = streamId && row.tagId = tagId

def insertLink (now : Timestamptz) (streamId tagId : Int) (db : TagsDatabase)
    (hlink : db.link streamId tagId = none) (htag : (db.tags.find tagId).isSome = true) :
    TagsDatabase where
  tags := db.tags
  streamTags := db.streamTags ++ [⟨streamId, tagId, now⟩]
  streamTagsKey := nodup_concat db.streamTagsKey fun row hrow heq => by
    obtain ⟨hstream, hid⟩ := Prod.mk.inj heq
    have hother := List.find?_eq_none.mp hlink row hrow
    simp only [hstream, hid, decide_true, Bool.and_self, not_true] at hother
  foreignKey row hrow := by
    rcases List.mem_append.mp hrow with hold | hnew
    · exact db.foreignKey row hold
    · obtain ⟨tag, hfound⟩ := Option.isSome_iff_exists.mp htag
      rw [List.mem_singleton.mp hnew]
      exact ⟨tag, List.mem_of_find?_eq_some hfound, by simpa using List.find?_some hfound⟩

def deleteLink (streamId tagId : Int) (db : TagsDatabase) : TagsDatabase where
  tags := db.tags
  streamTags := db.streamTags.filter fun row => !(row.streamId = streamId && row.tagId = tagId)
  streamTagsKey := (List.filter_sublist.map _).nodup db.streamTagsKey
  foreignKey row hrow := db.foreignKey row (List.mem_filter.mp hrow).1

end TagsDatabase

/-! ## The methods of a repository -/

structure TagPage where
  items : List Tag
  total : Nat
deriving DecidableEq, Repr

/-- What `TagsService` calls, over a store `σ`.  A `Map` is the list of its entries. -/
structure TagsStore (σ : Type) where
  findBySlug : String → σ → Except TagsException (Option Tag)
  findById : Int → σ → Except TagsException (Option Tag)
  upsertBySlug : Date → String → String → σ → Except TagsException Tag × σ
  listPaginated : Nat → Nat → σ → Except TagsException TagPage
  attachToStream : Date → Int → Int → σ → Except TagsException StreamTag × σ
  detachFromStream : Int → Int → σ → Except TagsException Bool × σ
  listForStreamIds : List Int → σ → Except TagsException (List (Int × List Tag))

/-- The tags in the order of their slugs. -/
def sortBySlug (order : String → String → Bool) (tags : List Tag) : List Tag :=
  tags.mergeSort fun a b => order a.slug b.slug

theorem map_slug_sortBySlug (order : String → String → Bool) (tags : List Tag) :
    (sortBySlug order tags).map Tag.slug = (tags.map Tag.slug).mergeSort order :=
  List.map_mergeSort fun _ _ _ _ => rfl

theorem mem_sortBySlug {order : String → String → Bool} {tags : List Tag} {tag : Tag} :
    tag ∈ sortBySlug order tags ↔ tag ∈ tags :=
  (List.mergeSort_perm _ _).mem_iff

/-! ## In memory -/

/-- The maps hold their values in the order in which the keys came. -/
structure TagsRepository where
  tagsBySlug : List Tag
  streamTags : List StreamTag
  nextId : Int
  keys : (tagsBySlug.map Tag.slug).Nodup
  ids : (tagsBySlug.map Tag.id).Nodup
  serial : ∀ tag ∈ tagsBySlug, tag.id < nextId

namespace TagsRepository

def findBySlug (slug : String) (store : TagsRepository) : Option Tag :=
  store.tagsBySlug.find? fun tag => tag.slug = slug

def findById (id : Int) (store : TagsRepository) : Option Tag :=
  store.tagsBySlug.find? fun tag => tag.id = id

def created (now : Date) (name slug : String) (store : TagsRepository) : Tag :=
  ⟨store.nextId, name, slug, now⟩

def insert (now : Date) (name slug : String) (store : TagsRepository)
    (h : store.findBySlug slug = none) : TagsRepository where
  tagsBySlug := store.tagsBySlug ++ [store.created now name slug]
  streamTags := store.streamTags
  nextId := store.nextId + 1
  keys := nodup_concat store.keys fun tag htag => by
    simpa [created] using List.find?_eq_none.mp h tag htag
  ids := nodup_concat store.ids fun tag htag => ne_of_lt (store.serial tag htag)
  serial tag htag := by
    rcases List.mem_append.mp htag with hold | hnew
    · have hserial := store.serial tag hold
      omega
    · rw [List.mem_singleton.mp hnew]
      exact Int.lt_add_one_of_le (le_refl _)

/-- The tag that has the slug already is returned as it is. -/
def upsertBySlug (now : Date) (name slug : String) (store : TagsRepository) :
    Tag × TagsRepository :=
  match h : store.findBySlug slug with
  | some existing => (existing, store)
  | none => (store.created now name slug, store.insert now name slug h)

/-- `page` counts from 1. -/
def listPaginated (localeCompare : String → String → Bool) (page limit : Nat)
    (store : TagsRepository) : TagPage :=
  let all := sortBySlug localeCompare store.tagsBySlug
  ⟨OffsetPaging.page limit (page - 1) all, all.length⟩

/-- What `streamTags` has under `${streamId}:${tagId}`. -/
def link (streamId tagId : Int) (store : TagsRepository) : Option StreamTag :=
  store.streamTags.find? fun row => row.streamId = streamId && row.tagId = tagId

def attachToStream (now : Date) (streamId tagId : Int) (store : TagsRepository) :
    StreamTag × TagsRepository :=
  match store.link streamId tagId with
  | some existing => (existing, store)
  | none =>
    let row : StreamTag := ⟨streamId, tagId, now⟩
    (row, { store with streamTags := store.streamTags ++ [row] })

def detachFromStream (streamId tagId : Int) (store : TagsRepository) : Bool × TagsRepository :=
  ((store.link streamId tagId).isSome,
    { store with streamTags :=
        store.streamTags.filter fun row => !(row.streamId = streamId && row.tagId = tagId) })

/-- The tags of a stream, in the order in which they were attached. -/
def tagsOf (streamId : Int) (store : TagsRepository) : List Tag :=
  (store.streamTags.filter fun row => row.streamId = streamId).filterMap fun row =>
    store.findById row.tagId

def listForStreamIds (localeCompare : String → String → Bool) (streamIds : List Int)
    (store : TagsRepository) : List (Int × List Tag) :=
  streamIds.eraseDups.map fun id => (id, sortBySlug localeCompare (store.tagsOf id))

/-- The maps, behind the methods. -/
def repository (p : TagsPlatform) : TagsStore TagsRepository where
  findBySlug slug store := .ok (store.findBySlug slug)
  findById id store := .ok (store.findById id)
  upsertBySlug now name slug store :=
    let (tag, after) := store.upsertBySlug now name slug
    (.ok tag, after)
  listPaginated page limit store := .ok (store.listPaginated p.localeCompare page limit)
  attachToStream now streamId tagId store :=
    let (row, after) := store.attachToStream now streamId tagId
    (.ok row, after)
  detachFromStream streamId tagId store :=
    let (removed, after) := store.detachFromStream streamId tagId
    (.ok removed, after)
  listForStreamIds streamIds store := .ok (store.listForStreamIds p.localeCompare streamIds)

end TagsRepository

/-! ## In the database -/

namespace TagsDbRepository

variable (p : TagsPlatform)

def findBySlug (slug : String) (db : TagsDatabase) : Except TagsException (Option Tag) :=
  if (Param.text slug).accepted = true then .ok ((db.tags.findSlug slug).map TagRow.rowToTag)
  else .error .serviceUnavailable

def findById (id : Int) (db : TagsDatabase) : Except TagsException (Option Tag) :=
  if fitsInteger id = true then .ok ((db.tags.find id).map TagRow.rowToTag)
  else .error .serviceUnavailable

/-- The columns take the values. -/
def storable (name slug : String) : Bool := fitsVarchar 64 name && fitsVarchar 64 slug

/-- `ON CONFLICT (slug)` is about the slug alone.  The id of the row that is not made is
spent. -/
def upsertBySlug (now : Date) (name slug : String) (db : TagsDatabase) :
    Except TagsException Tag × TagsDatabase :=
  if h : ((Param.text name).accepted && (Param.text slug).accepted) = true ∧
      db.tags.nextId ≤ 2147483647 then
    if hstored : storable name slug = true ∧ db.tags.Available name slug then
      match hslug : db.tags.findSlug slug with
      | some row =>
        (.ok (TagsTable.named name slug row).rowToTag,
          db.withTags ((db.tags.skip h.2).setName name slug hstored.2) fun _ hid =>
            (TagsTable.map_id_named name slug db.tags.rows).symm ▸ hid)
      | none =>
        (.ok (db.tags.created now.toTimestamptz name slug).rowToTag,
          db.withTags (db.tags.insert now.toTimestamptz name slug h.2 hstored.2 hslug)
            fun _ hid =>
              List.map_append.symm ▸ List.mem_append_left _ hid)
    else
      (.error .serviceUnavailable, db.withTags (db.tags.skip h.2) fun _ hid => hid)
  else (.error .serviceUnavailable, db)

/-- `page` counts from 1. -/
def listPaginated (page limit : Nat) (db : TagsDatabase) : Except TagsException TagPage :=
  let offset := (page - 1) * limit
  if (fitsBigint limit && fitsBigint offset) = true then
    let tags := db.tags.rows.map TagRow.rowToTag
    .ok ⟨OffsetPaging.page limit (page - 1) (sortBySlug p.collation tags), tags.length⟩
  else .error .serviceUnavailable

/-- `ON CONFLICT (stream_id, tag_id) DO NOTHING`, and the row that is there. -/
def attachToStream (now : Date) (streamId tagId : Int) (db : TagsDatabase) :
    Except TagsException StreamTag × TagsDatabase :=
  if (fitsInteger streamId && fitsInteger tagId) = true then
    match hlink : db.link streamId tagId with
    | some row => (.ok row.toStreamTag, db)
    | none =>
      if h : p.streams streamId = true ∧ (db.tags.find tagId).isSome = true then
        (.ok (⟨streamId, tagId, now.toTimestamptz⟩ : StreamTagRow).toStreamTag,
          db.insertLink now.toTimestamptz streamId tagId hlink h.2)
      else (.error .serviceUnavailable, db)
  else (.error .serviceUnavailable, db)

def detachFromStream (streamId tagId : Int) (db : TagsDatabase) :
    Except TagsException Bool × TagsDatabase :=
  if (fitsInteger streamId && fitsInteger tagId) = true then
    (.ok (db.link streamId tagId).isSome, db.deleteLink streamId tagId)
  else (.error .serviceUnavailable, db)

/-- The rows of the join that are about a stream. -/
def tagsOf (streamId : Int) (db : TagsDatabase) : List Tag :=
  (db.streamTags.filter fun row => row.streamId = streamId).filterMap fun row =>
    (db.tags.find row.tagId).map TagRow.rowToTag

def listForStreamIds (streamIds : List Int) (db : TagsDatabase) :
    Except TagsException (List (Int × List Tag)) :=
  if streamIds.isEmpty then .ok []
  else if streamIds.all fitsInteger then
    .ok (streamIds.eraseDups.map fun id => (id, sortBySlug p.collation (tagsOf id db)))
  else .error .serviceUnavailable

/-- The tables, behind the methods. -/
def repository : TagsStore TagsDatabase where
  findBySlug slug db := findBySlug slug db
  findById id db := findById id db
  upsertBySlug now name slug db := upsertBySlug now name slug db
  listPaginated page limit db := listPaginated p page limit db
  attachToStream now streamId tagId db := attachToStream p now streamId tagId db
  detachFromStream streamId tagId db := detachFromStream streamId tagId db
  listForStreamIds streamIds db := listForStreamIds p streamIds db

end TagsDbRepository

/-! ## `TagsService` -/

structure PagedTags where
  data : List Tag
  page : Nat
  limit : Nat
  total : Nat
  hasMore : Bool
deriving DecidableEq, Repr

namespace Tags
namespace TagsService

variable {σ : Type} (p : TagsPlatform) (tags : TagsStore σ)

def list (page limit : Nat) (s : σ) : Except TagsException PagedTags :=
  match tags.listPaginated page limit s with
  | .error e => .error e
  | .ok ⟨items, total⟩ => .ok ⟨items, page, limit, total, decide (page * limit < total)⟩

def listForStreamIds (streamIds : List Int) (s : σ) :
    Except TagsException (List (Int × List Tag)) :=
  if streamIds.isEmpty then .ok [] else tags.listForStreamIds streamIds s

def listForStream (streamId : Int) (page limit : Nat) (s : σ) : Except TagsException PagedTags :=
  match listForStreamIds tags [streamId] s with
  | .error e => .error e
  | .ok entries =>
    let tags := ((entries.find? fun entry => entry.1 = streamId).map Prod.snd).getD []
    .ok ⟨OffsetPaging.page limit (page - 1) tags, page, limit, tags.length,
      decide (page * limit < tags.length)⟩

def attachToStream (now : Date) (streamId : Int) (rawName : String) (s : σ) :
    Except TagsException Tag × σ :=
  let slug := p.slugify rawName
  if slug = "" then
    (.error (.badRequest "name must contain at least one alphanumeric character"), s)
  else
    match tags.upsertBySlug now (trim rawName) slug s with
    | (.error e, s₁) => (.error e, s₁)
    | (.ok tag, s₁) =>
      match tags.attachToStream now streamId tag.id s₁ with
      | (.error e, s₂) => (.error e, s₂)
      | (.ok _, s₂) => (.ok tag, s₂)

def detachFromStream (streamId tagId : Int) (s : σ) : Except TagsException Unit × σ :=
  match tags.findById tagId s with
  | .error e => (.error e, s)
  | .ok none => (.error (.tagNotFound tagId), s)
  | .ok (some _) =>
    match tags.detachFromStream streamId tagId s with
    | (.error e, s₁) => (.error e, s₁)
    | (.ok false, s₁) => (.error (.notAttached tagId streamId), s₁)
    | (.ok true, s₁) => (.ok (), s₁)

end TagsService
end Tags

end Api
end XStreamRoll
