/-
`resolveTag`: what a tag filter refers to.

A value of digits alone is an id, and any other value is a slug.  A slug may be of digits
alone too, and then it refers to whatever tag has that id.
-/
import XStreamRoll.Api.Tags.Catalogue
import Mathlib.Algebra.Order.Ring.Nat

namespace XStreamRoll
namespace Api

/-! ## `resolveTag` -/

/-- `/^\d+$/.test(value)` -/
def isDigits (value : String) : Bool := !value.isEmpty && value.toList.all Char.isDigit

def decimal (digits : List Char) : Nat :=
  digits.foldl (fun n c => 10 * n + (c.toNat - '0'.toNat)) 0

/-- The double nearest to a whole number, and the even one of two that are equally near.  There
is no largest one here, as `Infinity` is no id either. -/
def nearestDouble (n : Nat) : Nat :=
  let unit := 2 ^ (n.log2 - 52)
  let below := n / unit * unit
  if 2 * (n % unit) < unit ∨ 2 * (n % unit) = unit ∧ n / unit % 2 = 0 then below
  else below + unit

/-- `Number(value)`, of digits. -/
def toNumber (value : String) : Int := nearestDouble (decimal value.toList)

/-- Up to 2^53 the number is the one that is written. -/
theorem nearestDouble_of_lt {n : Nat} (h : n < 2 ^ 53) : nearestDouble n = n := by
  have hunit : n.log2 - 52 = 0 := by
    by_cases hzero : n = 0
    · rw [hzero]
      rfl
    · have hlog : n.log2 < 53 := (Nat.log2_lt hzero).mpr h
      omega
  rw [nearestDouble, hunit, pow_zero, Nat.mod_one, Nat.div_one, Nat.mul_one]
  exact if_pos (.inl Nat.one_pos)

example : toNumber "007" = 7 := by decide

namespace Tags.TagsService

variable {σ : Type} (tags : TagsStore σ)

def resolveTag (raw : Option String) (s : σ) : Except TagsException (Option Tag) :=
  match raw with
  | none => .ok none
  | some raw =>
    if raw = "" then .ok none
    else
      let value := trim raw
      if value = "" then .ok none
      else if isDigits value = true then tags.findById (toNumber value) s
      else tags.findBySlug value s

end Tags.TagsService

/-! ## The slugs that there are -/

theorem trim_of_unblank {text : String} (h : ∀ c ∈ text.toList, isSpace c = false) :
    trim text = text := by
  have hkept : ∀ cs : List Char, (∀ c ∈ cs, isSpace c = false) → cs.dropWhile isSpace = cs := by
    intro cs hcs
    cases cs with
    | nil => rfl
    | cons c cs => rw [List.dropWhile_cons, hcs c List.mem_cons_self]; rfl
  have hback : ∀ c ∈ text.toList.reverse, isSpace c = false := fun c hc =>
    h c (List.mem_reverse.mp hc)
  rw [trim, hkept _ h, hkept _ hback, List.reverse_reverse, String.ofList_toList]

theorem isSpace_of_slug {c : Char} (h : isSlugChar c = true ∨ c = '-') : isSpace c = false := by
  rw [Bool.eq_false_iff]
  intro hspace
  rcases h with hslug | rfl
  · rw [isSlugChar_of_isSpace hspace] at hslug
    cases hslug
  · revert hspace
    decide

variable {p : TagsPlatform} {name slug : String}

theorem Labels.trim_slug (h : Labels p name slug) : trim slug = slug := by
  obtain ⟨-, rawName, -, rfl⟩ := h
  exact trim_of_unblank fun c hc =>
    isSpace_of_slug ((TagsPlatform.singleDashes_slugify p rawName).chars c hc)

open Tags (TagsService.attachAll TagsService.attachAll_invariant)

/-- A slug is looked up as it is, unless it reads as an id. -/
theorem Labels.resolveTag (h : Labels p name slug) {σ : Type} (tags : TagsStore σ) (s : σ) :
    Tags.TagsService.resolveTag tags (some slug) s =
      if isDigits slug = true then tags.findById (toNumber slug) s else tags.findBySlug slug s := by
  simp only [Tags.TagsService.resolveTag, h.trim_slug, if_neg h.1]

/-- The slug is not read as an id, or as that one. -/
def RefersTo (slug : String) (id : Int) : Prop := isDigits slug = false ∨ toNumber slug = id

instance (slug : String) (id : Int) : Decidable (RefersTo slug id) :=
  inferInstanceAs (Decidable (_ ∨ _))

/-- The store that has the tags under their slugs, and under their ids, finds one by its slug
where that refers to it. -/
theorem Labels.resolveTag_iff (h : Labels p name slug) {σ : Type} {tags : TagsStore σ} {s : σ}
    {tag : Tag} (hslug : tags.findBySlug slug s = .ok (some tag))
    (hid : ∀ id, tags.findById id s = .ok (some tag) ↔ id = tag.id) :
    Tags.TagsService.resolveTag tags (some slug) s = .ok (some tag) ↔ RefersTo slug tag.id := by
  rw [h.resolveTag, RefersTo]
  cases hdigits : isDigits slug with
  | false => exact iff_of_true hslug (.inl rfl)
  | true =>
    rw [if_pos rfl, hid]
    exact ⟨.inr, fun hrefers => hrefers.resolve_left Bool.noConfusion⟩

/-! ## In memory -/

namespace TagsRepository

/-- The tags of the maps are labelled by names that were attached. -/
def Labelled (p : TagsPlatform) (store : TagsRepository) : Prop :=
  ∀ tag ∈ store.tagsBySlug, Labels p tag.name tag.slug

theorem Labelled.upsertBySlug {store : TagsRepository} (h : Labelled p store) (now : Date)
    (hlabels : Labels p name slug) : Labelled p (store.upsertBySlug now name slug).2 := by
  unfold TagsRepository.upsertBySlug
  split
  · exact h
  · intro tag htag
    rcases List.mem_append.mp htag with hold | hnew
    · exact h tag hold
    · rw [List.mem_singleton.mp hnew]
      exact hlabels

theorem attachToStream_tagsBySlug (now : Date) (streamId tagId : Int) (store : TagsRepository) :
    (store.attachToStream now streamId tagId).2.tagsBySlug = store.tagsBySlug := by
  unfold attachToStream
  split
  · rfl
  · rfl

/-- The maps after the calls. -/
def catalogue (p : TagsPlatform) (calls : List AttachCall) : TagsRepository :=
  TagsService.attachAll p (repository p) calls TagBackends.initial.memory

theorem labelled_catalogue (p : TagsPlatform) (calls : List AttachCall) :
    Labelled p (catalogue p calls) := by
  refine TagsService.attachAll_invariant p (repository p) ?_ ?_ calls ?_
  · intro now rawName store hslug hstore
    exact hstore.upsertBySlug now ⟨hslug, rawName, rfl, rfl⟩
  · intro now streamId tagId store hstore
    show ∀ tag ∈ (store.attachToStream now streamId tagId).2.tagsBySlug, _
    rw [attachToStream_tagsBySlug]
    exact hstore
  · exact List.forall_mem_nil _

theorem findById_eq_iff {store : TagsRepository} {tag : Tag} (h : tag ∈ store.tagsBySlug)
    (id : Int) : store.findById id = some tag ↔ id = tag.id := by
  constructor
  · intro hfound
    have hid := List.find?_some hfound
    exact (of_decide_eq_true hid).symm
  · rintro rfl
    exact find?_of_nodup store.ids h

end TagsRepository

/-! ## In the database -/

theorem TagsDbRepository.findById_eq_iff {db : TagsDatabase} {row : TagRow}
    (h : row ∈ db.tags.rows) (id : Int) :
    TagsDbRepository.findById id db = .ok (some row.rowToTag) ↔ id = row.id := by
  rw [TagsDbRepository.findById]
  constructor
  · split
    · intro hfound
      obtain ⟨found, hfind, hsame⟩ := Option.map_eq_some_iff.mp (Except.ok.inj hfound)
      rw [← (TagsTable.find_eq_some_iff.mp hfind).2]
      exact congrArg Tag.id hsame
    · intro hfound
      cases hfound
  · rintro rfl
    rw [if_pos (db.tags.fitsInteger_id h), TagsTable.find_eq_some_iff.mpr ⟨h, rfl⟩]
    rfl

theorem TagsDbRepository.findBySlug_of_mem {db : TagsDatabase} {row : TagRow}
    (h : row ∈ db.tags.rows) (hlabels : Labels p row.name row.slug) :
    TagsDbRepository.findBySlug row.slug db = .ok (some row.rowToTag) := by
  obtain ⟨-, rawName, -, hslug⟩ := hlabels
  rw [TagsDbRepository.findBySlug, if_pos (hslug ▸ slugify_accepted rawName p),
    TagsTable.findSlug_eq_some_iff.mpr ⟨h, rfl⟩]
  rfl

/-- In every store that calls of `attachToStream` make, the slug of a tag finds the tag
exactly when it has more than digits in it, or its digits are those of the id. -/
theorem resolveTag_slug_iff (p : TagsPlatform) (calls : List AttachCall) :
    (∀ tag ∈ (TagsRepository.catalogue p calls).tagsBySlug,
      (Tags.TagsService.resolveTag (TagsRepository.repository p) (some tag.slug)
          (TagsRepository.catalogue p calls) = .ok (some tag) ↔ RefersTo tag.slug tag.id)) ∧
    ∀ row ∈ (TagsDbRepository.catalogue p calls).tags.rows,
      (Tags.TagsService.resolveTag (TagsDbRepository.repository p) (some row.slug)
          (TagsDbRepository.catalogue p calls) = .ok (some row.rowToTag) ↔
        RefersTo row.slug row.id) := by
  constructor
  · intro tag htag
    refine (TagsRepository.labelled_catalogue p calls tag htag).resolveTag_iff ?_ fun id => ?_
    · exact congrArg Except.ok (find?_of_nodup (TagsRepository.catalogue p calls).keys htag)
    · rw [← TagsRepository.findById_eq_iff htag id]
      exact ⟨Except.ok.inj, congrArg Except.ok⟩
  · intro row hrow
    have hlabels := TagsDbRepository.labelled_attachAll p calls row hrow
    exact hlabels.resolveTag_iff (TagsDbRepository.findBySlug_of_mem hrow hlabels)
      (TagsDbRepository.findById_eq_iff hrow)

open TagBackends (plainTags)

/-- A name of letters, and the digit that is its id. -/
def counted : List AttachCall := [⟨⟨1⟩, 1, "Live"⟩, ⟨⟨2⟩, 1, "1"⟩]

/-- The slug `1` finds the tag `live`. -/
theorem resolveTag_counted :
    (¬∀ (p : TagsPlatform) (calls : List AttachCall),
      ∀ tag ∈ (TagsRepository.catalogue p calls).tagsBySlug,
        Tags.TagsService.resolveTag (TagsRepository.repository p) (some tag.slug)
          (TagsRepository.catalogue p calls) = .ok (some tag)) ∧
    ¬∀ (p : TagsPlatform) (calls : List AttachCall),
      ∀ row ∈ (TagsDbRepository.catalogue p calls).tags.rows,
        Tags.TagsService.resolveTag (TagsDbRepository.repository p) (some row.slug)
          (TagsDbRepository.catalogue p calls) = .ok (some row.rowToTag) := by
  constructor
  · intro h
    have hall := h plainTags counted
    revert hall
    decide +kernel
  · intro h
    have hall := h plainTags counted
    revert hall
    decide +kernel

end Api
end XStreamRoll
