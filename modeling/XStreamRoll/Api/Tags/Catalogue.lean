/-
The catalogue that calls of `attachToStream` make, in the order of the calls.

The upsert goes by the slug and stores the trimmed name.  Blanks around a name leave no
trace in its slug, so a stored name has the slug that is stored with it, and a name that is
there already is there under the slug that is upserted.
-/
import XStreamRoll.Api.Tags.Slugs
import Mathlib.Data.List.TakeWhile

namespace XStreamRoll
namespace Api

/-! ## Blanks around a name -/

theorem exists_blanks (text : String) :
    ∃ before after : List Char, (∀ c ∈ before, isSpace c = true) ∧
      (∀ c ∈ after, isSpace c = true) ∧ text.toList = before ++ (trim text).toList ++ after := by
  let started := text.toList.dropWhile isSpace
  refine ⟨text.toList.takeWhile isSpace, (started.reverse.takeWhile isSpace).reverse, ?_, ?_, ?_⟩
  · intro c hc
    exact List.mem_takeWhile_imp hc
  · intro c hc
    exact List.mem_takeWhile_imp (List.mem_reverse.mp hc)
  · have hends : (started.reverse.dropWhile isSpace).reverse ++
        (started.reverse.takeWhile isSpace).reverse = started := by
      rw [← List.reverse_append, List.takeWhile_append_dropWhile, List.reverse_reverse]
    rw [trim, String.toList_ofList, List.append_assoc, hends]
    exact List.takeWhile_append_dropWhile.symm

/-- A blank is no letter or digit, and no mark. -/
theorem toNat_of_isSpace {c : Char} (h : isSpace c = true) :
    c.toNat ≤ 0x20 ∨ c.toNat = 0xa0 ∨ 0x1680 ≤ c.toNat := by
  simp only [isSpace, List.mem_cons, List.not_mem_nil, or_false, decide_eq_true_eq,
    ← UInt32.toNat_inj, UInt32.le_iff_toNat_le] at h
  simp only [UInt32.reduceToNat] at h
  rw [Char.toNat]
  omega

theorem isSlugChar_of_isSpace {c : Char} (h : isSpace c = true) : isSlugChar c = false := by
  have hcode := toNat_of_isSpace h
  rw [Char.toNat] at hcode
  rw [Bool.eq_false_iff]
  intro hslug
  simp only [isSlugChar, Bool.or_eq_true, Bool.and_eq_true, decide_eq_true_eq, Char.le_def,
    UInt32.le_iff_toNat_le] at hslug
  simp only [Char.reduceVal, UInt32.reduceToNat] at hslug
  omega

theorem isCombiningMark_of_isSpace {c : Char} (h : isSpace c = true) :
    isCombiningMark c = false := by
  have hcode := toNat_of_isSpace h
  rw [isCombiningMark, Bool.and_eq_false_iff, decide_eq_false_iff_not, decide_eq_false_iff_not]
  omega

/-- Whether a run has begun is seen in a dash at the front, if at all. -/
theorem dropWhile_dashRuns (inRun : Bool) (cs : List Char) :
    (dashRuns inRun cs).dropWhile (· = '-') = (dashRuns false cs).dropWhile (· = '-') := by
  cases inRun with
  | false => rfl
  | true =>
    cases cs with
    | nil => rfl
    | cons c cs =>
      rw [dashRuns, dashRuns]
      split
      · rfl
      · rfl

theorem dropWhile_dashRuns_append {before : List Char} (h : ∀ c ∈ before, isSlugChar c = false)
    (cs : List Char) :
    (dashRuns false (before ++ cs)).dropWhile (· = '-') =
      (dashRuns false cs).dropWhile (· = '-') := by
  induction before with
  | nil => rfl
  | cons c before ih =>
    obtain ⟨hc, hrest⟩ := List.forall_mem_cons.mp h
    rw [List.cons_append, dashRuns, hc]
    exact (dropWhile_dashRuns true (before ++ cs)).trans (ih hrest)

theorem dashRuns_blank {cs : List Char} (h : ∀ c ∈ cs, isSlugChar c = false) (inRun : Bool) :
    ∀ c ∈ dashRuns inRun cs, c = '-' := by
  induction cs generalizing inRun with
  | nil => exact List.forall_mem_nil _
  | cons c cs ih =>
    obtain ⟨hc, hrest⟩ := List.forall_mem_cons.mp h
    rw [dashRuns, hc]
    cases inRun with
    | false => exact List.forall_mem_cons.mpr ⟨rfl, ih hrest true⟩
    | true => exact ih hrest true

/-- What is behind the last letter or digit becomes a dash, or nothing. -/
theorem dashRuns_append {after : List Char} (h : ∀ c ∈ after, isSlugChar c = false)
    (inRun : Bool) (cs : List Char) :
    ∃ dashes, (∀ c ∈ dashes, c = '-') ∧
      dashRuns inRun (cs ++ after) = dashRuns inRun cs ++ dashes := by
  induction cs generalizing inRun with
  | nil => exact ⟨dashRuns inRun after, dashRuns_blank h inRun, rfl⟩
  | cons c cs ih =>
    rw [List.cons_append, dashRuns, dashRuns]
    split
    · obtain ⟨dashes, hdashes, heq⟩ := ih false
      exact ⟨dashes, hdashes, congrArg (c :: ·) heq⟩
    · obtain ⟨dashes, hdashes, heq⟩ := ih true
      refine ⟨dashes, hdashes, ?_⟩
      split
      · exact heq
      · exact congrArg ('-' :: ·) heq

theorem stripDashes_append {dashes : List Char} (h : ∀ c ∈ dashes, c = '-') (cs : List Char) :
    stripDashes (cs ++ dashes) = stripDashes cs := by
  have hdash : ∀ c ∈ dashes, decide (c = '-') = true := fun c hc => decide_eq_true (h c hc)
  rw [stripDashes, stripDashes, List.dropWhile_append]
  split
  · next hnone =>
    rw [List.isEmpty_iff.mp hnone, ← List.append_nil dashes, List.dropWhile_append_of_pos hdash]
    rfl
  · have hback : ∀ c ∈ dashes.reverse, decide (c = '-') = true := fun c hc =>
      hdash c (List.mem_reverse.mp hc)
    rw [List.reverse_append, List.dropWhile_append_of_pos hback]

/-- Blanks on either side leave the text between the dashes as it is. -/
theorem stripDashes_dashRuns {before after : List Char}
    (hbefore : ∀ c ∈ before, isSlugChar c = false) (hafter : ∀ c ∈ after, isSlugChar c = false)
    (cs : List Char) :
    stripDashes (dashRuns false (before ++ cs ++ after)) = stripDashes (dashRuns false cs) := by
  obtain ⟨dashes, hdashes, heq⟩ := dashRuns_append hafter false (before ++ cs)
  rw [heq, stripDashes_append hdashes, stripDashes, dropWhile_dashRuns_append hbefore, stripDashes]

namespace TagsPlatform

/-- Around a text there are blanks before and after, and the text becomes what it does
alone. -/
def KeepsBlanksAround (f : String → String) : Prop :=
  ∀ before text after : List Char, (∀ c ∈ before, isSpace c = true) →
    (∀ c ∈ after, isSpace c = true) →
    ∃ before' after' : List Char, (∀ c ∈ before', isSpace c = true) ∧
      (∀ c ∈ after', isSpace c = true) ∧
      (f (String.ofList (before ++ text ++ after))).toList =
        before' ++ (f (String.ofList text)).toList ++ after'

/-- Blanks are normalized to blanks, they have no case, and letters next to them are treated
as at an end of the text. -/
structure KeepsBlanks (p : TagsPlatform) : Prop where
  normalizeNFD : KeepsBlanksAround p.normalizeNFD
  toLowerCase : KeepsBlanksAround p.toLowerCase

variable {p : TagsPlatform}

theorem slugify_trim (hp : p.KeepsBlanks) (rawName : String) :
    p.slugify (trim rawName) = p.slugify rawName := by
  obtain ⟨before, after, hbefore, hafter, hname⟩ := exists_blanks rawName
  obtain ⟨before₁, after₁, hbefore₁, hafter₁, hnormal⟩ :=
    hp.normalizeNFD before (trim rawName).toList after hbefore hafter
  rw [← hname, String.ofList_toList, String.ofList_toList] at hnormal
  have hkept : ∀ blanks : List Char, (∀ c ∈ blanks, isSpace c = true) →
      (blanks.filter fun c => !isCombiningMark c) = blanks := fun blanks hblanks =>
    List.filter_eq_self.mpr fun c hc => by rw [isCombiningMark_of_isSpace (hblanks c hc)]; rfl
  obtain ⟨before₂, after₂, hbefore₂, hafter₂, hlowered⟩ :=
    hp.toLowerCase before₁ ((p.normalizeNFD (trim rawName)).toList.filter fun c =>
      !isCombiningMark c) after₁ hbefore₁ hafter₁
  have hruns := stripDashes_dashRuns (fun c hc => isSlugChar_of_isSpace (hbefore₂ c hc))
    (fun c hc => isSlugChar_of_isSpace (hafter₂ c hc)) (p.toLowerCase (String.ofList
      ((p.normalizeNFD (trim rawName)).toList.filter fun c => !isCombiningMark c))).toList
  simp only [slugify]
  rw [hnormal, List.filter_append, List.filter_append, hkept before₁ hbefore₁,
    hkept after₁ hafter₁, hlowered, hruns]

end TagsPlatform

/-! ## Runs of `attachToStream` -/

structure AttachCall where
  now : Date
  streamId : Int
  rawName : String

namespace Tags.TagsService

variable {σ : Type} (p : TagsPlatform) (tags : TagsStore σ)

/-- The store after the calls, whatever was answered to them. -/
def attachAll (calls : List AttachCall) (s : σ) : σ :=
  calls.foldl (fun s c => (attachToStream p tags c.now c.streamId c.rawName s).2) s

/-- What every upsert and every link preserves, the calls preserve. -/
theorem attachAll_invariant {I : σ → Prop}
    (hupsert : ∀ now rawName s, p.slugify rawName ≠ "" → I s →
      I (tags.upsertBySlug now (trim rawName) (p.slugify rawName) s).2)
    (hlink : ∀ now streamId tagId s, I s → I (tags.attachToStream now streamId tagId s).2)
    (calls : List AttachCall) {s : σ} (hs : I s) : I (attachAll p tags calls s) := by
  refine List.foldlRecOn calls _ hs fun s hs c _ => ?_
  unfold attachToStream
  by_cases hslug : p.slugify c.rawName = ""
  · simp only [if_pos hslug]
    exact hs
  · simp only [if_neg hslug]
    have hupserted := hupsert c.now c.rawName s hslug hs
    split
    · next hresult => exact hresult ▸ hupserted
    · next tag s₁ hresult =>
      rw [hresult] at hupserted
      have hlinked := hlink c.now c.streamId tag.id s₁ hupserted
      split
      · next hattached =>
        rw [hattached] at hlinked
        exact hlinked
      · next hattached =>
        rw [hattached] at hlinked
        exact hlinked

end Tags.TagsService

/-- What `attachToStream` makes of a raw name. -/
def Labels (p : TagsPlatform) (name slug : String) : Prop :=
  slug ≠ "" ∧ ∃ rawName, name = trim rawName ∧ slug = p.slugify rawName

open Tags (TagsService.attachAll TagsService.attachAll_invariant)

namespace TagsDbRepository

variable {p : TagsPlatform}

theorem upsertBySlug_rows (now : Date) (name slug : String) (db : TagsDatabase) :
    (upsertBySlug now name slug db).2.tags.rows = db.tags.rows ∨
      (upsertBySlug now name slug db).2.tags.rows = db.tags.rows.map (TagsTable.named name slug) ∨
      (upsertBySlug now name slug db).2.tags.rows =
        db.tags.rows ++ [db.tags.created now.toTimestamptz name slug] := by
  unfold upsertBySlug
  split
  · split
    · split
      · exact .inr (.inl rfl)
      · exact .inr (.inr rfl)
    · exact .inl rfl
  · exact .inl rfl

theorem attachToStream_tags (now : Date) (streamId tagId : Int) (db : TagsDatabase) :
    (attachToStream p now streamId tagId db).2.tags = db.tags := by
  unfold attachToStream
  split
  · split
    · rfl
    · split
      · rfl
      · rfl
  · rfl

/-- The tags of the table are labelled by names that were attached. -/
def Labelled (p : TagsPlatform) (db : TagsDatabase) : Prop :=
  ∀ row ∈ db.tags.rows, Labels p row.name row.slug

theorem Labelled.upsertBySlug {db : TagsDatabase} (h : Labelled p db) (now : Date)
    {name slug : String} (hlabels : Labels p name slug) :
    Labelled p (TagsDbRepository.upsertBySlug now name slug db).2 := by
  rcases upsertBySlug_rows now name slug db with hrows | hrows | hrows
  · rw [Labelled, hrows]
    exact h
  · rw [Labelled, hrows]
    refine List.forall_mem_map.mpr fun row hrow => ?_
    rw [TagsTable.named]
    split
    · next hslug => exact hslug ▸ hlabels
    · exact h row hrow
  · rw [Labelled, hrows]
    intro row hrow
    rcases List.mem_append.mp hrow with hold | hnew
    · exact h row hold
    · rw [List.mem_singleton.mp hnew]
      exact hlabels

theorem labelled_attachAll (p : TagsPlatform) (calls : List AttachCall) :
    Labelled p (TagsService.attachAll p (repository p) calls TagBackends.initial.db) := by
  refine TagsService.attachAll_invariant p (repository p) ?_ ?_ calls ?_
  · intro now rawName db hslug hdb
    have hlabels : Labels p (trim rawName) (p.slugify rawName) := ⟨hslug, rawName, rfl, rfl⟩
    rw [TagBackends.repository_upsertBySlug]
    exact hdb.upsertBySlug now hlabels
  · intro now streamId tagId db hdb
    rw [TagBackends.repository_attachToStream, Labelled, attachToStream_tags]
    exact hdb
  · exact List.forall_mem_nil _

/-- Each tag has the slug of its name. -/
def Canonical (p : TagsPlatform) (db : TagsDatabase) : Prop :=
  ∀ row ∈ db.tags.rows, p.slugify row.name = row.slug

theorem Labelled.canonical (hp : p.KeepsBlanks) {db : TagsDatabase} (h : Labelled p db) :
    Canonical p db := by
  intro row hrow
  obtain ⟨-, rawName, hname, hslug⟩ := h row hrow
  rw [hname, hslug, TagsPlatform.slugify_trim hp]

/-- Names are apart because their slugs are, without the constraint on the names. -/
theorem Canonical.nodup_names {db : TagsDatabase} (h : Canonical p db) :
    (db.tags.rows.map TagRow.name).Nodup := by
  have hslugs : (db.tags.rows.map TagRow.name).map p.slugify = db.tags.rows.map TagRow.slug := by
    rw [List.map_map]
    exact List.map_congr_left h
  exact .of_map p.slugify (hslugs ▸ db.tags.uniqueSlug)

/-- A name that is there is there under its own slug. -/
theorem Canonical.available (hp : p.KeepsBlanks) {db : TagsDatabase} (h : Canonical p db)
    (rawName : String) : db.tags.Available (trim rawName) (p.slugify rawName) := by
  intro row hrow hslug hname
  apply hslug
  rw [← h row hrow, hname, TagsPlatform.slugify_trim hp]

/-- The tables after the calls. -/
def catalogue (p : TagsPlatform) (calls : List AttachCall) : TagsDatabase :=
  TagsService.attachAll p (repository p) calls TagBackends.initial.db

/-- Every tag has the slug of its name, slugs and names are apart, and no upsert meets the name
of a tag with another slug: one is refused only for what is wrong with the name itself, or
when the ids have run out. -/
theorem catalogue_canonical (hp : p.KeepsBlanks) (calls : List AttachCall) :
    Canonical p (catalogue p calls) ∧
      ((catalogue p calls).tags.rows.map TagRow.slug).Nodup ∧
      ((catalogue p calls).tags.rows.map TagRow.name).Nodup ∧
      ∀ now rawName,
        (catalogue p calls).tags.Available (trim rawName) (p.slugify rawName) ∧
          ((∃ tag db', upsertBySlug now (trim rawName) (p.slugify rawName) (catalogue p calls) =
              (.ok tag, db')) ↔
            (Param.text (trim rawName)).accepted = true ∧
              (catalogue p calls).tags.nextId ≤ 2147483647 ∧
              fitsVarchar 64 (trim rawName) = true) := by
  have hcanonical : Canonical p (catalogue p calls) := (labelled_attachAll p calls).canonical hp
  refine ⟨hcanonical, (catalogue p calls).tags.uniqueSlug, hcanonical.nodup_names,
    fun now rawName => ?_⟩
  have havailable := hcanonical.available hp rawName
  refine ⟨havailable, ?_⟩
  rcases TagBackends.upsertBySlug_ok_or now (trim rawName) (slugify_accepted rawName p)
    (slugify_fits rawName p) with ⟨haccepted, hnext, hfits, -, htag⟩ | ⟨hnot, db', herror⟩
  · exact iff_of_true htag ⟨haccepted, hnext, hfits⟩
  · refine iff_of_false ?_ fun hgood => hnot ⟨hgood.1, hgood.2.1, hgood.2.2, havailable⟩
    rintro ⟨tag, db'', hok⟩
    cases herror.symm.trans hok

end TagsDbRepository

open TagBackends (plainTags)

theorem toLower_of_isSpace {c : Char} (h : isSpace c = true) : c.toLower = c := by
  refine dif_neg ?_
  rintro ⟨hlow, hhigh⟩
  have hlow : 65 ≤ c.toNat := UInt32.le_iff_toNat_le.mp hlow
  have hhigh : c.toNat ≤ 90 := UInt32.le_iff_toNat_le.mp hhigh
  have hcode := toNat_of_isSpace h
  omega

/-- Blanks stay as they are around plain letters. -/
theorem keepsBlanks_plainTags : plainTags.KeepsBlanks where
  normalizeNFD before text after hbefore hafter := by
    refine ⟨before, after, hbefore, hafter, ?_⟩
    show (String.ofList (before ++ text ++ after)).toList =
      before ++ (String.ofList text).toList ++ after
    rw [String.toList_ofList, String.toList_ofList]
  toLowerCase before text after hbefore hafter := by
    refine ⟨before, after, hbefore, hafter, ?_⟩
    have hkept : ∀ blanks : List Char, (∀ c ∈ blanks, isSpace c = true) →
        blanks.map Char.toLower = blanks := fun blanks hblanks => by
      rw [List.map_congr_left fun c hc => toLower_of_isSpace (hblanks c hc), List.map_id']
    show (String.ofList ((String.ofList (before ++ text ++ after)).toList.map
        Char.toLower)).toList =
      before ++ (String.ofList ((String.ofList text).toList.map Char.toLower)).toList ++ after
    simp only [String.toList_ofList, List.map_append, hkept before hbefore, hkept after hafter]

/-- A name between blanks, and the same words in other letters. -/
def relabelled : List AttachCall :=
  [⟨⟨1⟩, 1, "  Live Streaming! "⟩, ⟨⟨2⟩, 1, "live streaming"⟩, ⟨⟨3⟩, 1, "C++"⟩]

theorem catalogue_canonical_relabelled :
    plainTags.KeepsBlanks ∧
      (TagsDbRepository.catalogue plainTags relabelled).tags.rows.map TagRow.name =
        ["live streaming", "C++"] ∧
      TagsDbRepository.Canonical plainTags (TagsDbRepository.catalogue plainTags relabelled) :=
  ⟨keepsBlanks_plainTags, by decide +kernel,
    (TagsDbRepository.catalogue_canonical keepsBlanks_plainTags relabelled).1⟩

end Api
end XStreamRoll
