/-
The texts that `slugify` makes, against the pattern that `ListStreamsQueryDto` asks of a tag:
`^[a-z0-9]+(?:-[a-z0-9]+)*$`.

All the steps before the cut leave words of letters and digits with single dashes between
them.  The cut at 64 characters comes last, and may fall behind a dash.
-/
import XStreamRoll.Api.Tags.Agreement
import Mathlib.Data.List.Chain

namespace XStreamRoll
namespace Api

/-! ## The pattern -/

def IsWord (cs : List Char) : Prop := cs ≠ [] ∧ ∀ c ∈ cs, isSlugChar c = true

/-- `^[a-z0-9]+(?:-[a-z0-9]+)*$` -/
def MatchesSlug (cs : List Char) : Prop :=
  ∃ word words, IsWord word ∧ (∀ w ∈ words, IsWord w) ∧ cs = ['-'].intercalate (word :: words)

/-- The pattern as an automaton.  The flag tells whether a word has begun. -/
def slugFrom : Bool → List Char → Bool
  | inWord, [] => inWord
  | inWord, c :: cs =>
    if isSlugChar c then slugFrom true cs else if c = '-' ∧ inWord = true then slugFrom false cs
    else false

theorem slugFrom_append {word : List Char} (hword : ∀ c ∈ word, isSlugChar c = true)
    (inWord : Bool) (rest : List Char) :
    slugFrom inWord (word ++ rest) = slugFrom (inWord || !word.isEmpty) rest := by
  induction word generalizing inWord with
  | nil => simp
  | cons c word ih =>
    rw [List.cons_append, slugFrom, if_pos (hword c List.mem_cons_self),
      ih fun d hd => hword d (List.mem_cons_of_mem c hd)]
    simp

theorem slugFrom_intercalate {word : List Char} {words : List (List Char)} {inWord : Bool}
    (hword : ∀ c ∈ word, isSlugChar c = true) (hwords : ∀ w ∈ words, IsWord w)
    (hbegun : (inWord || !word.isEmpty) = true) :
    slugFrom inWord (['-'].intercalate (word :: words)) = true := by
  induction words generalizing word inWord with
  | nil =>
    rw [List.intercalate_singleton, ← List.append_nil word, slugFrom_append hword, hbegun]
    rfl
  | cons next words ih =>
    obtain ⟨hnext, hrest⟩ := List.forall_mem_cons.mp hwords
    have hnonempty : (false || !next.isEmpty) = true := by simpa using hnext.1
    rw [List.intercalate_cons_cons, List.append_assoc, slugFrom_append hword, hbegun]
    exact ih hnext.2 hrest hnonempty

/-- What is left to read is a part of a word, and words behind it. -/
theorem exists_words {cs : List Char} {inWord : Bool} (h : slugFrom inWord cs = true) :
    ∃ word words, (inWord = true ∨ word ≠ []) ∧ (∀ c ∈ word, isSlugChar c = true) ∧
      (∀ w ∈ words, IsWord w) ∧ cs = ['-'].intercalate (word :: words) := by
  induction cs generalizing inWord with
  | nil => exact ⟨[], [], .inl h, by simp, by simp, rfl⟩
  | cons c cs ih =>
    rw [slugFrom] at h
    split at h
    · next hc =>
      obtain ⟨word, words, -, hword, hwords, rfl⟩ := ih h
      refine ⟨c :: word, words, .inr (List.cons_ne_nil c word), ?_, hwords, ?_⟩
      · exact List.forall_mem_cons.mpr ⟨hc, hword⟩
      · cases words with
        | nil => rfl
        | cons next words =>
          rw [List.intercalate_cons_cons, List.intercalate_cons_cons]
          rfl
    · split at h
      · next hdash =>
        obtain ⟨rfl, rfl⟩ := hdash
        obtain ⟨word, words, hne, hword, hwords, rfl⟩ := ih h
        have hfirst : IsWord word := ⟨hne.resolve_left Bool.false_ne_true, hword⟩
        refine ⟨[], word :: words, .inl rfl, by simp, List.forall_mem_cons.mpr ⟨hfirst, hwords⟩, ?_⟩
        rw [List.intercalate_cons_cons]
        rfl
      · cases h

theorem matchesSlug_iff {cs : List Char} : MatchesSlug cs ↔ slugFrom false cs = true := by
  constructor
  · rintro ⟨word, words, hword, hwords, rfl⟩
    exact slugFrom_intercalate hword.2 hwords (by simpa using hword.1)
  · intro h
    obtain ⟨word, words, hne, hword, hwords, rfl⟩ := exists_words h
    exact ⟨word, words, ⟨hne.resolve_left Bool.false_ne_true, hword⟩, hwords, rfl⟩

instance (cs : List Char) : Decidable (MatchesSlug cs) := decidable_of_iff _ matchesSlug_iff.symm

/-! ## Single dashes -/

/-- Letters, digits and dashes, no two of which are neighbours. -/
structure SingleDashes (cs : List Char) : Prop where
  chars : ∀ c ∈ cs, isSlugChar c = true ∨ c = '-'
  apart : cs.IsChain fun a b => a = '-' → b ≠ '-'

theorem isSlugChar_dash : isSlugChar '-' = false := by decide

theorem singleDashes_cons {c : Char} {cs : List Char} :
    SingleDashes (c :: cs) ↔
      (isSlugChar c = true ∨ c = '-') ∧ (c = '-' → cs.head? ≠ some '-') ∧ SingleDashes cs := by
  constructor
  · rintro ⟨hchars, hapart⟩
    obtain ⟨hfirst, hrest⟩ := List.forall_mem_cons.mp hchars
    obtain ⟨hhead, htail⟩ := List.isChain_cons.mp hapart
    exact ⟨hfirst, fun hc hdash => hhead '-' hdash hc rfl, hrest, htail⟩
  · rintro ⟨hfirst, hhead, hrest⟩
    refine ⟨List.forall_mem_cons.mpr ⟨hfirst, hrest.chars⟩, List.isChain_cons.mpr ⟨?_, hrest.apart⟩⟩
    rintro d hd hc rfl
    exact hhead hc hd

/-- The automaton accepts single dashes with a word on either side. -/
theorem slugFrom_iff {cs : List Char} {inWord : Bool} :
    slugFrom inWord cs = true ↔
      SingleDashes cs ∧ (inWord = false → cs ≠ [] ∧ cs.head? ≠ some '-') ∧
        cs.getLast? ≠ some '-' := by
  induction cs generalizing inWord with
  | nil =>
    have hnil : SingleDashes [] := ⟨by simp, List.isChain_nil⟩
    cases inWord with
    | false => simp [slugFrom]
    | true => simp [slugFrom, hnil]
  | cons c cs ih =>
    rw [slugFrom, singleDashes_cons]
    by_cases hc : isSlugChar c = true
    · have hne : c ≠ '-' := by
        rintro rfl
        exact absurd hc (by decide)
      rw [if_pos hc, ih]
      cases cs with
      | nil => simp [hc, hne]
      | cons d cs => simp [hc, hne, List.getLast?_cons_cons]
    · rw [if_neg hc]
      by_cases hdash : c = '-'
      · subst hdash
        cases inWord with
        | false => simp
        | true =>
          rw [if_pos ⟨rfl, rfl⟩, ih]
          cases cs with
          | nil => simp
          | cons d cs => simp [List.getLast?_cons_cons, isSlugChar_dash, and_left_comm, and_assoc]
      · simp [hc, hdash]

/-! ## The steps -/

theorem singleDashes_dashRuns (inRun : Bool) (cs : List Char) :
    SingleDashes (dashRuns inRun cs) ∧ (inRun = true → (dashRuns inRun cs).head? ≠ some '-') := by
  induction cs generalizing inRun with
  | nil => exact ⟨⟨by simp [dashRuns], List.isChain_nil⟩, by simp [dashRuns]⟩
  | cons c cs ih =>
    rw [dashRuns]
    split
    · next hc =>
      have hne : c ≠ '-' := by
        rintro rfl
        exact absurd hc (by decide)
      exact ⟨singleDashes_cons.mpr ⟨.inl hc, fun hdash => absurd hdash hne, (ih false).1⟩,
        fun _ hdash => hne (Option.some.inj hdash)⟩
    · split
      · next hrun => exact ⟨(ih true).1, fun _ => (ih true).2 rfl⟩
      · next hrun =>
        exact ⟨singleDashes_cons.mpr ⟨.inr rfl, fun _ => (ih true).2 rfl, (ih true).1⟩,
          fun h => absurd h hrun⟩

theorem dashRuns_of_singleDashes {cs : List Char} (h : SingleDashes cs) : dashRuns false cs = cs ∧
    (cs.head? ≠ some '-' → dashRuns true cs = cs) := by
  induction cs with
  | nil => exact ⟨rfl, fun _ => rfl⟩
  | cons c cs ih =>
    obtain ⟨hchar, hhead, hrest⟩ := singleDashes_cons.mp h
    obtain ⟨hfalse, htrue⟩ := ih hrest
    rcases hchar with hc | rfl
    · simp only [dashRuns, if_pos hc, hfalse, implies_true, and_self]
    · simp [dashRuns, isSlugChar_dash, htrue (hhead rfl)]

theorem SingleDashes.inner {cs ds : List Char} (h : SingleDashes cs) (hinner : ds.IsInfix cs) :
    SingleDashes ds :=
  ⟨fun c hc => h.chars c (hinner.subset hc), List.IsChain.infix h.apart hinner⟩

theorem stripDashes_inner (cs : List Char) : (stripDashes cs).IsInfix cs := by
  have hback := List.reverse_prefix.mpr
    (List.dropWhile_suffix (· = '-') (l := (cs.dropWhile (· = '-')).reverse))
  rw [List.reverse_reverse] at hback
  exact hback.isInfix.trans (List.dropWhile_suffix _).isInfix

theorem head?_dropWhile_dash (cs : List Char) : (cs.dropWhile (· = '-')).head? ≠ some '-' := by
  intro h
  have hnot := List.head?_dropWhile_not (· = '-') cs
  rw [h] at hnot
  simp at hnot

theorem dropWhile_dash_of_head {cs : List Char} (h : cs.head? ≠ some '-') :
    cs.dropWhile (· = '-') = cs := by
  cases cs with
  | nil => rfl
  | cons c cs =>
    have hne : c ≠ '-' := fun hdash => h (congrArg some hdash)
    rw [List.dropWhile_cons_of_neg (by simpa using hne)]

theorem stripDashes_ends (cs : List Char) :
    (stripDashes cs).head? ≠ some '-' ∧ (stripDashes cs).getLast? ≠ some '-' := by
  constructor
  · intro hhead
    -- What is kept begins as the text does without the dashes at its front.
    obtain ⟨rest, hrest⟩ := List.reverse_prefix.mpr
      (List.dropWhile_suffix (· = '-') (l := (cs.dropWhile (· = '-')).reverse))
    rw [List.reverse_reverse] at hrest
    apply head?_dropWhile_dash cs
    rw [← hrest, List.head?_append]
    exact congrArg (·.or rest.head?) hhead
  · rw [stripDashes, List.getLast?_reverse]
    exact head?_dropWhile_dash _

theorem stripDashes_of_ends {cs : List Char} (hhead : cs.head? ≠ some '-')
    (hlast : cs.getLast? ≠ some '-') : stripDashes cs = cs := by
  have hback : cs.reverse.head? ≠ some '-' := by rwa [List.head?_reverse]
  rw [stripDashes, dropWhile_dash_of_head hhead, dropWhile_dash_of_head hback, List.reverse_reverse]

/-! ## The cut -/

namespace TagsPlatform

/-- All the steps before the cut. -/
def uncut (input : String) (p : TagsPlatform) : List Char :=
  let marks := (p.normalizeNFD input).toList.filter fun c => !isCombiningMark c
  stripDashes (dashRuns false (p.toLowerCase (String.ofList marks)).toList)

/-- Plain letters in lower case, digits and dashes are normalized and in lower case. -/
structure KeepsSlugs (p : TagsPlatform) : Prop where
  normalizeNFD : ∀ text, (∀ c ∈ text.toList, isSlugChar c = true ∨ c = '-') →
    p.normalizeNFD text = text
  toLowerCase : ∀ text, (∀ c ∈ text.toList, isSlugChar c = true ∨ c = '-') →
    p.toLowerCase text = text

variable {p : TagsPlatform} {input : String}

theorem toList_slugify (p : TagsPlatform) (input : String) :
    (p.slugify input).toList = (p.uncut input).take 64 := by
  rw [slugify, String.toList_ofList, uncut]

theorem singleDashes_uncut (p : TagsPlatform) (input : String) : SingleDashes (p.uncut input) :=
  (singleDashes_dashRuns false _).1.inner (stripDashes_inner _)

theorem isCombiningMark_of_slug {c : Char} (h : isSlugChar c = true ∨ c = '-') :
    isCombiningMark c = false := by
  have hsmall : c.toNat ≤ 122 := by
    rcases h with hslug | rfl
    · simp only [isSlugChar, Bool.or_eq_true, Bool.and_eq_true, decide_eq_true_eq, Char.le_def,
        UInt32.le_iff_toNat_le] at hslug
      rcases hslug with ⟨-, hletter⟩ | ⟨-, hdigit⟩
      · exact hletter
      · exact le_trans hdigit (by decide)
    · decide
  rw [isCombiningMark, Bool.and_eq_false_iff, decide_eq_false_iff_not]
  exact .inl (by omega)

/-- A text of single dashes goes through the steps as far as its ends are concerned. -/
theorem uncut_of_singleDashes (hp : p.KeepsSlugs) (h : SingleDashes input.toList) :
    p.uncut input = stripDashes input.toList := by
  have hmarks : (input.toList.filter fun c => !isCombiningMark c) = input.toList :=
    List.filter_eq_self.mpr fun c hc => by rw [isCombiningMark_of_slug (h.chars c hc)]; rfl
  rw [uncut, hp.normalizeNFD input h.chars, hmarks, String.ofList_toList,
    hp.toLowerCase input h.chars, (dashRuns_of_singleDashes h).1]

/-- The cut falls behind a dash. -/
def CutBehindDash (input : String) (p : TagsPlatform) : Prop :=
  64 < (p.uncut input).length ∧ (p.uncut input)[63]? = some '-'

/-- A slug is empty, or has the pattern and fits. -/
def WellFormed (slug : String) : Prop := slug = "" ∨ MatchesSlug slug.toList ∧ slug.length ≤ 64

theorem getLast?_slugify (p : TagsPlatform) (input : String) :
    (p.slugify input).toList.getLast? = some '-' ↔ p.CutBehindDash input := by
  have hlast := (stripDashes_ends (dashRuns false (p.toLowerCase (String.ofList
    ((p.normalizeNFD input).toList.filter fun c => !isCombiningMark c))).toList)).2
  change (p.uncut input).getLast? ≠ some '-' at hlast
  rw [toList_slugify, CutBehindDash]
  rcases Nat.lt_or_ge 64 (p.uncut input).length with hlong | hshort
  · have hthere : 63 < (p.uncut input).length := Nat.lt_of_succ_lt hlong
    rw [List.getLast?_take, if_neg (by decide), List.getElem?_eq_getElem hthere, Option.some_or]
    exact ⟨fun h => ⟨hlong, h⟩, And.right⟩
  · rw [List.take_of_length_le hshort]
    exact iff_of_false hlast fun h => absurd h.1 (Nat.not_lt.mpr hshort)

theorem singleDashes_slugify (p : TagsPlatform) (input : String) :
    SingleDashes (p.slugify input).toList := by
  rw [toList_slugify]
  exact (singleDashes_uncut p input).inner (List.take_prefix 64 _).isInfix

theorem head?_slugify (p : TagsPlatform) (input : String) :
    (p.slugify input).toList.head? ≠ some '-' := by
  have hhead := (stripDashes_ends (dashRuns false (p.toLowerCase (String.ofList
    ((p.normalizeNFD input).toList.filter fun c => !isCombiningMark c))).toList)).1
  change (p.uncut input).head? ≠ some '-' at hhead
  rw [toList_slugify, List.head?_take, if_neg (by decide)]
  exact hhead

/-- The pattern holds of a slug that has something and no dash at its end. -/
theorem wellFormed_iff (p : TagsPlatform) (input : String) :
    WellFormed (p.slugify input) ↔ ¬p.CutBehindDash input := by
  have hfits : (p.slugify input).length ≤ 64 := by
    rw [← String.length_toList, toList_slugify]
    exact List.length_take_le 64 _
  rw [WellFormed, matchesSlug_iff, slugFrom_iff, ← getLast?_slugify]
  constructor
  · rintro (hempty | ⟨⟨-, -, hlast⟩, -⟩)
    · rw [hempty]
      decide
    · exact hlast
  · intro hlast
    by_cases hempty : (p.slugify input).toList = []
    · exact .inl (String.toList_eq_nil_iff.mp hempty)
    · exact .inr ⟨⟨singleDashes_slugify p input, fun _ => ⟨hempty, head?_slugify p input⟩, hlast⟩,
        hfits⟩

/-- A slug has lost nothing when it is made a slug again, unless it ends in a dash. -/
theorem slugify_slugify_iff (hp : p.KeepsSlugs) (input : String) :
    p.slugify (p.slugify input) = p.slugify input ↔ ¬p.CutBehindDash input := by
  have hfits : (p.slugify input).toList.length ≤ 64 := by
    rw [toList_slugify]
    exact List.length_take_le 64 _
  have hstripped : (stripDashes (p.slugify input).toList).length ≤ 64 :=
    le_trans (stripDashes_sublist _).length_le hfits
  have hagain : (p.slugify (p.slugify input)).toList = stripDashes (p.slugify input).toList := by
    rw [toList_slugify, uncut_of_singleDashes hp (singleDashes_slugify p input),
      List.take_of_length_le hstripped]
  rw [← getLast?_slugify, ← String.toList_inj, hagain]
  constructor
  · intro heq
    rw [← heq]
    exact (stripDashes_ends _).2
  · exact stripDashes_of_ends (head?_slugify p input)

/-- A slug is well formed, and the slug of itself, exactly when the cut does not fall behind a
dash. -/
theorem slugify_wellFormed_iff (hp : p.KeepsSlugs) (input : String) :
    WellFormed (p.slugify input) ∧ p.slugify (p.slugify input) = p.slugify input ↔
      ¬p.CutBehindDash input := by
  rw [wellFormed_iff, slugify_slugify_iff hp, and_self]

end TagsPlatform

open TagBackends (plainTags)

theorem toLower_of_slug {c : Char} (h : isSlugChar c = true ∨ c = '-') : c.toLower = c := by
  refine dif_neg ?_
  rintro ⟨hlow, hhigh⟩
  have hlow : 65 ≤ c.val.toNat := UInt32.le_iff_toNat_le.mp hlow
  have hhigh : c.val.toNat ≤ 90 := UInt32.le_iff_toNat_le.mp hhigh
  rcases h with hslug | rfl
  · simp only [isSlugChar, Bool.or_eq_true, Bool.and_eq_true, decide_eq_true_eq, Char.le_def,
      UInt32.le_iff_toNat_le] at hslug
    rcases hslug with ⟨hletter, -⟩ | ⟨-, hdigit⟩
    · exact absurd (le_trans hletter hhigh) (by decide)
    · exact absurd (le_trans hlow hdigit) (by decide)
  · exact absurd hlow (by decide)

/-- Plain letters are normalized, and in lower case they stay as they are. -/
theorem keepsSlugs_plainTags : plainTags.KeepsSlugs where
  normalizeNFD _ _ := rfl
  toLowerCase text h := by
    show String.ofList (text.toList.map Char.toLower) = text
    rw [List.map_congr_left fun c hc => toLower_of_slug (h c hc), List.map_id',
      String.ofList_toList]

/-- The slug of a name with a blank. -/
theorem slugify_wellFormed_words :
    plainTags.KeepsSlugs ∧ TagsPlatform.WellFormed (plainTags.slugify "Live Streaming") ∧
      plainTags.slugify (plainTags.slugify "Live Streaming") =
        plainTags.slugify "Live Streaming" := by
  have hshort : ¬plainTags.CutBehindDash "Live Streaming" := fun hcut => absurd hcut.1 (by decide)
  exact ⟨keepsSlugs_plainTags,
    (TagsPlatform.slugify_wellFormed_iff keepsSlugs_plainTags "Live Streaming").mpr hshort⟩

theorem slugify_plainTags (cs : List Char) : plainTags.slugify (String.ofList cs) =
    String.ofList ((stripDashes (dashRuns false
      ((cs.filter fun c => !isCombiningMark c).map Char.toLower))).take 64) := by
  simp only [TagsPlatform.slugify, plainTags, String.toList_ofList]

/-- Sixty-three letters, a blank and one letter more. -/
def cutName : String := String.ofList (List.replicate 63 'a' ++ [' ', 'b'])

/-- The dash between the words is the last character that is kept. -/
theorem slugify_cutName :
    plainTags.slugify cutName = String.ofList (List.replicate 63 'a' ++ ['-']) ∧
      ¬TagsPlatform.WellFormed (plainTags.slugify cutName) ∧
      plainTags.slugify (plainTags.slugify cutName) = String.ofList (List.replicate 63 'a') := by
  have hslug : plainTags.slugify cutName = String.ofList (List.replicate 63 'a' ++ ['-']) :=
    (slugify_plainTags _).trans (congrArg String.ofList (by decide +kernel))
  refine ⟨hslug, ?_, ?_⟩
  · rw [hslug, TagsPlatform.WellFormed, String.toList_ofList]
    decide
  · rw [hslug]
    exact (slugify_plainTags _).trans (congrArg String.ofList (by decide +kernel))

end Api
end XStreamRoll
