/-
Markup in sanitized texts.

`sanitize-html` takes the markup out of a text and escapes what is left, and
`decodeBasicEntities` decodes that, so whatever the text spelled with entities is there
afterwards: `&lt;b&gt;` becomes a tag, and a second call takes it out.  A text is final
after one call when what has been decoded holds neither tags nor character references.

What `sanitize-html` takes for a tag is a parameter, with what its parser is documented to
do.  White space at the ends and runs of it make no difference to that.
-/
import Mathlib.Data.List.DropRight
import XStreamRoll.Api.Sanitize.Entities

namespace XStreamRoll
namespace Api

open Replace (Code Codebook Spells)

/-! ## White space -/

/-- `text.replace(/[\s\u00a0]+/g, " ").trim()` -/
def normal (text : List Char) : List Char := (trim (String.ofList (collapse false text))).toList

theorem normal_eq (text : List Char) :
    normal text = ((collapse false text).dropWhile isSpace).rdropWhile isSpace := by
  rw [normal, trim, String.toList_ofList, String.toList_ofList]
  rfl

theorem isSpace_space : isSpace ' ' = true := by decide

theorem length_collapse_le (inRun : Bool) (text : List Char) :
    (collapse inRun text).length ≤ text.length := by
  fun_induction collapse inRun text with
  | case1 => exact le_refl _
  | case2 c rest white ih => exact le_trans ih (Nat.le_succ _)
  | case3 inRun c rest white hrun ih => exact Nat.succ_le_succ ih
  | case4 inRun c rest ink ih => exact Nat.succ_le_succ ih

theorem collapse_append (inRun : Bool) (front back : List Char) :
    ∃ later, collapse inRun (front ++ back) = collapse inRun front ++ collapse later back := by
  fun_induction collapse inRun front with
  | case1 inRun => exact ⟨inRun, rfl⟩
  | case2 c rest white ih =>
    obtain ⟨later, same⟩ := ih
    refine ⟨later, ?_⟩
    rw [List.cons_append, collapse, if_pos white, if_pos rfl, same]
  | case3 inRun c rest white hrun ih =>
    obtain ⟨later, same⟩ := ih
    refine ⟨later, ?_⟩
    rw [List.cons_append, collapse, if_pos white, if_neg hrun, same, List.cons_append]
  | case4 inRun c rest ink ih =>
    obtain ⟨later, same⟩ := ih
    refine ⟨later, ?_⟩
    rw [List.cons_append, collapse, if_neg ink, same, List.cons_append]

theorem collapse_collapse (inRun : Bool) (text : List Char) :
    collapse inRun (collapse inRun text) = collapse inRun text := by
  fun_induction collapse inRun text with
  | case1 inRun => rfl
  | case2 c rest white ih => exact ih
  | case3 inRun c rest white hrun ih =>
    rw [collapse, if_pos isSpace_space, if_neg hrun, ih]
  | case4 inRun c rest ink ih => rw [collapse, if_neg ink, ih]

/-- A text that starts behind white space and is left as it is does not start with it. -/
theorem collapse_false_of_true {text : List Char} (same : collapse true text = text) :
    collapse false text = text := by
  cases text with
  | nil => rfl
  | cons c rest =>
    by_cases white : isSpace c = true
    · have shorter := length_collapse_le true rest
      rw [collapse, if_pos white, if_pos rfl] at same
      rw [same] at shorter
      exact absurd shorter (Nat.not_succ_le_self _)
    · rw [collapse, if_neg white] at same
      rw [collapse, if_neg white, same]

/-- A part of a text whose white space is in order is in order. -/
theorem collapse_inside {part text : List Char} (h : part <:+: text)
    (same : collapse false text = text) : collapse false part = part := by
  have front : ∀ {inRun front back}, collapse inRun (front ++ back) = front ++ back →
      collapse inRun front = front ∧ ∃ later, collapse later back = back := by
    intro inRun front back whole
    obtain ⟨later, split⟩ := collapse_append inRun front back
    rw [split] at whole
    have lengths := congrArg List.length whole
    have frontLe := length_collapse_le inRun front
    have backLe := length_collapse_le later back
    rw [List.length_append, List.length_append] at lengths
    obtain ⟨hfront, hback⟩ := List.append_inj whole (by omega)
    exact ⟨hfront, later, hback⟩
  obtain ⟨before, behind, rfl⟩ := h
  obtain ⟨-, later, rest⟩ := front (List.append_assoc before part behind ▸ same)
  have here := (front rest).1
  cases later with
  | false => exact here
  | true => exact collapse_false_of_true here

theorem normal_inside (text : List Char) : normal text <:+: collapse false text := by
  rw [normal_eq]
  exact (List.rdropWhile_prefix _ _).isInfix.trans (List.dropWhile_suffix _).isInfix

theorem length_normal_le (text : List Char) : (normal text).length ≤ text.length :=
  le_trans (normal_inside text).length_le (length_collapse_le false text)

theorem normal_normal (text : List Char) : normal (normal text) = normal text := by
  have inOrder := collapse_inside (normal_inside text) (collapse_collapse false text)
  rw [normal_eq, inOrder, normal_eq]
  generalize collapse false text = whole
  have ends := List.rdropWhile_idempotent isSpace (whole.dropWhile isSpace)
  have starts : ((whole.dropWhile isSpace).rdropWhile isSpace).dropWhile isSpace =
      (whole.dropWhile isSpace).rdropWhile isSpace := by
    rw [List.dropWhile_eq_self_iff]
    intro nonempty
    obtain ⟨rest, hrest⟩ := List.rdropWhile_prefix isSpace (whole.dropWhile isSpace)
    have long : 0 < (whole.dropWhile isSpace).length := by
      rw [← hrest, List.length_append]
      omega
    have same : ((whole.dropWhile isSpace).rdropWhile isSpace)[0] =
        (whole.dropWhile isSpace)[0] := by
      rw [List.getElem_of_eq hrest.symm, List.getElem_append_left]
    rw [same]
    exact List.dropWhile_get_zero_not _ _ long
  rw [starts, ends]

/-! ## `sanitize-html` -/

/-- `sanitizeHtml(input, SANITIZE_OPTIONS)`: its parser reads a text in the input, and the
output is that text, escaped. -/
structure SanitizeHtml where
  run : String → String
  /-- The input without tags and with its character references decoded. -/
  text : List Char → List Char
  /-- The input without its tags. -/
  strip : List Char → List Char
  escapes : ∀ input, Spells (fun c => c ≠ '&' ∧ c ≠ '<' ∧ c ≠ '>') (ampersand :: laterEntities)
    (run input).toList (text input.toList)
  /-- A tag that goes and a reference that is decoded make the text shorter. -/
  shorter : ∀ input, text input = input ∨ (text input).length < input.length
  decodes : ∀ input, text input = input → ∀ entity ∈ basicEntities, ¬entity.1.toList <:+: input
  strips : ∀ input, text input = input → strip input = input
  /-- White space at the ends and runs of it are no part of a tag or a reference. -/
  white : ∀ input, text (normal input) = normal input ↔ text input = input

namespace SanitizeHtml

variable (html : SanitizeHtml)

/-- The parser takes all of it for text: it holds no tag and no character reference. -/
def Plain (input : List Char) : Prop := html.text input = input

instance (input : List Char) : Decidable (html.Plain input) :=
  inferInstanceAs (Decidable (_ = _))

theorem toList_sanitizeUserText (input : String) :
    (sanitizeUserText html.run input).toList =
      normal (decodeBasicEntities (html.run input).toList) := rfl

theorem decode_run (input : String) : decodeBasicEntities (html.run input).toList =
    Replace.decodeAll laterEntities (html.text input.toList) :=
  decodeBasicEntities_spelled ((html.escapes input).mono (fun _ plain => plain.1) fun _ => id)

/-- A text is left as it is when its white space is in order and it is plain. -/
theorem sanitizeUserText_of_plain {input : String} (plain : html.Plain input.toList)
    (tidy : normal input.toList = input.toList) : sanitizeUserText html.run input = input := by
  apply String.toList_injective
  rw [toList_sanitizeUserText, decode_run, plain, Replace.decodeAll_eq_self_iff.mpr, tidy]
  intro code known
  have free := html.decodes input.toList plain
  rw [basicEntities_eq, List.forall_mem_map] at free
  have here := free code (List.mem_cons_of_mem _ known)
  rw [entityOf, String.toList_ofList] at here
  exact here

/-- Any other text becomes shorter. -/
theorem plain_of_sanitizeUserText {input : String}
    (same : sanitizeUserText html.run input = input) : html.Plain input.toList := by
  refine (html.shorter input.toList).resolve_right fun shorter => ?_
  have lengths := congrArg (fun text => text.toList.length) same
  simp only [toList_sanitizeUserText, decode_run] at lengths
  have decoded := Replace.length_decodeAll_le laterEntities (html.text input.toList)
  have spaced := length_normal_le (Replace.decodeAll laterEntities (html.text input.toList))
  omega

end SanitizeHtml

/-! ## An escaped tag -/

section Bare

variable {word : List Char}

theorem prefix_collapse_iff (ink : ∀ c ∈ word, isSpace c = false) (text : List Char) :
    word <+: collapse false text ↔ word <+: text := by
  induction word generalizing text with
  | nil => exact ⟨fun _ => List.nil_prefix, fun _ => List.nil_prefix⟩
  | cons c word ih =>
    cases text with
    | nil => rfl
    | cons d text =>
      have first := ink c List.mem_cons_self
      by_cases white : isSpace d = true
      · rw [collapse, if_pos white, if_neg Bool.false_ne_true, List.cons_prefix_cons,
          List.cons_prefix_cons]
        constructor
        · rintro ⟨rfl, -⟩
          exact absurd first (by decide)
        · rintro ⟨rfl, -⟩
          exact absurd white (by rw [first]; decide)
      · rw [collapse, if_neg white, List.cons_prefix_cons, List.cons_prefix_cons,
          ih fun e he => ink e (List.mem_cons_of_mem _ he)]

/-- A word does not begin with white space. -/
theorem not_prefix_of_white {c : Char} {rest : List Char} (nonempty : word ≠ [])
    (ink : ∀ c ∈ word, isSpace c = false) (white : isSpace c = true) : ¬word <+: c :: rest := by
  obtain ⟨d, word, rfl⟩ := List.exists_cons_of_ne_nil nonempty
  intro here
  rw [← (List.cons_prefix_cons.mp here).1, ink d List.mem_cons_self] at white
  cases white

theorem infix_collapse_iff (nonempty : word ≠ []) (ink : ∀ c ∈ word, isSpace c = false)
    (inRun : Bool) (text : List Char) : word <:+: collapse inRun text ↔ word <:+: text := by
  fun_induction collapse inRun text with
  | case1 => rfl
  | case2 c rest white ih =>
    rw [ih, List.infix_cons_iff, or_iff_right (not_prefix_of_white nonempty ink white)]
  | case3 inRun c rest white hrun ih =>
    rw [List.infix_cons_iff, List.infix_cons_iff, ih,
      or_iff_right (not_prefix_of_white nonempty ink white),
      or_iff_right (not_prefix_of_white nonempty ink isSpace_space)]
  | case4 inRun c rest black ih =>
    have whole := prefix_collapse_iff ink (c :: rest)
    rw [collapse, if_neg black] at whole
    rw [List.infix_cons_iff, List.infix_cons_iff, ih, whole]

theorem infix_dropWhile_iff (nonempty : word ≠ []) (ink : ∀ c ∈ word, isSpace c = false)
    (text : List Char) : word <:+: text.dropWhile isSpace ↔ word <:+: text := by
  induction text with
  | nil => rfl
  | cons c rest ih =>
    by_cases white : isSpace c = true
    · rw [List.dropWhile_cons_of_pos white, ih, List.infix_cons_iff,
        or_iff_right (not_prefix_of_white nonempty ink white)]
    · rw [List.dropWhile_cons_of_neg white]

theorem infix_normal_iff (nonempty : word ≠ []) (ink : ∀ c ∈ word, isSpace c = false)
    (text : List Char) : word <:+: normal text ↔ word <:+: text := by
  have backwards : ∀ c ∈ word.reverse, isSpace c = false :=
    fun c hc => ink c (List.mem_reverse.mp hc)
  rw [normal_eq, List.rdropWhile, ← List.reverse_infix, List.reverse_reverse,
    infix_dropWhile_iff (List.reverse_ne_nil_iff.mpr nonempty) backwards, List.reverse_infix,
    infix_dropWhile_iff nonempty ink, infix_collapse_iff nonempty ink]

end Bare

/-- A parser that knows the tag `<b>` and the basic entities. -/
def bold : Replace.Rule Char := ⟨['<', 'b', '>'], [], by decide⟩

def boldRules : List (Replace.Rule Char) :=
  bold :: (ampersand :: laterEntities).map Code.decode

def escapeHtml (c : Char) : List Char :=
  if c = '&' then "&amp;".toList else if c = '<' then "&lt;".toList
  else if c = '>' then "&gt;".toList else [c]

theorem spells_escapeHtml (text : List Char) :
    Spells (fun c => c ≠ '&' ∧ c ≠ '<' ∧ c ≠ '>') (ampersand :: laterEntities)
      (text.flatMap escapeHtml) text := by
  induction text with
  | nil => exact .nil
  | cons c text ih =>
    rw [List.flatMap_cons, escapeHtml]
    split
    · next here =>
      subst here
      exact .code List.mem_cons_self ih
    split
    · next here =>
      subst here
      exact .code (List.mem_cons_of_mem _ (List.getElem_mem (n := 0) (by decide))) ih
    split
    · next here =>
      subst here
      exact .code (List.mem_cons_of_mem _ (List.getElem_mem (n := 1) (by decide))) ih
    · next amp lt gt => exact .raw ⟨amp, lt, gt⟩ ih

theorem boldRules_ink : ∀ rule ∈ boldRules, rule.word ≠ [] ∧ ∀ c ∈ rule.word, isSpace c = false := by
  have each : (boldRules.all fun rule =>
      !rule.word.isEmpty && rule.word.all fun c => !isSpace c) = true := by decide
  intro rule known
  have ink := List.all_eq_true.mp each rule known
  rw [Bool.and_eq_true, Bool.not_eq_true', List.isEmpty_eq_false_iff, List.all_eq_true] at ink
  refine ⟨ink.1, fun c hc => ?_⟩
  rw [← Bool.not_eq_true']
  exact ink.2 c hc

def boldHtml : SanitizeHtml where
  run input := String.ofList ((Replace.pass boldRules 0 input.toList).flatMap escapeHtml)
  text := Replace.pass boldRules 0
  strip := Replace.pass [bold] 0
  escapes input := by
    rw [String.toList_ofList]
    exact spells_escapeHtml _
  shorter input := by
    by_cases free : ∀ rule ∈ boldRules, ¬rule.word <:+: input
    · exact .inl (Replace.pass_of_free free)
    · simp only [not_forall, not_not] at free
      obtain ⟨rule, known, stands⟩ := free
      exact .inr (Replace.length_pass_lt known stands)
  decodes input same := by
    have free := Replace.pass_eq_self_iff.mp same
    rw [basicEntities_eq, List.forall_mem_map]
    intro code known
    rw [entityOf, String.toList_ofList]
    exact free code.decode (List.mem_cons_of_mem _ (List.mem_map_of_mem known))
  strips input same := by
    have free := Replace.pass_eq_self_iff.mp same
    exact Replace.pass_of_free (List.forall_mem_singleton.mpr (free bold List.mem_cons_self))
  white input := by
    rw [Replace.pass_eq_self_iff, Replace.pass_eq_self_iff]
    refine forall₂_congr fun rule known => ?_
    rw [infix_normal_iff (boldRules_ink rule known).1 (boldRules_ink rule known).2]

end Api
end XStreamRoll
