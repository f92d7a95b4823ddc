/-
The entities that `decodeBasicEntities` takes back.

It makes one pass for each of them, the one for `&amp;` first.  An ampersand that was
escaped is therefore back in the text when the passes for the others look at it, and with
what follows it in the text it may be one of the others: `&amp;lt;` becomes `&lt;`, and then
`<`.  The whole does to an escaped text what the later passes do to the text itself.
-/
import XStreamRoll.Api.Sanitize
import XStreamRoll.Replace

namespace XStreamRoll
namespace Api

open Replace (Code Codebook Spells)

/-! ## The entities as codes -/

def ampersand : Code '&' := ⟨['a', 'm', 'p', ';'], '&', by decide, by decide⟩

/-- The entities whose passes follow. -/
def laterEntities : List (Code '&') :=
  [⟨['l', 't', ';'], '<', by decide, by decide⟩,
    ⟨['g', 't', ';'], '>', by decide, by decide⟩,
    ⟨['q', 'u', 'o', 't', ';'], Char.ofNat 0x22, by decide, by decide⟩,
    ⟨['#', 'x', '2', '7', ';'], Char.ofNat 0x27, by decide, by decide⟩,
    ⟨['#', '3', '9', ';'], Char.ofNat 0x27, by decide, by decide⟩]

/-- The entity of a code. -/
def entityOf (code : Code '&') : String × Char := (String.ofList code.word, code.char)

theorem basicEntities_eq : basicEntities = (ampersand :: laterEntities).map entityOf := by decide

theorem codebook_entities : Codebook (ampersand :: laterEntities) where
  apart := by decide
  plain := by decide

theorem laterEntities_char : ∀ code ∈ laterEntities, code.char ≠ '&' := by decide

theorem replaceAll_eq (code : Code '&') (skip : Nat) (text : List Char) :
    replaceAll code.word code.char skip text = Replace.pass [code.decode] skip text := by
  induction text generalizing skip with
  | nil => rw [replaceAll, Replace.pass]
  | cons x rest ih =>
    cases skip with
    | succ skip => rw [replaceAll, Replace.pass, ih]
    | zero =>
      rw [replaceAll]
      split
      · next here =>
        obtain ⟨behind, whole⟩ := List.isPrefixOf_iff_prefix.mp here
        rw [ih, Replace.pass_drop, ← whole, Replace.pass_code]
        congr 2
        rw [Code.word, List.cons_append, List.cons.injEq] at whole
        rw [← whole.2, Code.word, List.length_cons, Nat.add_sub_cancel, List.drop_left]
      · next notHere =>
        rw [ih, Replace.pass_cons_of_absent]
        exact fun here => notHere (List.isPrefixOf_iff_prefix.mpr here)

theorem decodeBasicEntities_eq (text : List Char) :
    decodeBasicEntities text =
      Replace.decodeAll laterEntities (Replace.pass [ampersand.decode] 0 text) := by
  have each : (fun (text : List Char) (code : Code '&') =>
      replaceAll (entityOf code).1.toList (entityOf code).2 0 text) =
      fun text code => Replace.pass [code.decode] 0 text := by
    funext text code
    rw [entityOf, String.toList_ofList, replaceAll_eq]
  rw [decodeBasicEntities, basicEntities_eq, List.foldl_map, each]
  rfl

/-- What it makes of a text of which at least every ampersand is escaped. -/
theorem decodeBasicEntities_spelled {spelled text : List Char}
    (h : Spells (· ≠ '&') (ampersand :: laterEntities) spelled text) :
    decodeBasicEntities spelled = Replace.decodeAll laterEntities text := by
  rw [decodeBasicEntities_eq]
  exact (h.unmark codebook_entities rfl).decodeAll codebook_entities.tail laterEntities_char

/-! ## Escaped texts -/

/-- `escaped` is the text with a basic entity for every character that has one. -/
inductive Escapes : List Char → List Char → Prop where
  | nil : Escapes [] []
  | keep {c : Char} {escaped text : List Char} (plain : c ∉ basicEntities.map Prod.snd)
    (rest : Escapes escaped text) : Escapes (c :: escaped) (c :: text)
  | escape {entity : String × Char} {escaped text : List Char} (basic : entity ∈ basicEntities)
    (rest : Escapes escaped text) : Escapes (entity.1.toList ++ escaped) (entity.2 :: text)

theorem Escapes.spells {escaped text : List Char} (h : Escapes escaped text) :
    Spells (· ≠ '&') (ampersand :: laterEntities) escaped text := by
  induction h with
  | nil => exact .nil
  | keep plain _ ih =>
    refine .raw ?_ ih
    rintro rfl
    exact plain (by decide)
  | escape basic _ ih =>
    rw [basicEntities_eq] at basic
    obtain ⟨code, known, rfl⟩ := List.mem_map.mp basic
    rw [entityOf, String.toList_ofList]
    exact .code known ih

/-- Decoding gives an escaped text back exactly when no entity other than `&amp;` stands in
it. -/
theorem decodeBasicEntities_escaped_iff {escaped text : List Char} (h : Escapes escaped text) :
    decodeBasicEntities escaped = text ↔
      ∀ entity ∈ basicEntities.tail, ¬entity.1.toList <:+: text := by
  have later : basicEntities.tail = laterEntities.map entityOf := by rw [basicEntities_eq]; rfl
  rw [decodeBasicEntities_spelled h.spells, Replace.decodeAll_eq_self_iff, later,
    List.forall_mem_map]
  refine forall₂_congr fun code _ => ?_
  rw [entityOf, String.toList_ofList]

theorem decodeBasicEntities_plain :
    decodeBasicEntities ("a&amp;b".toList) = "a&b".toList :=
  (decodeBasicEntities_escaped_iff (.keep (by decide) (.escape List.mem_cons_self
    (.keep (by decide) .nil)))).mpr (by decide)

/-- The four characters `&lt;` come back as one. -/
theorem decodeBasicEntities_twice :
    ¬∀ escaped text : List Char, Escapes escaped text → decodeBasicEntities escaped = text := by
  intro always
  have entity := always "&amp;lt;".toList "&lt;".toList (.escape List.mem_cons_self
    (.keep (by decide) (.keep (by decide) (.keep (by decide) .nil))))
  exact absurd entity (by decide)

end Api
end XStreamRoll
