/-
Patterns of SQL's `LIKE`.

In a pattern `%` stands for any text and `_` for any character.  The escape
character takes its meaning from the character after it.  A pattern is read into
items first, so that a text fits a list of items by recursion over that list.
-/
import Mathlib.Data.List.Infix

namespace XStreamRoll
namespace Like

inductive Item (α : Type*) where
  /-- `%` -/
  | any
  /-- `_` -/
  | one
  | just (c : α)
deriving DecidableEq, Repr

section Fits

variable {α : Type*} [DecidableEq α]

/-- The whole text has the shape of the pattern. -/
def fits : List (Item α) → List α → Bool
  | [], text => text.isEmpty
  | .any :: items, text => text.tails.any (fits items)
  | .one :: _, [] => false
  | .one :: items, _ :: text => fits items text
  | .just _ :: _, [] => false
  | .just c :: items, d :: text => decide (c = d) && fits items text

/-- A word with anything after it. -/
theorem fits_just (word text : List α) :
    fits (word.map Item.just ++ [.any]) text = true ↔ word <+: text := by
  induction word generalizing text with
  | nil =>
    have hall : fits ([Item.any] : List (Item α)) text = true := by
      rw [fits, List.any_eq_true]
      exact ⟨[], (List.mem_tails _ _).mpr List.nil_suffix, rfl⟩
    simp [hall]
  | cons c word ih =>
    cases text with
    | nil => simp [fits]
    | cons d text =>
      rw [List.map_cons, List.cons_append, fits, Bool.and_eq_true, decide_eq_true_eq, ih,
        List.cons_prefix_cons]

/-- A word with anything around it. -/
theorem fits_any_just (word text : List α) :
    fits (.any :: (word.map Item.just ++ [.any])) text = true ↔ word <:+: text := by
  rw [fits, List.any_eq_true, List.infix_iff_prefix_suffix]
  constructor
  · rintro ⟨rest, hrest, hfits⟩
    exact ⟨rest, (fits_just word rest).mp hfits, (List.mem_tails rest text).mp hrest⟩
  · rintro ⟨rest, hword, hrest⟩
    exact ⟨rest, (List.mem_tails rest text).mpr hrest, (fits_just word rest).mpr hword⟩

end Fits

/-! ## Reading a pattern -/

/-- The items of a pattern, or `none` for one that ends with the escape character. -/
def read (escape : Char) : List Char → Option (List (Item Char))
  | [] => some []
  | c :: rest =>
    if c = escape then
      match rest with
      | [] => none
      | d :: rest => (read escape rest).map (.just d :: ·)
    else if c = '%' then (read escape rest).map (.any :: ·)
    else if c = '_' then (read escape rest).map (.one :: ·)
    else (read escape rest).map (.just c :: ·)

theorem read_escape (escape c : Char) (rest : List Char) :
    read escape (escape :: c :: rest) = (read escape rest).map (.just c :: ·) := by
  simp [read]

theorem read_any {escape : Char} (hescape : escape ≠ '%') (rest : List Char) :
    read escape ('%' :: rest) = (read escape rest).map (.any :: ·) := by
  cases rest <;> simp [read, hescape.symm]

theorem read_just {escape c : Char} (hescape : c ≠ escape) (hany : c ≠ '%') (hone : c ≠ '_')
    (rest : List Char) : read escape (c :: rest) = (read escape rest).map (.just c :: ·) := by
  cases rest <;> simp [read, hescape, hany, hone]

/-- The characters that mean something in a pattern. -/
def special (escape : Char) : List Char := [escape, '%', '_']

/-- Put the escape character before every character that means something. -/
def escaped (escape : Char) (word : List Char) : List Char :=
  word.flatMap fun c => if c ∈ special escape then [escape, c] else [c]

theorem escaped_cons (escape c : Char) (word : List Char) :
    escaped escape (c :: word) =
      (if c ∈ special escape then [escape, c] else [c]) ++ escaped escape word := rfl

/-- An escaped word reads as its characters. -/
theorem read_escaped (escape : Char) (word rest : List Char) :
    read escape (escaped escape word ++ rest) =
      (read escape rest).map (word.map Item.just ++ ·) := by
  induction word with
  | nil =>
    rw [escaped, List.flatMap_nil, List.nil_append]
    cases read escape rest <;> rfl
  | cons c word ih =>
    have hjust : read escape (escaped escape (c :: word) ++ rest) =
        (read escape (escaped escape word ++ rest)).map (.just c :: ·) := by
      rw [escaped_cons]
      by_cases hspecial : c ∈ special escape
      · rw [if_pos hspecial]
        exact read_escape escape c _
      · rw [if_neg hspecial]
        simp only [special, List.mem_cons, List.not_mem_nil, or_false, not_or] at hspecial
        exact read_just hspecial.1 hspecial.2.1 hspecial.2.2 _
    rw [hjust, ih, Option.map_map]
    rfl

/-- The pattern that asks for a word anywhere in the text. -/
def containing (escape : Char) (word : List Char) : List Char :=
  '%' :: (escaped escape word ++ ['%'])

theorem read_containing {escape : Char} (hescape : escape ≠ '%') (word : List Char) :
    read escape (containing escape word) =
      some (.any :: (word.map Item.just ++ [.any])) := by
  have hlast : read escape ['%'] = some [.any] := read_any hescape []
  rw [containing, read_any hescape, read_escaped, hlast]
  rfl

/-- `text LIKE pattern ESCAPE escape`. -/
def like (escape : Char) (pattern text : List Char) : Bool :=
  (read escape pattern).any fun items => fits items text

theorem like_containing {escape : Char} (hescape : escape ≠ '%') (word text : List Char) :
    like escape (containing escape word) text = true ↔ word <:+: text := by
  rw [like, read_containing hescape, Option.any_some, fits_any_just]

/-- A map of characters that neither makes nor changes a special one passes through
escapes. -/
theorem map_escaped {escape : Char} {f : Char → Char}
    (hf : ∀ c, (f c ∈ special escape ↔ c ∈ special escape) ∧ (c ∈ special escape → f c = c))
    (word : List Char) :
    (escaped escape word).map f = escaped escape (word.map f) := by
  induction word with
  | nil => rfl
  | cons c word ih =>
    rw [escaped_cons, List.map_append, ih, List.map_cons, escaped_cons]
    congr 1
    by_cases hspecial : c ∈ special escape
    · have hescape : f escape = escape := (hf escape).2 List.mem_cons_self
      rw [if_pos hspecial, if_pos ((hf c).1.mpr hspecial), List.map_cons, List.map_cons, hescape]
      rfl
    · rw [if_neg hspecial, if_neg fun h => hspecial ((hf c).1.mp h)]
      rfl

theorem map_containing {escape : Char} {f : Char → Char}
    (hf : ∀ c, (f c ∈ special escape ↔ c ∈ special escape) ∧ (c ∈ special escape → f c = c))
    (word : List Char) :
    (containing escape word).map f = containing escape (word.map f) := by
  have hpercent : f '%' = '%' := (hf '%').2 (by simp [special])
  rw [containing, List.map_cons, List.map_append, map_escaped hf, List.map_singleton, hpercent,
    containing]

end Like
end XStreamRoll
