/-
Replacing words of a text, in passes from the left.

A pass puts the image of a rule wherever its word stands and goes on behind the word.
Images are shorter than their words, so a pass that does anything makes the text shorter.

A code is a word that begins with a mark and stands for a character.  A text is spelled
with codes when some of its characters are given by theirs.  A pass for one of the codes
takes the spelling back, and does to what stands in the text itself what it would do to the
text without codes.
-/
import Mathlib.Data.List.Infix

namespace XStreamRoll
namespace Replace

/-! ## Passes -/

structure Rule (α : Type*) where
  word : List α
  image : List α
  shorter : image.length < word.length

section Passes

variable {α : Type*} [DecidableEq α] {rules : List (Rule α)}

def Rule.heads (text : List α) (rule : Rule α) : Bool := rule.word.isPrefixOf text

theorem Rule.heads_iff {text : List α} {rule : Rule α} :
    rule.heads text = true ↔ rule.word <+: text := List.isPrefixOf_iff_prefix

/-- One pass.  The number is what is left to skip of the word that was replaced last. -/
def pass (rules : List (Rule α)) : Nat → List α → List α
  | _, [] => []
  | skip + 1, _ :: rest => pass rules skip rest
  | 0, x :: rest =>
    match rules.find? (Rule.heads (x :: rest)) with
    | some rule => rule.image ++ pass rules (rule.word.length - 1) rest
    | none => x :: pass rules 0 rest

@[simp] theorem pass_nil (skip : Nat) : pass rules skip [] = [] := by
  cases skip <;> rfl

theorem pass_skip (skip : Nat) (x : α) (rest : List α) :
    pass rules (skip + 1) (x :: rest) = pass rules skip rest := rfl

theorem pass_cons (x : α) (rest : List α) :
    pass rules 0 (x :: rest) =
      match rules.find? (Rule.heads (x :: rest)) with
      | some rule => rule.image ++ pass rules (rule.word.length - 1) rest
      | none => x :: pass rules 0 rest := rfl

theorem pass_drop (skip : Nat) (text : List α) :
    pass rules skip text = pass rules 0 (text.drop skip) := by
  induction text generalizing skip with
  | nil => rw [List.drop_nil, pass_nil, pass_nil]
  | cons x rest ih =>
    cases skip with
    | zero => rw [List.drop_zero]
    | succ skip => rw [pass_skip, List.drop_succ_cons, ih]

theorem word_start {rule : Rule α} {text : List α}
    (found : rules.find? (Rule.heads text) = some rule) : rule.word <+: text :=
  Rule.heads_iff.mp (List.find?_some found)

theorem length_pass_le (skip : Nat) (text : List α) :
    (pass rules skip text).length ≤ text.length - skip := by
  fun_induction pass rules skip text with
  | case1 => exact Nat.zero_le _
  | case2 skip x rest ih =>
    rw [List.length_cons]
    omega
  | case3 x rest rule found ih =>
    have fits := (word_start found).length_le
    have shorter := rule.shorter
    rw [List.length_append]
    rw [List.length_cons] at fits ⊢
    omega
  | case4 x rest found ih =>
    rw [List.length_cons, List.length_cons]
    omega

/-- A pass that finds a word makes the text shorter. -/
theorem length_pass_lt {text : List α} {rule : Rule α} (known : rule ∈ rules)
    (stands : rule.word <:+: text) : (pass rules 0 text).length < text.length := by
  induction text with
  | nil =>
    have shorter := rule.shorter
    rw [List.infix_nil.mp stands] at shorter
    exact absurd shorter (Nat.not_lt_zero _)
  | cons x rest ih =>
    rw [pass_cons]
    split
    · next other found =>
      have fits := (word_start found).length_le
      have shorter := other.shorter
      have behind := @length_pass_le α _ rules (other.word.length - 1) rest
      rw [List.length_append]
      rw [List.length_cons] at fits ⊢
      omega
    · next none =>
      have notHere : ¬rule.word <+: x :: rest := by
        intro here
        exact List.find?_eq_none.mp none rule known (Rule.heads_iff.mpr here)
      have later := ih ((List.infix_cons_iff.mp stands).resolve_left notHere)
      rw [List.length_cons, List.length_cons]
      omega

/-- A pass that finds none does nothing. -/
theorem pass_of_free {text : List α} (free : ∀ rule ∈ rules, ¬rule.word <:+: text) :
    pass rules 0 text = text := by
  induction text with
  | nil => exact pass_nil 0
  | cons x rest ih =>
    have none : rules.find? (Rule.heads (x :: rest)) = none := by
      rw [List.find?_eq_none]
      intro rule known here
      exact free rule known (Rule.heads_iff.mp here).isInfix
    rw [pass_cons, none]
    exact congrArg (x :: ·) (ih fun rule known stands =>
      free rule known (List.infix_cons_iff.mpr (.inr stands)))

theorem pass_eq_self_iff {text : List α} :
    pass rules 0 text = text ↔ ∀ rule ∈ rules, ¬rule.word <:+: text := by
  constructor
  · intro same rule known stands
    have shorter := length_pass_lt known stands
    rw [same] at shorter
    exact lt_irrefl _ shorter
  · exact pass_of_free

/-! ## One rule -/

theorem pass_word (rule : Rule α) (rest : List α) :
    pass [rule] 0 (rule.word ++ rest) = rule.image ++ pass [rule] 0 rest := by
  obtain ⟨x, body, hword⟩ := List.exists_cons_of_length_pos (Nat.zero_lt_of_lt rule.shorter)
  have here : rule.heads (x :: (body ++ rest)) = true := by
    rw [Rule.heads_iff, hword]
    exact List.prefix_append _ _
  have behind : (body ++ rest).drop (rule.word.length - 1) = rest := by
    rw [hword]
    exact List.drop_left
  have split : rule.word ++ rest = x :: (body ++ rest) := by rw [hword, List.cons_append]
  rw [split, pass_cons, List.find?_cons_of_pos here]
  simp only
  rw [pass_drop, behind]

theorem pass_cons_of_absent {rule : Rule α} {x : α} {rest : List α}
    (notHere : ¬rule.word <+: x :: rest) :
    pass [rule] 0 (x :: rest) = x :: pass [rule] 0 rest := by
  have none : ¬rule.heads (x :: rest) = true := fun here => notHere (Rule.heads_iff.mp here)
  rw [pass_cons, List.find?_cons_of_neg none, List.find?_nil]

end Passes

/-! ## Codes -/

/-- A word that begins with the mark and does not hold it again, for a character. -/
structure Code {α : Type*} (mark : α) where
  body : List α
  char : α
  opens : body ≠ []
  clean : mark ∉ body

namespace Code

variable {α : Type*} {mark : α}

def word (code : Code mark) : List α := mark :: code.body

/-- The rule that takes a code back. -/
def decode (code : Code mark) : Rule α where
  word := code.word
  image := [code.char]
  shorter := by
    have opens := List.length_pos_iff.mpr code.opens
    simp only [word, List.length_cons, List.length_nil]
    omega

end Code

/-- No code begins another, and no character that has a code stands in one. -/
structure Codebook {α : Type*} {mark : α} (codes : List (Code mark)) : Prop where
  apart : codes.Pairwise fun a b => ¬a.word <+: b.word ∧ ¬b.word <+: a.word
  plain : ∀ a ∈ codes, ∀ b ∈ codes, b.char ∉ a.body

/-- The first text is the second one with codes for some characters.  A character that
stands for itself is one of `raw`. -/
inductive Spells {α : Type*} {mark : α} (raw : α → Prop) (codes : List (Code mark)) :
    List α → List α → Prop where
  | nil : Spells raw codes [] []
  | raw {x : α} {spelled text : List α} (hraw : raw x) (rest : Spells raw codes spelled text) :
    Spells raw codes (x :: spelled) (x :: text)
  | code {code : Code mark} {spelled text : List α} (known : code ∈ codes)
    (rest : Spells raw codes spelled text) :
    Spells raw codes (code.word ++ spelled) (code.char :: text)

section Codes

variable {α : Type*} {mark : α} {raw : α → Prop} {codes : List (Code mark)} {code : Code mark}
  {spelled text : List α}

theorem Codebook.tail (h : Codebook (code :: codes)) : Codebook codes where
  apart := (List.pairwise_cons.mp h.apart).2
  plain := fun a ha b hb => h.plain a (List.mem_cons_of_mem _ ha) b (List.mem_cons_of_mem _ hb)

theorem Spells.mono {raw' : α → Prop} {codes' : List (Code mark)} (hraw : ∀ x, raw x → raw' x)
    (hcodes : ∀ code ∈ codes, code ∈ codes') (h : Spells raw codes spelled text) :
    Spells raw' codes' spelled text := by
  induction h with
  | nil => exact .nil
  | raw here _ ih => exact .raw (hraw _ here) ih
  | code known _ ih => exact .code (hcodes _ known) ih

theorem Spells.eq (h : Spells raw ([] : List (Code mark)) spelled text) : spelled = text := by
  induction h with
  | nil => rfl
  | raw _ _ ih => rw [ih]
  | code known _ _ => exact absurd known List.not_mem_nil

/-- What is spelled without the mark stands in the text. -/
theorem Spells.of_append {body : List α} (clean : mark ∉ body)
    (h : Spells raw codes (body ++ spelled) text) :
    ∃ rest, text = body ++ rest ∧ Spells raw codes spelled rest := by
  induction body generalizing text with
  | nil => exact ⟨text, rfl, h⟩
  | cons x body ih =>
    rw [List.mem_cons, not_or] at clean
    rw [List.cons_append] at h
    generalize hall : x :: (body ++ spelled) = all at h
    cases h with
    | nil => cases hall
    | raw _ later =>
      cases hall
      obtain ⟨rest, rfl, hrest⟩ := ih clean.2 later
      exact ⟨rest, rfl, hrest⟩
    | code known later =>
      rw [Code.word, List.cons_append, List.cons.injEq] at hall
      exact absurd hall.1.symm clean.1

/-- What stands in the text and has no code is spelled by itself. -/
theorem Spells.of_text {body : List α} (plain : ∀ code ∈ codes, code.char ∉ body)
    (h : Spells raw codes spelled (body ++ text)) :
    ∃ rest, spelled = body ++ rest ∧ Spells raw codes rest text := by
  induction body generalizing spelled with
  | nil => exact ⟨spelled, rfl, h⟩
  | cons x body ih =>
    rw [List.cons_append] at h
    generalize hall : x :: (body ++ text) = all at h
    cases h with
    | nil => cases hall
    | raw _ later =>
      cases hall
      obtain ⟨rest, rfl, hrest⟩ :=
        ih (fun code known inside => plain code known (List.mem_cons_of_mem _ inside)) later
      exact ⟨rest, rfl, hrest⟩
    | code known later =>
      cases hall
      exact absurd List.mem_cons_self (plain _ known)

variable [DecidableEq α]

/-- Nothing is found where the mark does not stand. -/
theorem pass_clean {body : List α} (clean : mark ∉ body) (rest : List α) :
    pass [code.decode] 0 (body ++ rest) = body ++ pass [code.decode] 0 rest := by
  induction body with
  | nil => rfl
  | cons x body ih =>
    rw [List.mem_cons, not_or] at clean
    rw [List.cons_append, pass_cons_of_absent, ih clean.2, List.cons_append]
    intro here
    exact clean.1 (List.cons_prefix_cons.mp here).1

/-- A pass leaves the other codes alone. -/
theorem pass_other {other : Code mark} (apart : ¬code.word <+: other.word)
    (apart' : ¬other.word <+: code.word) (rest : List α) :
    pass [code.decode] 0 (other.word ++ rest) = other.word ++ pass [code.decode] 0 rest := by
  have notHere : ¬code.decode.word <+: mark :: (other.body ++ rest) := by
    intro here
    have there : other.word <+: mark :: (other.body ++ rest) := List.prefix_append _ _
    rcases List.prefix_or_prefix_of_prefix here there with h | h
    · exact apart h
    · exact apart' h
  rw [Code.word, List.cons_append, pass_cons_of_absent notHere, pass_clean other.clean,
    List.cons_append]

theorem pass_code (rest : List α) :
    pass [code.decode] 0 (code.word ++ rest) = code.char :: pass [code.decode] 0 rest :=
  pass_word code.decode rest

/-- The pass for the code of the mark itself, of which the text then has no other. -/
theorem Spells.unmark (book : Codebook (code :: codes)) (hmark : code.char = mark)
    (h : Spells (· ≠ mark) (code :: codes) spelled text) :
    Spells (fun _ => True) codes (pass [code.decode] 0 spelled) text := by
  have apart := (List.pairwise_cons.mp book.apart).1
  induction h with
  | nil =>
    rw [pass_nil]
    exact .nil
  | @raw x spelled text other rest ih =>
    have notHere : ¬code.decode.word <+: x :: spelled := by
      intro here
      exact other (List.cons_prefix_cons.mp here).1.symm
    rw [pass_cons_of_absent notHere]
    exact .raw trivial ih
  | @code known _ _ hknown rest ih =>
    rcases List.mem_cons.mp hknown with rfl | hknown
    · rw [pass_code]
      exact .raw trivial ih
    · rw [pass_other (apart known hknown).1 (apart known hknown).2]
      exact .code hknown ih

/-- The pass for another code takes its spellings back, and replaces the same words of the
text. -/
theorem Spells.pass (book : Codebook (code :: codes))
    (hmark : ∀ known ∈ code :: codes, known.char ≠ mark)
    (h : Spells (fun _ => True) (code :: codes) spelled text) :
    Spells (fun _ => True) codes (pass [code.decode] 0 spelled) (pass [code.decode] 0 text) := by
  have apart := (List.pairwise_cons.mp book.apart).1
  -- A match skips the rest of its word, so the induction is on the length.
  induction hlength : spelled.length using Nat.strong_induction_on generalizing spelled text with
  | _ n ih =>
    subst hlength
    have notChar : ∀ known ∈ code :: codes, ∀ rest, ¬code.decode.word <+: known.char :: rest := by
      intro known hknown rest here
      exact hmark known hknown (List.cons_prefix_cons.mp here).1.symm
    cases h with
    | nil =>
      rw [pass_nil]
      exact .nil
    | @raw x spelled text _ rest =>
      by_cases here : code.decode.word <+: x :: spelled
      · obtain ⟨rfl, body⟩ := List.cons_prefix_cons.mp here
        obtain ⟨spelled, rfl⟩ := body
        obtain ⟨text, rfl, behind⟩ := rest.of_append code.clean
        have hspelled := @pass_code _ _ code _ spelled
        have htext := @pass_code _ _ code _ text
        rw [Code.word, List.cons_append] at hspelled htext
        rw [hspelled, htext]
        refine .raw trivial (ih _ ?_ behind rfl)
        rw [List.length_cons, List.length_append]
        omega
      · have notThere : ¬code.decode.word <+: x :: text := by
          intro there
          obtain ⟨rfl, body⟩ := List.cons_prefix_cons.mp there
          obtain ⟨text, rfl⟩ := body
          obtain ⟨spelled, rfl, -⟩ := rest.of_text fun known hknown =>
            book.plain code List.mem_cons_self known hknown
          exact here (List.cons_prefix_cons.mpr ⟨rfl, List.prefix_append _ _⟩)
        rw [pass_cons_of_absent here, pass_cons_of_absent notThere]
        exact .raw trivial (ih _ (Nat.lt_succ_self _) rest rfl)
    | @code known spelled text hknown rest =>
      rw [pass_cons_of_absent (notChar known hknown text)]
      have shorter : spelled.length < (known.word ++ spelled).length := by
        rw [Code.word, List.cons_append, List.length_cons, List.length_append]
        omega
      have later := ih _ shorter rest rfl
      rcases List.mem_cons.mp hknown with rfl | hknown
      · rw [pass_code]
        exact .raw trivial later
      · rw [pass_other (apart known hknown).1 (apart known hknown).2]
        exact .code hknown later

/-! ## A pass for each code -/

/-- The passes one after another, in the order of the codes. -/
def decodeAll (codes : List (Code mark)) (text : List α) : List α :=
  codes.foldl (fun text code => Replace.pass [code.decode] 0 text) text

theorem Spells.decodeAll (book : Codebook codes) (hmark : ∀ known ∈ codes, known.char ≠ mark)
    (h : Spells (fun _ => True) codes spelled text) :
    decodeAll codes spelled = decodeAll codes text := by
  induction codes generalizing spelled text with
  | nil => rw [h.eq]
  | cons code codes ih =>
    exact ih book.tail (fun known hknown => hmark known (List.mem_cons_of_mem _ hknown))
      (h.pass book hmark)

theorem length_decodeAll_le (codes : List (Code mark)) (text : List α) :
    (decodeAll codes text).length ≤ text.length := by
  induction codes generalizing text with
  | nil => exact le_refl _
  | cons code codes ih => exact le_trans (ih _) (length_pass_le 0 text)

/-- The passes leave a text as it is when it holds none of the codes, and only then. -/
theorem decodeAll_eq_self_iff :
    Replace.decodeAll codes text = text ↔ ∀ code ∈ codes, ¬code.word <:+: text := by
  induction codes generalizing text with
  | nil => exact ⟨fun _ _ known => absurd known List.not_mem_nil, fun _ => rfl⟩
  | cons code codes ih =>
    have first : Replace.decodeAll (code :: codes) text =
        Replace.decodeAll codes (Replace.pass [code.decode] 0 text) := rfl
    rw [first, List.forall_mem_cons]
    by_cases stands : code.word <:+: text
    · have shorter := length_pass_lt (List.mem_singleton_self code.decode) stands
      have later := length_decodeAll_le codes (Replace.pass [code.decode] 0 text)
      refine ⟨fun same => ?_, fun free => absurd stands free.1⟩
      rw [same] at later
      exact absurd later (not_le.mpr shorter)
    · have same : Replace.pass [code.decode] 0 text = text :=
        pass_of_free (List.forall_mem_singleton.mpr stands)
      rw [same, ih]
      exact ⟨fun free => ⟨stands, free⟩, And.right⟩

end Codes

end Replace
end XStreamRoll
