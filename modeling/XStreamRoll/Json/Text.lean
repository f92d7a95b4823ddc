/-
The text of a JSON value, read from the left.

A text with more text behind it can be told apart from that when no other text in
question is a proper beginning of it.  The characters of a quoted string are written
with such codes, and so are the characters of UTF-16; a list of texts has one as soon
as its items do and something closes it.
-/
import Mathlib.Data.List.Lex
import Mathlib.Data.List.Perm.Basic
import Mathlib.Order.Lattice
import XStreamRoll.Json

namespace XStreamRoll
namespace Json

/-- An induction that reaches the items of arrays and the values of objects. -/
theorem induction {P : Json → Prop} (null : P .null) (bool : ∀ b, P (.bool b))
    (number : ∀ text, P (.number text)) (string : ∀ s, P (.string s))
    (array : ∀ items, (∀ item ∈ items, P item) → P (.array items))
    (object : ∀ fields, (∀ field ∈ fields, P field.2) → P (.object fields)) (v : Json) : P v :=
  @Json.rec P (fun items => ∀ item ∈ items, P item)
    (fun fields => ∀ field ∈ fields, P field.2) (fun field => P field.2)
    null bool number string array object (List.forall_mem_nil _)
    (fun _ _ first rest => List.forall_mem_cons.mpr ⟨first, rest⟩) (List.forall_mem_nil _)
    (fun _ _ first rest => List.forall_mem_cons.mpr ⟨first, rest⟩) (fun _ _ value => value) v

/-! ## Codes -/

section Code

variable {α β : Type}

/-- Two texts with a character each that the other set does not hold end where that
character stands. -/
theorem append_unique {p : α → Prop} :
    ∀ {a b s t : List α}, (∀ c ∈ a, p c) → (∀ c ∈ b, p c) → (∀ c ∈ s.head?, ¬p c) →
      (∀ c ∈ t.head?, ¬p c) → a ++ s = b ++ t → a = b ∧ s = t := by
  intro a
  induction a with
  | nil =>
    intro b s t _ hb hs _ same
    cases b with
    | nil => exact ⟨rfl, same⟩
    | cons c b =>
      rw [List.nil_append, List.cons_append] at same
      exact absurd (hb c List.mem_cons_self) (hs c (by rw [same]; rfl))
  | cons c a ih =>
    intro b s t ha hb hs ht same
    cases b with
    | nil =>
      rw [List.nil_append, List.cons_append] at same
      exact absurd (ha c List.mem_cons_self) (ht c (by rw [← same]; rfl))
    | cons d b =>
      simp only [List.cons_append, List.cons.injEq] at same
      obtain ⟨rfl, same⟩ := same
      obtain ⟨rfl, rest⟩ := ih (fun e he => ha e (List.mem_cons_of_mem _ he))
        (fun e he => hb e (List.mem_cons_of_mem _ he)) hs ht same
      exact ⟨rfl, rest⟩

/-- The codes of `code` cannot run into what follows. -/
def PrefixFree (code : α → List β) : Prop :=
  ∀ {a b s t}, code a ++ s = code b ++ t → a = b ∧ s = t

/-- A sequence of such codes, up to something that starts no code. -/
theorem PrefixFree.flatMap {code : α → List β} (free : PrefixFree code) {stop : β}
    (stops : ∀ a, ∀ c ∈ (code a).head?, c ≠ stop) (codes : ∀ a, code a ≠ []) :
    ∀ {as bs : List α} {s t : List β},
      as.flatMap code ++ stop :: s = bs.flatMap code ++ stop :: t → as = bs ∧ s = t := by
  -- a code and the stop do not begin alike
  have apart : ∀ a (rest s : List β), code a ++ rest ≠ stop :: s := by
    intro a rest s same
    obtain ⟨c, cs, hc⟩ := List.exists_cons_of_ne_nil (codes a)
    rw [hc, List.cons_append, List.cons.injEq] at same
    exact stops a c (by rw [hc]; rfl) same.1
  intro as
  induction as with
  | nil =>
    intro bs s t same
    cases bs with
    | nil => exact ⟨rfl, (List.cons.inj same).2⟩
    | cons b bs =>
      rw [List.flatMap_cons, List.append_assoc] at same
      exact absurd same.symm (apart b _ s)
  | cons a as ih =>
    intro bs s t same
    cases bs with
    | nil =>
      rw [List.flatMap_cons, List.append_assoc] at same
      exact absurd same (apart a _ t)
    | cons b bs =>
      simp only [List.flatMap_cons, List.append_assoc] at same
      obtain ⟨rfl, left⟩ := free same
      obtain ⟨rfl, rest⟩ := ih left
      exact ⟨rfl, rest⟩

end Code

/-! ## The order of strings -/

theorem codeUnits_prefixFree : PrefixFree codeUnits := by
  intro c d s t same
  have valid : ∀ e : Char, e.toNat < 0xd800 ∨ 0xdfff < e.toNat ∧ e.toNat < 0x110000 :=
    fun e => e.valid
  have atC := valid c
  have atD := valid d
  have equal : c.toNat = d.toNat ∧ s = t := by
    unfold codeUnits at same
    split at same <;> split at same <;>
      simp only [List.cons_append, List.nil_append, List.cons.injEq] at same
    · exact same
    · omega
    · omega
    · exact ⟨by omega, same.2.2⟩
  exact ⟨Char.toNat_inj.mp equal.1, equal.2⟩

theorem codeUnits_ne_nil (c : Char) : codeUnits c ≠ [] := by
  unfold codeUnits
  split <;> simp

theorem units_injective {a b : String}
    (same : a.toList.flatMap codeUnits = b.toList.flatMap codeUnits) : a = b := by
  -- no code unit is as large as the stop
  have small : ∀ c, ∀ unit ∈ (codeUnits c).head?, unit ≠ 0x10000 := by
    intro c unit hunit
    have valid : c.toNat < 0xd800 ∨ 0xdfff < c.toNat ∧ c.toNat < 0x110000 := c.valid
    unfold codeUnits at hunit
    split at hunit <;> simp only [List.head?_cons, Option.mem_def, Option.some.injEq] at hunit <;>
      omega
  have stopped := congrArg (· ++ [0x10000]) same
  exact String.toList_injective (codeUnits_prefixFree.flatMap small codeUnits_ne_nil stopped).1

theorem not_before_iff {a b : String} :
    (!before b a) = true ↔ a.toList.flatMap codeUnits ≤ b.toList.flatMap codeUnits := by
  unfold before
  rw [Bool.not_eq_true', ← Bool.not_eq_true, List.lex_eq_true_iff_lt]
  exact not_lt

theorem not_before_trans {a b c : String} (first : (!before b a) = true)
    (second : (!before c b) = true) : (!before c a) = true :=
  not_before_iff.mpr (le_trans (not_before_iff.mp first) (not_before_iff.mp second))

theorem not_before_total (a b : String) : (!before b a || !before a b) = true := by
  rw [Bool.or_eq_true, not_before_iff, not_before_iff]
  exact le_total _ _

theorem not_before_antisymm {a b : String} (first : (!before b a) = true)
    (second : (!before a b) = true) : a = b :=
  units_injective (le_antisymm (not_before_iff.mp first) (not_before_iff.mp second))

/-! ## Quoted strings -/

def hexValue (c : Char) : Nat := if c.toNat < 58 then c.toNat - 48 else c.toNat - 87

/-- What a backslash and the characters behind it stand for. -/
def readEscape : List Char → Option (Char × List Char)
  | 'u' :: '0' :: '0' :: high :: low :: rest =>
    some (Char.ofNat (16 * hexValue high + hexValue low), rest)
  | 'b' :: rest => some (Char.ofNat 0x8, rest)
  | 't' :: rest => some (Char.ofNat 0x9, rest)
  | 'n' :: rest => some (Char.ofNat 0xa, rest)
  | 'f' :: rest => some (Char.ofNat 0xc, rest)
  | 'r' :: rest => some (Char.ofNat 0xd, rest)
  | c :: rest => some (c, rest)
  | [] => none

/-- The first character between the quotes, as a reader takes it. -/
def readChar : List Char → Option (Char × List Char)
  | c :: rest => if c.toNat = 0x5c then readEscape rest else some (c, rest)
  | [] => none

theorem hexValue_hexDigit : ∀ n < 16, hexValue (hexDigit n) = n := by decide

theorem readChar_escapeChar (c : Char) (rest : List Char) :
    readChar (escapeChar c ++ rest) = some (c, rest) := by
  have back : ∀ n, c.toNat = n → Char.ofNat n = c := by
    rintro n rfl
    exact Char.ofNat_toNat c
  have slash : (Char.ofNat 0x5c).toNat = 0x5c := by decide
  unfold escapeChar
  split
  next special =>
    obtain code | code := special
    · rw [← back _ code]
      rfl
    · rw [← back _ code]
      rfl
  split
  next code => rw [← back _ code]; rfl
  split
  next code => rw [← back _ code]; rfl
  split
  next code => rw [← back _ code]; rfl
  split
  next code => rw [← back _ code]; rfl
  split
  next code => rw [← back _ code]; rfl
  split
  next control =>
    have high := hexValue_hexDigit (c.toNat / 16) (by omega)
    have low := hexValue_hexDigit (c.toNat % 16) (by omega)
    simp only [List.cons_append, List.nil_append, readChar, slash, if_true, readEscape, high, low]
    rw [back _ (by omega)]
  next plain _ _ _ _ _ _ =>
    simp only [List.cons_append, List.nil_append, readChar]
    rw [if_neg fun code => plain (.inr code)]

theorem escapeChar_prefixFree : PrefixFree escapeChar := by
  intro c d s t same
  have read := congrArg readChar same
  rw [readChar_escapeChar, readChar_escapeChar, Option.some.injEq, Prod.mk.injEq] at read
  exact read

theorem escapeChar_ne_nil (c : Char) : escapeChar c ≠ [] := by
  intro none
  have read := readChar_escapeChar c []
  rw [none] at read
  cases read

/-- A quote inside a string follows a backslash. -/
theorem escapeChar_head (c : Char) :
    ∀ first ∈ (escapeChar c).head?, first ≠ Char.ofNat 0x22 := by
  have slash : Char.ofNat 0x5c ≠ Char.ofNat 0x22 := by decide
  intro first hfirst
  by_cases special : c.toNat = 0x22 ∨ c.toNat = 0x5c
  · rw [escapeChar, if_pos special, List.head?_cons, Option.mem_some_iff] at hfirst
    exact hfirst ▸ slash
  · have plain : c ≠ Char.ofNat 0x22 := by
      rintro rfl
      exact special (.inl (by decide))
    unfold escapeChar at hfirst
    rw [if_neg special] at hfirst
    repeat' split at hfirst
    all_goals
      rw [List.head?_cons, Option.mem_some_iff] at hfirst
      subst hfirst
      first
        | exact slash
        | exact plain

theorem quote_unique {a b : String} {s t : List Char}
    (same : (quote a).toList ++ s = (quote b).toList ++ t) : a = b ∧ s = t := by
  simp only [quote, String.toList_ofList, List.append_assoc, List.cons_append, List.nil_append,
    List.cons.injEq, true_and] at same
  obtain ⟨chars, rest⟩ := escapeChar_prefixFree.flatMap escapeChar_head escapeChar_ne_nil same
  exact ⟨String.toList_injective chars, rest⟩

theorem head_quote (s : String) : (quote s).toList.head? = some (Char.ofNat 0x22) := by
  simp only [quote, String.toList_ofList, List.cons_append, List.nil_append, List.head?_cons]

/-! ## Lists of texts -/

section Lists

variable {α : Type} {R : α → α → Prop} {text : α → List Char} {Ends : List Char → Prop}

theorem intercalate_cons (first : List Char) (rest : List (List Char)) :
    [','].intercalate (first :: rest) = first ++ rest.flatMap (',' :: ·) := by
  induction rest generalizing first with
  | nil => simp only [List.intercalate_singleton, List.flatMap_nil, List.append_nil]
  | cons second rest ih =>
    rw [List.intercalate_cons_cons, ih]
    simp only [List.flatMap_cons, List.append_assoc, List.cons_append, List.nil_append]

variable {close : Char} (comma : ∀ s, Ends (',' :: s)) (closes : ∀ s, Ends (close :: s))
include comma closes

theorem ends_tail (as : List α) (s : List Char) :
    Ends (as.flatMap (fun a => ',' :: text a) ++ close :: s) := by
  cases as with
  | nil => exact closes s
  | cons a as => exact comma _

/-- What stands behind the first item, up to the character that closes the list. -/
theorem tail_unique (apart : close ≠ ',') : ∀ {as bs : List α} {s t : List Char},
    (∀ a ∈ as, ∀ b ∈ bs, ∀ s t, Ends s → Ends t → text a ++ s = text b ++ t → R a b ∧ s = t) →
    as.flatMap (fun a => ',' :: text a) ++ close :: s =
      bs.flatMap (fun b => ',' :: text b) ++ close :: t →
    List.Forall₂ R as bs ∧ s = t := by
  intro as
  induction as with
  | nil =>
    intro bs s t _ same
    cases bs with
    | nil => exact ⟨.nil, (List.cons.inj same).2⟩
    | cons b bs => exact absurd (List.cons.inj same).1 apart
  | cons a as ih =>
    intro bs s t unique same
    cases bs with
    | nil => exact absurd (List.cons.inj same).1.symm apart
    | cons b bs =>
      simp only [List.flatMap_cons, List.append_assoc, List.cons_append, List.cons.injEq,
        true_and] at same
      obtain ⟨first, left⟩ := unique a List.mem_cons_self b List.mem_cons_self _ _
        (ends_tail comma closes as s) (ends_tail comma closes bs t) same
      obtain ⟨rest, after⟩ := ih (fun a ha b hb => unique a (List.mem_cons_of_mem _ ha) b
        (List.mem_cons_of_mem _ hb)) left
      exact ⟨.cons first rest, after⟩

theorem join_unique (apart : close ≠ ',') {as bs : List α} {s t : List Char}
    (opens : ∀ a ∈ as ++ bs, ∃ c ∈ (text a).head?, c ≠ close)
    (unique : ∀ a ∈ as, ∀ b ∈ bs, ∀ s t, Ends s → Ends t → text a ++ s = text b ++ t →
      R a b ∧ s = t)
    (same : [','].intercalate (as.map text) ++ close :: s =
      [','].intercalate (bs.map text) ++ close :: t) :
    List.Forall₂ R as bs ∧ s = t := by
  -- an item does not begin with what closes the list
  have starts : ∀ a ∈ as ++ bs, ∀ rest after, text a ++ rest ≠ close :: after := by
    intro a ha rest after equal
    obtain ⟨c, first, other⟩ := opens a ha
    obtain ⟨cs, hcs⟩ := List.head?_eq_some_iff.mp first
    rw [hcs, List.cons_append, List.cons.injEq] at equal
    exact other equal.1
  cases as with
  | nil =>
    cases bs with
    | nil => exact ⟨.nil, (List.cons.inj same).2⟩
    | cons b bs =>
      rw [List.map_cons, intercalate_cons, List.append_assoc] at same
      exact absurd same.symm (starts b List.mem_cons_self _ _)
  | cons a as =>
    cases bs with
    | nil =>
      rw [List.map_cons, intercalate_cons, List.append_assoc] at same
      exact absurd same (starts a List.mem_cons_self _ _)
    | cons b bs =>
      simp only [List.map_cons, intercalate_cons, List.append_assoc, List.flatMap_map] at same
      obtain ⟨first, left⟩ := unique a List.mem_cons_self b List.mem_cons_self _ _
        (ends_tail comma closes as s) (ends_tail comma closes bs t) same
      obtain ⟨rest, after⟩ := tail_unique comma closes apart (fun a ha b hb =>
        unique a (List.mem_cons_of_mem _ ha) b (List.mem_cons_of_mem _ hb)) left
      exact ⟨.cons first rest, after⟩

end Lists

/-! ## Values -/

/-- A character of the text of a number. -/
def Numeral (c : Char) : Prop := c.isDigit ∨ c = '-' ∨ c = '+' ∨ c = '.' ∨ c = 'e'

instance : DecidablePred Numeral := fun _ => inferInstanceAs (Decidable (_ ∨ _))

/-- A value as `JSON.parse` makes it: its numbers are finite, and an object holds a key
once. -/
inductive WellFormed : Json → Prop
  | null : WellFormed .null
  | bool (b : Bool) : WellFormed (.bool b)
  | number {text : String} (first : ∃ c ∈ text.toList.head?, c.isDigit ∨ c = '-')
    (numerals : ∀ c ∈ text.toList, Numeral c) : WellFormed (.number text)
  | string (s : String) : WellFormed (.string s)
  | array {items : List Json} (each : ∀ item ∈ items, WellFormed item) :
    WellFormed (.array items)
  | object {fields : List (String × Json)} (distinct : (fields.map (·.1)).Nodup)
    (each : ∀ field ∈ fields, WellFormed field.2) : WellFormed (.object fields)

/-- Equality up to the order of the keys, at every level. -/
inductive Same : Json → Json → Prop
  | null : Same .null .null
  | bool (b : Bool) : Same (.bool b) (.bool b)
  | number (text : String) : Same (.number text) (.number text)
  | string (s : String) : Same (.string s) (.string s)
  | array {items others : List Json} (each : List.Forall₂ Same items others) :
    Same (.array items) (.array others)
  | object {fields others reordered : List (String × Json)} (order : reordered.Perm others)
    (keys : fields.map (·.1) = reordered.map (·.1))
    (values : List.Forall₂ Same (fields.map (·.2)) (reordered.map (·.2))) :
    Same (.object fields) (.object others)

end Json
end XStreamRoll
