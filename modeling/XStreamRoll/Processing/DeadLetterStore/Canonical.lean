/-
`stableStringify`: one text for all orders in which the keys of an event may come.

Two values have the same text exactly when they are equal up to the order of the keys
of their objects.  That equal values have equal texts is the work of the sort: keys are
distinct, so there is one sorted list of them.  That equal texts come from equal values
is read off from the left: the first character says what kind of value stands there, a
string ends at the first quote that no backslash escapes, a number at the first character
that no number has, and a list at what closes it.
-/
import XStreamRoll.Json.Text
import XStreamRoll.Processing.DeadLetterStore.Keys

namespace XStreamRoll
namespace Processing

open Json (Numeral WellFormed Same quote)

/-! ## The text of a value -/

theorem stableItems_eq (items : List Json) : stableItems items = items.map stableStringify := by
  induction items with
  | nil => rfl
  | cons item items ih => rw [stableItems, ih, List.map_cons]

/-- The text of one field. -/
def fieldText (field : String × Json) : String :=
  quote field.1 ++ ":" ++ stableStringify field.2

theorem stableFields_eq (fields : List (String × Json)) :
    stableFields fields = fields.map fun field => (field.1, fieldText field) := by
  induction fields with
  | nil => rfl
  | cons field fields ih =>
    obtain ⟨key, value⟩ := field
    rw [stableFields, ih, List.map_cons]
    rfl

def sortFields (fields : List (String × Json)) : List (String × Json) :=
  fields.mergeSort fun a b => !Json.before b.1 a.1

theorem sortFields_perm (fields : List (String × Json)) : (sortFields fields).Perm fields :=
  List.mergeSort_perm _ _

theorem stableStringify_array (items : List Json) :
    stableStringify (.array items) =
      "[" ++ ",".intercalate (items.map stableStringify) ++ "]" := by
  rw [stableStringify, stableItems_eq]

theorem stableStringify_object (fields : List (String × Json)) :
    stableStringify (.object fields) =
      Json.inBraces (",".intercalate ((sortFields fields).map fieldText)) := by
  have sorted : (sortFields fields).map (fun field => (field.1, fieldText field)) =
      (fields.map fun field => (field.1, fieldText field)).mergeSort
        fun a b => !Json.before b.1 a.1 :=
    List.map_mergeSort fun a _ b _ => rfl
  rw [stableStringify, stableFields_eq, ← sorted, List.map_map]
  rfl

/-! ## Equal values have equal texts -/

/-- The fields of an object, sorted, do not depend on the order they came in. -/
theorem sortFields_eq {fields others : List (String × Json)} (order : fields.Perm others)
    (distinct : (fields.map (·.1)).Nodup) : sortFields fields = sortFields others := by
  have sorted : ∀ l : List (String × Json),
      (sortFields l).Pairwise fun a b => (!Json.before b.1 a.1) = true :=
    List.pairwise_mergeSort (fun _ _ _ => Json.not_before_trans)
      fun _ _ => Json.not_before_total _ _
  refine List.Perm.eq_of_pairwise ?_ (sorted fields) (sorted others)
    ((sortFields_perm fields).trans (order.trans (sortFields_perm others).symm))
  intro a b ha hb first second
  exact List.inj_on_of_nodup_map distinct ((sortFields_perm fields).mem_iff.mp ha)
    (order.mem_iff.mpr ((sortFields_perm others).mem_iff.mp hb))
    (Json.not_before_antisymm first second)

theorem stableStringify_same {v : Json} :
    v.WellFormed → ∀ {w}, Same v w → stableStringify v = stableStringify w := by
  induction v using Json.induction with
  | null => intro _ w same; cases same; rfl
  | bool b => intro _ w same; cases same; rfl
  | number text => intro _ w same; cases same; rfl
  | string s => intro _ w same; cases same; rfl
  | array items ih =>
    intro formed w same
    cases formed with | array formed
    cases same with | @array _ others each
    have texts : items.map stableStringify = others.map stableStringify := by
      induction each with
      | nil => rfl
      | cons first _ rest =>
        rw [List.forall_mem_cons] at ih formed
        rw [List.map_cons, List.map_cons, ih.1 formed.1 first, rest ih.2 formed.2]
    rw [stableStringify_array, stableStringify_array, texts]
  | object fields ih =>
    intro formed w same
    cases formed with | object distinct formed
    cases same with | @object _ others reordered order keys values
    -- field by field, before any sorting
    have texts : fields.map (fun f => (f.1, fieldText f)) =
        reordered.map fun f => (f.1, fieldText f) := by
      clear order distinct
      induction fields generalizing reordered with
      | nil =>
        rw [List.map_nil, eq_comm, List.map_eq_nil_iff] at keys
        rw [keys]
      | cons field fields rest =>
        cases reordered with
        | nil => cases keys
        | cons other reordered =>
          rw [List.forall_mem_cons] at ih formed
          simp only [List.map_cons, List.cons.injEq] at keys values ⊢
          cases values with | cons value values
          have text := ih.1 formed.1 value
          refine ⟨?_, rest ih.2 formed.2 keys.2 values⟩
          rw [fieldText, fieldText, keys.1, text]
    have asGiven : stableStringify (.object fields) = stableStringify (.object reordered) := by
      rw [stableStringify, stableStringify, stableFields_eq, stableFields_eq, texts]
    have sorted : sortFields reordered = sortFields others :=
      sortFields_eq order (keys ▸ distinct)
    rw [asGiven, stableStringify_object, stableStringify_object, sorted]

/-! ## Equal texts come from equal values -/

/-- What the first character of a text says about its value. -/
def opener (c : Char) : Nat :=
  if c = 'n' then 0
  else if c = 't' ∨ c = 'f' then 1
  else if c.isDigit ∨ c = '-' then 2
  else if c = Char.ofNat 0x22 then 3
  else if c = '[' then 4
  else if c = '{' then 5
  else 6

def kind : Json → Nat
  | .null => 0
  | .bool _ => 1
  | .number _ => 2
  | .string _ => 3
  | .array _ => 4
  | .object _ => 5

theorem opener_numeral {c : Char} (first : c.isDigit ∨ c = '-') : opener c = 2 := by
  have apart : c ≠ 'n' ∧ ¬(c = 't' ∨ c = 'f') := by
    refine ⟨?_, ?_⟩
    · rintro rfl
      exact absurd first (by decide)
    · rintro (rfl | rfl)
      · exact absurd first (by decide)
      · exact absurd first (by decide)
  rw [opener, if_neg apart.1, if_neg apart.2, if_pos first]

/-- The characters of an array between the brackets. -/
theorem toList_bracket {texts : List String} :
    ("[" ++ ",".intercalate texts ++ "]").toList =
      '[' :: ([','].intercalate (texts.map String.toList) ++ [']']) := by
  rw [String.toList_append, String.toList_append, String.toList_intercalate, List.append_assoc]
  rfl

theorem opener_stableStringify {v : Json} (formed : v.WellFormed) :
    ∃ c ∈ (stableStringify v).toList.head?, opener c = kind v := by
  cases formed with
  | null => exact ⟨'n', by decide, by decide⟩
  | bool b => cases b with
    | true => exact ⟨'t', by decide, by decide⟩
    | false => exact ⟨'f', by decide, by decide⟩
  | number first _ =>
    obtain ⟨c, hc, numeral⟩ := first
    exact ⟨c, hc, opener_numeral numeral⟩
  | string s => exact ⟨Char.ofNat 0x22, Json.head_quote s, (by decide : opener _ = 3)⟩
  | array _ =>
    refine ⟨'[', ?_, (by decide : opener _ = 4)⟩
    rw [stableStringify_array, toList_bracket]
    rfl
  | object _ _ =>
    refine ⟨'{', ?_, (by decide : opener _ = 5)⟩
    rw [stableStringify_object, Json.toList_inBraces]
    rfl

theorem kind_eq {v w : Json} (hv : v.WellFormed) (hw : w.WellFormed) {s t : List Char}
    (same : (stableStringify v).toList ++ s = (stableStringify w).toList ++ t) :
    kind v = kind w := by
  obtain ⟨c, hc, kindV⟩ := opener_stableStringify hv
  obtain ⟨d, hd, kindW⟩ := opener_stableStringify hw
  obtain ⟨cs, atV⟩ := List.head?_eq_some_iff.mp hc
  obtain ⟨ds, atW⟩ := List.head?_eq_some_iff.mp hd
  rw [atV, atW, List.cons_append, List.cons_append, List.cons.injEq] at same
  rw [← kindV, ← kindW, same.1]

/-- What follows a value does not go on with a number. -/
def Ends (s : List Char) : Prop := ∀ c ∈ s.head?, ¬Numeral c

theorem ends_cons {c : Char} (other : ¬Numeral c) (s : List Char) : Ends (c :: s) := by
  intro first hfirst
  rw [List.head?_cons, Option.mem_some_iff] at hfirst
  exact hfirst ▸ other

/-- No item begins with the bracket that closes the array. -/
theorem opens_items {items others : List Json} (formed : ∀ item ∈ items, item.WellFormed)
    (formed' : ∀ item ∈ others, item.WellFormed) :
    ∀ item ∈ items ++ others, ∃ c ∈ (stableStringify item).toList.head?, c ≠ ']' := by
  intro item hitem
  have well : item.WellFormed := by
    rcases List.mem_append.mp hitem with mine | other
    · exact formed item mine
    · exact formed' item other
  obtain ⟨c, hc, known⟩ := opener_stableStringify well
  refine ⟨c, hc, ?_⟩
  rintro rfl
  cases item <;> cases known

theorem toList_fieldText (field : String × Json) : (fieldText field).toList =
    (quote field.1).toList ++ ':' :: (stableStringify field.2).toList := by
  rw [fieldText, String.toList_append, String.toList_append, List.append_assoc]
  rfl

theorem head_fieldText (field : String × Json) :
    (fieldText field).toList.head? = some (Char.ofNat 0x22) := by
  rw [toList_fieldText, List.head?_append, Json.head_quote]
  rfl

/-- Objects whose sorted fields agree one by one are the same up to the order. -/
theorem same_of_sorted {fields others : List (String × Json)}
    (sorted : List.Forall₂ (fun f g => f.1 = g.1 ∧ Same f.2 g.2) (sortFields fields)
      (sortFields others)) : Same (.object fields) (.object others) := by
  obtain ⟨reordered, each, order⟩ :=
    List.perm_comp_forall₂ (sortFields_perm fields).symm sorted
  refine .object (order.trans (sortFields_perm others)) ?_ ?_
  · rw [← List.forall₂_eq_eq_eq, List.forall₂_map_left_iff, List.forall₂_map_right_iff]
    exact each.imp fun _ _ equal => equal.1
  · rw [List.forall₂_map_left_iff, List.forall₂_map_right_iff]
    exact each.imp fun _ _ equal => equal.2

/-- A text says which value it belongs to and where it ends. -/
theorem stableStringify_unique {v : Json} :
    v.WellFormed → ∀ {w s t}, w.WellFormed → Ends s → Ends t →
      (stableStringify v).toList ++ s = (stableStringify w).toList ++ t → Same v w ∧ s = t := by
  induction v using Json.induction with
  | null =>
    intro hv w s t hw _ _ same
    have alike := kind_eq hv hw same
    cases w <;> try cases alike
    exact ⟨.null, List.append_cancel_left same⟩
  | bool b =>
    intro hv w s t hw _ _ same
    have alike := kind_eq hv hw same
    cases w <;> try cases alike
    next b' =>
      cases b <;> cases b'
      · exact ⟨.bool _, List.append_cancel_left same⟩
      · exact absurd (List.cons.inj same).1 (by decide)
      · exact absurd (List.cons.inj same).1 (by decide)
      · exact ⟨.bool _, List.append_cancel_left same⟩
  | number text =>
    intro hv w s t hw hs ht same
    have alike := kind_eq hv hw same
    cases w <;> try cases alike
    next text' =>
      cases hv with | number _ numerals
      cases hw with | number _ numerals'
      obtain ⟨chars, rest⟩ := Json.append_unique numerals numerals' hs ht same
      obtain rfl := String.toList_injective chars
      exact ⟨.number _, rest⟩
  | string text =>
    intro hv w s t hw _ _ same
    have alike := kind_eq hv hw same
    cases w <;> try cases alike
    next text' =>
      obtain ⟨rfl, rest⟩ := Json.quote_unique same
      exact ⟨.string _, rest⟩
  | array items ih =>
    intro hv w s t hw _ _ same
    have alike := kind_eq hv hw same
    cases w <;> try cases alike
    next others =>
      cases hv with | array formed
      cases hw with | array formed'
      have texts : ∀ l : List Json, (stableStringify (.array l)).toList = '[' ::
          ([','].intercalate (l.map fun item => (stableStringify item).toList) ++ [']']) := by
        intro l
        rw [stableStringify_array, toList_bracket, List.map_map]
        rfl
      rw [texts, texts] at same
      simp only [List.cons_append, List.append_assoc, List.nil_append, List.cons.injEq,
        true_and] at same
      obtain ⟨each, rest⟩ := Json.join_unique (ends_cons (by decide)) (ends_cons (by decide))
        (by decide) (opens_items formed formed') (fun item hitem other hother _ _ hs ht equal =>
          ih item hitem (formed item hitem) (formed' other hother) hs ht equal) same
      exact ⟨.array each, rest⟩
  | object fields ih =>
    intro hv w s t hw _ _ same
    have alike := kind_eq hv hw same
    cases w <;> try cases alike
    next others =>
      cases hv with | object distinct formed
      cases hw with | object distinct' formed'
      have texts : ∀ l : List (String × Json), (stableStringify (.object l)).toList =
          '{' :: ([','].intercalate
            ((sortFields l).map fun field => (fieldText field).toList) ++ ['}']) := by
        intro l
        rw [stableStringify_object, Json.toList_inBraces, String.toList_intercalate, List.map_map]
        rfl
      rw [texts, texts] at same
      simp only [List.cons_append, List.append_assoc, List.nil_append, List.cons.injEq,
        true_and] at same
      have opens : ∀ field ∈ sortFields fields ++ sortFields others,
          ∃ c ∈ (fieldText field).toList.head?, c ≠ '}' :=
        fun field _ => ⟨Char.ofNat 0x22, head_fieldText field, by decide⟩
      have each : ∀ field ∈ sortFields fields, ∀ other ∈ sortFields others, ∀ s t,
          Ends s → Ends t → (fieldText field).toList ++ s = (fieldText other).toList ++ t →
          (field.1 = other.1 ∧ Same field.2 other.2) ∧ s = t := by
        intro field hfield other hother s t hs ht equal
        have mine := (sortFields_perm fields).mem_iff.mp hfield
        have theirs := (sortFields_perm others).mem_iff.mp hother
        rw [toList_fieldText, toList_fieldText, List.append_assoc, List.append_assoc] at equal
        obtain ⟨keys, equal⟩ := Json.quote_unique equal
        obtain ⟨values, rest⟩ := ih field mine (formed field mine) (formed' other theirs) hs ht
          (List.cons.inj equal).2
        exact ⟨⟨keys, values⟩, rest⟩
      obtain ⟨sorted, rest⟩ := Json.join_unique (ends_cons (by decide)) (ends_cons (by decide))
        (by decide) opens each same
      exact ⟨same_of_sorted sorted, rest⟩

/-- Two values have one text exactly when they are equal up to the order of keys. -/
theorem stableStringify_eq_iff {v w : Json} (hv : v.WellFormed) (hw : w.WellFormed) :
    stableStringify v = stableStringify w ↔ Same v w := by
  constructor
  · intro same
    have ends : Ends [] := by
      intro c hc
      cases hc
    exact (stableStringify_unique hv hw ends ends
      (congrArg (fun text => text.toList ++ []) same)).1
  · exact stableStringify_same hv

/-- The event of the tests, with the keys of its data in two orders. -/
theorem stableStringify_reordered :
    stableStringify (.object [("z", .number "2"), ("a", .array [.number "1", .null])]) =
      stableStringify (.object [("a", .array [.number "1", .null]), ("z", .number "2")]) := by
  have two : (Json.number "2").WellFormed :=
    .number ⟨'2', by decide, by decide⟩ (List.forall_mem_singleton.mpr (by decide))
  have one : (Json.number "1").WellFormed :=
    .number ⟨'1', by decide, by decide⟩ (List.forall_mem_singleton.mpr (by decide))
  have list : (Json.array [.number "1", .null]).WellFormed := by
    refine .array ?_
    simp only [List.forall_mem_cons]
    exact ⟨one, .null, List.forall_mem_nil _⟩
  refine (stableStringify_eq_iff (.object (by decide) ?_) (.object (by decide) ?_)).mpr ?_
  · simp only [List.forall_mem_cons]
    exact ⟨two, list, List.forall_mem_nil _⟩
  · simp only [List.forall_mem_cons]
    exact ⟨list, two, List.forall_mem_nil _⟩
  · exact .object (.swap _ _ _) rfl
      (.cons (.number _) (.cons (.array (.cons (.number _) (.cons .null .nil))) .nil))

variable {Data : Type}

/-- The entries of events without an id, as long as the hash tells texts apart. -/
theorem EventHash.eventKey_eq_iff (p : EventHash Data) (apart : Function.Injective p.sha256)
    {event other : StreamEvent Data} (anonymous : event.id.getD "" = "")
    (anonymous' : other.id.getD "" = "") (formed : (p.eventJson event).WellFormed)
    (formed' : (p.eventJson other).WellFormed) :
    p.eventKey event = p.eventKey other ↔ Same (p.eventJson event) (p.eventJson other) := by
  have hashed : ∀ e : StreamEvent Data, e.id.getD "" = "" →
      p.eventKey e = p.sha256 (stableStringify (p.eventJson e)) := by
    intro e noId
    unfold EventHash.eventKey
    split
    · rfl
    · rfl
    next id other given =>
      rw [given, Option.getD_some] at noId
      exact absurd noId other
  rw [hashed event anonymous, hashed other anonymous', apart.eq_iff,
    stableStringify_eq_iff formed formed']

end Processing
end XStreamRoll
