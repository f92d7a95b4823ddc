/-
What the sanitizing pipe makes of a body.

It rebuilds objects with `out[key] = …`, key by key.  For the key `__proto__`, which
`JSON.parse` takes as any other, that assignment calls the setter of `Object.prototype`:
the field is lost, and its value becomes the prototype of the object if it can be one.
-/
import XStreamRoll.Api.Sanitize
import XStreamRoll.Json.Text

namespace XStreamRoll
namespace Api

variable (sanitizeHtml : String → String)

/-- The prototype that the assignments give to `out`, when they give it one.  The setter
takes objects and `null`, and ignores other values. -/
def assignedPrototype (fields : List (String × Json)) : Option Json :=
  ((fields.find? fun field => field.1 = "__proto__").map fun field =>
    sanitizeValue sanitizeHtml field.2).filter fun
      | .null | .array _ | .object _ => true
      | .bool _ | .number _ | .string _ => false

/-- The second value is the first with its strings sanitized and nothing else changed: the
same items, the same own keys, and no prototype of its own. -/
inductive Sanitized : Json → Json → Prop where
  | null : Sanitized .null .null
  | bool (b : Bool) : Sanitized (.bool b) (.bool b)
  | number (text : String) : Sanitized (.number text) (.number text)
  | string (s : String) : Sanitized (.string s) (.string (sanitizeUserText sanitizeHtml s))
  | array {items others : List Json} (each : List.Forall₂ Sanitized items others) :
    Sanitized (.array items) (.array others)
  | object {fields others : List (String × Json)}
    (keys : others.map (·.1) = fields.map (·.1))
    (prototype : assignedPrototype sanitizeHtml fields = none)
    (values : List.Forall₂ Sanitized (fields.map (·.2)) (others.map (·.2))) :
    Sanitized (.object fields) (.object others)

mutual

/-- Some object of the value has the own key. -/
def hasKey (key : String) : Json → Bool
  | .array items => itemsHaveKey key items
  | .object fields => fieldsHaveKey key fields
  | .null | .bool _ | .number _ | .string _ => false

def itemsHaveKey (key : String) : List Json → Bool
  | [] => false
  | item :: items => hasKey key item || itemsHaveKey key items

def fieldsHaveKey (key : String) : List (String × Json) → Bool
  | [] => false
  | (name, value) :: fields => decide (name = key) || hasKey key value || fieldsHaveKey key fields

end

/-! ## Lists -/

variable {sanitizeHtml}

theorem itemsHaveKey_eq_false {key : String} {items : List Json} :
    itemsHaveKey key items = false ↔ ∀ item ∈ items, hasKey key item = false := by
  induction items with
  | nil => exact ⟨fun _ => List.forall_mem_nil _, fun _ => rfl⟩
  | cons item items ih => rw [itemsHaveKey, Bool.or_eq_false_iff, ih, List.forall_mem_cons]

theorem fieldsHaveKey_eq_false {key : String} {fields : List (String × Json)} :
    fieldsHaveKey key fields = false ↔
      ∀ field ∈ fields, field.1 ≠ key ∧ hasKey key field.2 = false := by
  induction fields with
  | nil => exact ⟨fun _ => List.forall_mem_nil _, fun _ => rfl⟩
  | cons field fields ih =>
    rw [fieldsHaveKey, Bool.or_eq_false_iff, Bool.or_eq_false_iff, ih, List.forall_mem_cons,
      decide_eq_false_iff_not]

theorem sanitizeItems_eq (items : List Json) :
    sanitizeItems sanitizeHtml items = items.map (sanitizeValue sanitizeHtml) := by
  induction items with
  | nil => rw [sanitizeItems, List.map_nil]
  | cons item items ih => rw [sanitizeItems, ih, List.map_cons]

theorem sanitizeFields_eq (fields : List (String × Json)) :
    sanitizeFields sanitizeHtml fields = (fields.filter fun field => field.1 ≠ "__proto__").map
      fun field => (field.1, sanitizeValue sanitizeHtml field.2) := by
  induction fields with
  | nil => rw [sanitizeFields, List.filter_nil, List.map_nil]
  | cons field fields ih =>
    obtain ⟨key, value⟩ := field
    rw [sanitizeFields, ih]
    split
    · next proto => rw [List.filter_cons_of_neg (by simpa using proto)]
    · next proto => rw [List.filter_cons_of_pos (by simpa using proto), List.map_cons]

/-- Two lists of keys are the same only when no field was dropped. -/
theorem sanitizeFields_keys_iff {fields : List (String × Json)} :
    (sanitizeFields sanitizeHtml fields).map (·.1) = fields.map (·.1) ↔
      ∀ field ∈ fields, field.1 ≠ "__proto__" := by
  rw [sanitizeFields_eq, List.map_map]
  constructor
  · intro same field hfield
    have lengths := congrArg List.length same
    rw [List.length_map, List.length_map, List.length_filter_eq_length_iff] at lengths
    simpa using lengths field hfield
  · intro free
    rw [List.filter_eq_self.mpr fun field hfield => by simpa using free field hfield]
    rfl

theorem assignedPrototype_eq_none {fields : List (String × Json)}
    (free : ∀ field ∈ fields, field.1 ≠ "__proto__") :
    assignedPrototype sanitizeHtml fields = none := by
  have none : (fields.find? fun field => field.1 = "__proto__") = none := by
    rw [List.find?_eq_none]
    intro field hfield proto
    exact free field hfield (of_decide_eq_true proto)
  rw [assignedPrototype, none]
  rfl

theorem sanitizeFields_of_free {fields : List (String × Json)}
    (free : ∀ field ∈ fields, field.1 ≠ "__proto__") :
    sanitizeFields sanitizeHtml fields =
      fields.map fun field => (field.1, sanitizeValue sanitizeHtml field.2) := by
  rw [sanitizeFields_eq, List.filter_eq_self.mpr]
  exact fun field hfield => decide_eq_true (free field hfield)

section

variable {R : Json → Json → Prop} {f : Json → Json}

theorem forall₂_items {items : List Json} :
    List.Forall₂ R items (items.map f) ↔ ∀ item ∈ items, R item (f item) := by
  rw [List.forall₂_map_right_iff, List.forall₂_same]

theorem forall₂_values {fields : List (String × Json)} :
    List.Forall₂ R (fields.map (·.2))
      ((fields.map fun field => (field.1, f field.2)).map (·.2)) ↔
      ∀ field ∈ fields, R field.2 (f field.2) := by
  rw [List.map_map, List.forall₂_map_left_iff, List.forall₂_map_right_iff, List.forall₂_same]
  rfl

end

/-! ## Every value -/

/-- The pipe keeps the structure of a body that has no object with an own key `__proto__`,
and of no other. -/
theorem transform_sanitized_iff (sanitizeHtml : String → String) (value : Json) :
    Sanitized sanitizeHtml value (transform sanitizeHtml value) ↔
      hasKey "__proto__" value = false := by
  unfold transform
  induction value using Json.induction with
  | null => exact ⟨fun _ => rfl, fun _ => .null⟩
  | bool b => exact ⟨fun _ => rfl, fun _ => .bool b⟩
  | number text => exact ⟨fun _ => rfl, fun _ => .number text⟩
  | string s => exact ⟨fun _ => rfl, fun _ => .string s⟩
  | array items ih =>
    rw [sanitizeValue, hasKey, itemsHaveKey_eq_false, sanitizeItems_eq, ← forall₂_congr ih,
      ← forall₂_items]
    constructor
    · intro kept
      cases kept with
      | array each => exact each
    · exact .array
  | object fields ih =>
    rw [sanitizeValue, hasKey, fieldsHaveKey_eq_false]
    constructor
    · intro kept
      cases kept with
      | object keys prototype values =>
        have free := sanitizeFields_keys_iff.mp keys
        rw [sanitizeFields_of_free free, forall₂_values] at values
        exact fun field hfield => ⟨free field hfield, (ih field hfield).mp (values field hfield)⟩
    · intro lacks
      have free := fun field hfield => (lacks field hfield).1
      refine .object (sanitizeFields_keys_iff.mpr free) (assignedPrototype_eq_none free) ?_
      rw [sanitizeFields_of_free free, forall₂_values]
      exact fun field hfield => (ih field hfield).mpr (lacks field hfield).2

/-- The object of a body that sets the prototype. -/
theorem transform_proto :
    ¬∀ (sanitizeHtml : String → String) (value : Json), value.WellFormed →
      Sanitized sanitizeHtml value (transform sanitizeHtml value) := by
  intro always
  have kept := always id (.object [("__proto__", .object [("admin", .bool true)])])
    (.object (by decide) (List.forall_mem_singleton.mpr
      (.object (by decide) (List.forall_mem_singleton.mpr (.bool true)))))
  have absent := (transform_sanitized_iff id _).mp kept
  exact absurd absent (by decide)

end Api
end XStreamRoll
