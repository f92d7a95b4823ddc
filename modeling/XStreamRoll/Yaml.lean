/-
The values that `js-yaml` makes of a document, and what JavaScript does with them.

A property of a value is looked up in the keys of a map.  No other value has one of the
properties that a manifest is asked for.  How numbers are written and read is a parameter,
and so is what becomes of an object where a text or a number is wanted.
-/
import Mathlib.Data.Rat.Defs
import Mathlib.Data.List.Infix

namespace XStreamRoll

/-- A double.  There is one zero. -/
inductive YamlNumber where
  | nan
  | infinity (negative : Bool)
  | finite (value : Rat)
  deriving DecidableEq

/-- The fields of a map stand in the order of its keys.  `undefined` is no value of a document
but that of a property which is not there. -/
inductive Yaml where
  | undefined
  | null
  | bool (b : Bool)
  | number (n : YamlNumber)
  | string (s : String)
  | timestamp (milliseconds : Int)
  | binary (bytes : List UInt8)
  | seq (items : List Yaml)
  | map (fields : List (String × Yaml))

namespace Yaml

/-- `value == null` -/
def isNullish : Yaml → Bool
  | undefined | null => true
  | _ => false

/-- What counts as true in a condition. -/
def truthy : Yaml → Bool
  | undefined | null => false
  | bool b => b
  | number n => n ≠ .nan && n ≠ .finite 0
  | string s => s ≠ ""
  | timestamp _ | binary _ | seq _ | map _ => true

/-- `value || other` -/
def or (value other : Yaml) : Yaml := if value.truthy then value else other

/-- `value === text` -/
def is (value : Yaml) (text : String) : Bool :=
  match value with
  | string s => s = text
  | _ => false

/-- `value?.key` -/
def get (value : Yaml) (key : String) : Yaml :=
  match value with
  | map fields => ((fields.find? fun f => f.1 = key).map Prod.snd).getD undefined
  | _ => undefined

/-- `value.key`, which throws where there is no value. -/
def property (value : Yaml) (key : String) : Option Yaml :=
  if value.isNullish then none else some (value.get key)

/-- `Object.prototype.hasOwnProperty.call(value, key)`, for a key that is no index. -/
def hasOwn (value : Yaml) (key : String) : Bool :=
  match value with
  | map fields => fields.any fun f => f.1 = key
  | _ => false

/-- `Object.entries(value)`.  A character of a string stands for its code units. -/
def entries : Yaml → List (String × Yaml)
  | map fields => fields
  | seq items => indexed items
  | binary bytes => indexed (bytes.map fun b => number (.finite b.toNat))
  | string s => indexed (s.toList.map fun c => string (String.singleton c))
  | _ => []
where
  indexed (items : List Yaml) : List (String × Yaml) :=
    items.zipIdx.map fun (item, i) => (toString i, item)

/-- What `some` and `filter` go through, where there are these methods. -/
def elements : Yaml → Option (List Yaml)
  | seq items => some items
  | binary bytes => some (bytes.map fun b => number (.finite b.toNat))
  | _ => none

/-- What `for (const item of value)` goes through. -/
def iterate : Yaml → Option (List Yaml)
  | string s => some (s.toList.map fun c => string (String.singleton c))
  | value => value.elements

/-- `value.includes(text)`, for a text that is no number. -/
def includes (value : Yaml) (text : String) : Bool :=
  match value with
  | seq items => items.any fun item => item.is text
  | string s => decide (text.toList <:+: s.toList)
  | _ => false

structure Conversions where
  /-- `String(n)` -/
  numberText : YamlNumber → String
  /-- `Number(text)` -/
  parseNumber : String → YamlNumber
  /-- `String(value)` of an object, which may throw. -/
  objectText : Yaml → Option String
  /-- `Number(value)` of an object, which may throw. -/
  objectNumber : Yaml → Option YamlNumber

namespace Conversions

/-- A value in a template. -/
def text (js : Conversions) : Yaml → Option String
  | undefined => some "undefined"
  | null => some "null"
  | bool b => some (if b then "true" else "false")
  | number n => some (js.numberText n)
  | string s => some s
  | value => js.objectText value

/-- `Number(value)` -/
def number (js : Conversions) : Yaml → Option YamlNumber
  | undefined => some .nan
  | null => some (.finite 0)
  | bool b => some (.finite (if b then 1 else 0))
  | Yaml.number n => some n
  | string s => some (js.parseNumber s)
  | value => js.objectNumber value

end Conversions

theorem is_eq_true {value : Yaml} {text : String} : value.is text = true ↔ value = string text := by
  cases value with
  | string s => simp [is]
  | _ => simp [is]

end Yaml
end XStreamRoll
