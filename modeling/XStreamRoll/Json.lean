/-
JSON values, as `JSON.parse` makes them and `JSON.stringify` writes them.

A number is kept by the text that `JSON.stringify` gives it, and the fields of an
object in the order of its keys.
-/
import Mathlib.Data.List.Basic

namespace XStreamRoll

inductive Json where
  | null
  | bool (b : Bool)
  | number (text : String)
  | string (s : String)
  | array (items : List Json)
  | object (fields : List (String × Json))

namespace Json

/-- `value[key]`, for an own key of an object. -/
def field (key : String) : Json → Option Json
  | .object fields => (fields.find? fun f => f.1 = key).map (·.2)
  | _ => none

/-- The code units of a character in UTF-16. -/
def codeUnits (c : Char) : List Nat :=
  if c.toNat < 0x10000 then [c.toNat]
  else [0xd800 + (c.toNat - 0x10000) / 0x400, 0xdc00 + (c.toNat - 0x10000) % 0x400]

/-- `a < b` on strings, which compares code units. -/
def before (a b : String) : Bool :=
  List.lex (a.toList.flatMap codeUnits) (b.toList.flatMap codeUnits) (· < ·)

def hexDigit (n : Nat) : Char := if n < 10 then Char.ofNat (48 + n) else Char.ofNat (87 + n)

/-- A character inside the quotes of a JSON string. -/
def escapeChar (c : Char) : List Char :=
  if c.toNat = 0x22 ∨ c.toNat = 0x5c then [Char.ofNat 0x5c, c]
  else if c.toNat = 0x8 then [Char.ofNat 0x5c, 'b']
  else if c.toNat = 0x9 then [Char.ofNat 0x5c, 't']
  else if c.toNat = 0xa then [Char.ofNat 0x5c, 'n']
  else if c.toNat = 0xc then [Char.ofNat 0x5c, 'f']
  else if c.toNat = 0xd then [Char.ofNat 0x5c, 'r']
  else if c.toNat < 0x20 then
    [Char.ofNat 0x5c, 'u', '0', '0', hexDigit (c.toNat / 16), hexDigit (c.toNat % 16)]
  else [c]

/-- `JSON.stringify` of a string. -/
def quote (s : String) : String :=
  String.ofList ([Char.ofNat 0x22] ++ s.toList.flatMap escapeChar ++ [Char.ofNat 0x22])

/-- `{text}` -/
def inBraces (text : String) : String :=
  String.singleton '{' ++ text ++ String.singleton '}'

theorem toList_inBraces (text : String) :
    (inBraces text).toList = '{' :: (text.toList ++ ['}']) := by
  simp only [inBraces, String.toList_append, String.toList_singleton, List.cons_append,
    List.nil_append]

mutual

def stringify : Json → String
  | .null => "null"
  | .bool b => if b then "true" else "false"
  | .number text => text
  | .string s => quote s
  | .array items => "[" ++ ",".intercalate (stringifyItems items) ++ "]"
  | .object fields => inBraces (",".intercalate (stringifyFields fields))

def stringifyItems : List Json → List String
  | [] => []
  | item :: items => stringify item :: stringifyItems items

def stringifyFields : List (String × Json) → List String
  | [] => []
  | (key, value) :: fields => (quote key ++ ":" ++ stringify value) :: stringifyFields fields

end

/-- `text.length`, in UTF-16 code units. -/
def length (text : String) : Nat := (text.toList.flatMap codeUnits).length

end Json

end XStreamRoll
