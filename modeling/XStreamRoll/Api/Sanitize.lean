/-
The global sanitizing pipe: what it does to a request body before anything else sees it.

`sanitize-html` strips the markup, the basic entities that it leaves are decoded, runs of
white space become one space, and the ends are trimmed.  The pipe does this to every string
that it can reach, whatever the string is for.
-/
import XStreamRoll.Api.Auth
import XStreamRoll.Json

namespace XStreamRoll
namespace Api

/-! ## Text -/

/-- `text.replace(/pattern/g, c)` for a literal pattern.  The number is what is left to skip of
the match under way. -/
def replaceAll (pattern : List Char) (c : Char) : Nat → List Char → List Char
  | _, [] => []
  | skip + 1, _ :: rest => replaceAll pattern c skip rest
  | 0, x :: rest =>
    if pattern.isPrefixOf (x :: rest) then c :: replaceAll pattern c (pattern.length - 1) rest
    else x :: replaceAll pattern c 0 rest

/-- The entities of `decodeBasicEntities`, in the order of its calls. -/
def basicEntities : List (String × Char) :=
  [("&amp;", '&'), ("&lt;", '<'), ("&gt;", '>'), ("&quot;", Char.ofNat 0x22),
    ("&#x27;", Char.ofNat 0x27), ("&#39;", Char.ofNat 0x27)]

def decodeBasicEntities (text : List Char) : List Char :=
  basicEntities.foldl (fun text entity => replaceAll entity.1.toList entity.2 0 text) text

/-- `text.replace(/[\s\u00a0]+/g, " ")`.  The flag says that the last character was white. -/
def collapse : Bool → List Char → List Char
  | _, [] => []
  | inRun, c :: rest =>
    if isSpace c then
      if inRun then collapse true rest else ' ' :: collapse true rest
    else c :: collapse false rest

section
variable (sanitizeHtml : String → String)

def sanitizeUserText (input : String) : String :=
  trim (String.ofList (collapse false (decodeBasicEntities (sanitizeHtml input).toList)))

/-! ## Bodies -/

mutual

def sanitizeValue : Json → Json
  | .string s => .string (sanitizeUserText sanitizeHtml s)
  | .array items => .array (sanitizeItems items)
  | .object fields => .object (sanitizeFields fields)
  | .null => .null
  | .bool b => .bool b
  | .number text => .number text

def sanitizeItems : List Json → List Json
  | [] => []
  | item :: items => sanitizeValue item :: sanitizeItems items

/-- `out[key] = …` with the key `__proto__` sets the prototype, and makes no field. -/
def sanitizeFields : List (String × Json) → List (String × Json)
  | [] => []
  | (key, value) :: fields =>
    if key = "__proto__" then sanitizeFields fields
    else (key, sanitizeValue value) :: sanitizeFields fields

end

/-- `SanitizeStringsPipe.transform` -/
def transform (value : Json) : Json := sanitizeValue sanitizeHtml value

end

end Api
end XStreamRoll
