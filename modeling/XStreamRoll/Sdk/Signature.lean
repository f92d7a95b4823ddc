/-
Webhook signatures, as the API makes them and the SDK verifies them.

Strings are lists of UTF-16 code units here, for a header may hold any.  Both sides encode a
lone surrogate as U+FFFD.  HMAC-SHA256 of a key and a message is a parameter, which Node's
`crypto` and Web Crypto share.
-/
import XStreamRoll.Api.Webhooks
import XStreamRoll.Json

namespace XStreamRoll
namespace Sdk
namespace Signature

abbrev JsString := List UInt16

def units (text : String) : JsString := (text.toList.flatMap Json.codeUnits).map UInt16.ofNat

/-! ## UTF-8 -/

def isHighSurrogate (unit : UInt16) : Bool := 0xd800 ≤ unit.toNat && unit.toNat ≤ 0xdbff

def isLowSurrogate (unit : UInt16) : Bool := 0xdc00 ≤ unit.toNat && unit.toNat ≤ 0xdfff

def scalarOf (unit : UInt16) : Char :=
  if isHighSurrogate unit || isLowSurrogate unit then Char.ofNat 0xfffd else Char.ofNat unit.toNat

/-- The characters of a string, each lone surrogate replaced. -/
def scalars : JsString → List Char
  | [] => []
  | [unit] => [scalarOf unit]
  | unit :: next :: rest =>
    if isHighSurrogate unit && isLowSurrogate next then
      Char.ofNat (0x10000 + (unit.toNat - 0xd800) * 0x400 + (next.toNat - 0xdc00)) :: scalars rest
    else scalarOf unit :: scalars (next :: rest)

/-- `new TextEncoder().encode(text)` -/
def encode (text : JsString) : List UInt8 := (scalars text).flatMap String.utf8EncodeChar

theorem scalars_ne_nil {text : JsString} (h : text ≠ []) : scalars text ≠ [] := by
  match text with
  | [] => exact absurd rfl h
  | [unit] => exact List.cons_ne_nil _ _
  | unit :: next :: rest =>
    rw [scalars]
    split <;> exact List.cons_ne_nil _ _

theorem encode_ne_nil {text : JsString} (h : text ≠ []) : encode text ≠ [] := by
  obtain ⟨c, rest, hchars⟩ := List.exists_cons_of_ne_nil (scalars_ne_nil h)
  rw [encode, hchars, List.flatMap_cons]
  intro hnil
  have hlength := congrArg List.length (List.append_eq_nil_iff.mp hnil).1
  rw [String.length_utf8EncodeChar, List.length_nil] at hlength
  exact absurd hlength (Nat.pos_iff_ne_zero.mp c.utf8Size_pos)

/-! ## The API -/

/-- The bytes of HMAC-SHA256 under a key. -/
structure Crypto where
  hmacSha256 : List UInt8 → List UInt8 → List UInt8

/-- `digest("hex")` -/
def hexDigest (bytes : List UInt8) : List Char :=
  bytes.flatMap fun byte => [Nat.digitChar (byte.toNat / 16), Nat.digitChar (byte.toNat % 16)]

def signPayload (secret rawBody : JsString) (crypto : Crypto) : JsString :=
  units ("sha256=" ++
    String.ofList (hexDigest (crypto.hmacSha256 (encode secret) (encode rawBody))))

/-! ## The SDK -/

/-- `crypto.subtle.importKey("raw", …)`, which refuses a key without bytes. -/
def importKey (raw : List UInt8) : Except String (List UInt8) :=
  if raw = [] then .error "Zero-length key is not supported" else .ok raw

/-- `byte.toString(16).padStart(2, "0")` -/
def byteHex (byte : UInt8) : List Char := (Nat.toDigits 16 byte.toNat).leftpad 2 '0'

def computeWebhookSignature (secret rawBody : JsString) (crypto : Crypto) :
    Except String JsString := do
  let key ← importKey (encode secret)
  let hex := ((crypto.hmacSha256 key (encode rawBody)).map byteHex).flatten
  return units ("sha256=" ++ String.ofList hex)

/-- `text.charCodeAt(i)`, which counts as 0 where there is none. -/
def charCodeAt (text : JsString) (i : Nat) : UInt32 := (text[i]?.getD 0).toUInt32

/-- The loop of `timingSafeEqual` over the first `count` code units. -/
def mismatch (a b : JsString) (count : Nat) : UInt32 :=
  (List.range count).foldl (fun mismatch i => mismatch ||| (charCodeAt a i ^^^ charCodeAt b i)) 0

def timingSafeEqual (a b : JsString) : Bool :=
  if a.length ≠ b.length then false else mismatch a b a.length = 0

def verifyWebhookSignature (secret rawBody signature : JsString) (crypto : Crypto) :
    Except String Bool := do
  let expected ← computeWebhookSignature secret rawBody crypto
  return timingSafeEqual expected signature

/-! ## The agreement -/

/-- No bit is left over exactly when all the code units agree. -/
theorem mismatch_eq_zero_iff {a b : JsString} {count : Nat} :
    mismatch a b count = 0 ↔ ∀ i < count, charCodeAt a i = charCodeAt b i := by
  induction count with
  | zero => simp [mismatch]
  | succ count ih =>
    have hsplit : mismatch a b (count + 1) =
        mismatch a b count ||| (charCodeAt a count ^^^ charCodeAt b count) := by
      rw [mismatch, List.range_succ, List.foldl_append]
      rfl
    rw [hsplit, UInt32.or_eq_zero_iff, UInt32.xor_eq_zero_iff, ih]
    constructor
    · rintro ⟨hbefore, hlast⟩ i hi
      rcases Nat.lt_succ_iff_lt_or_eq.mp hi with hlt | rfl
      · exact hbefore i hlt
      · exact hlast
    · intro hall
      exact ⟨fun i hi => hall i (Nat.lt_succ_of_lt hi), hall count (Nat.lt_succ_self count)⟩

theorem charCodeAt_eq_iff {a b : JsString} {i : Nat} (ha : i < a.length) (hb : i < b.length) :
    charCodeAt a i = charCodeAt b i ↔ a[i] = b[i] := by
  rw [charCodeAt, charCodeAt, List.getElem?_eq_getElem ha, List.getElem?_eq_getElem hb]
  exact UInt16.toUInt32_inj

theorem timingSafeEqual_iff {a b : JsString} : timingSafeEqual a b = true ↔ a = b := by
  rw [timingSafeEqual]
  split
  · next hlength =>
    refine iff_of_false Bool.false_ne_true fun heq => hlength (congrArg List.length heq)
  · next hlength =>
    have hlength : a.length = b.length := not_not.mp hlength
    rw [decide_eq_true_eq, mismatch_eq_zero_iff]
    constructor
    · intro hall
      refine List.ext_getElem hlength fun i ha hb => ?_
      exact (charCodeAt_eq_iff ha hb).mp (hall i ha)
    · rintro rfl i -
      rfl

/-- A byte has at most two digits, and a nought is put before one. -/
theorem byteHex_eq (byte : UInt8) :
    byteHex byte = [Nat.digitChar (byte.toNat / 16), Nat.digitChar (byte.toNat % 16)] := by
  have hbyte := byte.toNat_lt
  rw [byteHex]
  rcases Nat.lt_or_ge byte.toNat 16 with hsmall | hlarge
  · rw [Nat.toDigits_of_lt_base hsmall, Nat.div_eq_of_lt hsmall, Nat.mod_eq_of_lt hsmall]
    rfl
  · have hhigh : byte.toNat / 16 < 16 := by omega
    rw [Nat.toDigits_of_base_le (by decide) hlarge, Nat.toDigits_of_lt_base hhigh]
    rfl

theorem map_byteHex (bytes : List UInt8) : (bytes.map byteHex).flatten = hexDigest bytes := by
  rw [hexDigest, List.flatMap_def]
  exact congrArg List.flatten (List.map_congr_left fun byte _ => byteHex_eq byte)

/-- The SDK computes what the API sends. -/
theorem computeWebhookSignature_eq {secret : JsString} (h : secret ≠ []) (rawBody : JsString)
    (crypto : Crypto) :
    computeWebhookSignature secret rawBody crypto = .ok (signPayload secret rawBody crypto) := by
  rw [computeWebhookSignature, importKey, if_neg (encode_ne_nil h)]
  show Except.ok (units ("sha256=" ++ String.ofList
    ((crypto.hmacSha256 (encode secret) (encode rawBody)).map byteHex).flatten)) = _
  rw [map_byteHex, signPayload]

/-- The SDK accepts the string that the API sends and no other. -/
theorem verifyWebhookSignature_eq (crypto : Crypto) (secret rawBody signature : JsString)
    (h : secret ≠ []) :
    verifyWebhookSignature secret rawBody signature crypto =
      .ok (decide (signature = signPayload secret rawBody crypto)) := by
  rw [verifyWebhookSignature, computeWebhookSignature_eq h]
  show Except.ok (timingSafeEqual (signPayload secret rawBody crypto) signature) = _
  rw [Except.ok.injEq, Bool.eq_iff_iff, timingSafeEqual_iff, decide_eq_true_eq, eq_comm]

/-- A delivery of the API verifies with the secret of its subscription. -/
theorem verify_post {Payload : Type} (p : Api.Webhooks.Platform Payload) (crypto : Crypto)
    (hcrypto : ∀ secret text, p.hmacSha256 secret text =
      String.ofList (hexDigest (crypto.hmacSha256 (encode (units secret)) (encode (units text)))))
    (now : Date) (subscription : Api.WebhookSubscription)
    (delivery : Api.WebhookDelivery Payload) (h : units subscription.secret ≠ []) :
    let post := Api.Webhooks.post p now subscription delivery
    verifyWebhookSignature (units subscription.secret) (units (p.stringify post.body))
      (units post.signature) crypto = .ok true := by
  intro post
  have hsignature : units post.signature =
      signPayload (units subscription.secret) (units (p.stringify post.body)) crypto := by
    show units ("sha256=" ++ p.hmacSha256 subscription.secret (p.stringify post.body)) = _
    rw [hcrypto, signPayload]
  rw [verifyWebhookSignature, computeWebhookSignature_eq h, hsignature]
  exact congrArg Except.ok (timingSafeEqual_iff.mpr rfl)

/-- HMAC-SHA256 of the pangram under the key `key`. -/
def pangramCrypto : Crypto where
  hmacSha256 _ _ :=
    [247, 188, 131, 244, 48, 83, 132, 36, 177, 50, 152, 230, 170, 111, 177, 67, 239, 77, 89, 161,
      73, 70, 23, 89, 151, 71, 157, 188, 45, 26, 60, 216]

/-- The pangram's signature is accepted, and in upper case it is not. -/
theorem verifyWebhookSignature_pangram :
    let secret := units "key"
    let rawBody := units "The quick brown fox jumps over the lazy dog"
    verifyWebhookSignature secret rawBody
        (units "sha256=f7bc83f430538424b13298e6aa6fb143ef4d59a14946175997479dbc2d1a3cd8") pangramCrypto =
          .ok true ∧
      verifyWebhookSignature secret rawBody
        (units "sha256=F7BC83F430538424B13298E6AA6FB143EF4D59A14946175997479DBC2D1A3CD8") pangramCrypto =
          .ok false := by
  refine ⟨?_, ?_⟩
  · rw [verifyWebhookSignature_eq pangramCrypto _ _ _ (by decide)]
    exact congrArg Except.ok (decide_eq_true (by decide +kernel))
  · rw [verifyWebhookSignature_eq pangramCrypto _ _ _ (by decide)]
    exact congrArg Except.ok (decide_eq_false (by decide +kernel))

end Signature
end Sdk
end XStreamRoll
