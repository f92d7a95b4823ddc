/-
Accounts and their tokens: `AuthService`, `UsersService`, `PasswordResetService`,
`TokenDenylistService` and `JwtExtractorService`.

A token stands for what `jsonwebtoken` makes of its text: the claims, and the secret
whose signature it bears.  The clock of the API is also the one that `NOW()` reads.

The methods that look at the cache and at one row are functions of what they read.
`Auth.Calls` cuts them, and those that write, at their awaits.
-/
import Mathlib.Data.List.Basic
import XStreamRoll.Time
import XStreamRoll.TtlCache

namespace XStreamRoll
namespace Api

inductive HttpError where
  | badRequest (message : String)
  | unauthorized (message : String)
  | conflict (message : String)
  /-- any other rejection: a database error, a failed mail -/
  | error (message : String)
deriving DecidableEq, Repr

/-! ## Tokens -/

structure Claims where
  sub : Option Int
  email : Option String
  username : Option String
  passwordChangedAt : Option Int
  isAdmin : Option Bool
  jti : Option String
  exp : Option Int
deriving DecidableEq, Repr

structure Jwt where
  claims : Claims
  /-- The secret with which the signature verifies. -/
  signedWith : Option String
deriving DecidableEq, Repr

/-- `JwtService` under one secret.  `expiresIn` is in seconds. -/
structure JwtService where
  secret : String
  expiresIn : Nat
deriving DecidableEq, Repr

/-- `Math.floor(date.getTime() / 1000)`. -/
def seconds (date : Date) : Int := date.getTime / 1000

namespace JwtService

def sign (now : Date) (claims : Claims) (service : JwtService) : Jwt where
  claims := { claims with exp := some (seconds now + service.expiresIn) }
  signedWith := some service.secret

/-- `verifyAsync` goes through: the signature fits, and `exp` has not been reached. -/
def verifies (now : Date) (token : Jwt) (service : JwtService) : Prop :=
  token.signedWith = some service.secret ∧ ∀ exp ∈ token.claims.exp, seconds now < exp

instance (now : Date) (token : Jwt) (service : JwtService) :
    Decidable (service.verifies now token) :=
  inferInstanceAs (Decidable (_ ∧ _))

end JwtService

/-- A `jti` that the denylist can be asked about. -/
def Claims.revocable (claims : Claims) : Option String := claims.jti.filter (· ≠ "")

/-! ## What the methods rely on -/

inductive CacheValue where
  | flag (b : Bool)
  | number (n : Nat)
deriving DecidableEq, Repr

abbrev Cache := TtlCache String CacheValue Date

/-- `cache.set(key, value, ttl)`: served for `ttl` milliseconds, or for ever if that is 0. -/
def Cache.write (now : Date) (key : String) (value : CacheValue) (ttl : Nat) (cache : Cache) :
    Cache :=
  cache.set key value (if ttl = 0 then none else some (now.plus ttl))

structure Platform where
  /-- What `jsonwebtoken` reads off a text. -/
  parse : String → Option Jwt
  /-- Hexadecimal SHA-256. -/
  sha256 : String → String
  toLowerCase : String → String
  /-- `bcrypt.hash(password, 12)` under the salt that it draws. -/
  hash : String → String → String
  /-- `bcrypt.compare(password, hash)`. -/
  compare : String → String → Bool
  accessJwt : JwtService
  refreshJwt : JwtService

/-- White space and line ends, as `trim` and `\s` take them. -/
def isSpace (c : Char) : Bool :=
  c.val ∈ [0x9, 0xa, 0xb, 0xc, 0xd, 0x20, 0xa0, 0x1680, 0x2028, 0x2029, 0x202f, 0x205f, 0x3000,
    0xfeff] ∨ 0x2000 ≤ c.val ∧ c.val ≤ 0x200a

def isLineTerminator (c : Char) : Bool := c.val ∈ [0xa, 0xd, 0x2028, 0x2029]

def trim (text : String) : String :=
  String.ofList ((text.toList.dropWhile isSpace).reverse.dropWhile isSpace).reverse

/-- `text.trim().match(/^Bearer\s+(.+)$/i)?.[1]`. -/
def bearer (text : String) : Option String :=
  let cs := (trim text).toList
  let token := (cs.drop 6).dropWhile isSpace
  if (cs.take 6).map Char.toLower = "bearer".toList ∧ (cs.drop 6).head?.any isSpace = true ∧
      token ≠ [] ∧ token.any isLineTerminator = false
  then some (String.ofList token) else none

/-- `extractBearerToken`. -/
def extractBearerToken (header : String) : Except HttpError String :=
  match bearer header with
  | none => .error (.unauthorized "Authorization header must contain a Bearer token")
  | some token => .ok token

/-! ## The database -/

structure User where
  id : Nat
  username : String
  email : String
  passwordHash : String
  createdAt : Timestamptz
  passwordChangedAt : Option Timestamptz
  isAdmin : Bool
deriving DecidableEq, Repr

/-- `user.password_changed_at?.getTime() ?? user.created_at.getTime()`. -/
def User.changedAt (user : User) : Date := (user.passwordChangedAt.getD user.createdAt).toDate

structure SafeUser where
  id : String
  username : String
  email : String
  createdAt : String
deriving DecidableEq, Repr

def toSafeUser (row : User) : SafeUser where
  id := toString row.id
  username := row.username
  email := row.email
  createdAt := row.createdAt.toDate.toISOString

structure ResetToken where
  id : Nat
  userId : Nat
  tokenHash : String
  expiresAt : Timestamptz
  used : Bool
deriving DecidableEq, Repr

structure Database where
  users : List User
  nextUserId : Nat
  resetTokens : List ResetToken
  nextResetTokenId : Nat
deriving DecidableEq

namespace Database

def findByEmail (email : String) (db : Database) : Option User :=
  db.users.find? (·.email = email)

def findByUsername (username : String) (db : Database) : Option User :=
  db.users.find? (·.username = username)

def findById (id : Int) (db : Database) : Option User :=
  db.users.find? fun user => (user.id : Int) = id

/-- `INSERT INTO users`.  Both names are unique. -/
def create (NOW : Timestamptz) (username email passwordHash : String) (db : Database) :
    Option User × Database :=
  let next := { db with nextUserId := db.nextUserId + 1 }
  if (db.findByEmail email).isSome ∨ (db.findByUsername username).isSome then (none, next)
  else
    let user : User := ⟨db.nextUserId, username, email, passwordHash, NOW, none, false⟩
    (some user, { next with users := db.users ++ [user] })

/-- The rows of the user are changed, and the changed row is returned. -/
def modify (id : Nat) (f : User → User) (db : Database) : Option User × Database :=
  let db := { db with users := db.users.map fun user => if user.id = id then f user else user }
  (db.findById id, db)

/-- The name, unless another user has it. -/
def taken (id : Nat) (email username : Option String) (db : Database) : Bool :=
  db.users.any fun user => user.id ≠ id && (some user.email = email || some user.username = username)

/-- `UPDATE users SET …` of the fields that are given. -/
def updateProfile (id : Nat) (username email : Option String) (db : Database) :
    Except HttpError (Option User × Database) :=
  if db.taken id email username then
    .error (.error "duplicate key value violates unique constraint")
  else .ok (db.modify id fun user =>
    { user with username := username.getD user.username, email := email.getD user.email })

def updatePasswordHash (id : Nat) (passwordHash : String) (passwordChangedAt : Date)
    (db : Database) : Option User × Database :=
  db.modify id fun user =>
    { user with passwordHash, passwordChangedAt := some passwordChangedAt.toTimestamptz }

/-- `SELECT … WHERE token_hash = $1 AND used = false AND expires_at > NOW()`. -/
def findResetToken (NOW : Timestamptz) (tokenHash : String) (db : Database) : Option ResetToken :=
  db.resetTokens.find? fun row => row.tokenHash = tokenHash && !row.used && NOW < row.expiresAt

def insertResetToken (userId : Nat) (tokenHash : String) (expiresAt : Date) (db : Database) :
    Database :=
  { db with
    resetTokens := db.resetTokens ++
      [⟨db.nextResetTokenId, userId, tokenHash, expiresAt.toTimestamptz, false⟩]
    nextResetTokenId := db.nextResetTokenId + 1 }

def useResetToken (id : Nat) (db : Database) : Database :=
  { db with resetTokens := db.resetTokens.map fun row =>
      if row.id = id then { row with used := true } else row }

end Database

/-! ## `TokenDenylistService` -/

namespace Platform

variable (p : Platform)

def cacheKey (jti : String) : String := "jwt-denylist:" ++ p.sha256 jti

def revokedMarker : CacheValue := .flag true

/-- The unit of the time to live is the cache's, which is milliseconds. -/
def revoke (now : Date) (jti : String) (ttlSeconds : Int) (cache : Cache) : Cache :=
  if ttlSeconds ≤ 0 then cache
  else cache.write now (p.cacheKey jti) revokedMarker ttlSeconds.toNat

def isRevoked (now : Date) (jti : String) (cache : Cache) : Bool :=
  cache.get now (p.cacheKey jti) = some revokedMarker

/-- The token has a `jti`, and the denylist has it. -/
def denylisted (now : Date) (token : Jwt) (cache : Cache) : Bool :=
  token.claims.revocable.any fun jti => p.isRevoked now jti cache

def decodeJti (text : String) : Except HttpError String :=
  match (p.parse text).bind (·.claims.revocable) with
  | none => .error (.unauthorized "token has no jti claim and cannot be revoked")
  | some jti => .ok jti

/-! ## Signing and verifying -/

/-- The claims that every token carries. -/
def claimsOf (uuid : String) (user : User) : Claims where
  sub := some user.id
  email := some user.email
  username := some user.username
  passwordChangedAt := some user.changedAt.getTime
  isAdmin := none
  jti := some uuid
  exp := none

def signAccessToken (now : Date) (uuid : String) (user : User) : Jwt :=
  p.accessJwt.sign now { claimsOf uuid user with isAdmin := some user.isAdmin }

def signRefreshToken (now : Date) (uuid : String) (user : User) : Jwt :=
  p.refreshJwt.sign now (claimsOf uuid user)

/-- `UsersService.signToken`: an access token without the admin claim. -/
def signToken (now : Date) (uuid : String) (user : User) : Jwt :=
  p.accessJwt.sign now (claimsOf uuid user)

/-- The token that the text stands for, if `verifyAsync` of the service goes through. -/
def verified (service : JwtService) (message : String) (now : Date) (text : String) :
    Except HttpError Jwt :=
  match p.parse text with
  | none => .error (.unauthorized message)
  | some token =>
    if service.verifies now token then .ok token else .error (.unauthorized message)

def verifyToken (now : Date) (text : String) : Except HttpError Jwt :=
  p.verified p.accessJwt "invalid or expired access token" now text

def verifyRefreshToken (now : Date) (text : String) : Except HttpError Jwt :=
  p.verified p.refreshJwt "invalid or expired refresh token" now text

end Platform

/-! ## `JwtExtractorService` -/

/-- The user id that the claims name, if it is a positive integer. -/
def Claims.userId (claims : Claims) : Except HttpError Int :=
  match claims.sub with
  | none => .error (.unauthorized "invalid access token")
  | some id => if 0 < id then .ok id else .error (.unauthorized "invalid access token")

/-- `payload.passwordChangedAt ?? 0`. -/
def Claims.changedAt (claims : Claims) : Int := claims.passwordChangedAt.getD 0

/-- The password has not been changed since the token took over its date. -/
def Claims.checkDate (claims : Claims) : Option User → Except HttpError Unit
  | none => .error (.unauthorized "user not found")
  | some user =>
    if claims.changedAt < user.changedAt.getTime then
      .error (.unauthorized "access token is no longer valid, please log in again")
    else .ok ()

structure Authenticated where
  userId : Int
  isAdmin : Bool
deriving DecidableEq, Repr

/-- Who a token with these claims is taken for, once it is known not to be revoked. -/
def Claims.identify (db : Database) (claims : Claims) : Except HttpError Authenticated := do
  let userId ← claims.userId
  if 0 < claims.changedAt then
    claims.checkDate (db.findById userId)
  return ⟨userId, claims.isAdmin = some true⟩

/-- The part of `authenticate` before the denylist is asked. -/
def Platform.bearerToken (now : Date) (header : Option String) (p : Platform) :
    Except HttpError Jwt := do
  let text ← extractBearerToken (header.getD "")
  p.verifyToken now text

/-- `authenticate(header)`, when everything it awaits is there at once. -/
def Platform.authenticate (now : Date) (header : Option String) (cache : Cache) (db : Database)
    (p : Platform) : Except HttpError Authenticated := do
  let token ← p.bearerToken now header
  if p.denylisted now token cache = true then
    throw (.unauthorized "access token has been revoked")
  token.claims.identify db

/-! ## `AuthService.refresh` and `logout` -/

structure AuthResponse where
  user : SafeUser
  accessToken : Jwt
  refreshToken : Jwt
deriving DecidableEq, Repr

/-- The part of `refresh` before the denylist is asked: the token and the id it names. -/
def Platform.refreshable (now : Date) (refreshToken : String) (p : Platform) :
    Except HttpError (Jwt × Int) := do
  if refreshToken = "" then throw (.unauthorized "missing refresh token")
  let token ← p.verifyRefreshToken now refreshToken
  match token.claims.sub with
  | none | some 0 => throw (.unauthorized "invalid refresh token")
  | some userId => return (token, userId)

def Platform.authResponse (now : Date) (uuid uuid' : String) (user : User) (p : Platform) :
    AuthResponse where
  user := toSafeUser user
  accessToken := p.signAccessToken now uuid user
  refreshToken := p.signRefreshToken now uuid' user

/-- `refresh(refreshToken)`, when everything it awaits is there at once. -/
def Platform.refresh (now : Date) (uuid uuid' refreshToken : String) (cache : Cache)
    (db : Database) (p : Platform) : Except HttpError AuthResponse := do
  let (token, userId) ← p.refreshable now refreshToken
  if p.denylisted now token cache = true then
    throw (.unauthorized "refresh token has been revoked")
  match db.findById userId with
  | none => throw (.unauthorized "invalid refresh token")
  | some user => return p.authResponse now uuid uuid' user

/-- `Math.floor(exp - Date.now() / 1000)`. -/
def secondsLeft (exp : Int) (now : Date) : Int := (1000 * exp - now.getTime) / 1000

/-- `AuthService.extractBearerToken`, which has a text of its own for an empty header. -/
def logoutToken (header : String) : Except HttpError String :=
  if trim header = "" then
    .error (.unauthorized "Authorization header is required for logout")
  else extractBearerToken header

/-- The first half of `logout`: the access token goes on the denylist. -/
def Platform.logoutAccess (now : Date) (authorizationHeader : String) (cache : Cache)
    (p : Platform) : Except HttpError Cache := do
  let text ← logoutToken authorizationHeader
  let token ← p.verifyToken now text
  match token.claims.exp with
  | none | some 0 => throw (.unauthorized "invalid access token")
  | some expiresAt =>
    if secondsLeft expiresAt now ≤ 0 then throw (.unauthorized "access token has expired")
    let jti ← p.decodeJti text
    return p.revoke now jti (secondsLeft expiresAt now) cache

/-- The second half: the refresh token, if there is one that has not expired. -/
def Platform.logoutRefresh (now : Date) (refreshToken : Option String) (cache : Cache)
    (p : Platform) : Except HttpError Cache :=
  match refreshToken with
  | none | some "" => .ok cache
  | some text =>
    match (p.parse text).bind (·.claims.exp) with
    | none | some 0 => .ok cache
    | some refreshExpiresAt =>
      if secondsLeft refreshExpiresAt now ≤ 0 then .ok cache
      else do
        let jti ← p.decodeJti text
        return p.revoke now jti (secondsLeft refreshExpiresAt now) cache

/-- `logout(authorizationHeader, refreshToken)` at one instant, and the cache after it. -/
def Platform.logout (now : Date) (authorizationHeader : String) (refreshToken : Option String)
    (cache : Cache) (p : Platform) : Except HttpError Unit × Cache :=
  match p.logoutAccess now authorizationHeader cache with
  | .error e => (.error e, cache)
  | .ok cache =>
    match p.logoutRefresh now refreshToken cache with
    | .error e => (.error e, cache)
    | .ok cache => (.ok (), cache)

/-! ## How an answer came about -/

theorem bind_eq_ok {α β : Type} {x : Except HttpError α} {f : α → Except HttpError β} {b : β} :
    (x >>= f) = .ok b ↔ ∃ a, x = .ok a ∧ f a = .ok b := by
  cases x with
  | error e => simp [bind, Except.bind]
  | ok a => simp [bind, Except.bind]

theorem map_eq_ok {α β : Type} {x : Except HttpError α} {f : α → β} {b : β} :
    x.map f = .ok b ↔ ∃ a, x = .ok a ∧ f a = b := by
  cases x with
  | error e => simp [Except.map]
  | ok a => simp [Except.map]

theorem Platform.verified_ok {p : Platform} {service : JwtService} {message text : String}
    {now : Date} {token : Jwt} (h : p.verified service message now text = .ok token) :
    p.parse text = some token ∧ service.verifies now token := by
  unfold Platform.verified at h
  split at h
  · cases h
  · next found hfound =>
    split at h
    · next hverifies =>
      rw [Except.ok.injEq] at h
      subst h
      exact ⟨hfound, hverifies⟩
    · cases h

theorem Claims.userId_ok {claims : Claims} {userId : Int} (h : claims.userId = .ok userId) :
    claims.sub = some userId := by
  unfold Claims.userId at h
  split at h
  · cases h
  · next id hid =>
    split at h
    · rw [hid, Except.ok.inj h]
    · cases h

theorem Platform.refreshable_ok {p : Platform} {now : Date} {refreshToken : String} {token : Jwt}
    {userId : Int} (h : p.refreshable now refreshToken = .ok (token, userId)) :
    token.claims.sub = some userId := by
  unfold Platform.refreshable at h
  split at h
  · cases h
  · obtain ⟨token', -, h⟩ := bind_eq_ok.mp h
    split at h
    · cases h
    · cases h
    · next id hne hid =>
      cases h
      exact hid

end Api
end XStreamRoll
