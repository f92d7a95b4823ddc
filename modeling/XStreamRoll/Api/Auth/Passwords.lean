/-
Registering and logging in, from the body of the request to the table of users.

Both bodies pass through the sanitizing pipe and the validation of their DTO before the
service sees them.  So what is hashed is the sanitized password, and what is compared with
the hash is the sanitized password too: a login goes through with every string that
sanitizes to the same text.
-/
import XStreamRoll.Api.Auth.Calls
import XStreamRoll.Api.Sanitize

namespace XStreamRoll
namespace Api

/-- What the pipes rely on. -/
structure InputPipes where
  /-- `sanitize-html`, under the options of the pipe -/
  sanitizeHtml : String → String
  isEmail : String → Bool
  /-- the length that `@Length` compares -/
  length : String → Nat

namespace InputPipes

variable (q : InputPipes)

def hasLength (low high : Nat) (text : String) : Bool :=
  low ≤ q.length text && q.length text ≤ high

def isLetter (c : Char) : Bool := 'A' ≤ c && c ≤ 'Z' || 'a' ≤ c && c ≤ 'z'

def isDigit (c : Char) : Bool := '0' ≤ c && c ≤ '9'

def badRequest : HttpError := .badRequest "Bad Request Exception"

/-- The text under the key. -/
def textField (key : String) (body : Json) : Option String :=
  match body.field key with
  | some (.string text) => some text
  | _ => none

/-- The keys of a body, which `forbidNonWhitelisted` compares with those of the DTO. -/
def keys : Json → List String
  | .object fields => fields.map (·.1)
  | _ => []

/-- `RegisterDto`, for a body of strings. -/
def registerDto (body : Json) : Except HttpError RegisterDto :=
  match textField "username" body, textField "email" body, textField "password" body with
  | some username, some email, some password =>
    if (keys body).all (fun key => ["username", "email", "password"].contains key) &&
        q.hasLength 3 30 username && username.toList.all (fun c => isLetter c || isDigit c || c = '_') &&
        username ≠ "" && q.isEmail email && q.hasLength 8 128 password &&
        password.toList.any isLetter && password.toList.any isDigit
    then .ok ⟨username, email, password⟩ else .error badRequest
  | _, _, _ => .error badRequest

/-- `LoginDto`, for a body of strings. -/
def loginDto (body : Json) : Except HttpError LoginDto :=
  match textField "email" body, textField "password" body with
  | some email, some password =>
    if (keys body).all (fun key => ["email", "password"].contains key) && q.isEmail email &&
        q.hasLength 8 128 password
    then .ok ⟨email, password⟩ else .error badRequest
  | _, _ => .error badRequest

end InputPipes

/-! ## The service -/

/-- `register(dto)`, when everything it awaits is there at once. -/
def Platform.register (now : Timestamptz) (fresh : Fresh) (dto : RegisterDto) (db : Database)
    (p : Platform) : Except HttpError AuthResponse × Database :=
  if (db.findByEmail dto.email).isSome then (.error (.conflict "email is already registered"), db)
  else if (db.findByUsername dto.username).isSome then
    (.error (.conflict "username is already taken"), db)
  else
    match db.create now dto.username dto.email (p.hash dto.password fresh.salt) with
    | (none, db) => (.error (.error "duplicate key value violates unique constraint"), db)
    | (some user, db) => (.ok (p.authResponse now.toDate fresh.uuid fresh.uuid' user), db)

/-- `login(dto)`, when everything it awaits is there at once. -/
def Platform.login (now : Timestamptz) (fresh : Fresh) (dto : LoginDto) (db : Database)
    (p : Platform) : Except HttpError AuthResponse :=
  match db.findByEmail dto.email with
  | none => .error (.unauthorized "invalid email or password")
  | some user =>
    if p.compare dto.password user.passwordHash then
      .ok (p.authResponse now.toDate fresh.uuid fresh.uuid' user)
    else .error (.unauthorized "invalid email or password")

/-! ## The requests -/

/-- `POST /auth/register` -/
def postRegister (q : InputPipes) (p : Platform) (now : Timestamptz) (fresh : Fresh) (body : Json)
    (db : Database) : Except HttpError AuthResponse × Database :=
  match q.registerDto (transform q.sanitizeHtml body) with
  | .error e => (.error e, db)
  | .ok dto => p.register now fresh dto db

/-- `POST /auth/login` -/
def postLogin (q : InputPipes) (p : Platform) (now : Timestamptz) (fresh : Fresh) (body : Json)
    (db : Database) : Except HttpError AuthResponse :=
  match q.loginDto (transform q.sanitizeHtml body) with
  | .error e => .error e
  | .ok dto => p.login now fresh dto db

def registerBody (username email password : String) : Json :=
  .object [("username", .string username), ("email", .string email),
    ("password", .string password)]

def loginBody (email password : String) : Json :=
  .object [("email", .string email), ("password", .string password)]

/-- `bcrypt.compare` accepts the very string that was hashed. -/
def Platform.ExactCompare (p : Platform) : Prop :=
  ∀ password other salt, p.compare other (p.hash password salt) = true ↔ other = password

variable {q : InputPipes} {p : Platform}

/-- The DTO has the sanitized texts. -/
theorem registerDto_body (username email password : String) :
    q.registerDto (transform q.sanitizeHtml (registerBody username email password)) =
      q.registerDto (registerBody (sanitizeUserText q.sanitizeHtml username)
        (sanitizeUserText q.sanitizeHtml email) (sanitizeUserText q.sanitizeHtml password)) := rfl

theorem registerDto_ok {username email password : String} {dto : RegisterDto}
    (h : q.registerDto (registerBody username email password) = .ok dto) :
    dto = ⟨username, email, password⟩ ∧ q.isEmail email = true ∧
      q.hasLength 8 128 password = true := by
  have hread : q.registerDto (registerBody username email password) = if _ then _ else _ := rfl
  rw [hread] at h
  split at h
  · next hvalid =>
    rw [Except.ok.injEq] at h
    simp only [Bool.and_eq_true] at hvalid
    exact ⟨h.symm, hvalid.1.1.1.2, hvalid.1.1.2⟩
  · cases h

theorem loginDto_body {email password : String}
    (hemail : q.isEmail (sanitizeUserText q.sanitizeHtml email) = true)
    (hpassword : q.hasLength 8 128 (sanitizeUserText q.sanitizeHtml password) = true) :
    q.loginDto (transform q.sanitizeHtml (loginBody email password)) =
      .ok ⟨sanitizeUserText q.sanitizeHtml email, sanitizeUserText q.sanitizeHtml password⟩ := by
  have hread : q.loginDto (transform q.sanitizeHtml (loginBody email password)) =
      if _ then _ else _ := rfl
  rw [hread, if_pos]
  simp only [Bool.and_eq_true]
  exact ⟨⟨rfl, hemail⟩, hpassword⟩

/-! ## Registering, then logging in -/

theorem findByEmail_create {NOW : Timestamptz} {username email passwordHash : String}
    {db db' : Database} {user : User} (hfree : db.findByEmail email = none)
    (h : db.create NOW username email passwordHash = (some user, db')) :
    db'.findByEmail email = some user ∧ user.passwordHash = passwordHash := by
  unfold Database.create at h
  simp only at h
  split at h
  · cases h
  · rw [Prod.mk.injEq, Option.some.injEq] at h
    obtain ⟨rfl, rfl⟩ := h
    refine ⟨?_, rfl⟩
    rw [Database.findByEmail] at hfree ⊢
    rw [List.find?_append, hfree]
    simp

/-- A registration that goes through leaves the hash of the sanitized password with the
account of the sanitized address. -/
theorem postRegister_ok {now : Timestamptz} {fresh : Fresh} {username email password : String}
    {db db' : Database} {response : AuthResponse}
    (h : postRegister q p now fresh (registerBody username email password) db =
      (.ok response, db')) :
    q.isEmail (sanitizeUserText q.sanitizeHtml email) = true ∧
      q.hasLength 8 128 (sanitizeUserText q.sanitizeHtml password) = true ∧
      (db'.findByEmail (sanitizeUserText q.sanitizeHtml email)).map (·.passwordHash) =
        some (p.hash (sanitizeUserText q.sanitizeHtml password) fresh.salt) := by
  rw [postRegister, registerDto_body] at h
  split at h
  · cases h
  · next dto hdto =>
    obtain ⟨rfl, hemail, hpassword⟩ := registerDto_ok hdto
    refine ⟨hemail, hpassword, ?_⟩
    rw [Platform.register] at h
    split at h
    · cases h
    · next hfree =>
      split at h
      · cases h
      · split at h
        · cases h
        · next user db₁ hcreate =>
          rw [Prod.mk.injEq] at h
          have hnone := Option.not_isSome_iff_eq_none.mp hfree
          obtain ⟨hfound, hhash⟩ := findByEmail_create hnone hcreate
          rw [← h.2, hfound, Option.map_some, hhash]

/-- A login goes through when its address has an account whose hash the sanitized password
fits. -/
theorem postLogin_ok_iff {now : Timestamptz} {fresh : Fresh} {email password : String}
    {db : Database} (hemail : q.isEmail (sanitizeUserText q.sanitizeHtml email) = true)
    (hpassword : q.hasLength 8 128 (sanitizeUserText q.sanitizeHtml password) = true) :
    (∃ response, postLogin q p now fresh (loginBody email password) db = .ok response) ↔
      ∃ hash, (db.findByEmail (sanitizeUserText q.sanitizeHtml email)).map (·.passwordHash) =
        some hash ∧ p.compare (sanitizeUserText q.sanitizeHtml password) hash = true := by
  rw [postLogin, loginDto_body hemail hpassword]
  simp only [Platform.login]
  cases db.findByEmail (sanitizeUserText q.sanitizeHtml email) with
  | none => simp
  | some user =>
    cases hcompare : p.compare (sanitizeUserText q.sanitizeHtml password) user.passwordHash with
    | false => simp [hcompare]
    | true => simp [hcompare]

theorem loginDto_length {email password : String} {dto : LoginDto}
    (h : q.loginDto (transform q.sanitizeHtml (loginBody email password)) = .ok dto) :
    q.hasLength 8 128 (sanitizeUserText q.sanitizeHtml password) = true := by
  have hread : q.loginDto (transform q.sanitizeHtml (loginBody email password)) =
      if _ then _ else _ := rfl
  rw [hread] at h
  split at h
  · next hvalid =>
    simp only [Bool.and_eq_true] at hvalid
    exact hvalid.2
  · cases h

/-- After a registration, and as long as the hash of the account stays as it is, a login
with another password is refused exactly when the two passwords sanitize differently. -/
theorem login_faithful_iff (hcompare : p.ExactCompare) {now now' : Timestamptz}
    {fresh fresh' : Fresh} {username email password other : String} {db db' later : Database}
    {response : AuthResponse}
    (hregister : postRegister q p now fresh (registerBody username email password) db =
      (.ok response, db'))
    (hkept : (later.findByEmail (sanitizeUserText q.sanitizeHtml email)).map (·.passwordHash) =
      (db'.findByEmail (sanitizeUserText q.sanitizeHtml email)).map (·.passwordHash)) :
    ((∃ response', postLogin q p now' fresh' (loginBody email other) later = .ok response') →
        other = password) ↔
      (other = password ∨
        sanitizeUserText q.sanitizeHtml other ≠ sanitizeUserText q.sanitizeHtml password) := by
  obtain ⟨hemail, hlength, hhash⟩ := postRegister_ok hregister
  rw [hhash] at hkept
  have hlogin : (∃ response', postLogin q p now' fresh' (loginBody email other) later =
      .ok response') ↔
      sanitizeUserText q.sanitizeHtml other = sanitizeUserText q.sanitizeHtml password := by
    constructor
    · rintro ⟨response', hok⟩
      have hother : q.hasLength 8 128 (sanitizeUserText q.sanitizeHtml other) = true := by
        rw [postLogin] at hok
        split at hok
        · cases hok
        · next hdto => exact loginDto_length hdto
      obtain ⟨hash, hfound, hfits⟩ := (postLogin_ok_iff hemail hother).mp ⟨response', hok⟩
      rw [hkept, Option.some.injEq] at hfound
      rw [← hfound] at hfits
      exact (hcompare _ _ _).mp hfits
    · intro hsame
      refine (postLogin_ok_iff hemail (by rw [hsame]; exact hlength)).mpr ⟨_, hkept, ?_⟩
      exact (hcompare _ _ _).mpr hsame
  rw [hlogin]
  constructor
  · intro h
    by_cases hsame : sanitizeUserText q.sanitizeHtml other = sanitizeUserText q.sanitizeHtml password
    · exact .inl (h hsame)
    · exact .inr hsame
  · rintro (heq | hne) hsame
    · exact heq
    · exact absurd hsame hne

/-! ## A trailing space -/

/-- Text without markup, which `sanitize-html` hands back. -/
def plainInput : InputPipes := ⟨id, fun text => text.toList.contains '@', String.length⟩

def plainBcrypt : Platform where
  parse := fun _ => none
  sha256 := id
  toLowerCase := id
  hash := fun password _ => password
  compare := fun password hash => password = hash
  accessJwt := ⟨"access", 900⟩
  refreshJwt := ⟨"refresh", 604800⟩

theorem plainBcrypt_exact : plainBcrypt.ExactCompare := by
  intro password other salt
  exact decide_eq_true_iff

def noFresh : Fresh := ⟨"", "", "", ""⟩

def noAccounts : Database := ⟨[], 1, [], 1⟩

/-- The database after `streamer42` has registered. -/
def registered : Database :=
  ⟨[⟨1, "streamer42", "user@example.com", "P4ssw0rd!", ⟨0⟩, none, false⟩], 2, [], 1⟩

theorem registered_eq : ∃ response, postRegister plainInput plainBcrypt ⟨0⟩ noFresh
    (registerBody "streamer42" "user@example.com" "P4ssw0rd!") noAccounts =
      (.ok response, registered) := by
  have hall : (postRegister plainInput plainBcrypt ⟨0⟩ noFresh
      (registerBody "streamer42" "user@example.com" "P4ssw0rd!") noAccounts).1.isOk = true ∧
      (postRegister plainInput plainBcrypt ⟨0⟩ noFresh
        (registerBody "streamer42" "user@example.com" "P4ssw0rd!") noAccounts).2 = registered := by
    decide +kernel
  cases hregister : postRegister plainInput plainBcrypt ⟨0⟩ noFresh
      (registerBody "streamer42" "user@example.com" "P4ssw0rd!") noAccounts with
  | mk result db =>
    rw [hregister] at hall
    obtain ⟨hok, rfl⟩ := hall
    cases result with
    | error e => cases hok
    | ok response => exact ⟨response, rfl⟩

theorem login_faithful_otherPassword :
    ((∃ response', postLogin plainInput plainBcrypt ⟨1⟩ noFresh
        (loginBody "user@example.com" "P4ssw0rd?") registered = .ok response') →
        "P4ssw0rd?" = "P4ssw0rd!") ↔
      ("P4ssw0rd?" = "P4ssw0rd!" ∨ sanitizeUserText id "P4ssw0rd?" ≠
        sanitizeUserText id "P4ssw0rd!") := by
  obtain ⟨response, hregister⟩ := registered_eq
  exact login_faithful_iff plainBcrypt_exact hregister rfl

/-- The password with a space behind it logs in too. -/
theorem login_trailing_space :
    ¬∀ (q : InputPipes) (p : Platform), p.ExactCompare →
      ∀ (now now' : Timestamptz) (fresh fresh' : Fresh) (username email password other : String)
        (db db' : Database) (response response' : AuthResponse),
        postRegister q p now fresh (registerBody username email password) db =
          (.ok response, db') →
        postLogin q p now' fresh' (loginBody email other) db' = .ok response' →
        other = password := by
  intro h
  obtain ⟨response, hregister⟩ := registered_eq
  have hok : (postLogin plainInput plainBcrypt ⟨1⟩ noFresh
      (loginBody "user@example.com" "P4ssw0rd! ") registered).isOk = true := by decide +kernel
  cases hlogin : postLogin plainInput plainBcrypt ⟨1⟩ noFresh
      (loginBody "user@example.com" "P4ssw0rd! ") registered with
  | error e =>
    rw [hlogin] at hok
    cases hok
  | ok response' =>
    have heq := h plainInput plainBcrypt plainBcrypt_exact _ _ _ _ _ _ _ _ _ _ _ _ hregister hlogin
    exact absurd heq (by decide)

end Api
end XStreamRoll
