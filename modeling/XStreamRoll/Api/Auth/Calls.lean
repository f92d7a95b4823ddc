/-
The calls of the account services, cut at their awaits.

A method runs without a break from one `await` to the next.  A call is therefore a
record of the `await` at which it stands, with what it has read so far, and one step of
it executes what it waits for and runs on to the next `await`.  Any number of calls take
their steps in any order, on one database and one cache.  An `await` may also reject,
which ends the call, and no method here catches that.

What is drawn at random comes with the step.  `minted`, `recorded` and `admitted` are
logs: no step reads them.
-/
import XStreamRoll.Api.Auth
import XStreamRoll.Transition

namespace XStreamRoll
namespace Api

structure RegisterDto where
  username : String
  email : String
  password : String
deriving DecidableEq, Repr

structure LoginDto where
  email : String
  password : String
deriving DecidableEq, Repr

structure UpdateProfileDto where
  username : Option String
  email : Option String
deriving DecidableEq, Repr

structure ChangePasswordDto where
  currentPassword : String
  newPassword : String
deriving DecidableEq, Repr

/-- A call of one of the methods. -/
inductive Request where
  | register (dto : RegisterDto)
  | login (dto : LoginDto)
  | refresh (refreshToken : String)
  | logout (authorizationHeader : String) (refreshToken : Option String)
  | forgotPassword (email : String)
  | resetPassword (token password : String)
  | updateProfile (userId : Nat) (dto : UpdateProfileDto) (authorizationHeader : String)
  | changePassword (userId : Nat) (dto : ChangePasswordDto) (authorizationHeader : String)
  | authenticate (header : Option String)
deriving DecidableEq, Repr

/-- What a call waits for. -/
inductive Call where
  /-- `findByEmail`, `findByUsername`, `bcrypt.hash`, the INSERT and the audit log -/
  | registerEmail (dto : RegisterDto)
  | registerUsername (dto : RegisterDto)
  | registerHash (dto : RegisterDto)
  | registerCreate (dto : RegisterDto) (passwordHash : String)
  | registerLog (user : User)
  /-- `findByEmail`, `bcrypt.compare` and the audit log -/
  | loginEmail (dto : LoginDto)
  | loginCompare (dto : LoginDto) (user : User)
  | loginLog (user : User)
  /-- the denylist, `findById`, and its answer on the way back -/
  | refreshDenylist (token : Jwt) (userId : Int)
  | refreshFind (token : Jwt) (userId : Int)
  | refreshFound (token : Jwt) (user : User)
  /-- the two entries of the denylist -/
  | logoutAccess (authorizationHeader : String) (refreshToken : Option String)
  | logoutRefresh (refreshToken : Option String)
  /-- the rate limit twice, `findByEmail`, the INSERT and the mail -/
  | forgotCount (email : String)
  | forgotLimit (email : String) (currentAttempts : Nat)
  | forgotFind (email : String)
  | forgotInsert (userId : Nat) (email token : String) (expiresAt : Date)
  | forgotMail (email token : String)
  /-- the SELECT, `findById`, the rate limit twice, `bcrypt.hash` and the transaction -/
  | resetSelect (tokenHash password : String)
  | resetFind (row : ResetToken) (password : String)
  | resetCount (row : ResetToken) (rateKey password : String)
  | resetLimit (row : ResetToken) (rateKey password : String) (currentAttempts : Nat)
  | resetHash (row : ResetToken) (password : String)
  | resetCommit (row : ResetToken) (passwordHash : String) (passwordChangedAt : Date)
  /-- `findById`, the two conflicts, the UPDATE and the denylist -/
  | profileFind (userId : Nat) (dto : UpdateProfileDto) (authorizationHeader : String)
  | profileEmail (user : User) (dto : UpdateProfileDto) (authorizationHeader : String)
  | profileUsername (user : User) (dto : UpdateProfileDto) (authorizationHeader : String)
  | profileUpdate (user : User) (dto : UpdateProfileDto) (authorizationHeader : String)
  | profileRevoke (updated : User) (jti : String)
  /-- `findById`, `bcrypt.compare`, `bcrypt.hash`, the UPDATE and the denylist -/
  | changeFind (userId : Nat) (dto : ChangePasswordDto) (authorizationHeader : String)
  | changeCompare (user : User) (dto : ChangePasswordDto) (authorizationHeader : String)
  | changeHash (userId : Nat) (newPassword authorizationHeader : String)
  | changeUpdate (userId : Nat) (passwordHash : String) (passwordChangedAt : Date)
      (authorizationHeader : String)
  | changeRevoke (updated : User) (jti : String)
  /-- the denylist and `findById` -/
  | authDenylist (token : Jwt)
  | authFind (token : Jwt) (userId : Int)
deriving DecidableEq, Repr

structure ProfileResponse where
  user : SafeUser
  accessToken : Option Jwt
deriving DecidableEq, Repr

inductive Response where
  | auth (response : AuthResponse)
  | profile (response : ProfileResponse)
  | authenticated (who : Authenticated)
  | done
deriving DecidableEq, Repr

/-- A token that the API has signed, when, and the refresh token it was traded for. -/
structure Minted where
  token : Jwt
  time : Date
  source : Option Jwt
deriving DecidableEq, Repr

structure Auth where
  now : Timestamptz
  db : Database
  cache : Cache
  calls : List Call
  responses : List (Except HttpError Response)
  minted : List Minted
  /-- The dates that were written to `password_changed_at`, with the user. -/
  recorded : List (Nat × Date)
  /-- The tokens that `authenticate` has accepted. -/
  admitted : List Jwt

/-- What one step draws at random. -/
structure Fresh where
  uuid : String
  uuid' : String
  /-- the salt of `bcrypt.hash` -/
  salt : String
  /-- `crypto.randomBytes` in hexadecimal -/
  bytes : String
deriving DecidableEq, Repr

namespace Auth

/-! ## Ends of a step -/

/-- The `i`-th call runs on to its next `await`. -/
def wait (i : Nat) (call : Call) (s : Auth) : Auth := { s with calls := s.calls.set i call }

/-- The `i`-th call returns or throws. -/
def finish (i : Nat) (response : Except HttpError Response) (s : Auth) : Auth :=
  { s with calls := s.calls.eraseIdx i, responses := s.responses ++ [response] }

def fail (i : Nat) (error : HttpError) (s : Auth) : Auth := s.finish i (.error error)

/-- Either of them. -/
def proceed (i : Nat) (next : Except HttpError Call) (s : Auth) : Auth :=
  match next with
  | .ok call => s.wait i call
  | .error e => s.fail i e

def mint (tokens : List Jwt) (source : Option Jwt) (s : Auth) : Auth :=
  { s with minted := s.minted ++ tokens.map fun token => ⟨token, s.now.toDate, source⟩ }

/-- The call returns a token pair for the user. -/
def issue (p : Platform) (fresh : Fresh) (i : Nat) (user : User) (source : Option Jwt)
    (s : Auth) : Auth :=
  let response := p.authResponse s.now.toDate fresh.uuid fresh.uuid' user
  (s.mint [response.accessToken, response.refreshToken] source).finish i (.ok (.auth response))

/-- The call returns a profile with a new access token. -/
def issueProfile (p : Platform) (fresh : Fresh) (i : Nat) (user : User) (s : Auth) : Auth :=
  let token := p.signToken s.now.toDate fresh.uuid user
  (s.mint [token] none).finish i (.ok (.profile ⟨toSafeUser user, some token⟩))

def accept (i : Nat) (token : Jwt) (s : Auth) : Auth :=
  { s with admitted := s.admitted ++ [token] }.finish i
    (.ok (.authenticated ⟨token.claims.sub.getD 0, token.claims.isAdmin = some true⟩))

def record (userId : Nat) (passwordChangedAt : Date) (s : Auth) : Auth :=
  { s with recorded := s.recorded ++ [(userId, passwordChangedAt)] }

/-! ## The calls -/

def maxAttemptsPerEmail : Nat := 3

def rateLimitTtlSeconds : Nat := 60 * 60

def passwordResetTokenTtlMs : Nat := 60 * 60 * 1000

/-- The `ttlSeconds` with which `UsersService` revokes. -/
def profileRevokeSeconds : Int := 3600

def rateKey (kind email : String) : String := "password-reset:" ++ kind ++ ":" ++ email

/-- `(await this.cache.get<number>(rateKey)) ?? 0`. -/
def attempts (key : String) (s : Auth) : Nat :=
  match s.cache.get s.now.toDate key with
  | some (.number n) => n
  | _ => 0

def countAttempt (key : String) (currentAttempts : Nat) (s : Auth) : Auth :=
  { s with cache :=
      s.cache.write s.now.toDate key (.number (currentAttempts + 1)) rateLimitTtlSeconds }

def invalidResetToken : HttpError := .badRequest "invalid or expired reset token"

def userNotFound : HttpError := .unauthorized "user not found"

/-- `dto.email && dto.email !== user.email`, and the same for the name. -/
def changed (given : Option String) (current : String) : Bool :=
  given.any fun value => value ≠ "" ∧ value ≠ current

/-- Where `updateProfile` stands once the e-mail address is known to be free. -/
def afterEmail (user : User) (dto : UpdateProfileDto) (authorizationHeader : String) : Call :=
  if changed dto.username user.username then .profileUsername user dto authorizationHeader
  else .profileUpdate user dto authorizationHeader

/-- The `jti` of the token in the header. -/
def headerJti (p : Platform) (authorizationHeader : String) : Except HttpError String := do
  let token ← extractBearerToken authorizationHeader
  p.decodeJti token

/-- What a call does up to its first `await`. -/
def start (p : Platform) (now : Date) : Request → Except HttpError Call
  | .register dto => .ok (.registerEmail dto)
  | .login dto => .ok (.loginEmail dto)
  | .refresh refreshToken => do
    let (token, userId) ← p.refreshable now refreshToken
    return .refreshDenylist token userId
  | .logout authorizationHeader refreshToken => .ok (.logoutAccess authorizationHeader refreshToken)
  | .forgotPassword email => .ok (.forgotCount (p.toLowerCase (trim email)))
  | .resetPassword token password => .ok (.resetSelect (p.sha256 token) password)
  | .updateProfile userId dto header => .ok (.profileFind userId dto header)
  | .changePassword userId dto header => .ok (.changeFind userId dto header)
  | .authenticate header => do
    let token ← p.bearerToken now header
    return .authDenylist token

/-- What the `i`-th call does from its `await` to the next. -/
def resume (p : Platform) (fresh : Fresh) (i : Nat) (s : Auth) : Call → Auth
  | .registerEmail dto =>
    if (s.db.findByEmail dto.email).isSome then s.fail i (.conflict "email is already registered")
    else s.wait i (.registerUsername dto)
  | .registerUsername dto =>
    if (s.db.findByUsername dto.username).isSome then s.fail i (.conflict "username is already taken")
    else s.wait i (.registerHash dto)
  | .registerHash dto => s.wait i (.registerCreate dto (p.hash dto.password fresh.salt))
  | .registerCreate dto passwordHash =>
    match s.db.create s.now dto.username dto.email passwordHash with
    | (none, db) => { s with db }.fail i (.error "duplicate key value violates unique constraint")
    | (some user, db) => { s with db }.wait i (.registerLog user)
  | .registerLog user => s.issue p fresh i user none
  | .loginEmail dto =>
    match s.db.findByEmail dto.email with
    | none => s.fail i (.unauthorized "invalid email or password")
    | some user => s.wait i (.loginCompare dto user)
  | .loginCompare dto user =>
    if p.compare dto.password user.passwordHash then s.wait i (.loginLog user)
    else s.fail i (.unauthorized "invalid email or password")
  | .loginLog user => s.issue p fresh i user none
  | .refreshDenylist token userId =>
    if p.denylisted s.now.toDate token s.cache then
      s.fail i (.unauthorized "refresh token has been revoked")
    else s.wait i (.refreshFind token userId)
  | .refreshFind token userId =>
    match s.db.findById userId with
    | none => s.fail i (.unauthorized "invalid refresh token")
    | some user => s.wait i (.refreshFound token user)
  | .refreshFound token user => s.issue p fresh i user (some token)
  | .logoutAccess header refreshToken =>
    match p.logoutAccess s.now.toDate header s.cache with
    | .error e => s.fail i e
    | .ok cache => { s with cache }.wait i (.logoutRefresh refreshToken)
  | .logoutRefresh refreshToken =>
    match p.logoutRefresh s.now.toDate refreshToken s.cache with
    | .error e => s.fail i e
    | .ok cache => { s with cache }.finish i (.ok .done)
  | .forgotCount email =>
    let currentAttempts := s.attempts (rateKey "forgot" email)
    if maxAttemptsPerEmail ≤ currentAttempts then s.finish i (.ok .done)
    else s.wait i (.forgotLimit email currentAttempts)
  | .forgotLimit email currentAttempts =>
    (s.countAttempt (rateKey "forgot" email) currentAttempts).wait i (.forgotFind email)
  | .forgotFind email =>
    match s.db.findByEmail email with
    | none => s.finish i (.ok .done)
    | some user => s.wait i (.forgotInsert user.id email fresh.bytes
        (s.now.toDate.plus passwordResetTokenTtlMs))
  | .forgotInsert userId email token expiresAt =>
    { s with db := s.db.insertResetToken userId (p.sha256 token) expiresAt }.wait i
      (.forgotMail email token)
  | .forgotMail _ _ => s.finish i (.ok .done)
  | .resetSelect tokenHash password =>
    match s.db.findResetToken s.now tokenHash with
    | none => s.fail i invalidResetToken
    | some row => s.wait i (.resetFind row password)
  | .resetFind row password =>
    match s.db.findById row.userId with
    | none => s.fail i invalidResetToken
    | some user =>
      s.wait i (.resetCount row (rateKey "reset" (p.toLowerCase (trim user.email))) password)
  | .resetCount row key password =>
    if maxAttemptsPerEmail ≤ s.attempts key then s.fail i invalidResetToken
    else s.wait i (.resetLimit row key password (s.attempts key))
  | .resetLimit row key password currentAttempts =>
    (s.countAttempt key currentAttempts).wait i (.resetHash row password)
  | .resetHash row password =>
    s.wait i (.resetCommit row (p.hash password fresh.salt) s.now.toDate)
  | .resetCommit row passwordHash passwordChangedAt =>
    let db := s.db.useResetToken row.id
    ({ s with db := (db.updatePasswordHash row.userId passwordHash passwordChangedAt).2 }.record
      row.userId passwordChangedAt).finish i (.ok .done)
  | .profileFind userId dto header =>
    match s.db.findById userId with
    | none => s.fail i userNotFound
    | some user =>
      s.wait i (if changed dto.email user.email then .profileEmail user dto header
        else afterEmail user dto header)
  | .profileEmail user dto header =>
    if (dto.email.bind fun email => s.db.findByEmail email).isSome then
      s.fail i (.conflict "email is already in use")
    else s.wait i (afterEmail user dto header)
  | .profileUsername user dto header =>
    if (dto.username.bind fun username => s.db.findByUsername username).isSome then
      s.fail i (.conflict "username is already taken")
    else s.wait i (.profileUpdate user dto header)
  | .profileUpdate user dto header =>
    match s.db.updateProfile user.id dto.username dto.email with
    | .error e => s.fail i e
    | .ok (none, db) => { s with db }.fail i (.error "row is undefined")
    | .ok (some updated, db) =>
      if changed dto.email user.email then
        { s with db }.proceed i ((headerJti p header).map (.profileRevoke updated))
      else { s with db }.finish i (.ok (.profile ⟨toSafeUser updated, none⟩))
  | .profileRevoke updated jti =>
    { s with cache := p.revoke s.now.toDate jti profileRevokeSeconds s.cache }.issueProfile p fresh i
      updated
  | .changeFind userId dto header =>
    match s.db.findById userId with
    | none => s.fail i userNotFound
    | some user => s.wait i (.changeCompare user dto header)
  | .changeCompare user dto header =>
    if p.compare dto.currentPassword user.passwordHash then
      s.wait i (.changeHash user.id dto.newPassword header)
    else s.fail i (.unauthorized "current password is incorrect")
  | .changeHash userId newPassword header =>
    s.wait i (.changeUpdate userId (p.hash newPassword fresh.salt) s.now.toDate header)
  | .changeUpdate userId passwordHash passwordChangedAt header =>
    match s.db.updatePasswordHash userId passwordHash passwordChangedAt with
    | (none, db) => { s with db }.fail i (.error "row is undefined")
    | (some updated, db) =>
      ({ s with db }.record userId passwordChangedAt).proceed i
        ((headerJti p header).map (.changeRevoke updated))
  | .changeRevoke updated jti =>
    { s with cache := p.revoke s.now.toDate jti profileRevokeSeconds s.cache }.issueProfile p fresh i
      updated
  | .authDenylist token =>
    if p.denylisted s.now.toDate token s.cache then
      s.fail i (.unauthorized "access token has been revoked")
    else
      match token.claims.userId with
      | .error e => s.fail i e
      | .ok userId =>
        if 0 < token.claims.changedAt then s.wait i (.authFind token userId) else s.accept i token
  | .authFind token userId =>
    match token.claims.checkDate (s.db.findById userId) with
    | .error e => s.fail i e
    | .ok () => s.accept i token

inductive Action where
  | advance (micros : Nat)
  | call (request : Request)
  | resume (i : Nat) (fresh : Fresh)
  /-- What the call waits for rejects. -/
  | reject (i : Nat) (message : String)
deriving DecidableEq, Repr

def step (p : Platform) (s : Auth) : Action → Option Auth
  | .advance micros => some { s with now := ⟨s.now.micros + micros⟩ }
  | .call request =>
    match start p s.now.toDate request with
    | .error e => some { s with responses := s.responses ++ [.error e] }
    | .ok call => some { s with calls := s.calls ++ [call] }
  | .resume i fresh => (s.calls[i]?).map (s.resume p fresh i)
  | .reject i message =>
    if i < s.calls.length then some (s.fail i (.error message)) else none

end Auth

/-! ## What a step does to the database -/

namespace Database

/-- At most one statement of a call. -/
inductive Writes (db : Database) : Database → Prop where
  | nothing : Writes db db
  | create (NOW : Timestamptz) (username email passwordHash : String) :
    Writes db (db.create NOW username email passwordHash).2
  | profile {id : Nat} {username email : Option String} {found : Option User × Database}
    (h : db.updateProfile id username email = .ok found) : Writes db found.2
  | password (id : Nat) (passwordHash : String) (passwordChangedAt : Date) :
    Writes db (db.updatePasswordHash id passwordHash passwordChangedAt).2
  | token (userId : Nat) (tokenHash : String) (expiresAt : Date) :
    Writes db (db.insertResetToken userId tokenHash expiresAt)
  | reset (rowId id : Nat) (passwordHash : String) (passwordChangedAt : Date) :
    Writes db ((db.useResetToken rowId).updatePasswordHash id passwordHash passwordChangedAt).2

end Database

namespace Auth

variable {p : Platform} {s t : Auth}

theorem proceed_writes {db : Database} {i : Nat} {next : Except HttpError Call} {u : Auth}
    (h : db.Writes u.db) : db.Writes (u.proceed i next).db := by
  cases next <;> exact h

theorem resume_writes (fresh : Fresh) (i : Nat) (call : Call) (s : Auth) :
    s.db.Writes (s.resume p fresh i call).db := by
  cases call with
  | registerCreate dto passwordHash =>
    have create : s.db.Writes (s.db.create s.now dto.username dto.email passwordHash).2 :=
      .create ..
    simp only [resume]
    split
    · next heq =>
      rw [heq] at create
      exact create
    · next heq =>
      rw [heq] at create
      exact create
  | forgotInsert userId email token expiresAt => exact .token userId (p.sha256 token) expiresAt
  | resetCommit row passwordHash passwordChangedAt =>
    exact .reset row.id row.userId passwordHash passwordChangedAt
  | profileUpdate user dto header =>
    simp only [resume]
    split
    · exact .nothing
    · next heq => exact .profile heq
    · next heq =>
      split
      · exact proceed_writes (.profile heq)
      · exact .profile heq
  | changeUpdate userId passwordHash passwordChangedAt header =>
    have update : s.db.Writes (s.db.updatePasswordHash userId passwordHash passwordChangedAt).2 :=
      .password ..
    simp only [resume]
    split
    · next heq =>
      rw [heq] at update
      exact update
    · next heq =>
      rw [heq] at update
      exact proceed_writes update
  | authDenylist token =>
    simp only [resume]
    split
    · exact .nothing
    · split
      · exact .nothing
      · split <;> exact .nothing
  | profileFind userId dto header =>
    simp only [resume]
    split <;> exact .nothing
  | registerHash | registerLog | loginLog | refreshFound | forgotLimit | forgotMail | resetLimit
  | resetHash | profileRevoke | changeHash | changeRevoke => exact .nothing
  | registerEmail | registerUsername | loginEmail | loginCompare | refreshDenylist | refreshFind
  | logoutAccess | logoutRefresh | forgotCount | forgotFind | resetSelect | resetFind
  | resetCount | profileEmail | profileUsername | changeFind | changeCompare | authFind =>
    simp only [resume]
    split <;> exact .nothing

theorem step_writes {a : Action} (hs : s.step p a = some t) : s.db.Writes t.db := by
  cases a with
  | advance micros =>
    cases hs
    exact .nothing
  | call request =>
    rw [step] at hs
    split at hs
    · cases hs
      exact .nothing
    · cases hs
      exact .nothing
  | reject i message =>
    rw [step] at hs
    split at hs
    · cases hs
      exact .nothing
    · cases hs
  | resume i fresh =>
    obtain ⟨call, -, rfl⟩ := Option.map_eq_some_iff.mp hs
    exact resume_writes fresh i call s

end Auth

end Api
end XStreamRoll
