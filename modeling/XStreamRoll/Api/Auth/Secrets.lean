/-
The secrets under which the two kinds of tokens are signed, from the environment.

Nothing but the secret tells an access token from a refresh token: both carry the
same claims, and both verifying paths read no more than the signature, the expiry
and those claims.  So the kinds are apart exactly when the two configurations come
out with different secrets, and whether they do is decided by the environment and,
in development, by what is drawn in place of a missing secret.
-/
import XStreamRoll.Api.Auth
import XStreamRoll.Json

namespace XStreamRoll
namespace Api

/-! ## Configuration -/

inductive NodeEnv where
  | development
  | production
  | test
deriving DecidableEq, Repr

/-- What of `process.env` the tokens depend on. -/
structure ProcessEnv where
  nodeEnv : Option String
  jwtSecret : Option String
  jwtRefreshSecret : Option String
deriving DecidableEq, Repr

/-- The `env` that `validateEnv` returns. -/
structure Env where
  nodeEnv : NodeEnv
  jwtSecret : Option String
deriving DecidableEq, Repr

/-- The value of a variable, unless it is missing or empty. -/
def given (value : Option String) : Option String := value.filter (· ≠ "")

/-- `z.enum([…]).default("development")` -/
def parseNodeEnv : Option String → Option NodeEnv
  | none => some .development
  | some text =>
    if text = "development" then some .development
    else if text = "production" then some .production
    else if text = "test" then some .test
    else none

/-- `none` is `process.exit(1)`. -/
def validateEnv (e : ProcessEnv) : Option Env :=
  match parseNodeEnv e.nodeEnv with
  | none => none
  | some nodeEnv =>
    if nodeEnv ≠ .development ∧ given e.jwtSecret = none then none
    else some ⟨nodeEnv, e.jwtSecret⟩

def jwtSecretMinLength : Nat := 32

/-- `value.length`, in code units. -/
def jsLength (value : String) : Nat := (value.toList.flatMap Json.codeUnits).length

/-- Whether `validateJwtSecret` lets the process go on. -/
def validateJwtSecret (e : ProcessEnv) (env : Env) : Bool :=
  match given e.jwtSecret with
  | none => true
  | some secret => jwtSecretMinLength ≤ jsLength secret || env.nodeEnv ≠ .production

def accessExpiresIn : Nat := 15 * 60

def refreshExpiresIn : Nat := 7 * 24 * 60 * 60

/-- A configured secret, or in development the one that is drawn in its place. -/
def jwtOptions (env : Env) (secret : Option String) (generated message : String)
    (expiresIn : Nat) : Except String JwtService :=
  match given secret with
  | some secret => .ok ⟨secret, expiresIn⟩
  | none => if env.nodeEnv = .development then .ok ⟨generated, expiresIn⟩ else .error message

def createJwtConfig (e : ProcessEnv) (env : Env) (generated : String) : Except String JwtService :=
  jwtOptions env (e.jwtSecret <|> env.jwtSecret) generated "JWT_SECRET must be set" accessExpiresIn

def createRefreshJwtConfig (e : ProcessEnv) (env : Env) (generated : String) :
    Except String JwtService :=
  jwtOptions env (e.jwtRefreshSecret <|> env.jwtSecret) generated "JWT_REFRESH_SECRET must be set"
    refreshExpiresIn

/-- The access and the refresh service of an API that starts, given the two secrets that
`randomBytes` would draw. -/
def bootstrap (e : ProcessEnv) (generated generated' : String) : Option (JwtService × JwtService) :=
  match validateEnv e with
  | none => none
  | some env =>
    if validateJwtSecret e env then
      match createJwtConfig e env generated, createRefreshJwtConfig e env generated' with
      | .ok access, .ok refresh => some (access, refresh)
      | _, _ => none
    else none

/-! ## Separation -/

namespace Platform

/-- A refresh token that the API signs. -/
def MintsRefresh (p : Platform) (token : Jwt) : Prop :=
  ∃ now uuid user, token = p.signRefreshToken now uuid user

/-- An access token that the API signs. -/
def MintsAccess (p : Platform) (token : Jwt) : Prop :=
  ∃ now uuid user, token = p.signAccessToken now uuid user ∨ token = p.signToken now uuid user

/-- No refresh token passes for an access token, and no access token for a refresh token,
whenever and with whatever in the cache and in the database it is presented. -/
structure Separated (p : Platform) : Prop where
  refresh_rejected : ∀ token text header now cache db who, p.MintsRefresh token →
    p.parse text = some token → extractBearerToken (header.getD "") = .ok text →
    p.authenticate now header cache db ≠ .ok who
  access_rejected : ∀ token text now uuid uuid' cache db response, p.MintsAccess token →
    p.parse text = some token → p.refresh now uuid uuid' text cache db ≠ .ok response

/-- What `authenticate` accepts is signed with the access secret. -/
theorem authenticate_signed {p : Platform} {now : Date} {header : Option String} {cache : Cache}
    {db : Database} {who : Authenticated} {text : String} {token : Jwt}
    (hparse : p.parse text = some token)
    (hheader : extractBearerToken (header.getD "") = .ok text)
    (h : p.authenticate now header cache db = .ok who) :
    token.signedWith = some p.accessJwt.secret := by
  obtain ⟨token', hbearer, -⟩ := bind_eq_ok.mp h
  obtain ⟨text', htext, hverified⟩ := bind_eq_ok.mp hbearer
  rw [hheader, Except.ok.injEq] at htext
  subst htext
  obtain ⟨hfound, hverifies⟩ := verified_ok hverified
  rw [hparse, Option.some.injEq] at hfound
  exact hfound ▸ hverifies.1

/-- What `refresh` accepts is signed with the refresh secret. -/
theorem refresh_signed {p : Platform} {now : Date} {uuid uuid' text : String} {cache : Cache}
    {db : Database} {response : AuthResponse} {token : Jwt} (hparse : p.parse text = some token)
    (h : p.refresh now uuid uuid' text cache db = .ok response) :
    token.signedWith = some p.refreshJwt.secret := by
  obtain ⟨⟨token', userId⟩, hrefreshable, -⟩ := bind_eq_ok.mp h
  unfold refreshable at hrefreshable
  split at hrefreshable
  · cases hrefreshable
  · obtain ⟨token'', hverified, hnext⟩ := bind_eq_ok.mp hrefreshable
    obtain ⟨hfound, hverifies⟩ := verified_ok hverified
    rw [hparse, Option.some.injEq] at hfound
    exact hfound ▸ hverifies.1

theorem separated_of_ne {p : Platform} (h : p.accessJwt.secret ≠ p.refreshJwt.secret) :
    p.Separated where
  refresh_rejected := by
    rintro token text header now cache db who ⟨_, _, _, rfl⟩ hparse hheader haccepted
    have hsigned := authenticate_signed hparse hheader haccepted
    exact h (Option.some.inj hsigned).symm
  access_rejected := by
    rintro token text now uuid uuid' cache db response ⟨_, _, _, rfl | rfl⟩ hparse haccepted
    · exact h (Option.some.inj (refresh_signed hparse haccepted))
    · exact h (Option.some.inj (refresh_signed hparse haccepted))

/-- A user whose password was set at the epoch. -/
def firstUser : User := ⟨1, "u", "u@x", "h", ⟨0⟩, none, false⟩

/-- The services, and a text that stands for a refresh token of that user. -/
def withRefreshToken (access refresh : JwtService) : Platform where
  parse text := if text = "t" then some (refresh.sign ⟨0⟩ (claimsOf "j" firstUser)) else none
  sha256 := id
  toLowerCase := id
  hash := fun password salt => salt ++ password
  compare := fun password hash => hash = password
  accessJwt := access
  refreshJwt := refresh

/-- Under one secret that refresh token is accepted as an access token. -/
theorem authenticate_withRefreshToken {access refresh : JwtService}
    (hsecret : access.secret = refresh.secret) (hexpires : 0 < refresh.expiresIn) :
    (withRefreshToken access refresh).authenticate ⟨0⟩ (some "Bearer t") .empty
      ⟨[firstUser], 2, [], 1⟩ =
      .ok ⟨1, false⟩ := by
  have hheader : extractBearerToken "Bearer t" = .ok "t" := by decide +kernel
  have hverifies : access.verifies ⟨0⟩ (refresh.sign ⟨0⟩ (claimsOf "j" firstUser)) := by
    refine ⟨by rw [hsecret]; rfl, ?_⟩
    intro exp hexp
    rw [JwtService.sign, Option.mem_some_iff] at hexp
    rw [← hexp]
    show (0 : Int) < 0 + refresh.expiresIn
    omega
  have hbearer : (withRefreshToken access refresh).bearerToken ⟨0⟩ (some "Bearer t") =
      .ok (refresh.sign ⟨0⟩ (claimsOf "j" firstUser)) := by
    refine bind_eq_ok.mpr ⟨"t", hheader, ?_⟩
    rw [verifyToken, verified]
    show (if access.verifies ⟨0⟩ _ then _ else _) = _
    rw [if_pos hverifies]
  refine bind_eq_ok.mpr ⟨_, hbearer, ?_⟩
  rfl

end Platform

/-! ## Every environment -/

/-- The two services get different secrets: the refresh secret is set, or neither is. -/
def ProcessEnv.SecretsApart (generated generated' : String) (e : ProcessEnv) : Prop :=
  match e.jwtRefreshSecret with
  | none => given e.jwtSecret = none ∧ generated ≠ generated'
  | some secret => (given e.jwtSecret).getD generated ≠ (given (some secret)).getD generated'

theorem jwtOptions_ok {env : Env} {secret : Option String} {generated message : String}
    {expiresIn : Nat} {service : JwtService}
    (h : jwtOptions env secret generated message expiresIn = .ok service) :
    service = ⟨(given secret).getD generated, expiresIn⟩ := by
  unfold jwtOptions at h
  split at h
  · next secret hsecret =>
    rw [Except.ok.injEq] at h
    rw [← h, hsecret]
    rfl
  · next hnone =>
    split at h
    · rw [Except.ok.injEq] at h
      rw [← h, hnone]
      rfl
    · cases h

theorem bootstrap_some {e : ProcessEnv} {generated generated' : String}
    {access refresh : JwtService} (h : bootstrap e generated generated' = some (access, refresh)) :
    access = ⟨(given e.jwtSecret).getD generated, accessExpiresIn⟩ ∧
      refresh = ⟨(given (e.jwtRefreshSecret <|> e.jwtSecret)).getD generated', refreshExpiresIn⟩ := by
  unfold bootstrap at h
  split at h
  · cases h
  · next env henv =>
    have hsecret : env.jwtSecret = e.jwtSecret := by
      unfold validateEnv at henv
      split at henv
      · cases henv
      · split at henv
        · cases henv
        · rw [Option.some.injEq] at henv
          rw [← henv]
    split at h
    · split at h
      · next access' refresh' haccess hrefresh =>
        rw [Option.some.injEq, Prod.mk.injEq] at h
        rw [createJwtConfig, hsecret] at haccess
        rw [createRefreshJwtConfig, hsecret] at hrefresh
        rw [← h.1, ← h.2, jwtOptions_ok haccess, jwtOptions_ok hrefresh]
        cases e.jwtSecret <;> exact ⟨rfl, rfl⟩
      · cases h
    · cases h

theorem secrets_ne_iff {e : ProcessEnv} {generated generated' : String}
    {access refresh : JwtService} (h : bootstrap e generated generated' = some (access, refresh)) :
    access.secret ≠ refresh.secret ↔ e.SecretsApart generated generated' := by
  obtain ⟨rfl, rfl⟩ := bootstrap_some h
  unfold ProcessEnv.SecretsApart
  cases e.jwtRefreshSecret with
  | some secret => exact Iff.rfl
  | none =>
    show (given e.jwtSecret).getD generated ≠ (given e.jwtSecret).getD generated' ↔ _
    cases given e.jwtSecret with
    | none => simp
    | some secret => simp

/-- An API that starts keeps the two kinds of tokens apart exactly when its environment gives
them different secrets. -/
theorem kinds_separated_iff {e : ProcessEnv} {generated generated' : String}
    {access refresh : JwtService} (h : bootstrap e generated generated' = some (access, refresh)) :
    (∀ p : Platform, p.accessJwt = access → p.refreshJwt = refresh → p.Separated) ↔
      e.SecretsApart generated generated' := by
  rw [← secrets_ne_iff h]
  constructor
  · intro hseparated hsecret
    have hexpires : 0 < refresh.expiresIn := by
      rw [(bootstrap_some h).2]
      show 0 < refreshExpiresIn
      decide
    have hp := hseparated (.withRefreshToken access refresh) rfl rfl
    exact hp.refresh_rejected _ "t" (some "Bearer t") ⟨0⟩ .empty ⟨[Platform.firstUser], 2, [], 1⟩ _
      ⟨⟨0⟩, "j", Platform.firstUser, rfl⟩ rfl (by decide +kernel)
      (Platform.authenticate_withRefreshToken hsecret hexpires)
  · rintro hne p rfl rfl
    exact Platform.separated_of_ne hne

/-- A development environment with two secrets of its own. -/
def twoSecrets : ProcessEnv := ⟨none, some "access", some "refresh"⟩

theorem kinds_separated_twoSecrets :
    bootstrap twoSecrets "" "" =
        some (⟨"access", accessExpiresIn⟩, ⟨"refresh", refreshExpiresIn⟩) ∧
      ∀ p : Platform, p.accessJwt = ⟨"access", accessExpiresIn⟩ →
        p.refreshJwt = ⟨"refresh", refreshExpiresIn⟩ → p.Separated := by
  have hstarts : bootstrap twoSecrets "" "" =
      some (⟨"access", accessExpiresIn⟩, ⟨"refresh", refreshExpiresIn⟩) := by decide +kernel
  refine ⟨hstarts, (kinds_separated_iff hstarts).mpr ?_⟩
  show (given (some "access")).getD "" ≠ (given (some "refresh")).getD ""
  decide

/-- A production environment that sets `JWT_SECRET` alone. -/
def oneSecret : ProcessEnv :=
  ⟨some "production", some "0123456789abcdef0123456789abcdef", none⟩

/-- The API starts there, and takes refresh tokens for access tokens. -/
theorem kinds_mixed :
    ¬∀ (e : ProcessEnv) (generated generated' : String) (access refresh : JwtService),
      bootstrap e generated generated' = some (access, refresh) →
      ∀ p : Platform, p.accessJwt = access → p.refreshJwt = refresh → p.Separated := by
  intro h
  have hstarts : bootstrap oneSecret "" "" =
      some (⟨"0123456789abcdef0123456789abcdef", accessExpiresIn⟩,
        ⟨"0123456789abcdef0123456789abcdef", refreshExpiresIn⟩) := by decide +kernel
  have hp := h oneSecret "" "" _ _ hstarts (.withRefreshToken _ _) rfl rfl
  exact hp.refresh_rejected _ "t" (some "Bearer t") ⟨0⟩ .empty ⟨[Platform.firstUser], 2, [], 1⟩ _
    ⟨⟨0⟩, "j", Platform.firstUser, rfl⟩ rfl (by decide +kernel)
    (Platform.authenticate_withRefreshToken rfl (by decide))

end Api
end XStreamRoll
