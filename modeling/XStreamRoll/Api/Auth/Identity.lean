/-
Whom a new access token is taken for.

Five calls return one.  Those of `AuthService` sign it with the admin claim, those of
`UsersService` without, and the extractor takes a token without the claim for one of
somebody who is not an admin.
-/
import XStreamRoll.Api.Auth.Calls
import XStreamRoll.Api.Auth.Logout

namespace XStreamRoll
namespace Api

/-- The methods that return an access token. -/
inductive Issuer where
  | register
  | login
  | refresh
  | updateProfile
  | changePassword
deriving DecidableEq, Repr

/-- The methods of `AuthService`. -/
def Issuer.isAuthService : Issuer → Bool
  | .register | .login | .refresh => true
  | .updateProfile | .changePassword => false

def Issuer.sign (p : Platform) (now : Date) (uuid : String) (user : User) (issuer : Issuer) : Jwt :=
  if issuer.isAuthService then p.signAccessToken now uuid user else p.signToken now uuid user

/-- The call waits for the last time before it returns a token, which is for the row. -/
def Call.issues : Call → Option (Issuer × User)
  | .registerLog user => some (.register, user)
  | .loginLog user => some (.login, user)
  | .refreshFound _ user => some (.refresh, user)
  | .profileRevoke updated _ => some (.updateProfile, updated)
  | .changeRevoke updated _ => some (.changePassword, updated)
  | _ => none

def Response.accessToken : Response → Option Jwt
  | .auth response => some response.accessToken
  | .profile response => response.accessToken
  | .authenticated _ | .done => none

/-! ## Presenting it -/

/-- The token is presented while it is valid: it has neither expired nor been revoked, and
the password was not changed since. -/
structure Platform.Valid (p : Platform) (now : Date) (header : String) (token : Jwt)
    (cache : Cache) (db : Database) : Prop where
  carried : ∃ text, bearer header = some text ∧ p.parse text = some token
  unexpired : ∀ exp ∈ token.claims.exp, seconds now < exp
  live : p.denylisted now token cache = false
  current : 0 < token.claims.changedAt → ∃ row,
    db.findById (token.claims.sub.getD 0) = some row ∧
      row.changedAt.getTime ≤ token.claims.changedAt

namespace Platform

variable {p : Platform} {issuedAt now : Date} {uuid header : String} {user : User}
  {cache : Cache} {db : Database}

theorem identify_of_current {claims : Claims} {userId : Nat}
    (sub : claims.sub = some (userId : Int))
    (current : 0 < claims.changedAt → ∃ row, db.findById (claims.sub.getD 0) = some row ∧
      row.changedAt.getTime ≤ claims.changedAt) :
    claims.identify db = if 0 < userId then .ok ⟨userId, claims.isAdmin = some true⟩
      else .error (.unauthorized "invalid access token") := by
  rw [Claims.identify, Claims.userId, sub]
  by_cases positive : 0 < userId
  · have named : (0 : Int) < userId := Int.natCast_pos.mpr positive
    rw [sub, Option.getD_some] at current
    simp only [named, if_true, positive]
    by_cases dated : 0 < claims.changedAt
    · obtain ⟨row, found, notLater⟩ := current dated
      have same : claims.checkDate (db.findById userId) = .ok () := by
        rw [found, Claims.checkDate, if_neg (not_lt.mpr notLater)]
      simp [dated, same, bind, Except.bind, pure, Except.pure]
    · simp [dated, bind, Except.bind, pure, Except.pure]
  · have unnamed : ¬(0 : Int) < userId := fun named => positive (Int.natCast_pos.mp named)
    simp only [unnamed, if_false, positive]
    rfl

/-- A valid token with these claims is taken for the user, in the role that it names. -/
theorem authenticate_of_valid {isAdmin : Option Bool}
    (valid : p.Valid now header
      (p.accessJwt.sign issuedAt { claimsOf uuid user with isAdmin := isAdmin }) cache db) :
    p.authenticate now (some header) cache db =
      if 0 < user.id then .ok ⟨user.id, isAdmin = some true⟩
      else .error (.unauthorized "invalid access token") := by
  obtain ⟨text, carried, parsed⟩ := valid.carried
  rw [authenticate_eq carried parsed ⟨rfl, valid.unexpired⟩, valid.live, if_neg Bool.false_ne_true,
    identify_of_current (show _ = some (user.id : Int) from rfl) valid.current]
  rfl

/-- What the token of an issuer says of the role. -/
theorem sign_eq (issuer : Issuer) :
    issuer.sign p issuedAt uuid user = p.accessJwt.sign issuedAt { claimsOf uuid user with
      isAdmin := if issuer.isAuthService then some user.isAdmin else none } := by
  cases issuer <;> rfl

theorem authenticate_issued_iff {issuer : Issuer}
    (valid : p.Valid now header (issuer.sign p issuedAt uuid user) cache db) :
    p.authenticate now (some header) cache db = .ok ⟨user.id, user.isAdmin⟩ ↔
      0 < user.id ∧ (issuer.isAuthService = true ∨ user.isAdmin = false) := by
  rw [sign_eq] at valid
  rw [authenticate_of_valid valid]
  by_cases positive : 0 < user.id
  · cases issuer.isAuthService <;> cases user.isAdmin <;> simp [positive]
  · simp [positive]

end Platform

namespace Auth

open Transition

variable {p : Platform} {s : Auth} {fresh : Fresh} {i : Nat}

/-! ## The calls -/

/-- The responses after a step that returns no token. -/
def Silent (s : Auth) (responses : List (Except HttpError Response)) : Prop :=
  ∀ response, responses = s.responses ++ [.ok response] → response.accessToken = none

variable {responses : List (Except HttpError Response)}

theorem silent_of_same (same : responses = s.responses) : s.Silent responses := by
  intro response returned
  rw [same] at returned
  simp at returned

theorem silent_of_error {error : HttpError} (thrown : responses = s.responses ++ [.error error]) :
    s.Silent responses := by
  intro response returned
  rw [thrown] at returned
  simp at returned

theorem silent_of_ok {response : Response} (ended : responses = s.responses ++ [.ok response])
    (noToken : response.accessToken = none) : s.Silent responses := by
  intro other returned
  rw [ended] at returned
  have same : response = other := by simpa using returned
  exact same ▸ noToken

theorem silent_proceed {r : Auth} (same : r.responses = s.responses)
    (next : Except HttpError Call) : s.Silent (r.proceed i next).responses := by
  cases next with
  | error e =>
    have thrown : (r.proceed i (.error e)).responses = s.responses ++ [.error e] := by
      rw [← same]
      rfl
    exact silent_of_error thrown
  | ok call => exact silent_of_same same

/-- No other call returns a token. -/
theorem resume_silent {call : Call} (other : call.issues = none) :
    s.Silent (s.resume p fresh i call).responses := by
  cases call with
  | registerLog user => cases other
  | loginLog user => cases other
  | refreshFound token user => cases other
  | profileRevoke updated jti => cases other
  | changeRevoke updated jti => cases other
  | profileUpdate user dto header =>
    unfold Auth.resume
    dsimp only
    split
    · exact silent_of_error rfl
    · exact silent_of_error rfl
    · split
      · apply silent_proceed
        rfl
      · exact silent_of_ok rfl rfl
  | changeUpdate userId passwordHash passwordChangedAt header =>
    unfold Auth.resume
    dsimp only
    split
    · exact silent_of_error rfl
    · apply silent_proceed
      rfl
  | _ =>
    unfold Auth.resume
    dsimp only
    repeat' split
    all_goals first
      | exact silent_of_same rfl
      | exact silent_of_error rfl
      | exact silent_of_ok rfl rfl

theorem resume_issues {call : Call} {issuer : Issuer} {user : User}
    (issues : call.issues = some (issuer, user)) :
    ∃ response, (s.resume p fresh i call).responses = s.responses ++ [.ok response] ∧
      response.accessToken = some (issuer.sign p s.now.toDate fresh.uuid user) := by
  cases call <;> cases issues <;> exact ⟨_, rfl, rfl⟩

/-- Every access token that a step returns was signed for the row of its call. -/
theorem step_issued {t : Auth} {a : Action} {response : Response} {token : Jwt}
    (stepped : step p s a = some t) (returned : t.responses = s.responses ++ [.ok response])
    (issued : response.accessToken = some token) :
    ∃ i fresh call issuer user, a = .resume i fresh ∧ s.calls[i]? = some call ∧
      call.issues = some (issuer, user) ∧
      token = issuer.sign p s.now.toDate fresh.uuid user := by
  have loud : ¬s.Silent t.responses := by
    intro silent
    rw [silent response returned] at issued
    cases issued
  cases a with
  | advance micros =>
    cases stepped
    exact absurd (silent_of_same rfl) loud
  | call request =>
    unfold step at stepped
    dsimp only at stepped
    split at stepped
    · cases stepped
      exact absurd (silent_of_error rfl) loud
    · cases stepped
      exact absurd (silent_of_same rfl) loud
  | reject i message =>
    unfold step at stepped
    dsimp only at stepped
    split at stepped
    · cases stepped
      exact absurd (silent_of_error rfl) loud
    · cases stepped
  | resume i fresh =>
    obtain ⟨call, waiting, rfl⟩ := Option.map_eq_some_iff.mp stepped
    cases issues : call.issues with
    | none => exact absurd (resume_silent issues) loud
    | some path =>
      obtain ⟨response', returned', issued'⟩ := @resume_issues p s fresh i call _ _ issues
      have same : response = response' := by
        rw [returned'] at returned
        simpa using returned.symm
      rw [same, issued', Option.some.injEq] at issued
      exact ⟨i, fresh, call, path.1, path.2, rfl, waiting, issues, issued.symm⟩

/-- A token that was returned for a row names its id and its role exactly when `AuthService`
has returned it or the user is not an admin. -/
theorem issued_identity_iff (p : Platform) {s t : Auth} {a : Action} {response : Response}
    {token : Jwt} (stepped : step p s a = some t)
    (returned : t.responses = s.responses ++ [.ok response])
    (issued : response.accessToken = some token) :
    ∃ i fresh call issuer user, a = .resume i fresh ∧ s.calls[i]? = some call ∧
      call.issues = some (issuer, user) ∧
      ∀ now header cache db, p.Valid now header token cache db →
        (p.authenticate now (some header) cache db = .ok ⟨user.id, user.isAdmin⟩ ↔
          0 < user.id ∧ (issuer.isAuthService = true ∨ user.isAdmin = false)) := by
  obtain ⟨i, fresh, call, issuer, user, rfl, waiting, issues, rfl⟩ :=
    step_issued stepped returned issued
  exact ⟨i, fresh, call, issuer, user, rfl, waiting, issues, fun now header cache db valid =>
    Platform.authenticate_issued_iff valid⟩

/-! ## An admin who changes the password -/

section

variable (isAdmin : Bool)

def loggedIn : User := ⟨1, "u", "u@x", "p", ⟨1000⟩, none, isAdmin⟩

def passwordChanged : User :=
  { loggedIn isAdmin with passwordHash := "q", passwordChangedAt := some ⟨2000⟩ }

/-- "a0" stands for the token of the login, and "b0" for the one that `changePassword`
returns. -/
def twoTokens : Platform :=
  let p : Platform :=
    { parse := fun _ => none, sha256 := id, toLowerCase := id, hash := fun password _ => password
      compare := fun password hash => password = hash
      accessJwt := ⟨"access", 900⟩, refreshJwt := ⟨"refresh", 604800⟩ }
  { p with parse := fun text =>
      if text = "a0" then some (p.signAccessToken ⟨1⟩ "a0" (loggedIn isAdmin))
      else if text = "b0" then some (p.signToken ⟨2⟩ "b0" (passwordChanged isAdmin))
      else none }

def idle : Auth where
  now := ⟨2000⟩
  db := ⟨[loggedIn isAdmin], 2, [], 1⟩
  cache := TtlCache.empty
  calls := []
  responses := []
  minted := []
  recorded := []
  admitted := []

def uuid (uuid : String) : Fresh := ⟨uuid, "", "", ""⟩

/-- `changePassword` up to its last `await`. -/
def changing : List Action :=
  .call (.changePassword 1 ⟨"p", "q"⟩ "Bearer a0") :: List.replicate 4 (.resume 0 (uuid ""))

def revoking : Auth :=
  { idle isAdmin with
    db := ⟨[passwordChanged isAdmin], 2, [], 1⟩
    calls := [.changeRevoke (passwordChanged isAdmin) "a0"]
    recorded := [(1, ⟨2⟩)] }

theorem run_changing :
    run (step (twoTokens isAdmin)) (idle isAdmin) changing = some (revoking isAdmin) := by
  cases isAdmin <;> rfl

theorem valid_changed : (twoTokens isAdmin).Valid ⟨3⟩ "Bearer b0"
    ((twoTokens isAdmin).signToken ⟨2⟩ "b0" (passwordChanged isAdmin)) TtlCache.empty
    ⟨[passwordChanged isAdmin], 2, [], 1⟩ where
  carried := ⟨"b0", by decide +kernel, rfl⟩
  unexpired := by
    intro exp hexp
    cases hexp
    cases isAdmin <;> decide
  live := rfl
  current := fun _ => ⟨passwordChanged isAdmin, rfl, le_rfl⟩

end

/-- Somebody who is not an admin stays who they are. -/
theorem issued_identity_changePassword :
    (twoTokens false).authenticate ⟨3⟩ (some "Bearer b0") TtlCache.empty
      ⟨[passwordChanged false], 2, [], 1⟩ = .ok ⟨1, false⟩ := by
  obtain ⟨i, fresh, call, issuer, user, same, waiting, issues, identity⟩ :=
    issued_identity_iff (twoTokens false) (s := revoking false) (a := .resume 0 (uuid "b0"))
      rfl rfl rfl
  cases same
  cases waiting
  cases issues
  exact (identity _ _ _ _ (valid_changed false)).mpr ⟨by decide, .inr rfl⟩

/-- An admin is not. -/
theorem issued_identity_lost : ¬∀ (p : Platform) (start s t : Auth) (as : List Action) (a : Action)
    (response : Response) (token : Jwt), start.calls = [] → run (step p) start as = some s →
    step p s a = some t → t.responses = s.responses ++ [.ok response] →
    response.accessToken = some token →
    ∃ i fresh call issuer user, a = .resume i fresh ∧ s.calls[i]? = some call ∧
      call.issues = some (issuer, user) ∧
      ∀ now header cache db, p.Valid now header token cache db →
        p.authenticate now (some header) cache db = .ok ⟨user.id, user.isAdmin⟩ := by
  intro always
  obtain ⟨i, fresh, call, issuer, user, same, waiting, issues, identity⟩ :=
    always (twoTokens true) (idle true) (revoking true) _ changing (.resume 0 (uuid "b0")) _ _
      rfl (run_changing true) rfl rfl rfl
  cases same
  cases waiting
  cases issues
  have admin := identity _ _ _ _ (valid_changed true)
  have plain : (twoTokens true).authenticate ⟨3⟩ (some "Bearer b0") TtlCache.empty
      ⟨[passwordChanged true], 2, [], 1⟩ = .ok ⟨1, false⟩ := by decide +kernel
  rw [plain] at admin
  cases admin

end Auth
end Api
end XStreamRoll
