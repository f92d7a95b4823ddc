/-
The dashboard's `fetchJson`: one request for a resource, and on a 401 one refresh of the
access token and one more request with what came back.

A `fetch` may reject, and so may `json()` on what it returns.  Any outcome may come at any
place, and other calls may change the stored token whenever this one waits.  `requests` and
`assigned` are logs that the source does not keep.  Where there is no window there is no
page to redirect.
-/
import XStreamRoll.Json
import Mathlib.Data.List.Count

namespace XStreamRoll
namespace App

/-- How a `fetch` ends.  A body that is no JSON has `json()` reject. -/
inductive Fetched
  | rejected (reason : String)
  | response (status : Nat) (body : Except String Json)

/-- `res.ok` -/
def isOk (status : Nat) : Bool := 200 ≤ status && status ≤ 299

inductive ApiRequest
  | resource (authorization : Option String)
  | refresh
  deriving DecidableEq

def ApiRequest.isResource : ApiRequest → Bool
  | .resource _ => true
  | .refresh => false

structure FetchJsonInit where
  /-- The `Authorization` among `init.headers`. -/
  authorization : Option String := none
  skipAuthRefresh : Bool := false

/-- What a call meets: the outcome of each of its fetches, and the token in the store after each of
its waits, as others leave it. -/
structure FetchEnv where
  fetch : Nat → Fetched
  meanwhile : Nat → Option String → Option String
  hasWindow : Bool

structure FetchSession where
  token : Option String
  requests : List ApiRequest := []
  waits : Nat := 0
  /-- The arguments of `window.location.assign`. -/
  assigned : List String := []

/-- Why a call rejects: an error of the caller's class, or whatever was thrown. -/
inductive Rejection (ErrorClass : Type)
  | api (errorClass : ErrorClass) (status : Nat) (message : String)
  | thrown (reason : String)
  deriving DecidableEq

def loginPath : String := "/auth/login"

namespace FetchSession

variable {ErrorClass : Type}

/-- `await` -/
def wait (env : FetchEnv) (session : FetchSession) : FetchSession :=
  { session with
    token := env.meanwhile session.waits session.token
    waits := session.waits + 1 }

/-- `await fetch(…)` -/
def fetch (env : FetchEnv) (request : ApiRequest) (session : FetchSession) :
    FetchSession × Fetched :=
  ({ session with requests := session.requests ++ [request] }.wait env,
    env.fetch session.requests.length)

/-- `readError`, which falls back on the status. -/
def readError (status : Nat) : Except String Json → String
  | .ok body =>
    match body.field "message" with
    | some (.string message) => message
    | _ => "request failed with " ++ toString status
  | .error _ => "request failed with " ++ toString status

/-- The token in the body of a refresh.  Reading a field of `null` throws. -/
def accessTokenIn : Json → Except String (Option String)
  | .null => .error "Cannot read properties of null (reading 'accessToken')"
  | data =>
    match data.field "accessToken" with
    | some (.string token) => .ok (if token = "" then none else some token)
    | _ => .ok none

def refreshAccessToken (env : FetchEnv) (session : FetchSession) :
    FetchSession × Except String (Option String) :=
  match session.fetch env .refresh with
  | (session, .rejected reason) => (session, .error reason)
  | (session, .response status body) =>
    if !isOk status then (session, .ok none)
    else
      let session := session.wait env
      match body.bind accessTokenIn with
      | .error reason => (session, .error reason)
      | .ok none => (session, .ok none)
      | .ok (some token) => ({ session with token := some token }, .ok (some token))

def redirectToLogin (env : FetchEnv) (session : FetchSession) : FetchSession :=
  if env.hasWindow then { session with assigned := session.assigned ++ [loginPath] } else session

/-- What `fetchJson` does with its last response.  `none` is `undefined`. -/
def settle (env : FetchEnv) (errorClass : ErrorClass) (session : FetchSession) :
    Fetched → FetchSession × Except (Rejection ErrorClass) (Option Json)
  | .rejected reason => (session, .error (.thrown reason))
  | .response status body =>
    if !isOk status then
      (session.wait env, .error (.api errorClass status (readError status body)))
    else if status = 204 then (session, .ok none)
    else
      match body with
      | .error reason => (session.wait env, .error (.thrown reason))
      | .ok data => (session.wait env, .ok (some data))

/-- The `Authorization` of the first request. -/
def authorizationOf (init : FetchJsonInit) : Option String → Option String
  | some token => if token = "" then init.authorization else some ("Bearer " ++ token)
  | none => init.authorization

def fetchJson (env : FetchEnv) (init : FetchJsonInit) (errorClass : ErrorClass)
    (session : FetchSession) : FetchSession × Except (Rejection ErrorClass) (Option Json) :=
  match session.fetch env (.resource (authorizationOf init session.token)) with
  | (session, .rejected reason) => (session, .error (.thrown reason))
  | (session, .response status body) =>
    if status = 401 ∧ init.skipAuthRefresh = false then
      match session.refreshAccessToken env with
      | (session, .error reason) => (session, .error (.thrown reason))
      | (session, .ok (some refreshed)) =>
        let (session, res) := session.fetch env (.resource (some ("Bearer " ++ refreshed)))
        session.settle env errorClass res
      | (session, .ok none) =>
        let session := { session with token := none }.redirectToLogin env
        (session, .error (.api errorClass status "session expired"))
    else session.settle env errorClass (.response status body)

end FetchSession

/-! ## The protocol -/

/-- The usable token that the answer to a refresh has. -/
def Fetched.usableToken : Fetched → Option String
  | .response status (.ok data) =>
    if isOk status then
      match data.field "accessToken" with
      | some (.string token) => if token = "" then none else some token
      | _ => none
    else none
  | _ => none

def Fetched.Unauthorized : Fetched → Prop
  | .response status _ => status = 401
  | .rejected _ => False

/-- The answer has an error for its status, or a JSON value that may have fields. -/
def Fetched.Readable : Fetched → Prop
  | .rejected _ => False
  | .response status body => isOk status = true → ∃ data, body = .ok data ∧ data ≠ .null

namespace FetchSession

variable {ErrorClass : Type} {env : FetchEnv} {init : FetchJsonInit} {errorClass : ErrorClass}

/-- What is read from a body that may have fields is the usable token. -/
theorem accessTokenIn_of_ne {status : Nat} {data : Json} (hok : isOk status = true)
    (hnull : data ≠ .null) :
    accessTokenIn data = .ok (Fetched.response status (.ok data)).usableToken := by
  rw [accessTokenIn, Fetched.usableToken, if_pos hok]
  · split <;> rfl
  · exact hnull

/-- One request, and what its answer says about the token. -/
theorem refreshAccessToken_spec (env : FetchEnv) (session : FetchSession) :
    (session.refreshAccessToken env).1.requests = session.requests ++ [.refresh] ∧
      (session.refreshAccessToken env).1.assigned = session.assigned ∧
      match (session.refreshAccessToken env).2 with
      | .ok token => (env.fetch session.requests.length).usableToken = token ∧
          (env.fetch session.requests.length).Readable
      | .error _ => (env.fetch session.requests.length).usableToken = none ∧
          ¬(env.fetch session.requests.length).Readable := by
  rw [refreshAccessToken, fetch]
  dsimp only
  match env.fetch session.requests.length with
  | .rejected reason => exact ⟨rfl, rfl, rfl, not_false⟩
  | .response status body =>
    by_cases hok : isOk status = true
    · simp only [hok, Bool.not_true, Bool.false_eq_true, if_false]
      match body with
      | .error reason =>
        refine ⟨rfl, rfl, rfl, fun hreadable => ?_⟩
        obtain ⟨data, hdata, -⟩ := hreadable hok
        cases hdata
      | .ok data =>
        by_cases hnull : data = .null
        · subst hnull
          refine ⟨rfl, rfl, ?_, fun hreadable => ?_⟩
          · simp [Fetched.usableToken, Json.field]
          · obtain ⟨data, hdata, hne⟩ := hreadable hok
            exact hne (Except.ok.inj hdata).symm
        · have hreadable : (Fetched.response status (.ok data)).Readable :=
            fun _ => ⟨data, rfl, hnull⟩
          have hread := accessTokenIn_of_ne hok hnull
          rw [Except.bind, hread]
          cases htoken : (Fetched.response status (.ok data)).usableToken with
          | none => exact ⟨rfl, rfl, rfl, hreadable⟩
          | some token => exact ⟨rfl, rfl, rfl, hreadable⟩
    · simp only [hok, Bool.not_false, if_true]
      refine ⟨rfl, rfl, ?_, fun h => absurd h hok⟩
      cases body with
      | error reason => rfl
      | ok data => simp [Fetched.usableToken, hok]

theorem settle_requests (env : FetchEnv) (errorClass : ErrorClass) (session : FetchSession)
    (res : Fetched) : (session.settle env errorClass res).1.requests = session.requests := by
  rw [settle.eq_def]
  split
  · rfl
  · split
    · rfl
    · split
      · rfl
      · split <;> rfl

theorem redirectToLogin_spec (env : FetchEnv) (session : FetchSession) :
    (session.redirectToLogin env).requests = session.requests ∧
      (session.redirectToLogin env).token = session.token ∧
      (env.hasWindow = true → loginPath ∈ (session.redirectToLogin env).assigned) := by
  rw [redirectToLogin]
  split
  · exact ⟨rfl, rfl, fun _ => List.mem_append_right _ (List.mem_singleton_self _)⟩
  · next hwindow => exact ⟨rfl, rfl, fun h => absurd h hwindow⟩

/-- The ways that a call goes when it may refresh. -/
theorem fetchJson_cases (env : FetchEnv) (errorClass : ErrorClass) (token : Option String)
    (hskip : init.skipAuthRefresh = false) :
    let result := FetchSession.fetchJson env init errorClass { token }
    let first := ApiRequest.resource (authorizationOf init token)
    (¬(env.fetch 0).Unauthorized ∧ result.1.requests = [first]) ∨
      (env.fetch 0).Unauthorized ∧
        ((result.1.requests = [first, .refresh] ∧ (env.fetch 1).usableToken = none ∧
            ¬(env.fetch 1).Readable ∧ ∃ reason, result.2 = .error (.thrown reason)) ∨
          (result.1.requests = [first, .refresh] ∧ (env.fetch 1).usableToken = none ∧
            (env.fetch 1).Readable ∧ result.1.token = none ∧
            (env.hasWindow = true → loginPath ∈ result.1.assigned) ∧
            result.2 = .error (.api errorClass 401 "session expired")) ∨
          ∃ refreshed, (env.fetch 1).usableToken = some refreshed ∧ (env.fetch 1).Readable ∧
            result.1.requests = [first, .refresh, .resource (some ("Bearer " ++ refreshed))]) := by
  intro result first
  have hresult : result = FetchSession.fetchJson env init errorClass { token } := rfl
  let asked : FetchSession := ({ token, requests := [first] } : FetchSession).wait env
  have hasked : FetchSession.fetch env first { token } = (asked, env.fetch 0) := rfl
  rw [fetchJson, hasked] at hresult
  cases hfirst : env.fetch 0 with
  | rejected reason =>
    rw [hfirst] at hresult
    exact .inl ⟨not_false, by rw [hresult]; rfl⟩
  | response status body =>
    rw [hfirst] at hresult
    dsimp only at hresult
    by_cases hstatus : status = 401
    · rw [if_pos ⟨hstatus, hskip⟩] at hresult
      obtain ⟨hrequests, hassigned, hanswer⟩ := refreshAccessToken_spec env asked
      refine .inr ⟨hstatus, ?_⟩
      match hrefresh : asked.refreshAccessToken env with
      | (session, .error reason) =>
        rw [hrefresh] at hresult hrequests hanswer
        rw [hresult]
        exact .inl ⟨hrequests, hanswer.1, hanswer.2, reason, rfl⟩
      | (session, .ok none) =>
        rw [hrefresh] at hresult hrequests hanswer
        rw [hresult]
        obtain ⟨hsame, hcleared, hlogin⟩ := redirectToLogin_spec env { session with token := none }
        exact .inr (.inl ⟨hsame.trans hrequests, hanswer.1, hanswer.2, hcleared, hlogin,
          by rw [hstatus]⟩)
      | (session, .ok (some refreshed)) =>
        rw [hrefresh] at hresult hrequests hanswer
        refine .inr (.inr ⟨refreshed, hanswer.1, hanswer.2, ?_⟩)
        rw [hresult]
        dsimp only
        rw [settle_requests]
        show session.requests ++ [_] = _
        rw [hrequests]
        rfl
    · rw [if_neg fun h => hstatus h.1] at hresult
      exact .inl ⟨hstatus, by rw [hresult, settle_requests]; rfl⟩

/-- What the module promises of a call. -/
structure RefreshesOnce (env : FetchEnv) (errorClass : ErrorClass)
    (result : FetchSession × Except (Rejection ErrorClass) (Option Json)) : Prop where
  refreshes : result.1.requests.countP (fun request => !request.isResource) ≤ 1
  resources : result.1.requests.countP ApiRequest.isResource ≤ 2
  /-- Another request for the resource has the token that the refresh returned. -/
  retry : ∀ i authorization, result.1.requests[i + 1]? = some (.resource authorization) →
    ∃ token, (env.fetch 1).usableToken = some token ∧ authorization = some ("Bearer " ++ token)
  /-- Without such a token the session is over. -/
  expiry : (env.fetch 0).Unauthorized → (env.fetch 1).usableToken = none →
    result.1.token = none ∧ (env.hasWindow = true → loginPath ∈ result.1.assigned) ∧
      ∃ message, result.2 = .error (.api errorClass 401 message)

/-- Whatever the first call meets, the requests are as promised. -/
theorem RefreshesOnce.of_requests {a : Option String} (refreshed : String)
    {result : FetchSession × Except (Rejection ErrorClass) (Option Json)}
    (hrequests : result.1.requests = [.resource a] ∨
      result.1.requests = [.resource a, .refresh] ∨
      (env.fetch 1).usableToken = some refreshed ∧
        result.1.requests = [.resource a, .refresh, .resource (some ("Bearer " ++ refreshed))])
    (hexpiry : (env.fetch 0).Unauthorized → (env.fetch 1).usableToken = none →
      result.1.token = none ∧ (env.hasWindow = true → loginPath ∈ result.1.assigned) ∧
        ∃ message, result.2 = .error (.api errorClass 401 message)) :
    RefreshesOnce env errorClass result := by
  rcases hrequests with heq | heq | ⟨htoken, heq⟩
  · refine ⟨?_, ?_, ?_, hexpiry⟩
    · simp [heq, ApiRequest.isResource]
    · simp [heq, List.countP_cons, ApiRequest.isResource]
    · intro i authorization h
      rw [heq] at h
      cases h
  · refine ⟨?_, ?_, ?_, hexpiry⟩
    · simp [heq, ApiRequest.isResource]
    · simp [heq, List.countP_cons, ApiRequest.isResource]
    · intro i authorization h
      rw [heq] at h
      match i with
      | 0 => cases h
      | _ + 1 => cases h
  · refine ⟨?_, ?_, ?_, hexpiry⟩
    · simp [heq, ApiRequest.isResource]
    · simp [heq, List.countP_cons, ApiRequest.isResource]
    · intro i authorization h
      rw [heq] at h
      match i with
      | 0 => cases h
      | 1 =>
        cases h
        exact ⟨refreshed, htoken, rfl⟩
      | _ + 2 => cases h

/-- The promise is kept exactly when the refresh, if there is one, is refused or answered with
something that a token may be looked for in. -/
theorem fetchJson_refreshesOnce_iff (env : FetchEnv) (init : FetchJsonInit)
    (errorClass : ErrorClass) (token : Option String) (hskip : init.skipAuthRefresh = false) :
    RefreshesOnce env errorClass (FetchSession.fetchJson env init errorClass { token }) ↔
      ((env.fetch 0).Unauthorized → (env.fetch 1).Readable) := by
  rcases fetchJson_cases env errorClass token hskip with ⟨hother, hrequests⟩ |
    ⟨hfirst, ⟨-, hnone, hunreadable, reason, hthrown⟩ |
      ⟨hrequests, -, hreadable, hcleared, hlogin, hrejected⟩ |
      ⟨refreshed, htoken, hreadable, hrequests⟩⟩
  · exact iff_of_true (.of_requests "" (.inl hrequests) fun h => absurd h hother)
      fun h => absurd h hother
  · refine iff_of_false (fun h => ?_) fun h => hunreadable (h hfirst)
    obtain ⟨-, -, message, hmessage⟩ := h.expiry hfirst hnone
    rw [hthrown] at hmessage
    cases hmessage
  · exact iff_of_true (.of_requests "" (.inr (.inl hrequests)) fun _ _ =>
      ⟨hcleared, hlogin, _, hrejected⟩) fun _ => hreadable
  · refine iff_of_true (.of_requests refreshed (.inr (.inr ⟨htoken, hrequests⟩)) fun _ hnone => ?_)
      fun _ => hreadable
    rw [htoken] at hnone
    cases hnone

/-- The session has expired, and the refresh is refused. -/
def expired : FetchEnv where
  fetch _ := .response 401 (.ok (.object [("message", .string "unauthorized")]))
  meanwhile _ token := token
  hasWindow := true

/-- The refresh does not reach the server. -/
def offline : FetchEnv :=
  { expired with
    fetch := fun n => if n = 1 then .rejected "Failed to fetch" else expired.fetch n }

/-- An expired session is left for the login page. -/
theorem fetchJson_expired :
    (expired.fetch 0).Unauthorized ∧ (expired.fetch 1).usableToken = none ∧
      RefreshesOnce expired "StreamsApiError"
        (FetchSession.fetchJson expired {} "StreamsApiError" { token := some "stale-token" }) :=
  ⟨rfl, rfl, (fetchJson_refreshesOnce_iff expired {} "StreamsApiError" (some "stale-token") rfl).mpr
    fun _ hok => absurd hok (by decide)⟩

/-- A refresh that fails on its way leaves the stale token, and the page as it is. -/
theorem fetchJson_offline :
    let result := FetchSession.fetchJson offline {} "StreamsApiError" { token := some "stale-token" }
    (offline.fetch 0).Unauthorized ∧ (offline.fetch 1).usableToken = none ∧
      result.1.token = some "stale-token" ∧ result.1.assigned = [] ∧
      result.2 = .error (.thrown "Failed to fetch") ∧
      ¬RefreshesOnce offline "StreamsApiError" result := by
  refine ⟨rfl, rfl, rfl, rfl, rfl, fun h => ?_⟩
  obtain ⟨htoken, -⟩ := h.expiry rfl rfl
  cases htoken

end FetchSession

end App
end XStreamRoll
