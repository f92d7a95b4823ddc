/-
The SDK's client against the API, when access tokens expire.

On a 401 `requestJson` posts to `/auth/refresh`, keeps the tokens that come back and sends
the request again.  The post has no body, and the API reads the refresh token from the
body or else from the `refresh_token` cookie.  A runtime without a cookie jar sends
neither.

Between any two fetches the API's clock, cache and database may change, and a fetch may
fail.  `dispatched` and `fetches` are logs that the source does not keep.
-/
import XStreamRoll.Api.Auth
import XStreamRoll.Transition

namespace XStreamRoll
namespace Sdk

open Transition

inductive Method
  | get
  | post
  | patch
  | delete
  deriving DecidableEq

structure AuthTokens where
  user : Api.SafeUser
  accessToken : String
  refreshToken : String
  deriving DecidableEq

/-- What `fetch` sends, with the cookie that a jar adds. -/
structure HttpRequest (Body : Type) where
  method : Method
  path : String
  authorization : Option String
  apiKey : Option String
  body : Option Body
  refreshCookie : Option String

inductive Payload
  | auth (tokens : AuthTokens)
  | error (message : String)
  | other (text : String)
  deriving DecidableEq

structure HttpResponse where
  status : Nat
  payload : Payload
  deriving DecidableEq

/-! ## The API -/

/-- What the API finds, and draws, while it serves one request. -/
structure Moment where
  now : Date
  cache : Api.Cache
  db : Api.Database
  uuid : String
  uuid' : String

structure Server (Body : Type) where
  platform : Api.Platform
  /-- The text of a token. -/
  serialize : Api.Jwt → String
  /-- `@Body("refreshToken")`, after the pipes. -/
  bodyToken : Body → Option String
  /-- The endpoint asks for an access token. -/
  guarded : HttpRequest Body → Bool
  /-- What the endpoint answers once its guard is passed. -/
  handle : Moment → HttpRequest Body → Option Api.Authenticated → HttpResponse

namespace Server

variable {Body : Type}

def errorResponse : Api.HttpError → HttpResponse
  | .badRequest message => ⟨400, .error message⟩
  | .unauthorized message => ⟨401, .error message⟩
  | .conflict message => ⟨409, .error message⟩
  | .error _ => ⟨500, .error "Internal server error"⟩

/-- `AuthController.refresh`. -/
def refresh (moment : Moment) (bodyToken cookie : Option String) (server : Server Body) :
    Except Api.HttpError Api.AuthResponse :=
  match bodyToken <|> cookie with
  | none | some "" => .error (.unauthorized "refresh token is required")
  | some token =>
    server.platform.refresh moment.now moment.uuid moment.uuid' token moment.cache moment.db

/-- The tokens of a response as the client gets them. -/
def tokensOf (response : Api.AuthResponse) (server : Server Body) : AuthTokens where
  user := response.user
  accessToken := server.serialize response.accessToken
  refreshToken := server.serialize response.refreshToken

def serve (moment : Moment) (request : HttpRequest Body) (server : Server Body) : HttpResponse :=
  if request.method = .post ∧ request.path = "/auth/refresh" then
    match server.refresh moment (request.body.bind server.bodyToken) request.refreshCookie with
    | .error e => errorResponse e
    | .ok response => ⟨200, .auth (server.tokensOf response)⟩
  else if server.guarded request then
    match server.platform.authenticate moment.now request.authorization moment.cache moment.db with
    | .error e => errorResponse e
    | .ok who => server.handle moment request (some who)
  else server.handle moment request none

end Server

/-! ## `HttpClient` -/

/-- What the client runs in: the API at each fetch, the fetches that fail, and the `refresh_token`
cookie of a jar. -/
structure Environment (Body : Type) where
  server : Server Body
  moment : Nat → Moment
  fails : Nat → Option String
  jar : Option String

structure HttpRequestError where
  message : String
  response : Option HttpResponse
  deriving DecidableEq

abbrev Outcome := Except HttpRequestError HttpResponse

def retryStatuses : List Nat := [408, 425, 429, 500, 502, 503, 504]

namespace Environment

variable {Body : Type}

/-- `fetch` number `n`. -/
def fetch (n : Nat) (request : HttpRequest Body) (env : Environment Body) :
    Except String HttpResponse :=
  match env.fails n with
  | some message => .error message
  | none => .ok (env.server.serve (env.moment n) request)

/-- `send`. -/
def send (n : Nat) (request : HttpRequest Body) (env : Environment Body) : Outcome :=
  match env.fetch n request with
  | .error message => .error ⟨message, none⟩
  | .ok response =>
    if response.status ∈ retryStatuses then
      .error ⟨"HTTP " ++ toString response.status, some response⟩
    else .ok response

/-- `withRetry(send)`, with the number of the next fetch.  Whatever `send` throws is retried. -/
def withRetry (request : HttpRequest Body) (env : Environment Body) : Nat → Nat → Nat × Outcome
  | 0, n => (n + 1, env.send n request)
  | retries + 1, n =>
    match env.send n request with
    | .ok response => (n + 1, .ok response)
    | .error _ => withRetry request env retries (n + 1)

/-- `request`, which makes three attempts. -/
def request (request : HttpRequest Body) (n : Nat) (env : Environment Body) : Nat × Outcome :=
  env.withRetry request 2 n

end Environment

/-! ## `StreamingClient` -/

/-- What the methods of the client pass to `requestJson`. -/
structure Call (Body : Type) where
  path : String
  method : Option Method
  body : Option Body
  apiKey : Option String

inductive SdkError
  | api (status : Nat) (message : String)
  | request (message : String)
  deriving DecidableEq

structure StreamingClient (Body : Type) where
  tokens : Option AuthTokens
  fetches : Nat
  /-- Every call of `HttpClient`, with what came of it. -/
  dispatched : List (HttpRequest Body × Outcome)

def toApiError (response : HttpResponse) : SdkError :=
  match response.payload with
  | .error message => .api response.status message
  | _ => .api response.status ("HTTP " ++ toString response.status)

/-- The end of `requestJson`, which returns the body or throws. -/
def settle : Outcome → Except SdkError Payload
  | .ok response =>
    if 200 ≤ response.status ∧ response.status < 300 then .ok response.payload
    else .error (toApiError response)
  | .error e =>
    match e.response with
    | some response => .error (toApiError response)
    | none => .error (.request e.message)

def Payload.tokens : Payload → Option AuthTokens
  | .auth tokens => some tokens
  | _ => none

def refreshCall (Body : Type) : Call Body where
  path := "/auth/refresh"
  method := some .post
  body := none
  apiKey := none

namespace StreamingClient

variable {Body : Type}

/-- The request as it leaves, with the header that the interceptor adds. -/
def prepare (env : Environment Body) (call : Call Body) (client : StreamingClient Body) :
    HttpRequest Body :=
  let method := call.method.getD (if call.body.isSome then .post else .get)
  { method
    path := call.path
    authorization := client.tokens.map fun tokens => "Bearer " ++ tokens.accessToken
    apiKey := call.apiKey
    body := if method = .get then none else call.body
    refreshCookie := env.jar }

def dispatch (env : Environment Body) (call : Call Body) (client : StreamingClient Body) :
    StreamingClient Body × Outcome :=
  let request := client.prepare env call
  let (fetches, outcome) := env.request request client.fetches
  ({ client with fetches, dispatched := client.dispatched ++ [(request, outcome)] }, outcome)

/-- `requestJson` with `skipAuthRefresh` or `retried`, which never refreshes. -/
def requestOnce (env : Environment Body) (call : Call Body) (client : StreamingClient Body) :
    StreamingClient Body × Except SdkError Payload :=
  let (client, outcome) := client.dispatch env call
  (client, settle outcome)

def refreshToken (env : Environment Body) (client : StreamingClient Body) :
    StreamingClient Body × Except SdkError Payload :=
  match client.requestOnce env (refreshCall Body) with
  | (client, .error e) => (client, .error e)
  | (client, .ok payload) => ({ client with tokens := payload.tokens }, .ok payload)

/-- The test for a refresh. -/
def shouldRefresh (outcome : Outcome) (client : StreamingClient Body) : Bool :=
  match outcome, client.tokens with
  | .ok response, some tokens => response.status = 401 && tokens.refreshToken ≠ ""
  | _, _ => false

def requestJson (env : Environment Body) (call : Call Body) (client : StreamingClient Body) :
    StreamingClient Body × Except SdkError Payload :=
  let (client, outcome) := client.dispatch env call
  if client.shouldRefresh outcome then
    match client.refreshToken env with
    | (client, .error e) => (client, .error e)
    | (client, .ok _) => client.requestOnce env call
  else (client, settle outcome)

/-- The requests of a session, one after the other. -/
def step (env : Environment Body) (client : StreamingClient Body) (call : Call Body) :
    Option (StreamingClient Body) :=
  some (client.requestJson env call).1

/-! ## The agreement -/

/-- The client holds a refresh token that the API would accept from now on. -/
def HoldsAccepted (env : Environment Body) (client : StreamingClient Body) : Prop :=
  ∃ tokens, client.tokens = some tokens ∧ ∀ n ≥ client.fetches,
    ∃ response, env.server.refresh (env.moment n) (some tokens.refreshToken) none = .ok response

/-- The API answers the request with 401 because the access token has expired. -/
def Expired (env : Environment Body) (call : Call Body) (client : StreamingClient Body) : Prop :=
  (client.dispatch env call).2 = .ok ⟨401, .error "invalid or expired access token"⟩ ∧
    ∃ tokens token exp, client.tokens = some tokens ∧
      env.server.platform.parse tokens.accessToken = some token ∧
      token.signedWith = some env.server.platform.accessJwt.secret ∧
      token.claims.exp = some exp ∧
      exp ≤ Api.seconds (env.moment ((client.dispatch env call).1.fetches - 1)).now

/-- One refresh, which the API accepts, the new tokens stored, and one retry, whose response is
returned. -/
def RefreshesOnce (env : Environment Body) (call : Call Body) (client : StreamingClient Body) :
    Prop :=
  ∃ refused tokens outcome,
    (client.requestJson env call).1.dispatched = client.dispatched ++
      [(client.prepare env call, .ok refused),
        (client.prepare env (refreshCall Body), .ok ⟨200, .auth tokens⟩),
        (prepare env call { client with tokens := some tokens }, outcome)] ∧
    (client.requestJson env call).1.tokens = some tokens ∧
    (client.requestJson env call).2 = settle outcome

variable {env : Environment Body} {call : Call Body} {client : StreamingClient Body}

/-! ## Without a jar -/

/-- An outcome that is a response is the API's. -/
theorem withRetry_ok {request : HttpRequest Body} {response : HttpResponse} {retries n : Nat}
    (h : (env.withRetry request retries n).2 = .ok response) :
    ∃ m, n ≤ m ∧ response = env.server.serve (env.moment m) request := by
  have hsend : ∀ {k}, env.send k request = .ok response →
      response = env.server.serve (env.moment k) request := by
    intro k hk
    rw [Environment.send, Environment.fetch] at hk
    cases hfails : env.fails k with
    | some message => simp [hfails] at hk
    | none =>
      rw [hfails] at hk
      dsimp only at hk
      split at hk
      · cases hk
      · exact (Except.ok.inj hk).symm
  induction retries generalizing n with
  | zero => exact ⟨n, Nat.le_refl n, hsend h⟩
  | succ retries ih =>
    rw [Environment.withRetry] at h
    split at h
    · next found hfound =>
      rw [Except.ok.injEq] at h
      exact ⟨n, Nat.le_refl n, hsend (h ▸ hfound)⟩
    · obtain ⟨m, hle, hm⟩ := ih h
      exact ⟨m, Nat.le_of_succ_le hle, hm⟩

theorem dispatch_ok {response : HttpResponse} (h : (client.dispatch env call).2 = .ok response) :
    ∃ m, client.fetches ≤ m ∧
      response = env.server.serve (env.moment m) (client.prepare env call) := by
  have hretry : (env.withRetry (client.prepare env call) 2 client.fetches).2 = .ok response := h
  exact withRetry_ok hretry

/-- Without a body and without a cookie the refresh is refused. -/
theorem serve_refresh (hjar : env.jar = none) (client : StreamingClient Body) (moment : Moment) :
    env.server.serve moment (client.prepare env (refreshCall Body)) =
      ⟨401, .error "refresh token is required"⟩ := by
  have hcookie : (client.prepare env (refreshCall Body)).refreshCookie = none := hjar
  have hbody : (client.prepare env (refreshCall Body)).body = none := rfl
  rw [Server.serve, if_pos ⟨rfl, rfl⟩, hcookie, hbody]
  rfl

/-- The refresh is one more call, which throws, and the tokens stay. -/
theorem refreshToken_refused (hjar : env.jar = none) (client : StreamingClient Body) :
    ∃ refreshed e entry, client.refreshToken env = (refreshed, .error e) ∧
      refreshed.tokens = client.tokens ∧ refreshed.dispatched = client.dispatched ++ [entry] := by
  rcases hdispatch : client.dispatch env (refreshCall Body) with ⟨refreshed, outcome⟩
  have hrefreshed : refreshed = (client.dispatch env (refreshCall Body)).1 := by rw [hdispatch]
  have hthrows : ∃ e, settle outcome = .error e := by
    cases outcome with
    | ok response =>
      have hout : (client.dispatch env (refreshCall Body)).2 = .ok response := by rw [hdispatch]
      obtain ⟨m, -, hm⟩ := dispatch_ok hout
      rw [hm, serve_refresh hjar]
      exact ⟨_, rfl⟩
    | error e =>
      rw [settle]
      split <;> exact ⟨_, rfl⟩
  obtain ⟨e, he⟩ := hthrows
  refine ⟨refreshed, e, (client.prepare env (refreshCall Body), outcome), ?_, ?_, ?_⟩
  · rw [refreshToken, requestOnce, hdispatch]
    simp only [he]
  · rw [hrefreshed]
    rfl
  · have hout : outcome = (client.dispatch env (refreshCall Body)).2 := by rw [hdispatch]
    rw [hrefreshed, hout]
    rfl

/-- A request that meets a 401 throws after the refresh. -/
theorem requestJson_refused (hjar : env.jar = none) {response : HttpResponse}
    (hout : (client.dispatch env call).2 = .ok response)
    (hrefresh : client.shouldRefresh (.ok response) = true) :
    ∃ ended e first second, client.requestJson env call = (ended, .error e) ∧
      ended.tokens = client.tokens ∧ ended.dispatched = client.dispatched ++ [first, second] := by
  obtain ⟨refreshed, e, second, hrefused, htokens, hdispatched⟩ :=
    refreshToken_refused hjar (client.dispatch env call).1
  refine ⟨refreshed, e, (client.prepare env call, .ok response), second, ?_, htokens, ?_⟩
  · have hshould : (client.dispatch env call).1.shouldRefresh (client.dispatch env call).2 = true := by
      rw [hout]
      exact hrefresh
    rw [requestJson]
    simp only [hshould, if_true, hrefused]
  · have hfirst : (client.dispatch env call).1.dispatched =
        client.dispatched ++ [(client.prepare env call, .ok response)] := by
      rw [← hout]
      rfl
    rw [hdispatched, hfirst, List.append_assoc]
    rfl

/-- What the API accepts is not empty, so the client refreshes. -/
theorem shouldRefresh_of_holds (hholds : client.HoldsAccepted env) (payload : Payload) :
    client.shouldRefresh (.ok ⟨401, payload⟩) = true := by
  obtain ⟨tokens, htokens, haccepted⟩ := hholds
  obtain ⟨response, hresponse⟩ := haccepted client.fetches (Nat.le_refl _)
  have hne : tokens.refreshToken ≠ "" := by
    intro hempty
    rw [hempty] at hresponse
    cases hresponse
  simp [shouldRefresh, htokens, hne]

theorem not_refreshesOnce (hjar : env.jar = none) (hholds : client.HoldsAccepted env)
    (hexpired : client.Expired env call) : ¬client.RefreshesOnce env call := by
  obtain ⟨ended, e, first, second, hended, -, hdispatched⟩ :=
    requestJson_refused hjar hexpired.1 (shouldRefresh_of_holds hholds _)
  rw [RefreshesOnce, hended]
  rintro ⟨refused, tokens, outcome, hthree, -⟩
  rw [hdispatched] at hthree
  have hlength := congrArg List.length (List.append_cancel_left hthree)
  simp at hlength

/-- In every sequence of requests of a client without a cookie jar, each request that meets an
expired access token throws.  The refresh is refused, the tokens stay as they are, and there
is no retry. -/
theorem cookieless_never_refreshes (hjar : env.jar = none) (client : StreamingClient Body)
    (calls : List (Call Body)) :
    AllSteps (step env) (fun client call client' =>
      client.HoldsAccepted env → client.Expired env call →
        client'.tokens = client.tokens ∧ (∃ e, (client.requestJson env call).2 = .error e) ∧
          ¬client.RefreshesOnce env call) client calls := by
  induction calls generalizing client with
  | nil => trivial
  | cons call calls ih =>
    rintro client' ⟨⟩
    refine ⟨?_, ih _⟩
    intro hholds hexpired
    obtain ⟨ended, e, -, -, hended, htokens, -⟩ :=
      requestJson_refused hjar hexpired.1 (shouldRefresh_of_holds hholds _)
    refine ⟨?_, ⟨e, ?_⟩, not_refreshesOnce hjar hholds hexpired⟩
    · rw [hended]
      exact htokens
    · rw [hended]

/-- A user whose two tokens were signed at the epoch, and whose access token lasts a second. -/
def oneUser : Api.User := ⟨1, "u", "u@x", "h", ⟨0⟩, none, false⟩

def oneUserPlatform : Api.Platform where
  parse text :=
    if text = "a" then some (Api.JwtService.sign ⟨0⟩ (Api.Platform.claimsOf "j" oneUser) ⟨"s", 1⟩)
    else if text = "r" then
      some (Api.JwtService.sign ⟨0⟩ (Api.Platform.claimsOf "k" oneUser) ⟨"t", 9⟩)
    else none
  sha256 := id
  toLowerCase := id
  hash := fun password salt => salt ++ password
  compare := fun password hash => hash = password
  accessJwt := ⟨"s", 1⟩
  refreshJwt := ⟨"t", 9⟩

/-- Two seconds later, from a runtime without a jar. -/
def twoSecondsLater : Environment Unit where
  server :=
    { platform := oneUserPlatform
      serialize := fun _ => ""
      bodyToken := fun _ => none
      guarded := fun _ => true
      handle := fun _ _ _ => ⟨200, .other ""⟩ }
  moment _ := ⟨⟨2000⟩, .empty, ⟨[oneUser], 2, [], 1⟩, "l", "m"⟩
  fails _ := none
  jar := none

def loggedIn : StreamingClient Unit where
  tokens := some ⟨Api.toSafeUser oneUser, "a", "r"⟩
  fetches := 0
  dispatched := []

def getStream : Call Unit := ⟨"/streams/1", some .get, none, none⟩

theorem loggedIn_holdsAccepted : loggedIn.HoldsAccepted twoSecondsLater :=
  ⟨_, rfl, fun _ _ => ⟨_, rfl⟩⟩

theorem loggedIn_expired : loggedIn.Expired twoSecondsLater getStream := by
  refine ⟨by decide +kernel, _, _, 1, rfl, rfl, rfl, rfl, ?_⟩
  show (1 : Int) ≤ 2000 / 1000
  decide

/-- The client asks twice and is refused twice. -/
theorem cookieless_never_refreshes_loggedIn :
    loggedIn.HoldsAccepted twoSecondsLater ∧ loggedIn.Expired twoSecondsLater getStream ∧
    AllSteps (step twoSecondsLater) (fun client call client' =>
      client.HoldsAccepted twoSecondsLater → client.Expired twoSecondsLater call →
        client'.tokens = client.tokens ∧
          (∃ e, (client.requestJson twoSecondsLater call).2 = .error e) ∧
          ¬client.RefreshesOnce twoSecondsLater call) loggedIn [getStream, getStream] :=
  ⟨loggedIn_holdsAccepted, loggedIn_expired,
    cookieless_never_refreshes rfl loggedIn [getStream, getStream]⟩

/-- The API would accept the refresh token, and never sees it. -/
theorem cookieless_refresh_fails :
    ¬∀ (env : Environment Unit) (client : StreamingClient Unit) (calls : List (Call Unit)),
      env.jar = none → AllSteps (step env) (fun client call _ =>
        client.HoldsAccepted env → client.Expired env call → client.RefreshesOnce env call)
        client calls := by
  intro h
  have hrefreshes := (h twoSecondsLater loggedIn [getStream] rfl _ rfl).1
    loggedIn_holdsAccepted loggedIn_expired
  exact not_refreshesOnce rfl loggedIn_holdsAccepted loggedIn_expired hrefreshes

/-! ## With a jar -/

theorem send_ok {n : Nat} {request : HttpRequest Body} {response : HttpResponse}
    (hdelivered : env.fails n = none)
    (hserve : env.server.serve (env.moment n) request = response)
    (hstatus : response.status ∉ retryStatuses) : env.send n request = .ok response := by
  rw [Environment.send, Environment.fetch, hdelivered]
  dsimp only
  rw [hserve, if_neg hstatus]

/-- The API takes the refresh token from the cookie. -/
theorem refreshToken_accepted {cookie : String} {response : Api.AuthResponse}
    (hjar : env.jar = some cookie) (hdelivered : env.fails client.fetches = none)
    (haccepted : env.server.refresh (env.moment client.fetches) none (some cookie) = .ok response) :
    ∃ refreshed tokens, client.refreshToken env = (refreshed, .ok (.auth tokens)) ∧
      refreshed.tokens = some tokens ∧ refreshed.dispatched = client.dispatched ++
        [(client.prepare env (refreshCall Body), .ok ⟨200, .auth tokens⟩)] := by
  let tokens := env.server.tokensOf response
  have hserve : env.server.serve (env.moment client.fetches)
      (client.prepare env (refreshCall Body)) = ⟨200, .auth tokens⟩ := by
    have hcookie : (client.prepare env (refreshCall Body)).refreshCookie = some cookie := hjar
    have hbody : (client.prepare env (refreshCall Body)).body = none := rfl
    rw [Server.serve, if_pos ⟨rfl, rfl⟩, hcookie, hbody, Option.bind_none, haccepted]
  have hstatus : 200 ∉ retryStatuses := by decide
  have hretry : env.request (client.prepare env (refreshCall Body)) client.fetches =
      (client.fetches + 1, .ok ⟨200, .auth tokens⟩) := by
    rw [Environment.request, Environment.withRetry, send_ok hdelivered hserve hstatus]
  refine ⟨{ tokens := some tokens, fetches := client.fetches + 1, dispatched := _ }, tokens, ?_,
    rfl, rfl⟩
  rw [refreshToken, requestOnce, dispatch]
  simp only [hretry]
  rfl

/-- A jar whose cookie the API accepts at the next fetch makes up for the missing body. -/
theorem refreshes_of_cookie {cookie : String} {response : Api.AuthResponse} {payload : Payload}
    (hjar : env.jar = some cookie) (hout : (client.dispatch env call).2 = .ok ⟨401, payload⟩)
    (hrefresh : client.shouldRefresh (.ok ⟨401, payload⟩) = true)
    (hdelivered : env.fails (client.dispatch env call).1.fetches = none)
    (haccepted : env.server.refresh (env.moment (client.dispatch env call).1.fetches) none
      (some cookie) = .ok response) :
    client.RefreshesOnce env call := by
  obtain ⟨refreshed, tokens, hrefreshed, htokens, hdispatched⟩ :=
    refreshToken_accepted hjar hdelivered haccepted
  have hrun : client.requestJson env call = refreshed.requestOnce env call := by
    have hshould :
        (client.dispatch env call).1.shouldRefresh (client.dispatch env call).2 = true := by
      rw [hout]
      exact hrefresh
    rw [requestJson]
    simp only [hshould, if_true, hrefreshed]
  have hfirst : (client.dispatch env call).1.dispatched =
      client.dispatched ++ [(client.prepare env call, .ok ⟨401, payload⟩)] := by
    rw [← hout]
    rfl
  have hprepare : refreshed.prepare env call =
      prepare env call { client with tokens := some tokens } := by
    rw [prepare, prepare, htokens]
  refine ⟨⟨401, payload⟩, tokens, (refreshed.dispatch env call).2, ?_, ?_, ?_⟩
  · rw [hrun, ← hprepare]
    show refreshed.dispatched ++ _ = _
    rw [hdispatched, hfirst, List.append_assoc, List.append_assoc]
    rfl
  · rw [hrun]
    exact htokens
  · rw [hrun]
    rfl

end StreamingClient
end Sdk
end XStreamRoll
