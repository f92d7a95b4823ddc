/-
The SDK's HTTP layer: interceptors, one `fetch` for each attempt, and the error that a
request ends in.

`fetch` is a function of the number of the call and of the request, so a server may answer
each call as it likes.  Interceptors may change what they are given or throw, and make no
`HttpRequestError` of their own.
-/
import XStreamRoll.Sdk.Retry

namespace XStreamRoll
namespace Sdk
namespace Http

structure Response where
  status : Nat
  statusText : String
  deriving DecidableEq

def Response.ok (response : Response) : Bool := 200 ≤ response.status && response.status ≤ 299

/-- What `fetch` or an interceptor throws.  A value that is no `Error` has a text, and any object
may have a `status` that is a number. -/
inductive Failure
  | typeError (message : String)
  | error (message : String) (status : Option Int)
  | value (text : String) (status : Option Int)
  deriving DecidableEq

/-- `err instanceof Error ? err.message : String(err)` -/
def Failure.message : Failure → String
  | .typeError message => message
  | .error message _ => message
  | .value text _ => text

structure HttpRequestError where
  message : String
  cause : Option Failure := none
  response : Option Response := none
  attempts : Int := 1
  status : Option Int := none
  deriving DecidableEq

inductive Thrown
  | request (error : HttpRequestError)
  | failure (failure : Failure)
  deriving DecidableEq

def Thrown.shape : Thrown → ErrorShape
  | .request error => ⟨false, error.status⟩
  | .failure (.typeError _) => ⟨true, none⟩
  | .failure (.error _ status) => ⟨false, status⟩
  | .failure (.value _ status) => ⟨false, status⟩

structure RequestConfig (Init : Type) where
  url : String
  init : Init

structure HttpClientRetryOptions extends RetryOptions Thrown where
  enabled : Option Bool := none

structure HttpClient (Init : Type) where
  baseUrl : String
  requestInterceptors : List (RequestConfig Init → Except Failure (RequestConfig Init)) := []
  responseInterceptors : List (Response → Except Failure Response) := []
  retryOptions : HttpClientRetryOptions

/-- A request with the fetches that it made. -/
structure Exchange where
  fetches : Nat
  outcome : Except Thrown Response

def retryStatuses : List Nat := [408, 425, 429, 500, 502, 503, 504]

def shouldRetryStatus (status : Nat) : Bool := status ∈ retryStatuses

/-- `baseUrl.replace(/\/$/, "")` -/
def stripSlash (baseUrl : String) : String :=
  match baseUrl.toList.reverse with
  | '/' :: rest => String.ofList rest.reverse
  | _ => baseUrl

/-- What each interceptor makes of what the one before it made. -/
def intercept {α : Type} (interceptors : List (α → Except Failure α)) (a : α) : Except Failure α :=
  interceptors.foldlM (fun a interceptor => interceptor a) a

namespace HttpClient

variable {Init : Type}

/-- The constructor. -/
def new (Init : Type) (baseUrl : String) (retryOptions : HttpClientRetryOptions) :
    HttpClient Init where
  baseUrl := stripSlash baseUrl
  retryOptions

/-- The error for a response that may be tried again. -/
def statusError (response : Response) : HttpRequestError where
  message := "HTTP " ++ toString response.status ++ " " ++ response.statusText
  response := some response
  attempts := 1
  status := some response.status

/-- `send`, at its `n`-th call. -/
def send (fetch : Nat → RequestConfig Init → Except Failure Response)
    (config : RequestConfig Init) (client : HttpClient Init) (n : Nat) : Except Thrown Response :=
  match fetch n config with
  | .error failure => .error (.failure failure)
  | .ok response =>
    match intercept client.responseInterceptors response with
    | .error failure => .error (.failure failure)
    | .ok response =>
      if !response.ok && shouldRetryStatus response.status then
        .error (.request (statusError response))
      else .ok response

/-- The `catch` of `request`. -/
def rethrown (client : HttpClient Init) : Option Thrown → HttpRequestError
  | some (.request error) => error
  | some (.failure failure) =>
    { message := failure.message
      cause := some failure
      attempts := client.retryOptions.maxAttempts.getD 3 }
  | none =>
    { message := "undefined"
      attempts := client.retryOptions.maxAttempts.getD 3 }

def request (random : Nat → Draw) (fetch : Nat → RequestConfig Init → Except Failure Response)
    (path : String) (init : Init) (client : HttpClient Init) : Exchange :=
  match intercept client.requestInterceptors ⟨client.baseUrl ++ path, init⟩ with
  | .error failure => ⟨0, .error (.failure failure)⟩
  | .ok config =>
    if client.retryOptions.enabled = some false then ⟨1, client.send fetch config 1⟩
    else
      match withRetry Thrown.shape random (client.send fetch config)
          client.retryOptions.toRetryOptions with
      | (trace, .ok response) => ⟨trace.calls.length, .ok response⟩
      | (trace, .error thrown) => ⟨trace.calls.length, .error (.request (client.rethrown thrown))⟩

/-- The attempt that ends the loop. -/
def lastAttempt (fetch : Nat → RequestConfig Init → Except Failure Response)
    (config : RequestConfig Init) (client : HttpClient Init) : Nat :=
  (client.retryOptions.toRetryOptions.settings Thrown.shape).lastAttempt (client.send fetch config)

/-- The last fetch succeeds, or it is the first one and its status is at fault, or it throws and
is the one that `maxAttempts` counts. -/
def EndsAsReported (fetch : Nat → RequestConfig Init → Except Failure Response)
    (config : RequestConfig Init) (client : HttpClient Init) : Prop :=
  match client.send fetch config (client.lastAttempt fetch config) with
  | .ok _ => True
  | .error (.request _) => client.lastAttempt fetch config = 1
  | .error (.failure _) =>
    (client.lastAttempt fetch config : Int) = client.retryOptions.maxAttempts.getD 3

variable {fetch : Nat → RequestConfig Init → Except Failure Response}
  {config : RequestConfig Init} {client : HttpClient Init} {n : Nat}

/-- Whichever fetch it is, the error for a status counts one. -/
theorem send_attempts {error : HttpRequestError}
    (h : client.send fetch config n = .error (.request error)) : error.attempts = 1 := by
  rw [send] at h
  split at h
  · cases h
  · split at h
    · cases h
    · split at h
      · cases h
        rfl
      · cases h

/-- All the fetches of a request that may be tried again, and what comes of the last one. -/
theorem request_retried {random : Nat → Draw} {path : String} {init : Init}
    (hconfig : intercept client.requestInterceptors ⟨client.baseUrl ++ path, init⟩ = .ok config)
    (henabled : client.retryOptions.enabled ≠ some false) :
    client.request random fetch path init =
      ⟨client.lastAttempt fetch config,
        match client.send fetch config (client.lastAttempt fetch config) with
        | .ok response => .ok response
        | .error thrown => .error (.request (client.rethrown (some thrown)))⟩ := by
  obtain ⟨onRetry, hrun⟩ := withRetry_eq Thrown.shape random (client.send fetch config)
    client.retryOptions.toRetryOptions
  rw [request, hconfig]
  simp only [if_neg henabled]
  rw [hrun]
  cases hlast : client.send fetch config (client.lastAttempt fetch config) with
  | ok response =>
    rw [lastAttempt] at hlast
    simp only [hlast, RetrySettings.rethrow, List.length_range', lastAttempt]
  | error thrown =>
    rw [lastAttempt] at hlast
    simp only [hlast, RetrySettings.rethrow, List.length_range', lastAttempt]

end HttpClient

/-- The error that the exchange ends in tells how many fetches there were. -/
def Exchange.Reported (exchange : Exchange) : Prop :=
  ∀ error, exchange.outcome = .error (.request error) → error.attempts = exchange.fetches

open HttpClient

section Request

variable {Init : Type} (random : Nat → Draw)
  (fetch : Nat → RequestConfig Init → Except Failure Response) (path : String) (init : Init)
  (client : HttpClient Init)

end Request

/-- The server is overloaded each time. -/
def overloaded : Nat → RequestConfig Unit → Except Failure Response :=
  fun _ _ => .ok ⟨503, "Service Unavailable"⟩

end Http
end Sdk
end XStreamRoll
