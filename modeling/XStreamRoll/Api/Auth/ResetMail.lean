/-
How many reset tokens are created for one address.

`sendResetToken` reads a counter from the cache and writes it back with one more, and a
call that reads three goes no further.  The time to live of the entry is meant as an hour
in seconds, and the cache takes milliseconds: the counter is gone 3.6 seconds after it was
written.  Two calls that read it before either writes are counted as one.

Where neither happens to the counter, it is never behind the tokens of the last hour and
the calls that are yet to create theirs, so there are at most three of them.
-/
import XStreamRoll.Lists
import XStreamRoll.Api.Auth.Calls
import XStreamRoll.Api.Auth.Reset

namespace XStreamRoll
namespace Api

open Transition

/-! ## Windows of one hour -/

/-- In microseconds. -/
def hour : Int := 60 * 60 * 1000 * 1000

/-- At most so many of the times lie within any one hour. -/
def Limited (limit : Nat) (times : List Int) : Prop :=
  ∀ first, times.countP (fun time => first ≤ time ∧ time < first + hour) ≤ limit

/-- How many of the times lie less than an hour back. -/
def recent (now : Int) (times : List Int) : Nat := times.countP fun time => now < time + hour

section

variable {limit : Nat} {now now' : Int} {times : List Int}

theorem recent_mono (hle : now ≤ now') (times : List Int) : recent now' times ≤ recent now times := by
  apply List.countP_mono_left
  intro time _ later
  rw [decide_eq_true_eq] at later ⊢
  exact lt_of_le_of_lt hle later

theorem recent_append_now : recent now (times ++ [now]) = recent now times + 1 := by
  have here : decide (now < now + hour) = true :=
    decide_eq_true (Int.lt_add_of_pos_right now (by decide))
  rw [recent, List.countP_append, List.countP_singleton, if_pos here]
  rfl

theorem Limited.append (h : Limited limit times) (room : recent now times + 1 ≤ limit) :
    Limited limit (times ++ [now]) := by
  intro first
  by_cases inside : first ≤ now ∧ now < first + hour
  · refine le_trans (List.countP_mono_left ?_) (recent_append_now ▸ room)
    intro time _ within
    rw [decide_eq_true_eq] at within ⊢
    omega
  · rw [List.countP_append, List.countP_singleton, if_neg (by rwa [decide_eq_true_eq])]
    exact h first

end

namespace Call

/-- What the call has read from the counter of the address, and is yet to write. -/
def limiting (email : String) : Call → Option Nat
  | .forgotLimit other currentAttempts => if other = email then some currentAttempts else none
  | _ => none

/-- The call has been counted, and its token is yet to be created. -/
def counted (email : String) : Call → Bool
  | .forgotFind other | .forgotInsert _ other _ _ => other = email
  | _ => false

/-- Where `resetPassword` counts. -/
def resetKey : Call → Option String
  | .resetCount _ rateKey _ | .resetLimit _ rateKey _ _ => some rateKey
  | _ => none

end Call

/-- The services, with a log of the tokens that `sendResetToken` has created. -/
structure ResetMail where
  auth : Auth
  created : List (String × Timestamptz)

namespace ResetMail

open Auth (Action)

/-- The address of the token that the step creates, and the time. -/
def creates (s : Auth) : Action → List (String × Timestamptz)
  | .resume i _ =>
    match s.calls[i]? with
    | some (.forgotInsert _ email _ _) => [(email, s.now)]
    | _ => []
  | _ => []

def step (p : Platform) (m : ResetMail) (a : Action) : Option ResetMail :=
  (m.auth.step p a).map fun auth => ⟨auth, m.created ++ creates m.auth a⟩

def times (email : String) (m : ResetMail) : List Int :=
  (m.created.filter fun entry => entry.1 = email).map fun entry => entry.2.micros

/-- The tokens of the last hour, and the calls that are yet to create theirs. -/
def load (email : String) (m : ResetMail) : Nat :=
  recent m.auth.now.micros (m.times email) + m.auth.calls.countP (Call.counted email)

/-- The counter, while its entry is served. -/
def counter (email : String) (m : ResetMail) : Option Nat :=
  match m.auth.cache.get m.auth.now.toDate (Auth.rateKey "forgot" email) with
  | some (.number n) => some n
  | _ => none

/-- A call that the step lets through finds no other call between its read and its write of
the counter, and the counter there, unless there is nothing to count. -/
def ReadsAll (email : String) (m : ResetMail) : Action → Prop
  | .resume i _ => m.auth.calls[i]? = some (.forgotCount email) →
    m.auth.attempts (Auth.rateKey "forgot" email) < Auth.maxAttemptsPerEmail →
      (∀ call ∈ m.auth.calls, call.limiting email = none) ∧
        ((m.counter email).isSome = true ∨ m.load email = 0)
  | _ => True

instance (email : String) (m : ResetMail) : ∀ a, Decidable (m.ReadsAll email a)
  | .resume _ _ => inferInstanceAs (Decidable (_ → _ → _))
  | .advance _ | .call _ | .reject _ _ => isTrue trivial

/-- Nothing has been called or created. -/
def Idle (m : ResetMail) : Prop := m.auth.calls = [] ∧ m.created = []

end ResetMail

namespace Auth

variable {p : Platform} {s t u : Auth} {email key : String} {i : Nat} {call next : Call}

/-! ## The keys of the cache -/

theorem toList_rateKey (kind email : String) : (rateKey kind email).toList =
    "password-reset:".toList ++ kind.toList ++ ":".toList ++ email.toList := by
  delta rateKey
  rw [String.toList_append, String.toList_append, String.toList_append]

theorem rateKey_reset_ne (email other : String) : rateKey "forgot" email ≠ rateKey "reset" other := by
  intro same
  have chars := congrArg String.toList same
  rw [toList_rateKey, toList_rateKey, List.append_assoc, List.append_assoc, List.append_assoc,
    List.append_assoc, List.append_cancel_left_eq] at chars
  have first : some 'f' = some 'r' := congrArg List.head? chars
  exact absurd first (by decide)

theorem rateKey_forgot_ne {other : String} (h : other ≠ email) :
    rateKey "forgot" email ≠ rateKey "forgot" other := by
  intro same
  have chars := congrArg String.toList same
  rw [toList_rateKey, toList_rateKey, List.append_cancel_left_eq] at chars
  exact h (String.toList_injective chars).symm

theorem cacheKey_ne (p : Platform) (jti email : String) :
    rateKey "forgot" email ≠ p.cacheKey jti := by
  intro same
  have chars := congrArg String.toList same
  have denylist : (p.cacheKey jti).toList = "jwt-denylist:".toList ++ (p.sha256 jti).toList :=
    String.toList_append
  rw [toList_rateKey, denylist] at chars
  have first : some 'p' = some 'j' := congrArg List.head? chars
  exact absurd first (by decide)

theorem get_revoke {now now' : Date} {jti : String} {seconds : Int} {cache : Cache} :
    (p.revoke now jti seconds cache).get now' (rateKey "forgot" email) =
      cache.get now' (rateKey "forgot" email) := by
  unfold Platform.revoke
  split
  · rfl
  · exact TtlCache.get_set_of_ne (cacheKey_ne p jti email) _ _ _ _

theorem get_logoutAccess {now now' : Date} {header : String} {cache cache' : Cache}
    (h : p.logoutAccess now header cache = .ok cache') :
    cache'.get now' (rateKey "forgot" email) = cache.get now' (rateKey "forgot" email) := by
  obtain ⟨text, -, h⟩ := bind_eq_ok.mp h
  obtain ⟨token, -, h⟩ := bind_eq_ok.mp h
  split at h
  · cases h
  · cases h
  · split at h
    · cases h
    · obtain ⟨jti, -, h⟩ := bind_eq_ok.mp h
      cases h
      exact get_revoke

theorem get_logoutRefresh {now now' : Date} {refreshToken : Option String} {cache cache' : Cache}
    (h : p.logoutRefresh now refreshToken cache = .ok cache') :
    cache'.get now' (rateKey "forgot" email) = cache.get now' (rateKey "forgot" email) := by
  unfold Platform.logoutRefresh at h
  split at h
  · cases h
    rfl
  · cases h
    rfl
  · split at h
    · cases h
      rfl
    · cases h
      rfl
    · split at h
      · cases h
        rfl
      · obtain ⟨jti, -, h⟩ := bind_eq_ok.mp h
        cases h
        exact get_revoke

theorem get_countAttempt {n : Nat} (h : rateKey "forgot" email ≠ key) :
    (s.countAttempt key n).cache.get s.now.toDate (rateKey "forgot" email) =
      s.cache.get s.now.toDate (rateKey "forgot" email) :=
  TtlCache.get_set_of_ne h _ _ _ _

/-! ## Steps that are of no account -/

/-- The next call stands no nearer to a token than the one before. -/
structure Follows (email : String) (call next : Call) : Prop where
  limiting : next.limiting email = none
  counted : next.counted email = true → call.counted email = true
  resetKey : ∀ key ∈ next.resetKey, key ∈ call.resetKey ∨ ∃ other, key = rateKey "reset" other

theorem Follows.of_blank (hlimiting : next.limiting email = none)
    (hcounted : next.counted email = false) (hkey : next.resetKey = none) :
    Follows email call next where
  limiting := hlimiting
  counted := by
    rw [hcounted]
    intro h
    cases h
  resetKey := by
    rw [hkey]
    intro key h
    cases h

/-- The call goes on or ends, and the counter of the address is what it was. -/
structure Quiet (email : String) (i : Nat) (call : Call) (s t : Auth) : Prop where
  now : t.now = s.now
  calls : (∃ next, t.calls = s.calls.set i next ∧ Follows email call next) ∨
    t.calls = s.calls.eraseIdx i
  counter : t.cache.get s.now.toDate (rateKey "forgot" email) =
    s.cache.get s.now.toDate (rateKey "forgot" email)

/-- The parts of the state that matter here are those of another. -/
structure Beside (email : String) (s u : Auth) : Prop where
  now : u.now = s.now
  calls : u.calls = s.calls
  counter : u.cache.get s.now.toDate (rateKey "forgot" email) =
    s.cache.get s.now.toDate (rateKey "forgot" email)

namespace Beside

theorem refl (s : Auth) : Beside email s s := ⟨rfl, rfl, rfl⟩

theorem wait (h : Beside email s u) (hnext : Follows email call next) :
    Quiet email i call s (u.wait i next) :=
  ⟨h.now, .inl ⟨next, by rw [← h.calls]; rfl, hnext⟩, h.counter⟩

theorem finish (h : Beside email s u) {response : Except HttpError Response} :
    Quiet email i call s (u.finish i response) :=
  ⟨h.now, .inr (by rw [← h.calls]; rfl), h.counter⟩

theorem proceed (h : Beside email s u) {next : Except HttpError Call}
    (hnext : ∀ call', next = .ok call' → Follows email call call') :
    Quiet email i call s (u.proceed i next) := by
  cases next with
  | error e => exact h.finish
  | ok next => exact h.wait (hnext next rfl)

end Beside

theorem afterEmail_follows (user : User) (dto : UpdateProfileDto) (header : String) :
    Follows email call (afterEmail user dto header) := by
  unfold afterEmail
  split <;> exact .of_blank rfl rfl rfl

theorem headerJti_follows {header : String} {f : String → Call}
    (hf : ∀ jti, Follows email call (f jti)) :
    ∀ next, (headerJti p header).map f = .ok next → Follows email call next := by
  intro next h
  obtain ⟨jti, -, rfl⟩ := map_eq_ok.mp h
  exact hf jti

theorem beside_revoke (p : Platform) (email jti uuid : String) (updated : User) (s : Auth) :
    Beside email s (mint [p.signToken s.now.toDate uuid updated] none
      { s with cache := p.revoke s.now.toDate jti profileRevokeSeconds s.cache }) := by
  have revoked : (p.revoke s.now.toDate jti profileRevokeSeconds s.cache).get s.now.toDate
    (rateKey "forgot" email) = s.cache.get s.now.toDate (rateKey "forgot" email) := get_revoke
  exact ⟨rfl, rfl, revoked⟩

/-- What a call does that does not read or write the counter of the address, nor create a
token for it. -/
theorem resume_quiet {fresh : Fresh} (hcount : call ≠ .forgotCount email)
    (hlimit : call.limiting email = none)
    (hinsert : ∀ userId token expiresAt, call ≠ .forgotInsert userId email token expiresAt)
    (hkey : ∀ key ∈ call.resetKey, ∃ other, key = rateKey "reset" other) :
    Quiet email i call s (s.resume p fresh i call) := by
  have blank : ∀ {u : Auth} {next : Call}, u.now = s.now → u.calls = s.calls →
      u.cache = s.cache → next.limiting email = none → next.counted email = false →
      next.resetKey = none → Quiet email i call s (u.wait i next) := by
    intro u next hnow hcalls hcache hlimiting hcounted hreset
    exact Beside.wait ⟨hnow, hcalls, by rw [hcache]⟩ (.of_blank hlimiting hcounted hreset)
  have ends : ∀ {u : Auth} {response : Except HttpError Response}, u.now = s.now →
      u.calls = s.calls → u.cache = s.cache → Quiet email i call s (u.finish i response) := by
    intro u response hnow hcalls hcache
    exact Beside.finish ⟨hnow, hcalls, by rw [hcache]⟩
  cases call with
  | registerHash | changeHash | resetHash => exact blank rfl rfl rfl rfl rfl rfl
  | registerLog | loginLog | refreshFound | forgotMail | resetCommit => exact ends rfl rfl rfl
  | registerEmail | registerUsername | loginEmail | loginCompare | refreshDenylist | refreshFind
  | resetSelect | profileUsername | changeFind | changeCompare | registerCreate =>
    simp only [resume]
    split
    · first | exact ends rfl rfl rfl | exact blank rfl rfl rfl rfl rfl rfl
    · first | exact blank rfl rfl rfl rfl rfl rfl | exact ends rfl rfl rfl
  | authFind =>
    simp only [resume]
    split <;> exact ends rfl rfl rfl
  | authDenylist token =>
    simp only [resume]
    split
    · exact ends rfl rfl rfl
    · split
      · exact ends rfl rfl rfl
      · split
        · exact blank rfl rfl rfl rfl rfl rfl
        · exact ends rfl rfl rfl
  | logoutAccess header refreshToken =>
    simp only [resume]
    split
    · exact ends rfl rfl rfl
    · next cache hcache =>
      have beside : Beside email s { s with cache } := ⟨rfl, rfl, get_logoutAccess hcache⟩
      exact beside.wait (.of_blank rfl rfl rfl)
  | logoutRefresh refreshToken =>
    simp only [resume]
    split
    · exact ends rfl rfl rfl
    · next cache hcache =>
      have beside : Beside email s { s with cache } := ⟨rfl, rfl, get_logoutRefresh hcache⟩
      exact beside.finish
  | forgotCount other =>
    have others : other ≠ email := fun same => hcount (congrArg _ same)
    simp only [resume]
    split
    · exact ends rfl rfl rfl
    · exact blank rfl rfl rfl (if_neg others) rfl rfl
  | forgotLimit other n =>
    have others : other ≠ email := by
      rintro rfl
      rw [Call.limiting, if_pos rfl] at hlimit
      cases hlimit
    have beside : Beside email s (s.countAttempt (rateKey "forgot" other) n) :=
      ⟨rfl, rfl, get_countAttempt (rateKey_forgot_ne others)⟩
    exact beside.wait (.of_blank rfl (decide_eq_false others) rfl)
  | forgotFind other =>
    simp only [resume]
    split
    · exact ends rfl rfl rfl
    · exact Beside.wait (.refl s) ⟨rfl, id, fun _ h => by cases h⟩
  | forgotInsert userId other token expiresAt => exact blank rfl rfl rfl rfl rfl rfl
  | resetFind row password =>
    simp only [resume]
    split
    · exact ends rfl rfl rfl
    · refine Beside.wait (.refl s) ⟨rfl, (fun h => by cases h), ?_⟩
      rintro key ⟨⟩
      exact .inr ⟨_, rfl⟩
  | resetCount row key password =>
    simp only [resume]
    split
    · exact ends rfl rfl rfl
    · exact Beside.wait (.refl s) ⟨rfl, (fun h => by cases h), fun _ h => .inl h⟩
  | resetLimit row key password n =>
    obtain ⟨other, rfl⟩ := hkey key rfl
    have beside : Beside email s (s.countAttempt (rateKey "reset" other) n) :=
      ⟨rfl, rfl, get_countAttempt (rateKey_reset_ne email other)⟩
    exact beside.wait (.of_blank rfl rfl rfl)
  | profileFind userId dto header =>
    simp only [resume]
    split
    · exact ends rfl rfl rfl
    · split
      · exact blank rfl rfl rfl rfl rfl rfl
      · exact Beside.wait (.refl s) (afterEmail_follows ..)
  | profileEmail user dto header =>
    simp only [resume]
    split
    · exact ends rfl rfl rfl
    · exact Beside.wait (.refl s) (afterEmail_follows ..)
  | profileUpdate user dto header =>
    simp only [resume]
    split
    · exact ends rfl rfl rfl
    · exact ends rfl rfl rfl
    · next updated db hupdate =>
      have beside : Beside email s { s with db } := ⟨rfl, rfl, rfl⟩
      split
      · exact beside.proceed (headerJti_follows fun _ => .of_blank rfl rfl rfl)
      · exact beside.finish
  | changeUpdate userId passwordHash passwordChangedAt header =>
    simp only [resume]
    split
    · exact ends rfl rfl rfl
    · next updated db hupdate =>
      have beside : Beside email s (record userId passwordChangedAt { s with db }) := ⟨rfl, rfl, rfl⟩
      exact beside.proceed (headerJti_follows fun _ => .of_blank rfl rfl rfl)
  | profileRevoke updated jti | changeRevoke updated jti => exact (beside_revoke ..).finish

theorem start_blank {now : Date} {request : Request} (h : start p now request = .ok call)
    (email : String) :
    call.limiting email = none ∧ call.counted email = false ∧ call.resetKey = none := by
  cases request with
  | refresh refreshToken =>
    obtain ⟨_, -, hcall⟩ := bind_eq_ok.mp h
    cases hcall
    exact ⟨rfl, rfl, rfl⟩
  | authenticate header =>
    obtain ⟨_, -, hcall⟩ := bind_eq_ok.mp h
    cases hcall
    exact ⟨rfl, rfl, rfl⟩
  | _ =>
    cases h
    exact ⟨rfl, rfl, rfl⟩

end Auth

namespace ResetMail

open Auth (Action rateKey maxAttemptsPerEmail)

variable {p : Platform} {m m' : ResetMail} {a : Action} {email : String}

/-! ## The invariant -/

/-- At most one call is between its read and its write, and neither what it has read nor
what is served is behind the load. -/
structure Sound (email : String) (m : ResetMail) : Prop where
  limited : Limited maxAttemptsPerEmail (m.times email)
  keys : ∀ call ∈ m.auth.calls, ∀ key ∈ call.resetKey, ∃ other, key = rateKey "reset" other
  one : m.auth.calls.countP (fun call => (call.limiting email).isSome) ≤ 1
  read : ∀ call ∈ m.auth.calls, ∀ n ∈ call.limiting email,
    m.load email ≤ n ∧ n < maxAttemptsPerEmail
  served : ∀ n, m.counter email = some n → m.load email ≤ n
  room : m.load email ≤ maxAttemptsPerEmail

theorem Idle.sound (h : m.Idle) (email : String) : m.Sound email := by
  obtain ⟨hcalls, hcreated⟩ := h
  have notimes : m.times email = [] := by rw [times, hcreated]; rfl
  have empty : m.load email = 0 := by rw [load, notimes, hcalls]; rfl
  refine ⟨?_, ?_, ?_, ?_, ?_, ?_⟩
  · rw [notimes]
    exact fun _ => Nat.zero_le _
  · rw [hcalls]
    exact List.forall_mem_nil _
  · rw [hcalls]
    exact Nat.zero_le _
  · rw [hcalls]
    exact List.forall_mem_nil _
  · intro n _
    rw [empty]
    exact Nat.zero_le n
  · rw [empty]
    exact Nat.zero_le _

/-- Time passes, calls end or go on to something of no account. -/
theorem Sound.relax (h : m.Sound email) (htimes : m'.times email = m.times email)
    (hnow : m.auth.now.micros ≤ m'.auth.now.micros)
    (hkeys : ∀ call ∈ m'.auth.calls, ∀ key ∈ call.resetKey, ∃ other, key = rateKey "reset" other)
    (hone : m'.auth.calls.countP (fun call => (call.limiting email).isSome) ≤
      m.auth.calls.countP fun call => (call.limiting email).isSome)
    (hread : ∀ call ∈ m'.auth.calls, (call.limiting email).isSome → call ∈ m.auth.calls)
    (hcounted : m'.auth.calls.countP (Call.counted email) ≤
      m.auth.calls.countP (Call.counted email))
    (hserved : ∀ n, m'.counter email = some n → m.counter email = some n) :
    m'.Sound email := by
  have lighter : m'.load email ≤ m.load email := by
    rw [load, load, htimes]
    exact Nat.add_le_add (recent_mono hnow _) hcounted
  refine ⟨htimes ▸ h.limited, hkeys, le_trans hone h.one, ?_, ?_, le_trans lighter h.room⟩
  · intro call hcall n hn
    obtain ⟨enough, small⟩ := h.read call (hread call hcall (Option.isSome_of_mem hn)) n hn
    exact ⟨le_trans lighter enough, small⟩
  · exact fun n hn => le_trans lighter (h.served n (hserved _ hn))

/-- The same for a call that is of no account. -/
theorem Sound.quiet {i : Nat} {call : Call} (h : m.Sound email)
    (htimes : m'.times email = m.times email) (hcall : m.auth.calls[i]? = some call)
    (hquiet : Auth.Quiet email i call m.auth m'.auth) :
    m'.Sound email := by
  have serves : ∀ n, m'.counter email = some n → m.counter email = some n := by
    intro n hn
    rw [counter, hquiet.now, hquiet.counter] at hn
    exact hn
  have here : call ∈ m.auth.calls := List.mem_of_getElem? hcall
  rcases hquiet.calls with ⟨next, hset, hfollows⟩ | herase
  · refine h.relax htimes (le_of_eq (congrArg _ hquiet.now.symm)) ?_ ?_ ?_ ?_ serves
    · rw [hset]
      refine forall_mem_set h.keys fun key hkey => ?_
      rcases hfollows.resetKey key hkey with before | reset
      · exact h.keys call here key before
      · exact reset
    · rw [hset]
      exact countP_set_le hcall fun hsome => by rw [hfollows.limiting] at hsome; cases hsome
    · rw [hset]
      intro other hother hsome
      rcases List.mem_or_eq_of_mem_set hother with old | rfl
      · exact old
      · rw [hfollows.limiting] at hsome
        cases hsome
    · rw [hset]
      exact countP_set_le hcall hfollows.counted
  · refine h.relax htimes (le_of_eq (congrArg _ hquiet.now.symm)) ?_ ?_ ?_ ?_ serves
    · rw [herase]
      exact fun other hother => h.keys other (List.mem_of_mem_eraseIdx hother)
    · rw [herase]
      exact countP_eraseIdx_le _ _
    · rw [herase]
      exact fun other hother _ => List.mem_of_mem_eraseIdx hother
    · rw [herase]
      exact countP_eraseIdx_le _ _

theorem attempts_eq : m.auth.attempts (rateKey "forgot" email) = (m.counter email).getD 0 := by
  unfold Auth.attempts counter
  cases m.auth.cache.get m.auth.now.toDate (rateKey "forgot" email) with
  | none => rfl
  | some value => cases value <;> rfl

/-- A call reads the counter, as it should. -/
theorem Sound.reads {i : Nat} (h : m.Sound email)
    (hcall : m.auth.calls[i]? = some (.forgotCount email))
    (through : m.auth.attempts (rateKey "forgot" email) < maxAttemptsPerEmail)
    (alone : ∀ call ∈ m.auth.calls, call.limiting email = none)
    (counts : (m.counter email).isSome = true ∨ m.load email = 0) :
    Sound email ⟨m.auth.wait i
      (.forgotLimit email (m.auth.attempts (rateKey "forgot" email))), m.created⟩ := by
  let reading := Call.forgotLimit email (m.auth.attempts (rateKey "forgot" email))
  let m' : ResetMail := ⟨m.auth.wait i reading, m.created⟩
  have reads : reading.limiting email = some (m.auth.attempts (rateKey "forgot" email)) := if_pos rfl
  have counted : (m.auth.calls.set i reading).countP (Call.counted email) =
      m.auth.calls.countP (Call.counted email) := by
    have sum := @countP_set _ (Call.counted email) _ i _ reading hcall
    exact sum
  have load : m'.load email = m.load email := congrArg (recent _ _ + ·) counted
  have limiting : (m.auth.calls.set i reading).countP (fun call => (call.limiting email).isSome) =
      m.auth.calls.countP (fun call => (call.limiting email).isSome) + 1 := by
    have sum := @countP_set _ (fun call => (call.limiting email).isSome) _ i _ reading hcall
    simp only [reads] at sum
    exact sum
  have none : m.auth.calls.countP (fun call => (call.limiting email).isSome) = 0 := by
    rw [List.countP_eq_zero]
    intro call hcall
    rw [alone call hcall]
    exact Bool.false_ne_true
  have enough : m.load email ≤ m.auth.attempts (rateKey "forgot" email) := by
    rcases counts with there | nothing
    · obtain ⟨n, hn⟩ := Option.isSome_iff_exists.mp there
      rw [attempts_eq, hn]
      exact h.served n hn
    · exact nothing ▸ Nat.zero_le _
  refine ⟨h.limited, ?_, ?_, ?_, ?_, ?_⟩
  · refine forall_mem_set h.keys ?_
    rintro key ⟨⟩
  · show (m.auth.calls.set i reading).countP _ ≤ 1
    rw [limiting, none]
  · intro call hcall n hn
    show m'.load email ≤ n ∧ _
    rw [load]
    rcases List.mem_or_eq_of_mem_set hcall with old | rfl
    · rw [alone call old] at hn
      cases hn
    · rw [reads] at hn
      cases hn
      exact ⟨enough, through⟩
  · intro n hn
    exact load ▸ h.served n hn
  · exact load ▸ h.room

/-- The only call that has read the counter writes it. -/
theorem Sound.writes {i n : Nat} (h : m.Sound email)
    (hcall : m.auth.calls[i]? = some (.forgotLimit email n)) :
    Sound email ⟨(m.auth.countAttempt (rateKey "forgot" email) n).wait i (.forgotFind email),
      m.created⟩ := by
  let m' : ResetMail :=
    ⟨(m.auth.countAttempt (rateKey "forgot" email) n).wait i (.forgotFind email), m.created⟩
  have read : (Call.forgotLimit email n).limiting email = some n := if_pos rfl
  have counts : (Call.forgotFind email).counted email = true := decide_eq_true rfl
  obtain ⟨enough, small⟩ := h.read _ (List.mem_of_getElem? hcall) n read
  have none : (m.auth.calls.set i (.forgotFind email)).countP
      (fun call => (call.limiting email).isSome) = 0 := by
    have sum := @countP_set _ (fun call => (call.limiting email).isSome) _ i _
      (.forgotFind email) hcall
    simp only [read] at sum
    exact Nat.le_zero.mp (Nat.le_of_succ_le_succ (le_of_eq_of_le sum h.one))
  have load : m'.load email = m.load email + 1 := by
    have sum := @countP_set _ (Call.counted email) _ i _ (.forgotFind email) hcall
    rw [counts] at sum
    exact congrArg (recent _ _ + ·) sum
  have served : m'.counter email = some (n + 1) := by
    have later : m.auth.now.toDate ≤ m.auth.now.toDate.plus Auth.rateLimitTtlSeconds :=
      Int.le_add_of_nonneg_right (Int.natCast_nonneg _)
    have get : m'.auth.cache.get m'.auth.now.toDate (rateKey "forgot" email) =
        some (.number (n + 1)) := (TtlCache.get_set_until _ _ _ _ _).trans (if_pos later)
    rw [counter, get]
  refine ⟨h.limited, ?_, ?_, ?_, ?_, ?_⟩
  · refine forall_mem_set h.keys ?_
    rintro key ⟨⟩
  · exact none ▸ Nat.zero_le 1
  · intro call hcall n hn
    exact absurd (Option.isSome_of_mem hn) (List.countP_eq_zero.mp none call hcall)
  · intro k hk
    rw [served] at hk
    cases hk
    rw [load]
    exact Nat.succ_le_succ enough
  · rw [load]
    exact le_trans (Nat.succ_le_succ enough) small

/-- A call creates its token. -/
theorem Sound.creates {i userId : Nat} {token : String} {expiresAt : Date} {auth : Auth}
    (h : m.Sound email) (hcall : m.auth.calls[i]? = some (.forgotInsert userId email token expiresAt))
    (hnow : auth.now = m.auth.now) (hcache : auth.cache = m.auth.cache)
    (hcalls : auth.calls = m.auth.calls.set i (.forgotMail email token)) :
    Sound email ⟨auth, m.created ++ [(email, m.auth.now)]⟩ := by
  let m' : ResetMail := ⟨auth, m.created ++ [(email, m.auth.now)]⟩
  have counts : (Call.forgotInsert userId email token expiresAt).counted email = true :=
    decide_eq_true rfl
  have times : m'.times email = m.times email ++ [m.auth.now.micros] := by
    rw [ResetMail.times, List.filter_append, List.map_append, List.filter_singleton,
      decide_eq_true rfl]
    rfl
  have counted : auth.calls.countP (Call.counted email) + 1 =
      m.auth.calls.countP (Call.counted email) := by
    have sum := @countP_set _ (Call.counted email) _ i _ (.forgotMail email token) hcall
    rw [counts] at sum
    rw [hcalls]
    exact sum
  have recents : recent auth.now.micros (m'.times email) =
      recent m.auth.now.micros (m.times email) + 1 := by
    rw [hnow, times, recent_append_now]
  have load : m'.load email = m.load email := by
    show recent auth.now.micros (m'.times email) + auth.calls.countP _ = _
    rw [recents, ResetMail.load, ← counted]
    omega
  have room : recent m.auth.now.micros (m.times email) + 1 ≤ maxAttemptsPerEmail := by
    have all := h.room
    rw [ResetMail.load] at all
    omega
  refine ⟨?_, ?_, ?_, ?_, ?_, ?_⟩
  · rw [times]
    exact h.limited.append room
  · rw [hcalls]
    refine forall_mem_set h.keys ?_
    rintro key ⟨⟩
  · refine le_trans ?_ h.one
    rw [hcalls]
    exact countP_set_le hcall fun hsome => by cases hsome
  · show ∀ call ∈ auth.calls, ∀ n ∈ call.limiting email, m'.load email ≤ n ∧ _
    rw [hcalls, load]
    refine forall_mem_set h.read ?_
    rintro n ⟨⟩
  · intro n hn
    rw [load]
    refine h.served n ?_
    rw [counter, ← hcache, ← hnow]
    exact hn
  · exact load ▸ h.room

/-! ## Every history -/

theorem times_append_of_ne {other : String} (hne : other ≠ email) {auth : Auth} {time : Timestamptz} :
    times email ⟨auth, m.created ++ [(other, time)]⟩ = m.times email := by
  rw [times, List.filter_append, List.filter_singleton, decide_eq_false hne]
  exact congrArg _ (List.append_nil _)

theorem times_append_nil {auth : Auth} : times email ⟨auth, m.created ++ []⟩ = m.times email := by
  rw [times, List.append_nil]
  rfl

/-- A call that creates no token for the address. -/
theorem times_resume {i : Nat} {fresh : Fresh} {call : Call} {auth : Auth}
    (hcall : m.auth.calls[i]? = some call)
    (hinsert : ∀ userId token expiresAt, call ≠ .forgotInsert userId email token expiresAt) :
    times email ⟨auth, m.created ++ creates m.auth (.resume i fresh)⟩ = m.times email := by
  simp only [creates, hcall]
  split
  · next userId other token expiresAt hsome =>
    cases hsome
    refine times_append_of_ne ?_
    rintro rfl
    exact hinsert userId token expiresAt rfl
  · exact times_append_nil

theorem limiting_eq_some {call : Call} {n : Nat} (h : call.limiting email = some n) :
    call = .forgotLimit email n := by
  unfold Call.limiting at h
  split at h
  · split at h
    · next same =>
      cases h
      rw [same]
    · cases h
  · cases h

theorem resume_sound {i : Nat} {fresh : Fresh} {call : Call} (h : m.Sound email)
    (hcall : m.auth.calls[i]? = some call) (reads : m.ReadsAll email (.resume i fresh)) :
    Sound email ⟨m.auth.resume p fresh i call, m.created ++ creates m.auth (.resume i fresh)⟩ := by
  cases hlimit : call.limiting email with
  | some n =>
    obtain rfl := limiting_eq_some hlimit
    have none : creates m.auth (.resume i fresh) = [] := by simp only [creates, hcall]
    rw [none, List.append_nil]
    exact h.writes hcall
  | none =>
  by_cases count : call = .forgotCount email
  · subst count
    have none : creates m.auth (.resume i fresh) = [] := by simp only [creates, hcall]
    rw [none, List.append_nil, Auth.resume]
    split
    · exact h.quiet rfl hcall (Auth.Beside.finish (.refl m.auth))
    · next through =>
      obtain ⟨alone, counts⟩ := reads hcall (Nat.not_le.mp through)
      exact h.reads hcall (Nat.not_le.mp through) alone counts
  by_cases insert : ∃ userId token expiresAt, call = .forgotInsert userId email token expiresAt
  · obtain ⟨userId, token, expiresAt, rfl⟩ := insert
    have one : creates m.auth (.resume i fresh) = [(email, m.auth.now)] := by
      simp only [creates, hcall]
    rw [one]
    exact h.creates hcall rfl rfl rfl
  have others : ∀ userId token expiresAt, call ≠ .forgotInsert userId email token expiresAt :=
    fun userId token expiresAt same => insert ⟨userId, token, expiresAt, same⟩
  exact h.quiet (times_resume hcall others) hcall
    (Auth.resume_quiet count hlimit others (h.keys call (List.mem_of_getElem? hcall)))

theorem step_sound (h : m.Sound email) (reads : m.ReadsAll email a) (hs : m.step p a = some m') :
    m'.Sound email := by
  obtain ⟨auth, hauth, rfl⟩ := Option.map_eq_some_iff.mp hs
  cases a with
  | advance micros =>
    cases hauth
    have later : m.auth.now.micros ≤ m.auth.now.micros + micros :=
      Int.le_add_of_nonneg_right (Int.natCast_nonneg _)
    refine h.relax times_append_nil later h.keys (le_refl _) (fun _ hcall _ => hcall) (le_refl _) ?_
    intro n hn
    have dates : m.auth.now.toDate ≤ (⟨m.auth.now.micros + micros⟩ : Timestamptz).toDate :=
      Int.ediv_le_ediv (by decide) later
    unfold counter at hn ⊢
    split at hn
    · next hget =>
      rw [TtlCache.get_of_later dates hget]
      exact hn
    · cases hn
  | call request =>
    rw [Auth.step] at hauth
    split at hauth
    · cases hauth
      exact h.relax times_append_nil (le_refl _) h.keys (le_refl _) (fun _ hcall _ => hcall)
        (le_refl _) fun _ hvalue => hvalue
    · next call hstart =>
      cases hauth
      obtain ⟨hlimiting, hcounted, hkey⟩ := Auth.start_blank hstart email
      refine h.relax times_append_nil (le_refl _) ?_ ?_ ?_ ?_ fun _ hvalue => hvalue
      · refine List.forall_mem_append.mpr ⟨h.keys, List.forall_mem_singleton.mpr ?_⟩
        rw [hkey]
        rintro key ⟨⟩
      · rw [List.countP_append, List.countP_singleton, hlimiting]
        exact le_refl _
      · refine List.forall_mem_append.mpr ⟨fun _ hcall _ => hcall, List.forall_mem_singleton.mpr ?_⟩
        rw [hlimiting]
        intro hsome
        cases hsome
      · rw [List.countP_append, List.countP_singleton, hcounted]
        exact le_refl _
  | reject i message =>
    rw [Auth.step] at hauth
    split at hauth
    · cases hauth
      exact h.relax times_append_nil (le_refl _)
        (fun call hcall => h.keys call (List.mem_of_mem_eraseIdx hcall)) (countP_eraseIdx_le _ _)
        (fun _ hcall _ => List.mem_of_mem_eraseIdx hcall) (countP_eraseIdx_le _ _)
        fun _ hvalue => hvalue
    · cases hauth
  | resume i fresh =>
    obtain ⟨call, hcall, rfl⟩ := Option.map_eq_some_iff.mp hauth
    exact resume_sound h hcall reads

/-- Where every call that is let through finds the counter as it should, at most three
tokens are created for the address within any hour. -/
theorem resetMail_limited {as : List Action} (idle : m.Idle) (email : String)
    (hrun : run (step p) m as = some m')
    (reads : AllSteps (step p) (fun m a _ => m.ReadsAll email a) m as) :
    Limited maxAttemptsPerEmail (m'.times email) := by
  have each : ∀ (s : ResetMail) (a : Action) (t : ResetMail), s.Sound email → s.ReadsAll email a →
      s.step p a = some t → t.Sound email := fun _ _ _ sound hreads hs => step_sound sound hreads hs
  exact (reads.invariant each (idle.sound email) hrun).limited

/-! ## Four requests -/

/-- A user, and nothing under way. -/
def oneUser : ResetMail where
  auth :=
    { now := ⟨0⟩
      db := ⟨[⟨1, "u", "u@x", "", ⟨0⟩, none, false⟩], 2, [], 1⟩
      cache := TtlCache.empty
      calls := []
      responses := []
      minted := []
      recorded := []
      admitted := [] }
  created := []

/-- A request some time after the one before, up to its mail. -/
def forgets (micros : Nat) : List Action :=
  .advance micros :: .call (.forgotPassword "u@x") :: List.replicate 5 (.resume 0 ⟨"", "", "", ""⟩)

/-- Three requests a second apart, and a fourth that the counter turns away. -/
def hurried : List Action :=
  (List.replicate 3 (forgets 1000000)).flatten ++
    [.advance 500000, .call (.forgotPassword "u@x"), .resume 0 ⟨"", "", "", ""⟩]

theorem resetMail_limited_thrice : ∃ m,
    run (step Fleet.plainPlatform) oneUser hurried = some m ∧ m.auth.calls = [] ∧
      m.times "u@x" = [1000000, 2000000, 3000000] ∧
      Limited maxAttemptsPerEmail (m.times "u@x") := by
  have ran : (run (step Fleet.plainPlatform) oneUser hurried).map (fun m =>
      (m.auth.calls.isEmpty, m.times "u@x")) = some (true, [1000000, 2000000, 3000000]) := by
    decide +kernel
  obtain ⟨m, hm, outcome⟩ := Option.map_eq_some_iff.mp ran
  obtain ⟨ended, times⟩ := Prod.ext_iff.mp outcome
  exact ⟨m, hm, List.isEmpty_iff.mp ended, times,
    resetMail_limited ⟨rfl, rfl⟩ "u@x" hm (by decide +kernel)⟩

/-- Four seconds apart, the counter is gone by the next of them. -/
theorem resetMail_fourth :
    ¬∀ (p : Platform) (m m' : ResetMail) (as : List Action) (email : String), m.Idle →
      run (step p) m as = some m' → Limited maxAttemptsPerEmail (m'.times email) := by
  intro always
  have four : (run (step Fleet.plainPlatform) oneUser
      (List.replicate 4 (forgets 4000000)).flatten).map (times "u@x") =
      some [4000000, 8000000, 12000000, 16000000] := by
    decide +kernel
  obtain ⟨m, hm, times⟩ := Option.map_eq_some_iff.mp four
  have limited := always Fleet.plainPlatform oneUser m _ "u@x" ⟨rfl, rfl⟩ hm 0
  rw [times] at limited
  exact absurd limited (by decide)

end ResetMail

end Api
end XStreamRoll
