/-
Accounts that can be recovered.

`register`, `login` and `updateProfile` take an e-mail address as it comes, and
`sendResetToken` looks for its trimmed and lower-cased form.  An account whose address is
spelled otherwise cannot ask for a reset token.  What its owner sends may even be the
address of another account, which then gets the token.
-/
import XStreamRoll.Api.Auth.Alone
import XStreamRoll.Api.Auth.Passwords
import XStreamRoll.Api.Auth.Revocation

namespace XStreamRoll
namespace Api

open Transition

/-! ## The users table -/

namespace Database

/-- The keys of the table: a serial primary key, and unique e-mail addresses. -/
structure Keyed (db : Database) : Prop where
  serial : ∀ user ∈ db.users, user.id < db.nextUserId
  primaryKey : (db.users.map User.id).Nodup
  emails : ∀ user ∈ db.users, ∀ other ∈ db.users, user.email = other.email → user.id = other.id

variable {db : Database}

theorem findByEmail_mem {email : String} {user : User} (h : db.findByEmail email = some user) :
    user ∈ db.users ∧ user.email = email :=
  ⟨List.mem_of_find?_eq_some h, by simpa using List.find?_some h⟩

theorem keyed_create (h : db.Keyed) (NOW : Timestamptz) (username email passwordHash : String) :
    (db.create NOW username email passwordHash).2.Keyed := by
  have later : ∀ user ∈ db.users, user.id < db.nextUserId + 1 :=
    fun user hmem => Nat.lt_succ_of_lt (h.serial user hmem)
  unfold create
  simp only
  split
  · exact ⟨later, h.primaryKey, h.emails⟩
  · next unused =>
    have fresh : ∀ user ∈ db.users, user.email ≠ email := by
      intro user hmem same
      refine unused (.inl ?_)
      rw [findByEmail, List.find?_isSome]
      exact ⟨user, hmem, decide_eq_true same⟩
    refine ⟨?_, ?_, ?_⟩
    · simp only [List.forall_mem_append, List.forall_mem_singleton]
      exact ⟨later, Nat.lt_succ_self _⟩
    · exact nodup_concat h.primaryKey fun user hmem => Nat.ne_of_lt (h.serial user hmem)
    · simp only [List.forall_mem_append, List.forall_mem_singleton]
      refine ⟨fun user hmem => ⟨h.emails user hmem, ?_⟩, ?_, fun _ => trivial⟩
      · exact fun same => absurd same (fresh user hmem)
      · exact fun other hmem same => absurd same.symm (fresh other hmem)

/-- An UPDATE of one row that leaves its id and takes no address of another row. -/
theorem keyed_modify {id : Nat} {f : User → User} (h : db.Keyed) (hid : ∀ user, (f user).id = user.id)
    (hemail : ∀ user ∈ db.users, user.id = id → ∀ other ∈ db.users, other.id ≠ id →
      (f user).email ≠ other.email) : (db.modify id f).2.Keyed := by
  have ids : ∀ user : User, (if user.id = id then f user else user).id = user.id := by
    intro user
    split
    · exact hid user
    · rfl
  refine ⟨?_, ?_, ?_⟩
  · rintro _ hmem
    obtain ⟨user, huser, rfl⟩ := List.mem_map.mp hmem
    rw [ids]
    exact h.serial user huser
  · show ((db.users.map fun user => if user.id = id then f user else user).map User.id).Nodup
    rw [List.map_map]
    exact (List.map_congr_left fun user _ => ids user).symm ▸ h.primaryKey
  · intro _ hmem _ hmem'
    obtain ⟨user, huser, rfl⟩ := List.mem_map.mp hmem
    obtain ⟨other, hother, rfl⟩ := List.mem_map.mp hmem'
    rw [ids, ids]
    intro same
    by_cases here : user.id = id
    · by_cases there : other.id = id
      · rw [here, there]
      · rw [if_pos here, if_neg there] at same
        exact absurd same (hemail user huser here other hother there)
    · by_cases there : other.id = id
      · rw [if_neg here, if_pos there] at same
        exact absurd same.symm (hemail other hother there user huser here)
      · rw [if_neg here, if_neg there] at same
        exact h.emails user huser other hother same

theorem keyed_updatePasswordHash (h : db.Keyed) (id : Nat) (passwordHash : String)
    (passwordChangedAt : Date) :
    (db.updatePasswordHash id passwordHash passwordChangedAt).2.Keyed := by
  refine keyed_modify h (fun _ => rfl) ?_
  intro user huser here other hother there same
  exact there (here ▸ (h.emails user huser other hother same).symm)

theorem keyed_updateProfile {id : Nat} {username email : Option String}
    {found : Option User × Database} (h : db.Keyed)
    (hupdate : db.updateProfile id username email = .ok found) : found.2.Keyed := by
  unfold updateProfile at hupdate
  split at hupdate
  · cases hupdate
  · next free =>
    rw [Except.ok.injEq] at hupdate
    subst hupdate
    refine keyed_modify h (fun _ => rfl) ?_
    intro user huser here other hother there same
    cases email with
    | none => exact there (here ▸ (h.emails user huser other hother same).symm)
    | some email =>
      refine free (List.any_eq_true.mpr ⟨other, hother, ?_⟩)
      rw [Bool.and_eq_true, Bool.or_eq_true]
      exact ⟨decide_eq_true there, .inl (decide_eq_true (congrArg some same.symm))⟩

theorem Writes.keyed {db' : Database} (hwrites : db.Writes db') (h : db.Keyed) : db'.Keyed := by
  cases hwrites with
  | nothing => exact h
  | create NOW username email passwordHash => exact keyed_create h NOW username email passwordHash
  | profile hupdate => exact keyed_updateProfile h hupdate
  | password id passwordHash passwordChangedAt =>
    exact keyed_updatePasswordHash h id passwordHash passwordChangedAt
  | token => exact ⟨h.serial, h.primaryKey, h.emails⟩
  | reset rowId id passwordHash passwordChangedAt =>
    have marked : (db.useResetToken rowId).Keyed := ⟨h.serial, h.primaryKey, h.emails⟩
    exact keyed_updatePasswordHash marked id passwordHash passwordChangedAt

end Database

namespace Auth

variable {p : Platform} {s t u : Auth} {a : Action} {awaits : List Await}
  {response : Except HttpError Response}

theorem reachable_keyed (h : s.db.Keyed) (hreach : Reachable (step p) s t) : t.db.Keyed :=
  hreach.invariant (fun _ _ _ hkeyed hs => (step_writes hs).keyed hkeyed) h

/-! ## `sendResetToken` -/

/-- One reset token is created, for this user. -/
def CreatesFor (userId : Nat) (s t : Auth) : Prop :=
  ∃ row, t.db.resetTokens = s.db.resetTokens ++ [row] ∧ row.userId = userId

/-- `email.trim().toLowerCase()` -/
def normalizedEmail (p : Platform) (email : String) : String := p.toLowerCase (trim email)

theorem passed_forgotCount {w : Await} {email : String}
    (allowed : (s.later w.micros).attempts (rateKey "forgot" email) < maxAttemptsPerEmail) :
    s.passed p w (.forgotCount email) = (s.later w.micros).waiting
      (.forgotLimit email ((s.later w.micros).attempts (rateKey "forgot" email))) := by
  rw [passed, resume]
  exact (if_neg (Nat.not_le.mpr allowed)).trans (wait_waiting _ _ (s.later w.micros))

theorem passed_forgotLimit {w : Await} {email : String} {currentAttempts : Nat} :
    s.passed p w (.forgotLimit email currentAttempts) =
      ((s.later w.micros).countAttempt (rateKey "forgot" email) currentAttempts).waiting
        (.forgotFind email) :=
  wait_waiting _ _ ((s.later w.micros).countAttempt (rateKey "forgot" email) currentAttempts)

theorem passed_forgotFind {w : Await} {email : String} :
    s.passed p w (.forgotFind email) =
      match s.db.findByEmail email with
      | none => (s.later w.micros).answering (.ok .done)
      | some user => (s.later w.micros).waiting (.forgotInsert user.id email w.fresh.bytes
          ((s.later w.micros).now.toDate.plus passwordResetTokenTtlMs)) := by
  have found : ((s.later w.micros).waiting (.forgotFind email)).db = s.db := rfl
  rw [passed, resume, found]
  cases s.db.findByEmail email with
  | none => exact finish_waiting _ _ (s.later w.micros)
  | some user => exact wait_waiting _ _ (s.later w.micros)

theorem forgotInsert_creates {userId : Nat} {email token : String} {expiresAt : Date}
    (h : Goes p (.forgotInsert userId email token expiresAt) awaits s response t)
    (passes : ∀ w ∈ awaits, w.failure = none) : CreatesFor userId s t := by
  obtain ⟨insert, rest, rfl⟩ := h.cons
  rw [List.forall_mem_cons] at passes
  let inserted : Auth := { s.later insert.micros with
    db := s.db.insertResetToken userId (p.sha256 token) expiresAt }
  have next : s.passed p insert (.forgotInsert userId email token expiresAt) =
      inserted.waiting (.forgotMail email token) := wait_waiting _ _ inserted
  have mailing := h.waits passes.1 next rfl rfl
  obtain ⟨mail, rest, rfl⟩ := mailing.cons
  rw [List.forall_mem_cons] at passes
  have sent : inserted.passed p mail (.forgotMail email token) =
      (inserted.later mail.micros).answering (.ok .done) :=
    finish_waiting _ _ (inserted.later mail.micros)
  obtain ⟨-, rfl, -⟩ := mailing.ends passes.2.1 sent rfl rfl
  exact ⟨_, rfl, rfl⟩

/-- A call creates its token for whom it finds. -/
theorem forgotFind_creates {email : String} (h : Goes p (.forgotFind email) awaits s response t)
    (passes : ∀ w ∈ awaits, w.failure = none) :
    match s.db.findByEmail email with
    | none => t.db.resetTokens = s.db.resetTokens
    | some user => CreatesFor user.id s t := by
  obtain ⟨find, rest, rfl⟩ := h.cons
  rw [List.forall_mem_cons] at passes
  have found : s.passed p find (.forgotFind email) = _ := passed_forgotFind
  cases huser : s.db.findByEmail email with
  | none =>
    rw [huser] at found
    obtain ⟨-, rfl, -⟩ := h.ends passes.1 found rfl rfl
    rfl
  | some user =>
    rw [huser] at found
    have creates := forgotInsert_creates (h.waits passes.1 found rfl rfl) passes.2
    exact creates

/-- The whole call, when it goes through and is not rate limited. -/
theorem forgotPassword_creates {email : String}
    (h : Answers p (.forgotPassword email) awaits s response t)
    (passes : ∀ w ∈ awaits, w.failure = none)
    (allowed : ∀ w ∈ awaits.head?,
      (s.later w.micros).attempts (rateKey "forgot" (normalizedEmail p email)) <
        maxAttemptsPerEmail) :
    match s.db.findByEmail (normalizedEmail p email) with
    | none => t.db.resetTokens = s.db.resetTokens
    | some user => CreatesFor user.id s t := by
  have counting : Goes p (.forgotCount (normalizedEmail p email)) awaits s response t := h.goes rfl
  obtain ⟨count, rest, rfl⟩ := counting.cons
  rw [List.forall_mem_cons] at passes
  have limiting := counting.waits passes.1 (passed_forgotCount (allowed count rfl)) rfl rfl
  obtain ⟨limit, rest, rfl⟩ := limiting.cons
  rw [List.forall_mem_cons] at passes
  have creates := forgotFind_creates (limiting.waits passes.2.1 passed_forgotLimit rfl rfl)
    passes.2.2
  exact creates

/-- Whose address a token was asked for with gets it, and nobody else, exactly when the
address is spelled in its normal form. -/
theorem forgotPassword_recovers_iff {start : Auth} {user : User} (keyed : start.db.Keyed)
    (hreach : Reachable (step p) start s) (huser : user ∈ s.db.users)
    (h : Answers p (.forgotPassword user.email) awaits s response t)
    (passes : ∀ w ∈ awaits, w.failure = none)
    (allowed : ∀ w ∈ awaits.head?,
      (s.later w.micros).attempts (rateKey "forgot" (normalizedEmail p user.email)) <
        maxAttemptsPerEmail) :
    CreatesFor user.id s t ↔ normalizedEmail p user.email = user.email := by
  have keys := reachable_keyed keyed hreach
  have creates := forgotPassword_creates h passes allowed
  cases hfound : s.db.findByEmail (normalizedEmail p user.email) with
  | none =>
    rw [hfound] at creates
    refine iff_of_false ?_ fun normal => ?_
    · rintro ⟨row, more, -⟩
      have lengths := congrArg List.length (creates.symm.trans more)
      rw [List.length_append, List.length_singleton] at lengths
      omega
    · rw [Database.findByEmail, List.find?_eq_none] at hfound
      exact hfound user huser (decide_eq_true normal.symm)
  | some other =>
    rw [hfound] at creates
    obtain ⟨hother, email⟩ := Database.findByEmail_mem hfound
    constructor
    · rintro ⟨row, more, hrow⟩
      obtain ⟨row', more', hrow'⟩ := creates
      have rows := List.append_cancel_left (more.symm.trans more')
      rw [List.cons.injEq] at rows
      have id : other.id = user.id := by rw [← hrow, ← hrow', rows.1]
      have same : other = user := List.inj_on_of_nodup_map keys.primaryKey hother huser id
      rw [← email, same]
    · intro normal
      have id : other.id = user.id := keys.emails other hother user huser (email.trans normal)
      exact id ▸ creates

/-! ## Capital letters -/

/-- Two ways to spell an address. -/
def spelling : Platform :=
  { plainBcrypt with toLowerCase := fun text => String.ofList (text.toList.map Char.toLower) }

def noCalls : Auth where
  now := ⟨0⟩
  db := noAccounts
  cache := TtlCache.empty
  calls := []
  responses := []
  minted := []
  recorded := []
  admitted := []

theorem noCalls_keyed : noCalls.db.Keyed :=
  ⟨List.forall_mem_nil _, List.nodup_nil, List.forall_mem_nil _⟩

def registering (email : String) : List Action :=
  noCalls.alone (.register ⟨"streamer42", email, "P4ssw0rd!"⟩) (List.replicate 5 .atOnce)

def registeredAs (email : String) : Auth :=
  (run (step spelling) noCalls (registering email)).getD noCalls

def streamer42 (email : String) : User := ⟨1, "streamer42", email, "P4ssw0rd!", ⟨0⟩, none, false⟩

/-- A reset token has been asked for, which takes so many awaits. -/
def forgotten (email : String) (n : Nat) : Auth :=
  (run (step spelling) (registeredAs email) ((registeredAs email).alone (.forgotPassword email)
    (List.replicate n .atOnce))).getD noCalls

theorem forgotPassword_recovers_lowerCase :
    CreatesFor 1 (registeredAs "user@example.com") (forgotten "user@example.com" 5) := by
  have answers : Answers spelling (.forgotPassword "user@example.com") (List.replicate 5 .atOnce)
      (registeredAs "user@example.com") (.ok .done) (forgotten "user@example.com" 5) :=
    ⟨rfl, rfl⟩
  have reached : Reachable (step spelling) noCalls (registeredAs "user@example.com") :=
    ⟨registering "user@example.com", rfl⟩
  have found : streamer42 "user@example.com" ∈ (registeredAs "user@example.com").db.users := by
    decide +kernel
  exact (forgotPassword_recovers_iff noCalls_keyed reached found answers (by decide) (by decide)).mpr
    (by decide)

/-- An account with capital letters in its address gets no token. -/
theorem forgotPassword_capital :
    ¬∀ (p : Platform) (start s t : Auth) (awaits : List Await) (user : User)
      (response : Except HttpError Response), start.db.users = [] →
      Reachable (step p) start s → user ∈ s.db.users →
      Answers p (.forgotPassword user.email) awaits s response t →
      (∀ w ∈ awaits, w.failure = none) →
      (∀ w ∈ awaits.head?, (s.later w.micros).attempts
        (rateKey "forgot" (normalizedEmail p user.email)) < maxAttemptsPerEmail) →
      CreatesFor user.id s t := by
  intro always
  have found : streamer42 "User@Example.com" ∈ (registeredAs "User@Example.com").db.users := by
    decide +kernel
  obtain ⟨row, more, -⟩ := always spelling noCalls (registeredAs "User@Example.com")
    (forgotten "User@Example.com" 3) (List.replicate 3 .atOnce) (streamer42 "User@Example.com")
    (.ok .done) rfl ⟨registering "User@Example.com", rfl⟩ found ⟨rfl, rfl⟩ (by decide) (by decide)
  have none : (forgotten "User@Example.com" 3).db.resetTokens = [] := by decide +kernel
  rw [none] at more
  exact absurd more.symm (List.append_ne_nil_of_right_ne_nil _ (List.cons_ne_nil _ _))

end Auth

end Api
end XStreamRoll
