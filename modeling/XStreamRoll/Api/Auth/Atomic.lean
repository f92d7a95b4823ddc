/-
Errors of `updateProfile` and `changePassword`, and the row of the user.

Both revoke the token of the request once their UPDATE is through, and sign a new one.  A
token without a `jti` cannot be revoked: `decodeJti` throws, and what has been written
stays.  So it does when the cache does not take the entry.
-/
import XStreamRoll.Api.Auth.Alone
import XStreamRoll.Api.Auth.Revocation

namespace XStreamRoll
namespace Api

open Transition

/-- The user and the header of a request that changes the user's row. -/
def Request.account : Request → Option (Nat × String)
  | .updateProfile userId _ authorizationHeader | .changePassword userId _ authorizationHeader =>
    some (userId, authorizationHeader)
  | _ => none

namespace Auth

/-- The next so many awaits are there and go through. -/
def Pass (n : Nat) (awaits : List Await) : Prop :=
  n ≤ awaits.length ∧ ∀ w ∈ awaits.take n, w.failure = none

instance (n : Nat) (awaits : List Await) : Decidable (Pass n awaits) :=
  inferInstanceAs (Decidable (_ ∧ _))

/-- The table after the UPDATE of `updateProfile`. -/
def profiled (userId : Nat) (dto : UpdateProfileDto) (db : Database) : Database :=
  (db.modify userId fun user => { user with
    username := dto.username.getD user.username
    email := dto.email.getD user.email }).2

/-- The names that `updateProfile` is to write are new, and free. -/
def Renames (user : User) (dto : UpdateProfileDto) (db : Database) : Prop :=
  changed dto.email user.email = true ∧
    (dto.email.bind fun email => db.findByEmail email) = none ∧
    (changed dto.username user.username = true →
      (dto.username.bind fun username => db.findByUsername username) = none) ∧
    db.taken user.id dto.email dto.username = false

instance (user : User) (dto : UpdateProfileDto) (db : Database) : Decidable (Renames user dto db) :=
  inferInstanceAs (Decidable (_ ∧ _))

/-- The awaits of `updateProfile` after that for the e-mail address, up to its UPDATE. -/
def profileAwaits (user : User) (dto : UpdateProfileDto) : Nat :=
  if changed dto.username user.username then 2 else 1

/-- What the UPDATE of the call leaves, and the awaits after it, if the call gets so far
and is then to revoke its token. -/
def written (p : Platform) (awaits : List Await) (s : Auth) :
    Request → Option (Database × List Await)
  | .updateProfile userId dto _ =>
    match s.db.findById userId with
    | none => none
    | some user =>
      let n := profileAwaits user dto + 2
      if Renames user dto s.db ∧ Pass n awaits then
        some (profiled userId dto s.db, awaits.drop n)
      else none
  | .changePassword userId dto _ =>
    match awaits with
    | find :: compare :: hash :: update :: rest =>
      match s.db.findById userId with
      | none => none
      | some user =>
        if p.compare dto.currentPassword user.passwordHash = true ∧
            Pass 4 (find :: compare :: hash :: update :: rest) then
          some ((s.db.updatePasswordHash userId (p.hash dto.newPassword hash.fresh.salt)
              (((s.later find.micros).later compare.micros).later hash.micros).now.toDate).2,
            rest)
        else none
    | _ => none
  | _ => none

/-- The token of the header has a `jti`, and the cache takes the entry for it. -/
def Revokes (p : Platform) (authorizationHeader : String) (awaits : List Await) : Prop :=
  (∃ jti, headerJti p authorizationHeader = .ok jti) ∧ ∀ w ∈ awaits.head?, w.failure = none

/-- A call that throws leaves the row as it was. -/
def Atomic (userId : Nat) (s : Auth) (response : Except HttpError Response) (t : Auth) : Prop :=
  (∃ error, response = .error error) → t.db.findById userId = s.db.findById userId

theorem pass_zero (awaits : List Await) : Pass 0 awaits := ⟨Nat.zero_le _, List.forall_mem_nil _⟩

theorem pass_cons {n : Nat} {w : Await} {awaits : List Await} :
    Pass (n + 1) (w :: awaits) ↔ w.failure = none ∧ Pass n awaits := by
  rw [Pass, Pass, List.length_cons, Nat.add_le_add_iff_right, List.take_succ_cons,
    List.forall_mem_cons, and_left_comm]

/-! ## The end of both calls -/

variable {p : Platform} {s t u : Auth} {response : Except HttpError Response} {call : Call}
  {awaits : List Await} {w : Await} {header : String}

/-- The entry is on the denylist, and the new token is signed. -/
def renewed (p : Platform) (w : Await) (updated : User) (jti : String) (s : Auth) : Auth :=
  { s.later w.micros with
    cache := p.revoke (s.later w.micros).now.toDate jti profileRevokeSeconds s.cache }.mint
      [p.signToken (s.later w.micros).now.toDate w.fresh.uuid updated] none

/-- The `await` of the denylist decides whether the call throws. -/
theorem goes_revoke {updated : User} {jti : String}
    (hcall : call = .profileRevoke updated jti ∨ call = .changeRevoke updated jti)
    (h : Goes p call awaits s response t) :
    t.db = s.db ∧ ((∃ e, response = .error e) ↔ ¬∀ w ∈ awaits.head?, w.failure = none) := by
  obtain ⟨w, rest, rfl⟩ := h.cons
  rw [List.head?_cons]
  cases hw : w.failure with
  | some message =>
    obtain ⟨-, rfl, rfl⟩ := h.fails hw
    refine ⟨rfl, iff_of_true ⟨_, rfl⟩ fun passes => ?_⟩
    rw [passes w rfl] at hw
    cases hw
  | none =>
    have ends : ∃ (u : Auth) (answer : ProfileResponse), s.passed p w call =
        u.answering (.ok (.profile answer)) ∧ u.calls = s.calls ∧ u.responses = s.responses ∧
        u.db = s.db := by
      rcases hcall with rfl | rfl
      · exact ⟨_, _, finish_waiting _ _ (s.renewed p w updated jti), rfl, rfl, rfl⟩
      · exact ⟨_, _, finish_waiting _ _ (s.renewed p w updated jti), rfl, rfl, rfl⟩
    obtain ⟨u, answer, hend, hcalls, hresponses, hdb⟩ := ends
    obtain ⟨-, rfl, rfl⟩ := h.ends hw hend hcalls hresponses
    refine ⟨hdb, iff_of_false ?_ (not_not.mpr ?_)⟩
    · rintro ⟨e, ⟨⟩⟩
    · rintro _ ⟨⟩
      exact hw

/-- The call has the UPDATE behind it and goes on to revoke the token of the header. -/
theorem goes_proceed {revoke : String → Call} (h : Goes p call (w :: awaits) s response t)
    (hw : w.failure = none)
    (hnext : s.passed p w call =
      (u.waiting call).proceed u.calls.length ((headerJti p header).map revoke))
    (hrevoke : ∀ jti, ∃ updated, revoke jti = .profileRevoke updated jti ∨
      revoke jti = .changeRevoke updated jti)
    (hcalls : u.calls = s.calls) (hresponses : u.responses = s.responses) :
    t.db = u.db ∧ ((∃ e, response = .error e) ↔ ¬Revokes p header awaits) := by
  cases hjti : headerJti p header with
  | error e =>
    rw [hjti] at hnext
    obtain ⟨-, rfl, rfl⟩ := h.ends hw (hnext.trans (fail_waiting call e u)) hcalls hresponses
    refine ⟨rfl, iff_of_true ⟨e, rfl⟩ ?_⟩
    rintro ⟨⟨jti, ok⟩, -⟩
    rw [hjti] at ok
    cases ok
  | ok jti =>
    rw [hjti] at hnext
    have waits := h.waits hw (hnext.trans (wait_waiting call (revoke jti) u)) hcalls hresponses
    obtain ⟨updated, hcall⟩ := hrevoke jti
    obtain ⟨hdb, hiff⟩ := goes_revoke hcall waits
    have revokes : Revokes p header awaits ↔ ∀ w ∈ awaits.head?, w.failure = none :=
      and_iff_right ⟨jti, hjti⟩
    rw [revokes]
    exact ⟨hdb, hiff⟩

/-! ## `changePassword` -/

/-- What becomes of a call that was to leave this in the database, if anything. -/
def Outcome (p : Platform) (header : String) (write : Option (Database × List Await))
    (before : Database) (response : Except HttpError Response) (t : Auth) : Prop :=
  match write with
  | none => (∃ e, response = .error e) → t.db = before
  | some (db, rest) => t.db = db ∧ ((∃ e, response = .error e) ↔ ¬Revokes p header rest)

theorem outcome_of_same {write : Option (Database × List Await)} {before : Database}
    (hdb : t.db = before) (hnone : write = none) : Outcome p header write before response t := by
  rw [hnone]
  exact fun _ => hdb

theorem Outcome.atomic_iff {userId : Nat} {write : Option (Database × List Await)}
    (h : Outcome p header write s.db response t) :
    Atomic userId s response t ↔ ∀ db rest, write = some (db, rest) →
      db.findById userId ≠ s.db.findById userId → Revokes p header rest := by
  cases write with
  | none =>
    refine iff_of_true (fun error => ?_) fun _ _ none => by cases none
    rw [h error]
  | some wrote =>
    obtain ⟨db, rest⟩ := wrote
    obtain ⟨hdb, hiff⟩ := h
    constructor
    · rintro atomic _ _ ⟨⟩ changes
      by_contra fails
      exact changes (hdb ▸ atomic (hiff.mpr fails))
    · intro revokes error
      by_contra changes
      exact hiff.mp error (revokes db rest rfl (hdb ▸ changes))

/-- A row that is there is returned by its UPDATE. -/
theorem modify_found {db : Database} {userId : Nat} {user : User} {f : User → User}
    (hf : ∀ user, (f user).id = user.id) (h : db.findById userId = some user) :
    ∃ updated, (db.modify userId f).1 = some updated := by
  rw [← Option.isSome_iff_exists, Database.modify, Database.findById, List.find?_isSome]
  obtain ⟨hmem, hid⟩ := findById_mem h
  have same : user.id = userId := Int.ofNat_inj.mp hid
  refine ⟨f user, List.mem_map.mpr ⟨user, hmem, if_pos same⟩, ?_⟩
  rw [hf user, same]
  exact decide_eq_true rfl

theorem changeUpdate_outcome {userId : Nat} {user : User} {passwordHash : String} {d : Date}
    (h : Goes p (.changeUpdate userId passwordHash d header) (w :: awaits) s response t)
    (hw : w.failure = none) (huser : s.db.findById userId = some user) :
    Outcome p header (some ((s.db.updatePasswordHash userId passwordHash d).2, awaits)) s.db
      response t := by
  obtain ⟨updated, hupdated⟩ : ∃ updated, (s.db.updatePasswordHash userId passwordHash d).1 =
    some updated := modify_found (fun _ => rfl) huser
  let call := Call.changeUpdate userId passwordHash d header
  let db := (s.db.updatePasswordHash userId passwordHash d).2
  have pair : ((s.later w.micros).waiting call).db.updatePasswordHash userId passwordHash d =
    (some updated, db) := Prod.ext hupdated rfl
  let u : Auth := record userId d { s.later w.micros with db }
  have hnext : s.passed p w call = (u.waiting call).proceed u.calls.length
      ((headerJti p header).map (.changeRevoke updated)) := by
    rw [passed, resume, pair]
    rfl
  exact goes_proceed h hw hnext (fun jti => ⟨updated, .inr rfl⟩) rfl rfl

theorem passed_changeFind {userId : Nat} {dto : ChangePasswordDto} :
    s.passed p w (.changeFind userId dto header) =
      match s.db.findById userId with
      | none => (s.later w.micros).answering (.error userNotFound)
      | some user => (s.later w.micros).waiting (.changeCompare user dto header) := by
  have found : ((s.later w.micros).waiting (.changeFind userId dto header)).db = s.db := rfl
  rw [passed, resume, found]
  cases s.db.findById userId with
  | none => exact fail_waiting _ _ (s.later w.micros)
  | some user => exact wait_waiting _ _ (s.later w.micros)

theorem passed_changeCompare {user : User} {dto : ChangePasswordDto} :
    s.passed p w (.changeCompare user dto header) =
      if p.compare dto.currentPassword user.passwordHash then
        (s.later w.micros).waiting (.changeHash user.id dto.newPassword header)
      else (s.later w.micros).answering
        (.error (.unauthorized "current password is incorrect")) := by
  rw [passed, resume]
  split
  · exact wait_waiting _ _ (s.later w.micros)
  · exact fail_waiting _ _ (s.later w.micros)

theorem passed_changeHash {userId : Nat} {newPassword : String} :
    s.passed p w (.changeHash userId newPassword header) =
      (s.later w.micros).waiting (.changeUpdate userId (p.hash newPassword w.fresh.salt)
        (s.later w.micros).now.toDate header) :=
  wait_waiting _ _ (s.later w.micros)

theorem changePassword_outcome {userId : Nat} {dto : ChangePasswordDto}
    (h : Answers p (.changePassword userId dto header) awaits s response t) :
    Outcome p header (written p awaits s (.changePassword userId dto header)) s.db response
      t := by
  have finding : Goes p (.changeFind userId dto header) awaits s response t := h.goes rfl
  rcases finding.rejects_or_passes with ⟨find, -, rfl, -, rfl, -⟩ | ⟨find, rest, rfl, hfind⟩
  · exact outcome_of_same rfl rfl
  have found : s.passed p find (.changeFind userId dto header) = _ := passed_changeFind
  cases huser : s.db.findById userId with
  | none =>
    rw [huser] at found
    obtain ⟨rfl, rfl, -⟩ := finding.ends hfind found rfl rfl
    exact outcome_of_same rfl rfl
  | some user =>
  rw [huser] at found
  obtain rfl : user.id = userId := Int.ofNat_inj.mp (findById_mem huser).2
  have comparing := finding.waits hfind found rfl rfl
  rcases comparing.rejects_or_passes with ⟨compare, -, rfl, -, rfl, -⟩ | ⟨compare, rest, rfl, hcompare⟩
  · exact outcome_of_same rfl rfl
  have compared : (s.later find.micros).passed p compare (.changeCompare user dto header) = _ :=
    passed_changeCompare
  by_cases correct : p.compare dto.currentPassword user.passwordHash = true
  case neg =>
    obtain ⟨rfl, rfl, -⟩ := comparing.ends hcompare (compared.trans (if_neg correct)) rfl rfl
    exact outcome_of_same rfl rfl
  have hashing := comparing.waits hcompare (compared.trans (if_pos correct)) rfl rfl
  rcases hashing.rejects_or_passes with ⟨hash, -, rfl, -, rfl, -⟩ | ⟨hash, rest, rfl, hhash⟩
  · exact outcome_of_same rfl rfl
  have updating := hashing.waits hhash passed_changeHash rfl rfl
  have write : ∀ update rest, written p (find :: compare :: hash :: update :: rest) s
      (.changePassword user.id dto header) = if Pass 4 (find :: compare :: hash :: update :: rest)
        then some ((s.db.updatePasswordHash user.id (p.hash dto.newPassword hash.fresh.salt)
          (((s.later find.micros).later compare.micros).later hash.micros).now.toDate).2, rest)
        else none := by
    intro update rest
    rw [written, huser]
    exact if_congr (and_iff_right correct) rfl rfl
  rcases updating.rejects_or_passes with ⟨update, message, rfl, hupdate, rfl, -⟩ |
    ⟨update, rest, rfl, hupdate⟩
  · refine outcome_of_same rfl ((write _ _).trans (if_neg ?_))
    rw [pass_cons, pass_cons, pass_cons, pass_cons, hupdate]
    rintro ⟨-, -, -, ⟨⟩, -⟩
  · have all : Pass 4 (find :: compare :: hash :: update :: rest) := by
      rw [pass_cons, pass_cons, pass_cons, pass_cons]
      exact ⟨hfind, hcompare, hhash, hupdate, pass_zero _⟩
    rw [write, if_pos all]
    have outcome := changeUpdate_outcome updating hupdate huser
    exact outcome

/-! ## `updateProfile` -/

theorem passed_profileFind {userId : Nat} {dto : UpdateProfileDto} :
    s.passed p w (.profileFind userId dto header) =
      match s.db.findById userId with
      | none => (s.later w.micros).answering (.error userNotFound)
      | some user => (s.later w.micros).waiting
          (if changed dto.email user.email then .profileEmail user dto header
          else afterEmail user dto header) := by
  have found : ((s.later w.micros).waiting (.profileFind userId dto header)).db = s.db := rfl
  rw [passed, resume, found]
  cases s.db.findById userId with
  | none => exact fail_waiting _ _ (s.later w.micros)
  | some user => exact wait_waiting _ _ (s.later w.micros)

theorem passed_profileEmail {user : User} {dto : UpdateProfileDto} :
    s.passed p w (.profileEmail user dto header) =
      if (dto.email.bind fun email => s.db.findByEmail email).isSome then
        (s.later w.micros).answering (.error (.conflict "email is already in use"))
      else (s.later w.micros).waiting (afterEmail user dto header) := by
  rw [passed, resume]
  exact if_congr Iff.rfl (fail_waiting _ _ (s.later w.micros)) (wait_waiting _ _ (s.later w.micros))

theorem passed_profileUsername {user : User} {dto : UpdateProfileDto} :
    s.passed p w (.profileUsername user dto header) =
      if (dto.username.bind fun username => s.db.findByUsername username).isSome then
        (s.later w.micros).answering (.error (.conflict "username is already taken"))
      else (s.later w.micros).waiting (.profileUpdate user dto header) := by
  rw [passed, resume]
  exact if_congr Iff.rfl (fail_waiting _ _ (s.later w.micros)) (wait_waiting _ _ (s.later w.micros))

/-- An `await` at which nothing is written, and a condition for what comes after it. -/
theorem outcome_of_read {A : Prop} [Decidable A] {n : Nat} {db : Database}
    (h : Goes p call awaits s response t)
    (hpass : ∀ w rest, awaits = w :: rest → w.failure = none →
      Outcome p header (if A ∧ Pass n rest then some (db, rest.drop n) else none) s.db response t) :
    Outcome p header (if A ∧ Pass (n + 1) awaits then some (db, awaits.drop (n + 1)) else none) s.db
      response t := by
  rcases h.rejects_or_passes with ⟨w, message, rfl, hw, rfl, -⟩ | ⟨w, rest, rfl, hw⟩
  · refine outcome_of_same rfl (if_neg ?_)
    rw [pass_cons, hw]
    rintro ⟨-, ⟨⟩, -⟩
  · have same : A ∧ Pass (n + 1) (w :: rest) ↔ A ∧ Pass n rest := by
      rw [pass_cons, and_iff_right hw]
    rw [if_congr same rfl rfl, List.drop_succ_cons]
    exact hpass w rest rfl hw

theorem profileUpdate_outcome {user : User} {dto : UpdateProfileDto}
    (h : Goes p (.profileUpdate user dto header) awaits s response t)
    (huser : s.db.findById user.id = some user) :
    Outcome p header
      (if (changed dto.email user.email = true ∧
          s.db.taken user.id dto.email dto.username = false) ∧ Pass 1 awaits
        then some (profiled user.id dto s.db, awaits.drop 1) else none) s.db response t := by
  refine outcome_of_read h ?_
  rintro w rest rfl hw
  let call := Call.profileUpdate user dto header
  cases htaken : s.db.taken user.id dto.email dto.username with
  | true =>
    have update : ((s.later w.micros).waiting call).db.updateProfile user.id dto.username dto.email =
        .error (.error "duplicate key value violates unique constraint") := if_pos htaken
    have hend : s.passed p w call = (s.later w.micros).answering
        (.error (.error "duplicate key value violates unique constraint")) := by
      rw [passed, resume, update]
      exact fail_waiting _ _ (s.later w.micros)
    obtain ⟨-, rfl, -⟩ := h.ends hw hend rfl rfl
    refine outcome_of_same rfl (if_neg ?_)
    rintro ⟨⟨-, ⟨⟩⟩, -⟩
  | false =>
    obtain ⟨updated, hupdated⟩ : ∃ updated, (s.db.modify user.id fun user => { user with
        username := dto.username.getD user.username
        email := dto.email.getD user.email }).1 = some updated := modify_found (fun _ => rfl) huser
    let db := profiled user.id dto s.db
    have update : ((s.later w.micros).waiting call).db.updateProfile user.id dto.username dto.email =
        .ok (some updated, db) := by
      rw [Database.updateProfile, if_neg (by rw [Bool.not_eq_true]; exact htaken)]
      exact congrArg Except.ok (Prod.ext hupdated rfl)
    let u : Auth := { s.later w.micros with db }
    by_cases email : changed dto.email user.email = true
    · have hnext : s.passed p w call = (u.waiting call).proceed u.calls.length
          ((headerJti p header).map (.profileRevoke updated)) := by
        rw [passed, resume, update]
        exact if_pos email
      rw [if_pos ⟨⟨email, rfl⟩, pass_zero _⟩, List.drop_zero]
      exact goes_proceed h hw hnext (fun jti => ⟨updated, .inl rfl⟩) rfl rfl
    · have hend : s.passed p w call =
          u.answering (.ok (.profile ⟨toSafeUser updated, none⟩)) := by
        rw [passed, resume, update]
        exact (if_neg email).trans (finish_waiting _ _ u)
      obtain ⟨-, -, rfl⟩ := h.ends hw hend rfl rfl
      rw [if_neg fun holds => email holds.1.1]
      rintro ⟨e, ⟨⟩⟩

theorem afterEmail_outcome {user : User} {dto : UpdateProfileDto}
    (h : Goes p (afterEmail user dto header) awaits s response t)
    (huser : s.db.findById user.id = some user)
    (free : (dto.email.bind fun email => s.db.findByEmail email) = none) :
    Outcome p header
      (if Renames user dto s.db ∧ Pass (profileAwaits user dto) awaits then
        some (profiled user.id dto s.db, awaits.drop (profileAwaits user dto)) else none)
      s.db response t := by
  rw [afterEmail] at h
  rw [profileAwaits]
  split at h
  · next username =>
    rw [if_pos username]
    refine outcome_of_read h ?_
    rintro w rest rfl hw
    have looked : s.passed p w (.profileUsername user dto header) = _ := passed_profileUsername
    split at looked
    · next used =>
      obtain ⟨-, rfl, -⟩ := h.ends hw looked rfl rfl
      refine outcome_of_same rfl (if_neg ?_)
      rintro ⟨⟨-, -, unused, -⟩, -⟩
      rw [unused username] at used
      cases used
    · next unused =>
      have outcome := profileUpdate_outcome (h.waits hw looked rfl rfl) huser
      have same : Renames user dto s.db ↔ changed dto.email user.email = true ∧
          s.db.taken user.id dto.email dto.username = false := by
        rw [Renames, and_iff_right free, and_iff_right fun _ => Option.not_isSome_iff_eq_none.mp unused]
      rw [if_congr (and_congr_left' same) rfl rfl]
      exact outcome
  · next username =>
    rw [if_neg username]
    have same : Renames user dto s.db ↔ changed dto.email user.email = true ∧
        s.db.taken user.id dto.email dto.username = false := by
      rw [Renames, and_iff_right free, and_iff_right fun changes => absurd changes username]
    rw [if_congr (and_congr_left' same) rfl rfl]
    exact profileUpdate_outcome h huser

theorem profileEmail_outcome {user : User} {dto : UpdateProfileDto}
    (h : Goes p (.profileEmail user dto header) awaits s response t)
    (huser : s.db.findById user.id = some user) :
    Outcome p header
      (if Renames user dto s.db ∧ Pass (profileAwaits user dto + 1) awaits then
        some (profiled user.id dto s.db, awaits.drop (profileAwaits user dto + 1)) else none)
      s.db response t := by
  refine outcome_of_read h ?_
  rintro w rest rfl hw
  have looked : s.passed p w (.profileEmail user dto header) = _ := passed_profileEmail
  split at looked
  · next used =>
    obtain ⟨-, rfl, -⟩ := h.ends hw looked rfl rfl
    refine outcome_of_same rfl (if_neg ?_)
    rintro ⟨⟨-, unused, -⟩, -⟩
    rw [unused] at used
    cases used
  · next unused =>
    have outcome := afterEmail_outcome (h.waits hw looked rfl rfl) huser
      (Option.not_isSome_iff_eq_none.mp unused)
    exact outcome

/-- A call that does not change the e-mail address has nothing to do after its UPDATE. -/
theorem afterEmail_same {user : User} {dto : UpdateProfileDto}
    (h : Goes p (afterEmail user dto header) awaits s response t)
    (huser : s.db.findById user.id = some user) (email : ¬changed dto.email user.email = true) :
    Outcome p header none s.db response t := by
  have update : ∀ {awaits : List Await} {s : Auth},
      Goes p (.profileUpdate user dto header) awaits s response t →
      s.db.findById user.id = some user → Outcome p header none s.db response t := by
    intro awaits s h huser
    have outcome := profileUpdate_outcome h huser
    rw [if_neg fun holds => email holds.1.1] at outcome
    exact outcome
  rw [afterEmail] at h
  split at h
  · rcases h.rejects_or_passes with ⟨w, message, rfl, hw, rfl, -⟩ | ⟨w, rest, rfl, hw⟩
    · exact outcome_of_same rfl rfl
    have looked : s.passed p w (.profileUsername user dto header) = _ := passed_profileUsername
    split at looked
    · obtain ⟨-, rfl, -⟩ := h.ends hw looked rfl rfl
      exact outcome_of_same rfl rfl
    · have outcome := update (h.waits hw looked rfl rfl) huser
      exact outcome
  · exact update h huser

theorem updateProfile_outcome {userId : Nat} {dto : UpdateProfileDto}
    (h : Answers p (.updateProfile userId dto header) awaits s response t) :
    Outcome p header (written p awaits s (.updateProfile userId dto header)) s.db response t := by
  have finding : Goes p (.profileFind userId dto header) awaits s response t := h.goes rfl
  have found : ∀ w, s.passed p w (.profileFind userId dto header) = _ := fun w => passed_profileFind
  rw [written]
  cases huser : s.db.findById userId with
  | none =>
    rcases finding.rejects_or_passes with ⟨find, -, rfl, -, rfl, -⟩ | ⟨find, rest, rfl, hfind⟩
    · exact outcome_of_same rfl rfl
    rw [huser] at found
    obtain ⟨-, rfl, -⟩ := finding.ends hfind (found find) rfl rfl
    exact outcome_of_same rfl rfl
  | some user =>
  rw [huser] at found
  obtain rfl : user.id = userId := Int.ofNat_inj.mp (findById_mem huser).2
  refine outcome_of_read finding ?_
  rintro find rest rfl hfind
  have going := finding.waits hfind (found find) rfl rfl
  split at going
  · have outcome := profileEmail_outcome going huser
    exact outcome
  · next email =>
    rw [if_neg fun holds => email holds.1.1]
    have outcome := afterEmail_same going huser email
    exact outcome

/-! ## Both -/

/-- A call that throws has left the row as it was, exactly when it did not change the row,
or could revoke the token of its header. -/
theorem account_atomic_iff {request : Request} {userId : Nat}
    (hrequest : request.account = some (userId, header))
    (h : Answers p request awaits s response t) :
    Atomic userId s response t ↔ ∀ db rest, written p awaits s request = some (db, rest) →
      db.findById userId ≠ s.db.findById userId → Revokes p header rest := by
  cases request with
  | updateProfile id dto header' =>
    cases hrequest
    exact (updateProfile_outcome h).atomic_iff
  | changePassword id dto header' =>
    cases hrequest
    exact (changePassword_outcome h).atomic_iff
  | _ => cases hrequest

/-! ## A token without a `jti` -/

/-- "a0" stands for an access token of user 1 with this `jti`, or without one. -/
def bearing (jti : Option String) : Platform where
  parse text := if text = "a0" then
    some ⟨⟨some 1, some "u@x", some "u", some 1, none, jti, some 900⟩, some "access"⟩ else none
  sha256 := id
  toLowerCase := id
  hash password _ := password
  compare password hash := password = hash
  accessJwt := ⟨"access", 900⟩
  refreshJwt := ⟨"refresh", 604800⟩

def oneAccount : Auth where
  now := ⟨2000⟩
  db := ⟨[⟨1, "u", "u@x", "p", ⟨1000⟩, none, false⟩], 2, [], 1⟩
  cache := TtlCache.empty
  calls := []
  responses := []
  minted := []
  recorded := []
  admitted := []

def wrongPassword : Except HttpError Response :=
  .error (.unauthorized "current password is incorrect")

/-- A call that ends before its UPDATE, and one that stores the password and revokes its
token. -/
theorem account_atomic_revoked :
    Atomic 1 oneAccount wrongPassword (oneAccount.answering wrongPassword) ∧
      ∃ response t, Answers (bearing (some "j")) (.changePassword 1 ⟨"p", "q"⟩ "Bearer a0")
          [.atOnce, .atOnce, .atOnce, .atOnce, .atOnce] oneAccount response t ∧
        t.db.findById 1 ≠ oneAccount.db.findById 1 ∧ Atomic 1 oneAccount response t := by
  constructor
  · have answers : Answers (bearing none) (.changePassword 1 ⟨"x", "q"⟩ "Bearer a0")
        [.atOnce, .atOnce] oneAccount wrongPassword (oneAccount.answering wrongPassword) := ⟨rfl, rfl⟩
    exact (account_atomic_iff rfl answers).mpr fun db rest write => by cases write
  · have answers : Answers (bearing (some "j")) (.changePassword 1 ⟨"p", "q"⟩ "Bearer a0")
        [.atOnce, .atOnce, .atOnce, .atOnce, .atOnce] oneAccount _ _ := ⟨rfl, rfl⟩
    refine ⟨_, _, answers, by decide, (account_atomic_iff rfl answers).mpr ?_⟩
    intro db rest write _
    cases write
    refine ⟨⟨"j", rfl⟩, fun w hw => ?_⟩
    cases hw
    rfl

/-- The password is stored, and the call has thrown. -/
def notRevoked : Auth :=
  { oneAccount with
    db := ⟨[⟨1, "u", "u@x", "q", ⟨1000⟩, some ⟨2000⟩, false⟩], 2, [], 1⟩
    responses := [.error (.unauthorized "token has no jti claim and cannot be revoked")]
    recorded := [(1, ⟨2⟩)] }

/-- The password is changed by a call that throws. -/
theorem account_atomic_legacy :
    ¬∀ (p : Platform) (request : Request) (userId : Nat) (header : String) (isAdmin : Bool)
      (awaits : List Await) (s t : Auth) (response : Except HttpError Response),
      request.account = some (userId, header) →
      p.authenticate s.now.toDate (some header) s.cache s.db = .ok ⟨userId, isAdmin⟩ →
      Answers p request awaits s response t → Atomic userId s response t := by
  intro always
  have atomic := always (bearing none) (.changePassword 1 ⟨"p", "q"⟩ "Bearer a0") 1 "Bearer a0" false
    [.atOnce, .atOnce, .atOnce, .atOnce] oneAccount notRevoked _ rfl rfl ⟨rfl, rfl⟩
  exact absurd (atomic ⟨_, rfl⟩) (by decide)

end Auth
end Api
end XStreamRoll
