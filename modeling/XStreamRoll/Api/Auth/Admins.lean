/-
Who gets past the guard of the admin endpoints.

`AdminGuard` runs `AuthGuard`, which puts the roles on the request, and then `RolesGuard`,
which compares them with those that the endpoint declares.  The one role there is comes from
the claim `isAdmin` of the access token, which `AuthService` has copied from the row when it
signed the token.

No statement of the account services writes `is_admin`, except the INSERT, which leaves it
at `false`.  A row is therefore an admin's only if it was one from the beginning, and the
same holds of the rows that calls carry from one `await` to the next, of the tokens signed
for them, and of the answers that the extractor gives to such tokens.  The one thing this
takes is that nobody else can sign under the secret of the access tokens.
-/
import XStreamRoll.Api.Auth.Identity
import XStreamRoll.Api.Auth.Revocation

namespace XStreamRoll
namespace Api

open Transition

/-! ## The guards -/

inductive GuardException where
  | unauthorized (message : String)
  | forbidden (message : String)
  | other (error : HttpError)
deriving DecidableEq, Repr

/-- What `AuthGuard` leaves on the request as `req.user`. -/
structure RequestUser where
  sub : Int
  roles : List String
deriving DecidableEq, Repr

/-- `AuthGuard`: what `authenticate` throws goes through, and the roles are those of the token. -/
def AuthGuard.canActivate : Except HttpError Authenticated → Except GuardException RequestUser
  | .error (.unauthorized message) => .error (.unauthorized message)
  | .error e => .error (.other e)
  | .ok who => .ok ⟨who.userId, if who.isAdmin then ["admin"] else []⟩

/-- `RolesGuard`, with what `@Roles` has declared and what is on the request. -/
def RolesGuard.canActivate (required : Option (List String)) (user : Option RequestUser) :
    Except GuardException Unit :=
  match required with
  | none | some [] => .ok ()
  | some required =>
    match user with
    | none => .error (.unauthorized "authentication required")
    | some user =>
      if required.any fun role => user.roles.contains role then .ok ()
      else .error (.forbidden ("requires one of role(s): " ++ ", ".intercalate required))

/-- `AdminGuard`, on the answer of `authenticate`: whom it lets through. -/
def AdminGuard.canActivate (required : Option (List String))
    (answer : Except HttpError Authenticated) : Except GuardException RequestUser :=
  match AuthGuard.canActivate answer with
  | .error e => .error e
  | .ok user =>
    match RolesGuard.canActivate required (some user) with
    | .error e => .error e
    | .ok () => .ok user

/-- `@Roles("admin")` on `AdminController` and `AdminAuditController`. -/
def adminRoles : Option (List String) := some ["admin"]

theorem AdminGuard.canActivate_admin_iff {answer : Except HttpError Authenticated}
    {user : RequestUser} : AdminGuard.canActivate adminRoles answer = .ok user ↔
      answer = .ok ⟨user.sub, true⟩ ∧ user.roles = ["admin"] := by
  obtain ⟨sub, roles⟩ := user
  rcases answer with e | ⟨userId, isAdmin⟩
  · cases e <;> simp [AdminGuard.canActivate, AuthGuard.canActivate]
  · cases isAdmin
    · simp [AdminGuard.canActivate, AuthGuard.canActivate, RolesGuard.canActivate, adminRoles]
    · simp [AdminGuard.canActivate, AuthGuard.canActivate, RolesGuard.canActivate, adminRoles,
        eq_comm]

/-! ## What a step can do to the rows, the calls, the tokens and the answers -/

/-- The access token that the call has been given. -/
def Call.presented : Call → Option Jwt
  | .authDenylist token | .authFind token _ => some token
  | _ => none

namespace Database

/-- A row that a statement leaves is a row that was there, or it is nobody's of the admins. -/
theorem Writes.isAdmin {db db' : Database} (h : db.Writes db') {user : User}
    (huser : user ∈ db'.users) :
    user.isAdmin = false ∨ ∃ old ∈ db.users, old.id = user.id ∧ old.isAdmin = user.isAdmin := by
  have modified : ∀ {base : Database} {id : Nat} {f : User → User},
      user ∈ (base.modify id f).2.users → base.users = db.users →
      (∀ row, (f row).id = row.id ∧ (f row).isAdmin = row.isAdmin) →
      user.isAdmin = false ∨ ∃ old ∈ db.users, old.id = user.id ∧ old.isAdmin = user.isAdmin := by
    intro base id f hmem same keeps
    obtain ⟨old, hold, ⟨-, rfl⟩ | ⟨-, rfl⟩⟩ := Auth.mem_modify rfl hmem
    · exact .inr ⟨old, same ▸ hold, (keeps old).1.symm, (keeps old).2.symm⟩
    · exact .inr ⟨user, same ▸ hold, rfl, rfl⟩
  cases h with
  | nothing => exact .inr ⟨user, huser, rfl, rfl⟩
  | create NOW username email passwordHash =>
    unfold Database.create at huser
    dsimp only at huser
    split at huser
    · exact .inr ⟨user, huser, rfl, rfl⟩
    · rcases List.mem_append.mp huser with hold | hnew
      · exact .inr ⟨user, hold, rfl, rfl⟩
      · rw [List.mem_singleton.mp hnew]
        exact .inl rfl
  | profile hupdate =>
    unfold Database.updateProfile at hupdate
    split at hupdate
    · cases hupdate
    · rw [← Except.ok.inj hupdate] at huser
      exact modified huser rfl fun _ => ⟨rfl, rfl⟩
  | password id passwordHash passwordChangedAt => exact modified huser rfl fun _ => ⟨rfl, rfl⟩
  | token => exact .inr ⟨user, huser, rfl, rfl⟩
  | reset rowId id passwordHash passwordChangedAt =>
    exact modified huser rfl fun _ => ⟨rfl, rfl⟩

end Database

namespace Auth

variable {p : Platform} {s t : Auth}

/-- The call that a step leaves has read a row of the table or carries on one of its
predecessor, and the token that it was given stays. -/
structure Succeeds (db : Database) (call next : Call) : Prop where
  rows : ∀ user ∈ next.rows, user ∈ call.rows ∨ user ∈ db.users
  presented : ∀ token ∈ next.presented, token ∈ call.presented

/-- A token that is signed in a step is for a row that the call has read. -/
def SignedFor (call : Call) (e : Minted) : Prop :=
  ∃ user ∈ call.rows, e.token.claims.sub = some (user.id : Int) ∧
    (e.token.claims.isAdmin = some true → user.isAdmin = true)

/-- An answer says of somebody that they are authenticated only if the call was given their
token. -/
def AnswersFor (call : Call) (answer : Except HttpError Response) : Prop :=
  ∀ who, answer = .ok (.authenticated who) → ∃ token ∈ call.presented,
    who = ⟨token.claims.sub.getD 0, token.claims.isAdmin = some true⟩

/-- All that a turn of the call leaves behind. -/
structure Effect (s : Auth) (call : Call) (t : Auth) : Prop where
  calls : ∀ next ∈ t.calls, next ∈ s.calls ∨ Succeeds t.db call next
  minted : ∀ e ∈ t.minted, e ∈ s.minted ∨ SignedFor call e
  responses : ∀ answer ∈ t.responses, answer ∈ s.responses ∨ AnswersFor call answer

namespace Effect

variable {call : Call} {i : Nat}

theorem refl (s : Auth) (call : Call) : s.Effect call s :=
  ⟨fun _ => .inl, fun _ => .inl, fun _ => .inl⟩

/-- The database, the cache and the log of the dates may change before the step ends. -/
theorem of_same {s' : Auth} (hcalls : s'.calls = s.calls) (hminted : s'.minted = s.minted)
    (hresponses : s'.responses = s.responses) : s.Effect call s' :=
  ⟨fun _ h => .inl (hcalls ▸ h), fun _ h => .inl (hminted ▸ h), fun _ h => .inl (hresponses ▸ h)⟩

theorem wait {s' : Auth} {next : Call} (h : s.Effect call s') (hnext : Succeeds s'.db call next) :
    s.Effect call (s'.wait i next) where
  calls := forall_mem_set h.calls (.inr hnext)
  minted := h.minted
  responses := h.responses

theorem finish {s' : Auth} {answer : Except HttpError Response} (h : s.Effect call s')
    (hanswer : AnswersFor call answer) : s.Effect call (s'.finish i answer) where
  calls := fun next hmem => h.calls next (List.mem_of_mem_eraseIdx hmem)
  minted := h.minted
  responses := by
    intro other hmem
    rcases List.mem_append.mp hmem with hold | hnew
    · exact h.responses other hold
    · rw [List.mem_singleton.mp hnew]
      exact .inr hanswer

theorem done {s' : Auth} {response : Response} (h : s.Effect call s')
    (hother : ∀ who, response ≠ .authenticated who) :
    s.Effect call (s'.finish i (.ok response)) := by
  apply h.finish
  intro who heq
  exact absurd (Except.ok.inj heq) (hother who)

theorem fail {s' : Auth} {error : HttpError} (h : s.Effect call s') :
    s.Effect call (s'.fail i error) := by
  apply h.finish
  intro who heq
  cases heq

theorem proceed {s' : Auth} {next : Except HttpError Call} (h : s.Effect call s')
    (hnext : ∀ c, next = .ok c → Succeeds s'.db call c) : s.Effect call (s'.proceed i next) := by
  cases next with
  | error e => exact h.fail
  | ok c => exact h.wait (hnext c rfl)

theorem accept {token : Jwt} (h : token ∈ call.presented) : s.Effect call (s.accept i token) := by
  apply Effect.finish
  · exact of_same rfl rfl rfl
  · intro who heq
    cases heq
    exact ⟨token, h, rfl⟩

theorem mint {s' : Auth} {tokens : List Jwt} {source : Option Jwt} (h : s.Effect call s')
    (hsigned : ∀ token ∈ tokens, SignedFor call ⟨token, s'.now.toDate, source⟩) :
    s.Effect call (s'.mint tokens source) where
  calls := h.calls
  minted := by
    intro e he
    rcases List.mem_append.mp he with hold | hnew
    · exact h.minted e hold
    · obtain ⟨token, htoken, rfl⟩ := List.mem_map.mp hnew
      exact .inr (hsigned token htoken)
  responses := h.responses

theorem issue {fresh : Fresh} {user : User} {source : Option Jwt} (hrow : user ∈ call.rows) :
    s.Effect call (s.issue p fresh i user source) := by
  apply Effect.done
  · apply (Effect.refl s call).mint
    intro token htoken
    simp only [List.mem_cons, List.not_mem_nil, or_false] at htoken
    rcases htoken with rfl | rfl
    · exact ⟨user, hrow, rfl, Option.some.inj⟩
    · exact ⟨user, hrow, rfl, fun unclaimed => by cases unclaimed⟩
  · intro who heq
    cases heq

theorem issueProfile {fresh : Fresh} {user : User} {cache : Cache} (hrow : user ∈ call.rows) :
    s.Effect call (Auth.issueProfile p fresh i user { s with cache }) := by
  apply Effect.done
  · apply (of_same rfl rfl rfl : s.Effect call { s with cache }).mint
    intro token htoken
    rw [List.mem_singleton.mp htoken]
    exact ⟨user, hrow, rfl, fun unclaimed => by cases unclaimed⟩
  · intro who heq
    cases heq

end Effect

namespace Succeeds

variable {db : Database} {call next : Call}

theorem of_blank (hrows : next.rows = []) (hpresented : next.presented = none) :
    Succeeds db call next := by
  constructor
  · intro user huser
    rw [hrows] at huser
    cases huser
  · intro token htoken
    rw [hpresented] at htoken
    cases htoken

theorem of_row {user : User} (hrows : next.rows = [user]) (hpresented : next.presented = none)
    (hrow : user ∈ call.rows ∨ user ∈ db.users) : Succeeds db call next := by
  constructor
  · intro user' huser'
    rw [hrows, List.mem_singleton] at huser'
    exact huser' ▸ hrow
  · intro token htoken
    rw [hpresented] at htoken
    cases htoken

end Succeeds

theorem afterEmail_succeeds {db : Database} {call : Call} {user : User} {dto : UpdateProfileDto}
    {header : String} (hrow : user ∈ call.rows ∨ user ∈ db.users) :
    Succeeds db call (afterEmail user dto header) := by
  unfold afterEmail
  split
  · exact .of_row rfl rfl hrow
  · exact .of_row rfl rfl hrow

theorem create_returned {db db' : Database} {NOW : Timestamptz}
    {username email passwordHash : String} {user : User}
    (h : db.create NOW username email passwordHash = (some user, db')) : user ∈ db'.users := by
  rcases create_users h with ⟨hnone, -⟩ | ⟨created, hsome, husers, -⟩
  · cases hnone
  · rw [husers, Option.some.inj hsome]
    exact List.mem_append_right _ (List.mem_singleton_self _)

theorem updateProfile_returned {db : Database} {id : Nat} {username email : Option String}
    {user : User} {db' : Database} (h : db.updateProfile id username email = .ok (some user, db')) :
    user ∈ db'.users := by
  unfold Database.updateProfile at h
  split at h
  · cases h
  · exact modify_returned (Except.ok.inj h)

theorem resume_effect (fresh : Fresh) (i : Nat) (call : Call) (s : Auth) :
    s.Effect call (s.resume p fresh i call) := by
  have unchanged : s.Effect call s := .refl s call
  have found : ∀ {id : Int} {user : User}, s.db.findById id = some user → user ∈ s.db.users :=
    fun hfind => (findById_mem hfind).1
  unfold Auth.resume
  cases call with
  | registerEmail | registerUsername | resetSelect | resetFind | resetCount | changeFind
  | refreshDenylist | refreshFind | loginEmail =>
    dsimp only
    split
    · exact unchanged.fail
    · first
        | exact unchanged.wait (.of_blank rfl rfl)
        | next user hfind => exact unchanged.wait (.of_row rfl rfl (.inr (found hfind)))
        | next user hfind =>
          exact unchanged.wait (.of_row rfl rfl (.inr (List.mem_of_find?_eq_some hfind)))
  | registerHash | forgotLimit | resetLimit | resetHash | changeHash | forgotInsert =>
    apply Effect.wait
    · exact .of_same rfl rfl rfl
    · exact .of_blank rfl rfl
  | registerCreate dto passwordHash =>
    dsimp only
    split
    · apply Effect.fail
      exact .of_same rfl rfl rfl
    · next user db hcreate =>
      apply Effect.wait
      · exact .of_same rfl rfl rfl
      · exact .of_row rfl rfl (.inr (create_returned hcreate))
  | registerLog user | loginLog user => exact .issue List.mem_cons_self
  | refreshFound token user => exact .issue List.mem_cons_self
  | loginCompare dto user =>
    dsimp only
    split
    · exact unchanged.wait (.of_row rfl rfl (.inl List.mem_cons_self))
    · exact unchanged.fail
  | logoutAccess header refreshToken =>
    dsimp only
    split
    · exact unchanged.fail
    · apply Effect.wait
      · exact .of_same rfl rfl rfl
      · exact .of_blank rfl rfl
  | logoutRefresh refreshToken =>
    dsimp only
    split
    · exact unchanged.fail
    · apply Effect.done
      · exact .of_same rfl rfl rfl
      · exact fun who heq => by cases heq
  | forgotCount | forgotFind =>
    dsimp only
    split
    · exact unchanged.done fun who heq => by cases heq
    · exact unchanged.wait (.of_blank rfl rfl)
  | forgotMail email token => exact unchanged.done fun who heq => by cases heq
  | resetCommit row passwordHash passwordChangedAt =>
    apply Effect.done
    · exact .of_same rfl rfl rfl
    · exact fun who heq => by cases heq
  | profileFind userId dto header =>
    dsimp only
    split
    · exact unchanged.fail
    · next user hfind =>
      apply unchanged.wait
      split
      · exact .of_row rfl rfl (.inr (found hfind))
      · exact afterEmail_succeeds (.inr (found hfind))
  | profileEmail user dto header =>
    dsimp only
    split
    · exact unchanged.fail
    · exact unchanged.wait (afterEmail_succeeds (.inl List.mem_cons_self))
  | profileUsername user dto header =>
    dsimp only
    split
    · exact unchanged.fail
    · exact unchanged.wait (.of_row rfl rfl (.inl List.mem_cons_self))
  | profileUpdate user dto header =>
    dsimp only
    split
    · exact unchanged.fail
    · apply Effect.fail
      exact .of_same rfl rfl rfl
    · next updated db hupdate =>
      split
      · apply Effect.proceed
        · exact .of_same rfl rfl rfl
        · intro next hnext
          obtain ⟨jti, -, rfl⟩ := map_eq_ok.mp hnext
          exact .of_row rfl rfl (.inr (updateProfile_returned hupdate))
      · apply Effect.done
        · exact .of_same rfl rfl rfl
        · exact fun who heq => by cases heq
  | profileRevoke updated jti | changeRevoke updated jti => exact .issueProfile List.mem_cons_self
  | changeCompare user dto header =>
    dsimp only
    split
    · exact unchanged.wait (.of_blank rfl rfl)
    · exact unchanged.fail
  | changeUpdate userId passwordHash passwordChangedAt header =>
    dsimp only
    split
    · apply Effect.fail
      exact .of_same rfl rfl rfl
    · next updated db hupdate =>
      apply Effect.proceed
      · exact .of_same rfl rfl rfl
      · intro next hnext
        obtain ⟨jti, -, rfl⟩ := map_eq_ok.mp hnext
        exact .of_row rfl rfl (.inr (modify_returned hupdate))
  | authDenylist token =>
    dsimp only
    split
    · exact unchanged.fail
    · split
      · exact unchanged.fail
      · split
        · exact unchanged.wait ⟨fun _ h => absurd h List.not_mem_nil, fun _ h => h⟩
        · exact .accept rfl
  | authFind token userId =>
    dsimp only
    split
    · exact unchanged.fail
    · exact .accept rfl

/-! ## Admins are those of the beginning -/

/-- Wherever a row, a token or an answer speaks of an admin, it is one of these. -/
structure Confined (admins : Int → Prop) (s : Auth) : Prop where
  users : ∀ user ∈ s.db.users, user.isAdmin = true → admins user.id
  rows : ∀ call ∈ s.calls, ∀ user ∈ call.rows, user.isAdmin = true → admins user.id
  presented : ∀ call ∈ s.calls, ∀ token ∈ call.presented,
    token.claims.isAdmin = some true → admins (token.claims.sub.getD 0)
  minted : ∀ e ∈ s.minted, e.token.claims.isAdmin = some true →
    admins (e.token.claims.sub.getD 0)
  responses : ∀ who, .ok (.authenticated who) ∈ s.responses → who.isAdmin = true →
    admins who.userId

/-- A token that verifies under the secret of the access tokens is one that was signed there. -/
def Unforged (p : Platform) (s : Auth) : Action → Prop
  | .call (.authenticate header) => ∀ token, p.bearerToken s.now.toDate header = .ok token →
      token ∈ s.minted.map Minted.token
  | _ => True

instance (p : Platform) (s : Auth) (a : Action) : Decidable (s.Unforged p a) := by
  unfold Unforged
  split
  · next header =>
    exact match p.bearerToken s.now.toDate header with
    | .error e => isTrue fun token h => by cases h
    | .ok token => decidable_of_iff (token ∈ s.minted.map Minted.token)
        ⟨fun h _ heq => Except.ok.inj heq ▸ h, fun h => h token rfl⟩
  · infer_instance

variable {admins : Int → Prop}

theorem Confined.resume {fresh : Fresh} {i : Nat} {call : Call} (h : s.Confined admins)
    (hcall : call ∈ s.calls) : (s.resume p fresh i call).Confined admins := by
  have effect := resume_effect (p := p) fresh i call s
  have husers : ∀ user ∈ (s.resume p fresh i call).db.users, user.isAdmin = true →
      admins user.id := by
    intro user huser hadmin
    rcases (resume_writes fresh i call s).isAdmin huser with hplain | ⟨old, hold, hid, hsame⟩
    · rw [hplain] at hadmin
      cases hadmin
    · rw [← hid]
      exact h.users old hold (hsame.trans hadmin)
  constructor
  · exact husers
  · intro next hnext user huser hadmin
    rcases effect.calls next hnext with hold | succeeds
    · exact h.rows next hold user huser hadmin
    · rcases succeeds.rows user huser with hread | hrow
      · exact h.rows call hcall user hread hadmin
      · exact husers user hrow hadmin
  · intro next hnext token htoken hadmin
    rcases effect.calls next hnext with hold | succeeds
    · exact h.presented next hold token htoken hadmin
    · exact h.presented call hcall token (succeeds.presented token htoken) hadmin
  · intro e he hadmin
    rcases effect.minted e he with hold | ⟨user, hread, hsub, hrole⟩
    · exact h.minted e hold hadmin
    · rw [hsub]
      exact h.rows call hcall user hread (hrole hadmin)
  · intro who hwho hadmin
    rcases effect.responses _ hwho with hold | answers
    · exact h.responses who hold hadmin
    · obtain ⟨token, htoken, rfl⟩ := answers who rfl
      exact h.presented call hcall token htoken (of_decide_eq_true hadmin)

/-- A request starts without rows, and its token is the one in the header. -/
theorem start_reads_nothing {now : Date} {request : Request} {call : Call}
    (h : start p now request = .ok call) :
    call.rows = [] ∧ ∀ token ∈ call.presented, ∃ header, request = .authenticate header ∧
      p.bearerToken now header = .ok token := by
  cases request with
  | refresh refreshToken =>
    obtain ⟨⟨token, userId⟩, -, hcall⟩ := bind_eq_ok.mp h
    cases hcall
    exact ⟨rfl, fun _ h => by cases h⟩
  | authenticate header =>
    obtain ⟨token, hbearer, hcall⟩ := bind_eq_ok.mp h
    cases hcall
    refine ⟨rfl, ?_⟩
    intro presented hpresented
    cases hpresented
    exact ⟨header, rfl, hbearer⟩
  | register | login | logout | forgotPassword | resetPassword | updateProfile | changePassword =>
    cases h
    exact ⟨rfl, fun _ h => by cases h⟩

theorem Confined.step {a : Action} (h : s.Confined admins) (unforged : s.Unforged p a)
    (hs : step p s a = some t) : t.Confined admins := by
  -- An error or an end of a call says nothing of anybody.
  have rejected : ∀ (calls : List Call) (e : HttpError), (∀ call ∈ calls, call ∈ s.calls) →
      Confined admins { s with calls := calls, responses := s.responses ++ [.error e] } := by
    intro calls e fewer
    refine ⟨h.users, fun call hcall => h.rows call (fewer call hcall),
      fun call hcall => h.presented call (fewer call hcall), h.minted, ?_⟩
    intro who hwho
    rcases List.mem_append.mp hwho with hold | hnew
    · exact h.responses who hold
    · cases List.mem_singleton.mp hnew
  cases a with
  | advance micros =>
    cases hs
    exact ⟨h.users, h.rows, h.presented, h.minted, h.responses⟩
  | call request =>
    rw [Auth.step] at hs
    split at hs
    · cases hs
      exact rejected s.calls _ fun _ hmem => hmem
    · next call hstart =>
      cases hs
      obtain ⟨hrows, hpresented⟩ := start_reads_nothing hstart
      refine ⟨h.users, ?_, ?_, h.minted, h.responses⟩
      · intro other hother user huser
        rcases List.mem_append.mp hother with hold | hnew
        · exact h.rows other hold user huser
        · rw [List.mem_singleton.mp hnew, hrows] at huser
          cases huser
      · intro other hother token htoken hadmin
        rcases List.mem_append.mp hother with hold | hnew
        · exact h.presented other hold token htoken hadmin
        · rw [List.mem_singleton.mp hnew] at htoken
          obtain ⟨header, rfl, hbearer⟩ := hpresented token htoken
          obtain ⟨e, he, rfl⟩ := List.mem_map.mp (unforged token hbearer)
          exact h.minted e he hadmin
  | resume i fresh =>
    obtain ⟨call, hcall, rfl⟩ := Option.map_eq_some_iff.mp hs
    exact h.resume (List.mem_of_getElem? hcall)
  | reject i message =>
    rw [Auth.step] at hs
    split at hs
    · cases hs
      exact rejected _ _ fun call hmem => List.mem_of_mem_eraseIdx hmem
    · cases hs

/-- Nobody has called, and nothing has been signed or answered. -/
structure Unused (s : Auth) : Prop where
  calls : s.calls = []
  minted : s.minted = []
  responses : s.responses = []

/-- The ids of the admins in the table. -/
def IsAdmin (s : Auth) (id : Int) : Prop :=
  ∃ user ∈ s.db.users, (user.id : Int) = id ∧ user.isAdmin = true

theorem Unused.confined (h : s.Unused) : s.Confined s.IsAdmin where
  users := fun user huser hadmin => ⟨user, huser, rfl, hadmin⟩
  rows := by
    rw [h.calls]
    exact fun _ h => absurd h List.not_mem_nil
  presented := by
    rw [h.calls]
    exact fun _ h => absurd h List.not_mem_nil
  minted := by
    rw [h.minted]
    exact fun _ h => absurd h List.not_mem_nil
  responses := by
    rw [h.responses]
    exact fun _ h => absurd h List.not_mem_nil

/-- Whatever the account services are called with, and however the calls interleave, the
admin endpoints are for those who were admins in the table before. -/
theorem admin_endpoints_for_admins (p : Platform) {start s : Auth} {as : List Action}
    (unused : start.Unused) (unforged : AllSteps (step p) (fun s a _ => s.Unforged p a) start as)
    (hrun : run (step p) start as = some s) {answer : Except HttpError Authenticated}
    (answered : answer.map Response.authenticated ∈ s.responses) {user : RequestUser}
    (passes : AdminGuard.canActivate adminRoles answer = .ok user) :
    start.IsAdmin user.sub := by
  have keeps : ∀ r a r', Confined start.IsAdmin r → r.Unforged p a → step p r a = some r' →
      r'.Confined start.IsAdmin := fun _ _ _ h genuine hs => h.step genuine hs
  have confined : s.Confined start.IsAdmin :=
    AllSteps.invariant keeps unused.confined unforged hrun
  obtain ⟨rfl, -⟩ := AdminGuard.canActivate_admin_iff.mp passes
  exact confined.responses ⟨user.sub, true⟩ answered rfl

/-- An admin who logs in and calls an admin endpoint. -/
def adminVisit : List Action :=
  .call (.login ⟨"u@x", "p"⟩) :: List.replicate 3 (.resume 0 (uuid "a0")) ++
    .call (.authenticate (some "Bearer a0")) :: List.replicate 2 (.resume 0 (uuid ""))

def atLogin : Auth := { idle true with now := ⟨1000⟩ }

theorem admin_endpoints_for_admins_visit : atLogin.IsAdmin 1 := by
  have hcheck : (run (step (twoTokens true)) atLogin adminVisit).any
      (fun s => decide (.ok (.authenticated ⟨1, true⟩) ∈ s.responses)) = true := by
    decide +kernel
  obtain ⟨s, hs, answered⟩ := Option.any_eq_true _ _ |>.mp hcheck
  have genuine : AllSteps (step (twoTokens true)) (fun s a _ => s.Unforged (twoTokens true) a)
      atLogin adminVisit := by decide +kernel
  exact @admin_endpoints_for_admins (twoTokens true) atLogin s adminVisit ⟨rfl, rfl, rfl⟩ genuine
    hs (.ok ⟨1, true⟩) (of_decide_eq_true answered) ⟨1, ["admin"]⟩ rfl

end Auth
end Api
end XStreamRoll
