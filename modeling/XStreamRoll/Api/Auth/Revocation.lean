/-
What a password change does to the tokens that are older.

Every token carries the date of the last change as it was when the token was signed.
The extractor compares that date with the one in the table, so an older token is
refused as such.  `refresh()` does not compare: it takes a refresh token of any date and
signs a new pair with the date that is in the table by then.

So older tokens are shut out, and what they were traded for with them, as long as no
refresh goes through with a token whose date is behind the table.  It takes a second
thing: two changes at the same time may be written in either order, and the table must
not be left with the earlier date.
-/
import Mathlib.Logic.Relation
import XStreamRoll.Lists
import XStreamRoll.Api.Auth.Calls

namespace XStreamRoll
namespace Api

open Transition

/-! ## Dates that lie in the past -/

/-- A date after the epoch and not in the future. -/
def Date.Past (now : Timestamptz) (d : Date) : Prop := 0 < d.getTime ∧ d ≤ now.toDate

theorem Date.Past.mono {now now' : Timestamptz} {d : Date} (h : Date.Past now d)
    (hle : now ≤ now') : Date.Past now' d := by
  refine ⟨h.1, le_trans h.2 ?_⟩
  rw [Date.le_iff]
  rw [Timestamptz.le_iff] at hle
  simp only [Timestamptz.toDate]
  omega

namespace Call

/-- The rows that the call has read. -/
def rows : Call → List User
  | .registerLog user | .loginCompare _ user | .loginLog user | .refreshFound _ user
  | .profileEmail user _ _ | .profileUsername user _ _ | .profileUpdate user _ _
  | .profileRevoke user _ | .changeCompare user _ _ | .changeRevoke user _ => [user]
  | _ => []

/-- The date that the call is about to write. -/
def writes : Call → Option Date
  | .resetCommit _ _ passwordChangedAt | .changeUpdate _ _ passwordChangedAt _ =>
    some passwordChangedAt
  | _ => none

/-- The token that the call is about, and the user it names. -/
def presents : Call → Option (Jwt × Int)
  | .refreshDenylist token userId | .refreshFind token userId | .authFind token userId =>
    some (token, userId)
  | .refreshFound token user => some (token, user.id)
  | _ => none

structure Sound (now : Timestamptz) (call : Call) : Prop where
  rows : ∀ user ∈ call.rows, Date.Past now user.changedAt
  writes : ∀ d ∈ call.writes, Date.Past now d
  presents : ∀ t ∈ call.presents, t.1.claims.sub = some t.2
  /-- A row that is read for a refresh has no later date than the token. -/
  refreshes : ∀ token user, call = .refreshFound token user →
    user.changedAt.getTime ≤ token.claims.changedAt

theorem Sound.mono {now now' : Timestamptz} {call : Call} (h : call.Sound now) (hle : now ≤ now') :
    call.Sound now' where
  rows := fun user huser => (h.rows user huser).mono hle
  writes := fun d hd => (h.writes d hd).mono hle
  presents := h.presents
  refreshes := h.refreshes

/-- A call that has read and computed nothing of the kind. -/
theorem Sound.of_blank {now : Timestamptz} {call : Call} (hrows : call.rows = [])
    (hwrites : call.writes = none) (hpresents : call.presents = none) : call.Sound now where
  rows := by
    rw [hrows]
    exact fun _ h => absurd h List.not_mem_nil
  writes := by
    rw [hwrites]
    exact fun _ h => by cases h
  presents := by
    rw [hpresents]
    exact fun _ h => by cases h
  refreshes := by
    rintro token user rfl
    cases hrows

/-- A call that has read one row. -/
theorem Sound.of_row {now : Timestamptz} {call : Call} {user : User} (hrows : call.rows = [user])
    (hwrites : call.writes = none) (hpresents : call.presents = none)
    (hpast : Date.Past now user.changedAt) : call.Sound now where
  rows := by
    rw [hrows]
    intro user' huser'
    rw [List.mem_singleton] at huser'
    exact huser' ▸ hpast
  writes := by
    rw [hwrites]
    exact fun _ h => by cases h
  presents := by
    rw [hpresents]
    exact fun _ h => by cases h
  refreshes := by
    rintro token user rfl
    cases hpresents

end Call

/-- The date in a token is not later than the token, nor than the date in the token it was
traded for. -/
structure Minted.Sound (e : Minted) : Prop where
  positive : 0 < e.token.claims.changedAt
  dated : e.token.claims.changedAt ≤ e.time.getTime
  source : ∀ token ∈ e.source, e.token.claims.changedAt ≤ token.claims.changedAt ∧
    e.token.claims.sub = token.claims.sub

namespace Auth

variable {p : Platform} {s s' : Auth}

/-! ## The invariant -/

structure Sound (s : Auth) : Prop where
  clock : 0 < s.now.toDate.getTime
  users : ∀ user ∈ s.db.users, Date.Past s.now user.changedAt
  calls : ∀ call ∈ s.calls, call.Sound s.now
  minted : ∀ e ∈ s.minted, e.Sound
  recorded : ∀ r ∈ s.recorded, r.2 ≤ s.now.toDate ∧
    ∀ user ∈ s.db.users, user.id = r.1 → r.2 ≤ user.changedAt

/-- Nothing has been called, and the rows that are there are of the past. -/
structure Initial (s : Auth) : Prop where
  clock : 0 < s.now.toDate.getTime
  users : ∀ user ∈ s.db.users, Date.Past s.now user.changedAt
  calls : s.calls = []
  minted : s.minted = []
  recorded : s.recorded = []

theorem Initial.sound (h : s.Initial) : s.Sound where
  clock := h.clock
  users := h.users
  calls := by
    rw [h.calls]
    exact fun _ h => absurd h List.not_mem_nil
  minted := by
    rw [h.minted]
    exact fun _ h => absurd h List.not_mem_nil
  recorded := by
    rw [h.recorded]
    exact fun _ h => absurd h List.not_mem_nil

namespace Sound

theorem wait {i : Nat} {call : Call} (h : s.Sound) (hcall : call.Sound s.now) :
    (s.wait i call).Sound where
  clock := h.clock
  users := h.users
  calls := forall_mem_set h.calls hcall
  minted := h.minted
  recorded := h.recorded

theorem finish {i : Nat} {response : Except HttpError Response} (h : s.Sound) :
    (s.finish i response).Sound where
  clock := h.clock
  users := h.users
  calls := fun call hmem => h.calls call (List.mem_of_mem_eraseIdx hmem)
  minted := h.minted
  recorded := h.recorded

theorem fail {i : Nat} {error : HttpError} (h : s.Sound) : (s.fail i error).Sound := h.finish

theorem proceed {i : Nat} {next : Except HttpError Call} (h : s.Sound)
    (hnext : ∀ call, next = .ok call → call.Sound s.now) : (s.proceed i next).Sound := by
  cases next with
  | error e => exact h.fail
  | ok call => exact h.wait (hnext call rfl)

theorem accept {i : Nat} {token : Jwt} (h : s.Sound) : (s.accept i token).Sound :=
  Sound.finish ⟨h.clock, h.users, h.calls, h.minted, h.recorded⟩

theorem withCache (h : s.Sound) (cache : Cache) : Sound { s with cache } :=
  ⟨h.clock, h.users, h.calls, h.minted, h.recorded⟩

theorem withDb {db : Database} (h : s.Sound) (hdb : db.users = s.db.users) :
    Sound { s with db } where
  clock := h.clock
  users := by
    show ∀ user ∈ db.users, _
    rw [hdb]
    exact h.users
  calls := h.calls
  minted := h.minted
  recorded := by
    show ∀ r ∈ s.recorded, _ ∧ ∀ user ∈ db.users, _
    rw [hdb]
    exact h.recorded

theorem unrecorded {userId : Nat} {d : Date} (h : (s.record userId d).Sound) : s.Sound :=
  ⟨h.clock, h.users, h.calls, h.minted, fun r hr => h.recorded r (List.mem_append_left _ hr)⟩

theorem mint {tokens : List Jwt} {source : Option Jwt} (h : s.Sound)
    (htokens : ∀ token ∈ tokens, Minted.Sound ⟨token, s.now.toDate, source⟩) :
    (s.mint tokens source).Sound where
  clock := h.clock
  users := h.users
  calls := h.calls
  minted := by
    intro e he
    rcases List.mem_append.mp he with hold | hnew
    · exact h.minted e hold
    · obtain ⟨token, htoken, rfl⟩ := List.mem_map.mp hnew
      exact htokens token htoken
  recorded := h.recorded

end Sound

/-! ## What the statements do to the rows -/

theorem findById_mem {db : Database} {id : Int} {user : User} (h : db.findById id = some user) :
    user ∈ db.users ∧ (user.id : Int) = id :=
  ⟨List.mem_of_find?_eq_some h, by simpa using List.find?_some h⟩

theorem create_users {db db' : Database} {NOW : Timestamptz} {username email passwordHash : String}
    {created : Option User} (h : db.create NOW username email passwordHash = (created, db')) :
    (created = none ∧ db'.users = db.users) ∨
      ∃ user, created = some user ∧ db'.users = db.users ++ [user] ∧ user.changedAt = NOW.toDate := by
  unfold Database.create at h
  simp only at h
  split at h
  · rw [Prod.mk.injEq] at h
    exact .inl ⟨h.1.symm, by rw [← h.2]⟩
  · rw [Prod.mk.injEq] at h
    exact .inr ⟨_, h.1.symm, by rw [← h.2], rfl⟩

theorem mem_modify {db db' : Database} {id : Nat} {f : User → User} {updated : Option User}
    {user : User} (h : db.modify id f = (updated, db')) (huser : user ∈ db'.users) :
    ∃ old ∈ db.users, old.id = id ∧ user = f old ∨ old.id ≠ id ∧ user = old := by
  cases h
  obtain ⟨old, hold, rfl⟩ := List.mem_map.mp huser
  by_cases hid : old.id = id
  · exact ⟨old, hold, .inl ⟨hid, by rw [if_pos hid]⟩⟩
  · exact ⟨old, hold, .inr ⟨hid, by rw [if_neg hid]⟩⟩

theorem modify_returned {db db' : Database} {id : Nat} {f : User → User} {user : User}
    (h : db.modify id f = (some user, db')) : user ∈ db'.users := by
  obtain ⟨hreturned, rfl⟩ := Prod.mk.inj h
  exact (findById_mem hreturned).1

namespace Sound

theorem create {db : Database} {username email passwordHash : String} {user : User} (h : s.Sound)
    (hcreate : s.db.create s.now username email passwordHash = (some user, db)) :
    Sound { s with db } ∧ Date.Past s.now user.changedAt := by
  rcases create_users hcreate with ⟨hnone, -⟩ | ⟨user', huser, husers, hdate⟩
  · cases hnone
  · rw [Option.some.injEq] at huser
    subst huser
    have hpast : Date.Past s.now user.changedAt := by
      rw [hdate]
      exact ⟨h.clock, le_refl _⟩
    refine ⟨⟨h.clock, ?_, h.calls, h.minted, ?_⟩, hpast⟩
    · show ∀ u ∈ db.users, _
      rw [husers]
      intro u hu
      rcases List.mem_append.mp hu with hold | hnew
      · exact h.users u hold
      · rw [List.mem_singleton.mp hnew]
        exact hpast
    · show ∀ r ∈ s.recorded, _ ∧ ∀ u ∈ db.users, _
      rw [husers]
      intro r hr
      refine ⟨(h.recorded r hr).1, ?_⟩
      intro u hu hid
      rcases List.mem_append.mp hu with hold | hnew
      · exact (h.recorded r hr).2 u hold hid
      · rw [List.mem_singleton.mp hnew, hdate]
        exact (h.recorded r hr).1

theorem updateProfile {db : Database} {id : Nat} {username email : Option String}
    {updated : Option User} (h : s.Sound)
    (hupdate : s.db.updateProfile id username email = .ok (updated, db)) :
    Sound { s with db } ∧ ∀ user, updated = some user → Date.Past s.now user.changedAt := by
  unfold Database.updateProfile at hupdate
  split at hupdate
  · cases hupdate
  · rw [Except.ok.injEq] at hupdate
    have husers : ∀ user ∈ db.users, ∃ old ∈ s.db.users, user.id = old.id ∧
        user.changedAt = old.changedAt := by
      intro user huser
      obtain ⟨old, hold, ⟨-, rfl⟩ | ⟨-, rfl⟩⟩ := mem_modify hupdate huser
      · exact ⟨old, hold, rfl, rfl⟩
      · exact ⟨user, hold, rfl, rfl⟩
    have hpast : ∀ user ∈ db.users, Date.Past s.now user.changedAt := by
      intro user huser
      obtain ⟨old, hold, -, hdate⟩ := husers user huser
      rw [hdate]
      exact h.users old hold
    refine ⟨⟨h.clock, hpast, h.calls, h.minted, ?_⟩, ?_⟩
    · intro r hr
      refine ⟨(h.recorded r hr).1, ?_⟩
      intro user huser hid
      obtain ⟨old, hold, hsame, hdate⟩ := husers user huser
      rw [hdate]
      exact (h.recorded r hr).2 old hold (hsame ▸ hid)
    · rintro user rfl
      exact hpast user (modify_returned hupdate)

/-- A date that is not behind the table has been written. -/
theorem updatePasswordHash {id : Nat} {passwordHash : String} {d : Date} {db : Database}
    {updated : Option User} (h : s.Sound) (hpast : Date.Past s.now d)
    (hlater : ∀ user ∈ s.db.users, user.id = id → user.changedAt ≤ d)
    (hupdate : s.db.updatePasswordHash id passwordHash d = (updated, db)) :
    (Auth.record id d { s with db }).Sound ∧
      ∀ user, updated = some user → Date.Past s.now user.changedAt := by
  have husers : ∀ user ∈ db.users, ∃ old ∈ s.db.users, user.id = old.id ∧
      (user.id = id ∧ user.changedAt = d ∨ user.id ≠ id ∧ user.changedAt = old.changedAt) := by
    intro user huser
    obtain ⟨old, hold, ⟨hid, rfl⟩ | ⟨hid, rfl⟩⟩ := mem_modify hupdate huser
    · exact ⟨old, hold, rfl, .inl ⟨hid, Date.toTimestamptz_toDate d⟩⟩
    · exact ⟨user, hold, rfl, .inr ⟨hid, rfl⟩⟩
  have hall : ∀ user ∈ db.users, Date.Past s.now user.changedAt := by
    intro user huser
    obtain ⟨old, hold, -, ⟨-, hdate⟩ | ⟨-, hdate⟩⟩ := husers user huser
    · exact hdate ▸ hpast
    · exact hdate ▸ h.users old hold
  refine ⟨⟨h.clock, hall, h.calls, h.minted, ?_⟩, ?_⟩
  · intro r hr
    rcases List.mem_append.mp hr with hr | hr
    · refine ⟨(h.recorded r hr).1, ?_⟩
      intro user huser hid
      obtain ⟨old, hold, hsame, ⟨hself, hdate⟩ | ⟨-, hdate⟩⟩ := husers user huser
      · rw [hdate]
        exact le_trans ((h.recorded r hr).2 old hold (hsame ▸ hid))
          (hlater old hold (hsame ▸ hself))
      · rw [hdate]
        exact (h.recorded r hr).2 old hold (hsame ▸ hid)
    · rw [List.mem_singleton] at hr
      subst hr
      refine ⟨hpast.2, ?_⟩
      intro user huser hid
      obtain ⟨old, -, -, ⟨-, hdate⟩ | ⟨hne, -⟩⟩ := husers user huser
      · exact le_of_eq hdate.symm
      · exact absurd hid hne
  · rintro user rfl
    exact hall user (modify_returned hupdate)

end Sound

/-! ## Signing -/

/-- The date of the row goes into the token. -/
theorem minted_sound {service : JwtService} {now : Timestamptz} {uuid : String} {user : User}
    {isAdmin : Option Bool} {source : Option Jwt} (hpast : Date.Past now user.changedAt)
    (hsource : ∀ token ∈ source, user.changedAt.getTime ≤ token.claims.changedAt ∧
      token.claims.sub = some (user.id : Int)) :
    Minted.Sound ⟨service.sign now.toDate { Platform.claimsOf uuid user with isAdmin },
      now.toDate, source⟩ where
  positive := hpast.1
  dated := Date.le_iff.mp hpast.2
  source := fun token htoken => ⟨(hsource token htoken).1, (hsource token htoken).2.symm⟩

theorem Sound.issue {fresh : Fresh} {i : Nat} {user : User} {source : Option Jwt} (h : s.Sound)
    (hpast : Date.Past s.now user.changedAt)
    (hsource : ∀ token ∈ source, user.changedAt.getTime ≤ token.claims.changedAt ∧
      token.claims.sub = some (user.id : Int)) : (s.issue p fresh i user source).Sound := by
  apply Sound.finish
  apply h.mint
  intro token htoken
  simp only [List.mem_cons, List.not_mem_nil, or_false] at htoken
  rcases htoken with rfl | rfl
  · exact minted_sound hpast hsource
  · exact minted_sound hpast hsource

theorem Sound.issueProfile {fresh : Fresh} {i : Nat} {user : User} (h : s.Sound)
    (hpast : Date.Past s.now user.changedAt) : (s.issueProfile p fresh i user).Sound := by
  apply Sound.finish
  apply h.mint
  intro token htoken
  rw [List.mem_singleton] at htoken
  subst htoken
  exact minted_sound hpast fun _ h => by cases h

/-! ## One step -/

end Auth

/-- The check that `refresh()` leaves out goes through, and a date that is written is not
behind the one in the table. -/
def Call.KeepsDates (db : Database) : Call → Prop
  | .refreshFind token userId => ∀ user ∈ db.findById userId,
      user.changedAt.getTime ≤ token.claims.changedAt
  | .resetCommit row _ passwordChangedAt => ∀ user ∈ db.users, user.id = row.userId →
      user.changedAt ≤ passwordChangedAt
  | .changeUpdate userId _ passwordChangedAt _ => ∀ user ∈ db.users, user.id = userId →
      user.changedAt ≤ passwordChangedAt
  | _ => True

instance (db : Database) (call : Call) : Decidable (call.KeepsDates db) := by
  cases call <;> unfold Call.KeepsDates <;> infer_instance

namespace Auth

variable {p : Platform} {s s' : Auth}

def KeepsDates (s : Auth) : Action → Prop
  | .resume i _ => ∀ call ∈ s.calls[i]?, call.KeepsDates s.db
  | _ => True

instance (s : Auth) (a : Action) : Decidable (s.KeepsDates a) := by
  cases a <;> unfold KeepsDates <;> infer_instance

theorem afterEmail_sound {now : Timestamptz} {user : User} {dto : UpdateProfileDto}
    {header : String} (hpast : Date.Past now user.changedAt) :
    (afterEmail user dto header).Sound now := by
  unfold afterEmail
  split
  · exact .of_row rfl rfl rfl hpast
  · exact .of_row rfl rfl rfl hpast

theorem Sound.resume {fresh : Fresh} {i : Nat} {call : Call} (h : s.Sound)
    (hcall : call.Sound s.now) (hkeeps : call.KeepsDates s.db) :
    (s.resume p fresh i call).Sound := by
  have hrow : ∀ {id : Int} {user : User}, s.db.findById id = some user →
      Date.Past s.now user.changedAt := fun hfind => h.users _ (findById_mem hfind).1
  have hemail : ∀ {email : String} {user : User}, s.db.findByEmail email = some user →
      Date.Past s.now user.changedAt := fun hfind => h.users _ (List.mem_of_find?_eq_some hfind)
  have hnow : Date.Past s.now s.now.toDate := ⟨h.clock, le_refl _⟩
  unfold Auth.resume
  cases call with
  | registerEmail | registerUsername | resetSelect | resetFind | resetCount =>
    dsimp only
    split
    · exact h.fail
    · exact h.wait (.of_blank rfl rfl rfl)
  | registerHash dto => exact h.wait (.of_blank rfl rfl rfl)
  | registerCreate dto passwordHash =>
    dsimp only
    split
    · next db hcreate =>
      rcases create_users hcreate with ⟨-, husers⟩ | ⟨user, hsome, -⟩
      · exact (h.withDb husers).fail
      · cases hsome
    · next user db hcreate =>
      obtain ⟨hsound, hpast⟩ := h.create hcreate
      exact hsound.wait (.of_row rfl rfl rfl hpast)
  | registerLog user | loginLog user =>
    apply h.issue (hcall.rows user List.mem_cons_self)
    intro token htoken
    cases htoken
  | loginEmail dto =>
    dsimp only
    split
    · exact h.fail
    · next user hfind => exact h.wait (.of_row rfl rfl rfl (hemail hfind))
  | loginCompare dto user =>
    dsimp only
    split
    · exact h.wait (.of_row rfl rfl rfl (hcall.rows user List.mem_cons_self))
    · exact h.fail
  | refreshDenylist token userId =>
    dsimp only
    split
    · exact h.fail
    · exact h.wait ⟨by simp [Call.rows], by simp [Call.writes], hcall.presents, by simp⟩
  | refreshFind token userId =>
    dsimp only
    split
    · exact h.fail
    · next user hfind =>
      obtain ⟨-, hid⟩ := findById_mem hfind
      have hsub : token.claims.sub = some userId := hcall.presents _ rfl
      apply h.wait
      refine ⟨?_, by simp [Call.writes], ?_, ?_⟩
      · intro user' huser'
        rw [List.mem_singleton.mp huser']
        exact hrow hfind
      · intro t ht
        cases ht
        rw [hsub, hid]
      · intro token' user' heq
        cases heq
        exact hkeeps user hfind
  | refreshFound token user =>
    apply h.issue (hcall.rows user List.mem_cons_self)
    intro token' htoken'
    cases htoken'
    exact ⟨hcall.refreshes token user rfl, hcall.presents _ rfl⟩
  | logoutAccess header refreshToken =>
    dsimp only
    split
    · exact h.fail
    · exact (h.withCache _).wait (.of_blank rfl rfl rfl)
  | logoutRefresh refreshToken =>
    dsimp only
    split
    · exact h.fail
    · exact (h.withCache _).finish
  | forgotCount | forgotFind =>
    dsimp only
    split
    · exact h.finish
    · exact h.wait (.of_blank rfl rfl rfl)
  | forgotLimit | resetLimit => exact (h.withCache _).wait (.of_blank rfl rfl rfl)
  | forgotInsert userId email token expiresAt =>
    apply Sound.wait
    · exact h.withDb rfl
    · exact .of_blank rfl rfl rfl
  | forgotMail email token => exact h.finish
  | resetHash | changeHash =>
    apply h.wait
    refine ⟨by simp [Call.rows], ?_, by simp [Call.presents], by simp⟩
    intro d hd
    cases hd
    exact hnow
  | resetCommit row passwordHash passwordChangedAt =>
    dsimp only
    have hused : Sound { s with db := s.db.useResetToken row.id } := h.withDb rfl
    exact (hused.updatePasswordHash (hcall.writes _ rfl) hkeeps rfl).1.finish
  | profileFind userId dto header =>
    dsimp only
    split
    · exact h.fail
    · next user hfind =>
      apply h.wait
      split
      · exact .of_row rfl rfl rfl (hrow hfind)
      · exact afterEmail_sound (hrow hfind)
  | profileEmail user dto header =>
    dsimp only
    split
    · exact h.fail
    · exact h.wait (afterEmail_sound (hcall.rows user List.mem_cons_self))
  | profileUsername user dto header =>
    dsimp only
    split
    · exact h.fail
    · exact h.wait (.of_row rfl rfl rfl (hcall.rows user List.mem_cons_self))
  | profileUpdate user dto header =>
    dsimp only
    split
    · exact h.fail
    · next db hupdate => exact (h.updateProfile hupdate).1.fail
    · next updated db hupdate =>
      obtain ⟨hsound, hpast⟩ := h.updateProfile hupdate
      split
      · apply hsound.proceed
        intro call hnext
        obtain ⟨jti, -, rfl⟩ := map_eq_ok.mp hnext
        exact .of_row rfl rfl rfl (hpast updated rfl)
      · exact hsound.finish
  | profileRevoke updated jti | changeRevoke updated jti =>
    exact (h.withCache _).issueProfile (hcall.rows updated List.mem_cons_self)
  | changeFind userId dto header =>
    dsimp only
    split
    · exact h.fail
    · next user hfind => exact h.wait (.of_row rfl rfl rfl (hrow hfind))
  | changeCompare user dto header =>
    dsimp only
    split
    · exact h.wait (.of_blank rfl rfl rfl)
    · exact h.fail
  | changeUpdate userId passwordHash passwordChangedAt header =>
    have hpast := hcall.writes _ rfl
    dsimp only
    split
    · next db hupdate =>
      exact (h.updatePasswordHash hpast hkeeps hupdate).1.unrecorded.fail
    · next updated db hupdate =>
      obtain ⟨hsound, hdate⟩ := h.updatePasswordHash hpast hkeeps hupdate
      apply hsound.proceed
      intro call hnext
      obtain ⟨jti, -, rfl⟩ := map_eq_ok.mp hnext
      exact .of_row rfl rfl rfl (hdate updated rfl)
  | authDenylist token =>
    dsimp only
    split
    · exact h.fail
    · split
      · exact h.fail
      · next userId hid =>
        split
        · apply h.wait
          refine ⟨by simp [Call.rows], by simp [Call.writes], ?_, by simp⟩
          intro t ht
          cases ht
          exact Claims.userId_ok hid
        · exact h.accept
  | authFind token userId =>
    dsimp only
    split
    · exact h.fail
    · exact h.accept

/-- What a request does before its first `await` leaves a call that has read no row. -/
theorem start_sound {now : Timestamptz} {request : Request} {call : Call}
    (h : start p now.toDate request = .ok call) : call.Sound now := by
  cases request with
  | refresh refreshToken =>
    obtain ⟨⟨token, userId⟩, hrefreshable, hcall⟩ := bind_eq_ok.mp h
    have hcall := Except.ok.inj hcall
    subst hcall
    refine ⟨by simp [Call.rows], by simp [Call.writes], ?_, by simp⟩
    intro t ht
    cases ht
    exact Platform.refreshable_ok hrefreshable
  | authenticate header =>
    obtain ⟨token, -, hcall⟩ := bind_eq_ok.mp h
    have hcall := Except.ok.inj hcall
    subst hcall
    exact .of_blank rfl rfl rfl
  | register | login | logout | forgotPassword | resetPassword | updateProfile | changePassword =>
    cases h
    exact .of_blank rfl rfl rfl

theorem Sound.step {a : Action} (h : s.Sound) (hkeeps : s.KeepsDates a)
    (hs : step p s a = some s') : s'.Sound := by
  cases a with
  | advance micros =>
    simp only [Auth.step, Option.some.injEq] at hs
    subst hs
    have hle : s.now ≤ (⟨s.now.micros + micros⟩ : Timestamptz) := by
      rw [Timestamptz.le_iff]
      show s.now.micros ≤ s.now.micros + (micros : Int)
      omega
    refine ⟨?_, fun user huser => (h.users user huser).mono hle,
      fun call hcall => (h.calls call hcall).mono hle, h.minted, ?_⟩
    · exact (Date.Past.mono ⟨h.clock, le_refl _⟩ hle).1.trans_le
        (Date.Past.mono ⟨h.clock, le_refl _⟩ hle).2
    · exact fun r hr => ⟨le_trans (h.recorded r hr).1
        (Date.Past.mono ⟨h.clock, le_refl _⟩ hle).2, (h.recorded r hr).2⟩
  | call request =>
    simp only [Auth.step] at hs
    split at hs
    · rw [Option.some.injEq] at hs
      subst hs
      exact ⟨h.clock, h.users, h.calls, h.minted, h.recorded⟩
    · next call hstart =>
      rw [Option.some.injEq] at hs
      subst hs
      refine ⟨h.clock, h.users, ?_, h.minted, h.recorded⟩
      intro call' hmem
      rcases List.mem_append.mp hmem with hold | hnew
      · exact h.calls call' hold
      · rw [List.mem_singleton.mp hnew]
        exact start_sound hstart
  | resume i fresh =>
    obtain ⟨call, hcall, rfl⟩ := Option.map_eq_some_iff.mp hs
    exact h.resume (h.calls call (List.mem_of_getElem? hcall)) (hkeeps call hcall)
  | reject i message =>
    simp only [Auth.step] at hs
    split at hs
    · rw [Option.some.injEq] at hs
      subst hs
      exact h.fail
    · cases hs

/-! ## Who is let in -/

/-- The second token came from the first by refreshes, any number of them. -/
def Descends (s : Auth) : Jwt → Jwt → Prop :=
  Relation.ReflTransGen fun token token' => ∃ e ∈ s.minted, e.source = some token ∧ e.token = token'

/-- No token in a chain is dated later than the first. -/
theorem Sound.descends {token token' : Jwt} (h : s.Sound) (hd : s.Descends token token') :
    token'.claims.changedAt ≤ token.claims.changedAt ∧ token'.claims.sub = token.claims.sub := by
  induction hd with
  | refl => exact ⟨le_refl _, rfl⟩
  | tail _ hlast ih =>
    obtain ⟨e, he, hsource, rfl⟩ := hlast
    obtain ⟨hdate, hsub⟩ := (h.minted e he).source _ hsource
    exact ⟨le_trans hdate ih.1, hsub.trans ih.2⟩

/-- A token in a chain from one that the API has signed has a date. -/
theorem Sound.descends_positive {e : Minted} {token : Jwt} (h : s.Sound) (he : e ∈ s.minted)
    (hd : s.Descends e.token token) : 0 < token.claims.changedAt := by
  rcases Relation.ReflTransGen.cases_tail hd with heq | ⟨_, -, e', he', -, rfl⟩
  · rw [heq]
    exact (h.minted e he).positive
  · exact (h.minted e' he').positive

/-- No step lets a request in with a token that is older than a password change on record
for its user, nor with one that such a token was traded for. -/
def Refuses (s : Auth) (_ : Action) (s' : Auth) : Prop :=
  ∀ token, s'.admitted = s.admitted ++ [token] → ∀ e ∈ s.minted, s.Descends e.token token →
    ∀ userId d, (userId, d) ∈ s.recorded → e.token.claims.sub = some (userId : Int) → d ≤ e.time

@[simp] theorem admitted_wait {i : Nat} {call : Call} : (s.wait i call).admitted = s.admitted := rfl

@[simp] theorem admitted_finish {i : Nat} {response : Except HttpError Response} :
    (s.finish i response).admitted = s.admitted := rfl

@[simp] theorem admitted_fail {i : Nat} {error : HttpError} :
    (s.fail i error).admitted = s.admitted := rfl

@[simp] theorem admitted_proceed {i : Nat} {next : Except HttpError Call} :
    (s.proceed i next).admitted = s.admitted := by
  cases next with
  | error e => rfl
  | ok call => rfl

/-- Only `authenticate` lets anybody in. -/
theorem resume_admitted {fresh : Fresh} {i : Nat} {call : Call}
    (h : (s.resume p fresh i call).admitted ≠ s.admitted) :
    (∃ token, call = .authDenylist token) ∨ ∃ token userId, call = .authFind token userId := by
  cases call with
  | authDenylist token => exact .inl ⟨token, rfl⟩
  | authFind token userId => exact .inr ⟨token, userId, rfl⟩
  | profileUpdate user dto header =>
    exfalso
    apply h
    unfold Auth.resume
    dsimp only
    split
    · rfl
    · rfl
    · split
      · exact admitted_proceed
      · rfl
  | changeUpdate userId passwordHash passwordChangedAt header =>
    exfalso
    apply h
    unfold Auth.resume
    dsimp only
    split
    · rfl
    · exact admitted_proceed
  | _ =>
    exfalso
    apply h
    unfold Auth.resume
    dsimp only
    repeat' split
    all_goals rfl

theorem checkDate_ok {claims : Claims} {found : Option User} (h : claims.checkDate found = .ok ()) :
    ∃ user, found = some user ∧ user.changedAt.getTime ≤ claims.changedAt := by
  cases found with
  | none => cases h
  | some user =>
    refine ⟨user, rfl, ?_⟩
    rw [Claims.checkDate] at h
    split at h
    · cases h
    · next hle => exact not_lt.mp hle

/-- A token is let in without a date, or when its date is not behind the row's. -/
theorem resume_admits {fresh : Fresh} {i : Nat} {call : Call} {token : Jwt}
    (h : (s.resume p fresh i call).admitted = s.admitted ++ [token]) :
    (call = .authDenylist token ∧ token.claims.changedAt ≤ 0) ∨
      ∃ userId user, call = .authFind token userId ∧ s.db.findById userId = some user ∧
        user.changedAt.getTime ≤ token.claims.changedAt := by
  have hchanged : ∀ t : Auth, t.admitted = s.admitted → t.admitted = s.admitted ++ [token] → False := by
    intro t hsame happended
    rw [hsame] at happended
    simp at happended
  have hpresented : ∀ presented : Jwt, s.admitted ++ [presented] = s.admitted ++ [token] →
      presented = token := by
    intro presented heq
    simpa using heq
  rcases resume_admitted (fun hsame => hchanged _ hsame h) with ⟨presented, rfl⟩ | ⟨presented, id, rfl⟩
  · left
    unfold Auth.resume at h
    dsimp only at h
    split at h
    · exact (hchanged _ rfl h).elim
    · split at h
      · exact (hchanged _ rfl h).elim
      · split at h
        · exact (hchanged _ rfl h).elim
        · next hdate =>
          obtain rfl := hpresented presented h
          exact ⟨rfl, not_lt.mp hdate⟩
  · right
    unfold Auth.resume at h
    dsimp only at h
    split at h
    · exact (hchanged _ rfl h).elim
    · next hcheck =>
      obtain rfl := hpresented presented h
      obtain ⟨user, hfind, hdate⟩ := checkDate_ok hcheck
      exact ⟨id, user, rfl, hfind, hdate⟩

theorem step_admits {a : Action} {token : Jwt} (hs : step p s a = some s')
    (h : s'.admitted = s.admitted ++ [token]) : ∃ i fresh call, s.calls[i]? = some call ∧
      a = .resume i fresh ∧ s' = s.resume p fresh i call := by
  have hchanged : s'.admitted ≠ s.admitted := by
    rw [h]
    simp
  cases a with
  | advance micros =>
    cases hs
    exact absurd rfl hchanged
  | call request =>
    unfold step at hs
    dsimp only at hs
    split at hs
    · cases hs
      exact absurd rfl hchanged
    · cases hs
      exact absurd rfl hchanged
  | resume i fresh =>
    obtain ⟨call, hcall, rfl⟩ := Option.map_eq_some_iff.mp hs
    exact ⟨i, fresh, call, hcall, rfl, rfl⟩
  | reject i message =>
    unfold step at hs
    dsimp only at hs
    split at hs
    · cases hs
      exact absurd rfl hchanged
    · cases hs

theorem Sound.refuses {a : Action} (h : s.Sound) (hs : Auth.step p s a = some s') :
    s.Refuses a s' := by
  intro token hadmitted e he hd userId d hrecorded hsub
  obtain ⟨hdate, hsame⟩ := h.descends hd
  obtain ⟨i, fresh, call, hcall, -, rfl⟩ := step_admits hs hadmitted
  rcases resume_admits hadmitted with ⟨rfl, hnone⟩ | ⟨id, user, rfl, hfind, hbehind⟩
  · exact absurd (h.descends_positive he hd) (not_lt.mpr hnone)
  · obtain ⟨hmem, hid⟩ := findById_mem hfind
    have hsub' : token.claims.sub = some id :=
      (h.calls _ (List.mem_of_getElem? hcall)).presents _ rfl
    have huser : user.id = userId := by
      rw [hsame, hsub, Option.some.injEq, ← hid] at hsub'
      exact Int.ofNat_inj.mp hsub'.symm
    calc d ≤ user.changedAt := (h.recorded _ hrecorded).2 user hmem huser
      _ ≤ e.time := by
        rw [Date.le_iff]
        exact le_trans hbehind (le_trans hdate (h.minted e he).dated)

/-- In every run in which no refresh goes through with a token whose date is behind the
row, and no date is written over a later one, a password change shuts out every token
that is older, and every token that one was traded for. -/
theorem older_tokens_refused {as : List Action} (hinit : s.Initial)
    (hkeeps : AllSteps (step p) (fun q a _ => q.KeepsDates a) s as) :
    AllSteps (step p) Refuses s as := by
  refine AllSteps.of_invariant (P := fun q a _ => q.KeepsDates a) (I := Sound) ?_ ?_ hinit.sound
    hkeeps
  · exact fun q a t hsound hk hs => hsound.step hk hs
  · exact fun q a t hsound _ hs => hsound.refuses hs

/-! ## A password that is changed -/

/-- What a step draws, under two names. -/
def drawn (uuid uuid' : String) : Fresh := ⟨uuid, uuid', "", ""⟩

/-- User 1, whose password was changed last at this millisecond. -/
def userOf (ms : Int) : User := ⟨1, "u", "u@x", "p", ⟨1000 * ms⟩, none, false⟩

/-- The texts stand for tokens of user 1: "a0" and "r0" were signed at the registration,
at 1 ms, and "a1" by a refresh at 2 ms. -/
def signedEarly : Platform :=
  let p : Platform :=
    { parse := fun _ => none, sha256 := id, toLowerCase := id, hash := fun password _ => password
      compare := fun password hash => password = hash
      accessJwt := ⟨"access", 900⟩, refreshJwt := ⟨"refresh", 604800⟩ }
  { p with parse := fun text =>
      if text = "a0" then some (p.signAccessToken ⟨1⟩ "a0" (userOf 1))
      else if text = "r0" then some (p.signRefreshToken ⟨1⟩ "r0" (userOf 1))
      else if text = "a1" then some (p.signAccessToken ⟨2⟩ "a1" (userOf 2))
      else none }

def newApi : Auth where
  now := ⟨1000⟩
  db := ⟨[], 1, [], 1⟩
  cache := TtlCache.empty
  calls := []
  responses := []
  minted := []
  recorded := []
  admitted := []

/-- User 1 registers, and changes the password one millisecond later. -/
def changedOnce : List Action :=
  [.call (.register ⟨"u", "u@x", "p"⟩), .resume 0 (drawn "" ""), .resume 0 (drawn "" ""),
    .resume 0 (drawn "" ""), .resume 0 (drawn "" ""), .resume 0 (drawn "a0" "r0"),
    .advance 1000, .call (.changePassword 1 ⟨"p", "q"⟩ "Bearer a0"), .resume 0 (drawn "" ""),
    .resume 0 (drawn "" ""), .resume 0 (drawn "" ""), .resume 0 (drawn "" ""),
    .resume 0 (drawn "b0" "")]

/-- Then the first access token is presented. -/
def presentedAgain : List Action :=
  changedOnce ++ [.call (.authenticate (some "Bearer a0")), .resume 0 (drawn "" "")]

/-- Then the first refresh token is traded, and the new access token is presented. -/
def tradedAfterwards : List Action :=
  changedOnce ++ [.call (.refresh "r0"), .resume 0 (drawn "" ""), .resume 0 (drawn "" ""),
    .resume 0 (drawn "a1" "r1"), .call (.authenticate (some "Bearer a1")), .resume 0 (drawn "" "")]

theorem newApi_initial : newApi.Initial where
  clock := by decide
  users := fun _ h => absurd h List.not_mem_nil
  calls := rfl
  minted := rfl
  recorded := rfl

theorem older_tokens_refused_presentedAgain :
    AllSteps (step signedEarly) Refuses newApi presentedAgain :=
  older_tokens_refused newApi_initial (by decide +kernel)

/-- The token pair that a refresh token from before the change is traded for. -/
theorem refresh_outlives_change :
    ¬∀ (p : Platform) (s : Auth) (as : List Action), s.Initial → AllSteps (step p) Refuses s as := by
  intro h
  have hall := h signedEarly newApi (tradedAfterwards ++ [.resume 0 (drawn "" "")]) newApi_initial
  have hcheck : (run (step signedEarly) newApi tradedAfterwards).bind (fun s =>
      (step signedEarly s (.resume 0 (drawn "" ""))).map fun s' =>
        decide (s'.admitted = s.admitted ++ [signedEarly.signAccessToken ⟨2⟩ "a1" (userOf 2)] ∧
          ⟨signedEarly.signRefreshToken ⟨1⟩ "r0" (userOf 1), ⟨1⟩, none⟩ ∈ s.minted ∧
          ⟨signedEarly.signAccessToken ⟨2⟩ "a1" (userOf 2), ⟨2⟩,
            some (signedEarly.signRefreshToken ⟨1⟩ "r0" (userOf 1))⟩ ∈ s.minted ∧
          (1, ⟨2⟩) ∈ s.recorded)) = some true := by decide +kernel
  obtain ⟨s, hs, hcheck⟩ := Option.bind_eq_some_iff.mp hcheck
  obtain ⟨s', hs', hcheck⟩ := Option.map_eq_some_iff.mp hcheck
  obtain ⟨hadmitted, hfirst, htraded, hrecorded⟩ := of_decide_eq_true hcheck
  have hlast := ((AllSteps.after_run hall hs) s' hs').1
  have hdescends : s.Descends (signedEarly.signRefreshToken ⟨1⟩ "r0" (userOf 1))
      (signedEarly.signAccessToken ⟨2⟩ "a1" (userOf 2)) :=
    Relation.ReflTransGen.single ⟨_, htraded, rfl, rfl⟩
  exact absurd (hlast _ hadmitted _ hfirst hdescends 1 ⟨2⟩ hrecorded rfl) (by decide)

end Auth
end Api
end XStreamRoll
