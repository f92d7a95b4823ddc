/-
Reset tokens, on any number of API instances.

`resetPassword` selects the row of the token while it is unused, hashes the password, and
then marks the row and writes the hash in one transaction.  The UPDATE that marks the row
names it by its id alone, so it also goes through on a row that another call has marked in
the meantime.  A token is spent once as long as every transaction finds it unused.

The instances share the database and the clock.  Each has a cache of its own, or all of
them one, and an entry may be thrown out at any time, so a cache may change to anything
between two steps.
-/
import Mathlib.Logic.Function.Basic
import XStreamRoll.Lists
import XStreamRoll.Api.Auth.Calls

namespace XStreamRoll
namespace Api

open Transition

/-! ## The instances -/

structure Fleet where
  now : Timestamptz
  db : Database
  apis : Nat → Auth

namespace Fleet

/-- What the instance sees. -/
def view (w : Nat) (f : Fleet) : Auth := { f.apis w with now := f.now, db := f.db }

inductive Action where
  | api (w : Nat) (a : Auth.Action)
  | cache (w : Nat) (cache : Cache)

def step (p : Platform) (f : Fleet) : Action → Option Fleet
  | .api w a => ((f.view w).step p a).map fun s => ⟨s.now, s.db, Function.update f.apis w s⟩
  | .cache w cache =>
    some { f with apis := Function.update f.apis w { f.apis w with cache } }

/-- No call is under way. -/
def Idle (f : Fleet) : Prop := ∀ w, (f.apis w).calls = []

/-- The row whose reset the step commits. -/
def commits (f : Fleet) : Action → Option ResetToken
  | .api w (.resume i _) =>
    match (f.apis w).calls[i]? with
    | some (.resetCommit row _ _) => some row
    | _ => none
  | _ => none

/-- 1 for a step that commits a reset under this hash. -/
def resets (tokenHash : String) (f : Fleet) (a : Action) : Int :=
  if (f.commits a).any (·.tokenHash = tokenHash) then 1 else 0

/-- A transaction of a reset finds its token unused. -/
def CommitsUnused (f : Fleet) (a : Action) : Prop :=
  ∀ row ∈ f.commits a, ∀ other ∈ f.db.resetTokens, other.tokenHash = row.tokenHash →
    other.used = false

instance (f : Fleet) (a : Action) : Decidable (f.CommitsUnused a) :=
  inferInstanceAs (Decidable (∀ row ∈ f.commits a, _))

end Fleet

/-! ## The table of tokens -/

/-- The row that the call has selected. -/
def Call.resetRow : Call → Option ResetToken
  | .resetFind row _ | .resetCount row _ _ | .resetLimit row _ _ _ | .resetHash row _
  | .resetCommit row _ _ => some row
  | _ => none

namespace Database

/-- The row is in the table, used by now or not. -/
def HasToken (row : ResetToken) (db : Database) : Prop :=
  ∃ r ∈ db.resetTokens, r.id = row.id ∧ r.tokenHash = row.tokenHash

/-- The token has been used. -/
def Spent (tokenHash : String) (db : Database) : Prop :=
  ∃ r ∈ db.resetTokens, r.tokenHash = tokenHash ∧ r.used = true

/-- The second table has the rows of the first, and what was used there is used here. -/
structure Extends (db db' : Database) : Prop where
  rows : ∀ r ∈ db.resetTokens, ∃ r' ∈ db'.resetTokens, r'.id = r.id ∧
    r'.tokenHash = r.tokenHash ∧ (r.used = true → r'.used = true)

theorem extends_of_same {db db' : Database} (h : db'.resetTokens = db.resetTokens) :
    db.Extends db' :=
  ⟨fun r hr => ⟨r, h ▸ hr, rfl, rfl, id⟩⟩

theorem insertResetToken_extends (userId : Nat) (tokenHash : String) (expiresAt : Date)
    (db : Database) : db.Extends (db.insertResetToken userId tokenHash expiresAt) :=
  ⟨fun r hr => ⟨r, List.mem_append_left _ hr, rfl, rfl, id⟩⟩

theorem useResetToken_extends (id : Nat) (db : Database) : db.Extends (db.useResetToken id) := by
  constructor
  intro r hr
  refine ⟨_, List.mem_map_of_mem hr, ?_⟩
  by_cases h : r.id = id
  · simp [h]
  · simp [h]

theorem HasToken.extends {row : ResetToken} {db db' : Database} (h : db.HasToken row)
    (hext : db.Extends db') : db'.HasToken row := by
  obtain ⟨r, hr, hid, hhash⟩ := h
  obtain ⟨r', hr', hid', hhash', -⟩ := hext.rows r hr
  exact ⟨r', hr', hid'.trans hid, hhash'.trans hhash⟩

theorem Spent.extends {tokenHash : String} {db db' : Database} (h : db.Spent tokenHash)
    (hext : db.Extends db') : db'.Spent tokenHash := by
  obtain ⟨r, hr, hhash, hused⟩ := h
  obtain ⟨r', hr', -, hhash', hused'⟩ := hext.rows r hr
  exact ⟨r', hr', hhash'.trans hhash, hused' hused⟩

theorem useResetToken_spent {row : ResetToken} {db : Database} (h : db.HasToken row) :
    (db.useResetToken row.id).Spent row.tokenHash := by
  obtain ⟨r, hr, hid, hhash⟩ := h
  refine ⟨_, List.mem_map_of_mem hr, ?_⟩
  rw [if_pos hid]
  exact ⟨hhash, rfl⟩

theorem findResetToken_hasToken {NOW : Timestamptz} {tokenHash : String} {row : ResetToken}
    {db : Database} (h : db.findResetToken NOW tokenHash = some row) : db.HasToken row :=
  ⟨row, List.mem_of_find?_eq_some h, rfl, rfl⟩

theorem create_resetTokens (NOW : Timestamptz) (username email passwordHash : String)
    (db : Database) : (db.create NOW username email passwordHash).2.resetTokens = db.resetTokens := by
  unfold create
  simp only
  split <;> rfl

theorem updateProfile_resetTokens {id : Nat} {username email : Option String}
    {db : Database} {found : Option User × Database}
    (h : db.updateProfile id username email = .ok found) :
    found.2.resetTokens = db.resetTokens := by
  unfold updateProfile at h
  split at h
  · cases h
  · rw [Except.ok.injEq] at h
    rw [← h]
    rfl

theorem Writes.extends {db db' : Database} (h : db.Writes db') : db.Extends db' := by
  cases h with
  | nothing => exact extends_of_same rfl
  | create => exact extends_of_same (create_resetTokens ..)
  | profile hupdate => exact extends_of_same (updateProfile_resetTokens hupdate)
  | password => exact extends_of_same rfl
  | token => exact insertResetToken_extends ..
  | reset rowId => exact ⟨(useResetToken_extends rowId db).rows⟩

end Database

namespace Auth

variable {p : Platform} {s s' : Auth}

/-! ## The rows that calls carry -/

/-- The rows that calls have selected are in the table. -/
def CarriesRows (db : Database) (s : Auth) : Prop :=
  ∀ call ∈ s.calls, ∀ row ∈ call.resetRow, db.HasToken row

theorem CarriesRows.wait {db : Database} {i : Nat} {call : Call} (h : s.CarriesRows db)
    (hcall : ∀ row ∈ call.resetRow, db.HasToken row) : (s.wait i call).CarriesRows db :=
  forall_mem_set h hcall

theorem CarriesRows.finish {db : Database} {i : Nat} {response : Except HttpError Response}
    (h : s.CarriesRows db) : (s.finish i response).CarriesRows db :=
  fun other hother => h other (List.mem_of_mem_eraseIdx hother)

theorem CarriesRows.proceed {db : Database} {i : Nat} {next : Except HttpError Call}
    (h : s.CarriesRows db) (hnext : ∀ call, next = .ok call → call.resetRow = none) :
    (s.proceed i next).CarriesRows db := by
  unfold Auth.proceed
  split
  · next call =>
    apply h.wait
    intro row hrow
    rw [hnext call rfl] at hrow
    cases hrow
  · exact h.finish

theorem headerJti_resetRow {header : String} {f : String → Call}
    (hf : ∀ jti, (f jti).resetRow = none) :
    ∀ call, (headerJti p header).map f = .ok call → call.resetRow = none := by
  intro call h
  obtain ⟨jti, -, rfl⟩ := map_eq_ok.mp h
  exact hf jti

theorem afterEmail_resetRow (user : User) (dto : UpdateProfileDto) (header : String) :
    (afterEmail user dto header).resetRow = none := by
  unfold afterEmail
  split <;> rfl

theorem resume_carriesRows {fresh : Fresh} {i : Nat} {call : Call} (h : s.CarriesRows s.db)
    (hcall : ∀ row ∈ call.resetRow, s.db.HasToken row) :
    (s.resume p fresh i call).CarriesRows s.db := by
  -- A call that carries no row waits for something new.
  have hwait : ∀ {t : Auth} {next : Call}, t.calls = s.calls → next.resetRow = none →
      (t.wait i next).CarriesRows s.db := by
    intro t next ht hnext
    apply CarriesRows.wait
    · intro other hother
      exact h other (ht ▸ hother)
    · intro row hrow
      rw [hnext] at hrow
      cases hrow
  have hfinish : ∀ {t : Auth} {response : Except HttpError Response}, t.calls = s.calls →
      (t.finish i response).CarriesRows s.db := by
    intro t response ht
    apply CarriesRows.finish
    intro other hother
    exact h other (ht ▸ hother)
  cases call with
  | registerHash | forgotLimit | forgotInsert | changeHash => exact hwait rfl rfl
  | registerLog | loginLog | refreshFound | forgotMail | resetCommit | profileRevoke
  | changeRevoke => exact hfinish rfl
  | resetLimit | resetHash => exact CarriesRows.wait h hcall
  | registerEmail | registerUsername | loginEmail | loginCompare | refreshDenylist | refreshFind
  | logoutAccess | profileUsername | changeFind | changeCompare =>
    simp only [resume]
    split
    · first | exact hfinish rfl | exact hwait rfl rfl
    · first | exact hwait rfl rfl | exact hfinish rfl
  | logoutRefresh | authFind =>
    simp only [resume]
    split <;> exact hfinish rfl
  | forgotCount | forgotFind =>
    simp only [resume]
    split
    · exact hfinish rfl
    · exact hwait rfl rfl
  | registerCreate dto passwordHash =>
    simp only [resume]
    split
    · exact hfinish rfl
    · exact hwait rfl rfl
  | resetSelect tokenHash password =>
    simp only [resume]
    split
    · exact hfinish rfl
    · next row hrow =>
      apply h.wait
      intro row' hrow'
      rw [Call.resetRow, Option.mem_some_iff] at hrow'
      exact hrow' ▸ Database.findResetToken_hasToken hrow
  | resetFind row password =>
    simp only [resume]
    split
    · exact hfinish rfl
    · exact h.wait hcall
  | resetCount row key password =>
    simp only [resume]
    split
    · exact hfinish rfl
    · exact h.wait hcall
  | profileFind userId dto header =>
    simp only [resume]
    split
    · exact hfinish rfl
    · split
      · exact hwait rfl rfl
      · exact hwait rfl (afterEmail_resetRow ..)
  | profileEmail user dto header =>
    simp only [resume]
    split
    · exact hfinish rfl
    · exact hwait rfl (afterEmail_resetRow ..)
  | profileUpdate user dto header =>
    simp only [resume]
    split
    · exact hfinish rfl
    · exact hfinish rfl
    · split
      · exact CarriesRows.proceed h (headerJti_resetRow fun _ => rfl)
      · exact hfinish rfl
  | changeUpdate userId passwordHash passwordChangedAt header =>
    simp only [resume]
    split
    · exact hfinish rfl
    · exact CarriesRows.proceed h (headerJti_resetRow fun _ => rfl)
  | authDenylist token =>
    simp only [resume]
    split
    · exact hfinish rfl
    · split
      · exact hfinish rfl
      · split
        · exact hwait rfl rfl
        · exact hfinish rfl

theorem start_resetRow {now : Date} {request : Request} {call : Call}
    (h : start p now request = .ok call) : call.resetRow = none := by
  cases request with
  | refresh refreshToken =>
    obtain ⟨_, -, hcall⟩ := bind_eq_ok.mp h
    cases hcall
    rfl
  | authenticate header =>
    obtain ⟨_, -, hcall⟩ := bind_eq_ok.mp h
    cases hcall
    rfl
  | _ =>
    cases h
    rfl

theorem step_extends {a : Action} (hs : s.step p a = some s') : s.db.Extends s'.db :=
  (step_writes hs).extends

theorem step_carriesRows {a : Action} (h : s.CarriesRows s.db) (hs : s.step p a = some s') :
    s'.CarriesRows s'.db := by
  have hmono : s'.CarriesRows s.db → s'.CarriesRows s'.db := fun hold call hcall row hrow =>
    (hold call hcall row hrow).extends (step_extends hs)
  apply hmono
  cases a with
  | advance micros =>
    rw [step, Option.some.injEq] at hs
    subst hs
    exact h
  | call request =>
    rw [step] at hs
    split at hs
    · rw [Option.some.injEq] at hs
      subst hs
      exact h
    · next call hcall =>
      rw [Option.some.injEq] at hs
      subst hs
      intro other hother row hrow
      rcases List.mem_append.mp hother with hold | hnew
      · exact h other hold row hrow
      · rw [List.mem_singleton.mp hnew, start_resetRow hcall] at hrow
        cases hrow
  | reject i message =>
    rw [step] at hs
    split at hs
    · rw [Option.some.injEq] at hs
      subst hs
      exact CarriesRows.finish h
    · cases hs
  | resume i fresh =>
    rw [step] at hs
    obtain ⟨call, hcall, rfl⟩ := Option.map_eq_some_iff.mp hs
    exact resume_carriesRows h (h call (List.mem_of_getElem? hcall))

end Auth

namespace Fleet

variable {p : Platform} {f f' : Fleet}

/-! ## One step of the fleet -/

def CarriesRows (f : Fleet) : Prop := ∀ w, (f.apis w).CarriesRows f.db

theorem step_extends {a : Action} (hs : f.step p a = some f') : f.db.Extends f'.db := by
  cases a with
  | api w a =>
    obtain ⟨s, hstep, rfl⟩ := Option.map_eq_some_iff.mp hs
    have hext : f.db.Extends s.db := Auth.step_extends hstep
    exact hext
  | cache w cache =>
    rw [step, Option.some.injEq] at hs
    exact Database.extends_of_same (by rw [← hs])

theorem step_carriesRows {a : Action} (h : f.CarriesRows) (hs : f.step p a = some f') :
    f'.CarriesRows := by
  intro v
  cases a with
  | api w a =>
    have hext := step_extends hs
    obtain ⟨s, hstep, rfl⟩ := Option.map_eq_some_iff.mp hs
    by_cases hv : v = w
    · subst hv
      have hs : s.CarriesRows s.db := Auth.step_carriesRows (s := f.view v) (h v) hstep
      simp only [Function.update_self]
      exact hs
    · simp only [Function.update_of_ne hv]
      exact fun call hcall row hrow => (h v call hcall row hrow).extends hext
  | cache w cache =>
    rw [step, Option.some.injEq] at hs
    subst hs
    by_cases hv : v = w
    · subst hv
      simp only [Function.update_self]
      exact h v
    · simp only [Function.update_of_ne hv]
      exact h v

/-- The transaction marks the row that it names. -/
theorem commits_spent {a : Action} {row : ResetToken} (h : f.CarriesRows)
    (ha : f.commits a = some row) (hs : f.step p a = some f') : f'.db.Spent row.tokenHash := by
  unfold commits at ha
  split at ha
  · next w i fresh =>
    split at ha
    · next hcall =>
      rw [Option.some.injEq] at ha
      subst ha
      obtain ⟨s, hstep, rfl⟩ := Option.map_eq_some_iff.mp hs
      rw [Auth.step] at hstep
      have hview : (f.view w).calls[i]? = _ := hcall
      rw [hview, Option.map_some, Option.some.injEq] at hstep
      subst hstep
      exact Database.useResetToken_spent (h w _ (List.mem_of_getElem? hcall) _ rfl)
    · cases ha
  · cases ha

/-! ## Every run -/

theorem idle_carriesRows (h : f.Idle) : f.CarriesRows := by
  intro w call hcall
  rw [h w] at hcall
  cases hcall

/-- When every transaction of a reset finds its token unused, at most one reset succeeds
with a token, whatever calls the instances run and in whatever order. -/
theorem reset_token_single_use {as : List Action} (hidle : f.Idle)
    (h : AllSteps (step p) (fun f a _ => f.CommitsUnused a) f as) (token : String) :
    total (step p) (resets (p.sha256 token)) f as ≤ 1 := by
  have hcommits : ∀ {f : Fleet} {a : Action}, resets (p.sha256 token) f a ≠ 0 →
      ∃ row, f.commits a = some row ∧ row.tokenHash = p.sha256 token := by
    intro f a hne
    unfold resets at hne
    split at hne
    · next hany =>
      obtain ⟨row, hrow, hhash⟩ := (Option.any_eq_true _ _).mp hany
      exact ⟨row, hrow, of_decide_eq_true hhash⟩
    · exact absurd rfl hne
  apply AllSteps.total_le_one (I := CarriesRows) (Q := fun f => f.db.Spent (p.sha256 token))
    (fun _ _ _ hcarries _ hs => step_carriesRows hcarries hs) ?_ ?_ (idle_carriesRows hidle) h
  · intro f a f' hspent hunused hs
    refine ⟨hspent.extends (step_extends hs), ?_⟩
    by_contra hne
    obtain ⟨row, hrow, hhash⟩ := hcommits hne
    obtain ⟨r, hr, hrhash, hused⟩ := hspent
    rw [hunused row hrow r hr (hrhash.trans hhash.symm)] at hused
    cases hused
  · intro f a f' hcarries _ hs
    by_cases hzero : resets (p.sha256 token) f a = 0
    · exact .inl hzero
    · obtain ⟨row, hrow, hhash⟩ := hcommits hzero
      refine .inr ⟨?_, hhash ▸ commits_spent hcarries hrow hs⟩
      rw [resets, hrow]
      simp [hhash]

/-! ## Two calls with one token -/

def plainPlatform : Platform where
  parse := fun _ => none
  sha256 := id
  toLowerCase := id
  hash := fun password salt => salt ++ password
  compare := fun password hash => hash = password
  accessJwt := ⟨"access", 900⟩
  refreshJwt := ⟨"refresh", 604800⟩

/-- A user with an unused token, and no call under way. -/
def tokenMailed : Fleet where
  now := ⟨1000⟩
  db := ⟨[⟨1, "u", "u@x", "", ⟨0⟩, none, false⟩], 2, [⟨1, 1, "t", ⟨2000⟩, false⟩], 2⟩
  apis := fun _ => ⟨⟨0⟩, ⟨[], 1, [], 1⟩, .empty, [], [], [], [], []⟩

theorem tokenMailed_idle : tokenMailed.Idle := fun _ => rfl

def ask (w : Nat) (password : String) : Action := .api w (.call (.resetPassword "t" password))

def proceed (w : Nat) : Action := .api w (.resume 0 ⟨"", "", "", ""⟩)

/-- The instances 0 and 1 both get a call; the second starts after the first is over. -/
def oneAfterTheOther : List Action :=
  ask 0 "Passw0rd1" :: List.replicate 6 (proceed 0) ++ [ask 1 "Passw0rd2", proceed 1]

theorem reset_token_single_use_oneAfterTheOther :
    (run (step plainPlatform) tokenMailed oneAfterTheOther).isSome = true ∧
      total (step plainPlatform) (resets (plainPlatform.sha256 "t")) tokenMailed
        oneAfterTheOther ≤ 1 := by
  refine ⟨by decide +kernel, ?_⟩
  exact reset_token_single_use tokenMailed_idle (by decide +kernel) "t"

/-- The second has selected the token before the first commits. -/
def overlapping : List Action :=
  [ask 0 "Passw0rd1", ask 1 "Passw0rd2"] ++ List.replicate 5 (proceed 0) ++
    List.replicate 5 (proceed 1) ++ [proceed 0, proceed 1]

/-- Both calls change the password. -/
theorem reset_token_used_twice :
    ¬∀ (p : Platform) (f f' : Fleet) (as : List Action) (token : String), f.Idle →
      run (step p) f as = some f' → total (step p) (resets (p.sha256 token)) f as ≤ 1 := by
  intro h
  have htwice : (run (step plainPlatform) tokenMailed overlapping).isSome = true ∧
      total (step plainPlatform) (resets (plainPlatform.sha256 "t")) tokenMailed overlapping = 2 := by
    decide +kernel
  obtain ⟨f', hf'⟩ := Option.isSome_iff_exists.mp htwice.1
  have hle := h plainPlatform tokenMailed f' overlapping "t" tokenMailed_idle hf'
  rw [htwice.2] at hle
  exact absurd hle (by decide)

end Fleet

end Api
end XStreamRoll
