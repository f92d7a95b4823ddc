/-
Fencing in `stream_locks`.

Any number of `PostgresLockManager`s write one table.  A history interleaves
their statements with the passing of the database clock.  The clock of each
worker, which dates the `expires_at` it asks for, is read by the call and is
arbitrary, and so is the delay before the statement runs.  What is relied on is
that `randomUUID()` never returns a token twice.
-/
import XStreamRoll.Processing.LeaderElection

namespace XStreamRoll
namespace Processing
namespace LeaderElection

open Transition

/-- The table, the tokens its statements have used, and the clock behind `NOW()`. -/
structure LockDatabase where
  now : Timestamptz
  book : Lease.Book String String String Timestamptz

/-- `stream_locks` itself. -/
def LockDatabase.locks (db : LockDatabase) : StreamLocks := db.book.table

/-- An empty table, before any call. -/
def LockDatabase.empty (now : Timestamptz) : LockDatabase :=
  ⟨now, fun _ => none, [], by intro key row h; cases h⟩

inductive Statement where
  | acquire (m : PostgresLockManager) (streamId : String) (now : Date) (uuid : String)
  | renew (m : PostgresLockManager) (streamId : String) (token : LockToken) (now : Date)
  | release (m : PostgresLockManager) (streamId : String) (token : LockToken)
  | releaseAll (m : PostgresLockManager)
  | advance (micros : Nat)

/-- The table after a statement, by the lock manager's own method. -/
def Statement.exec (NOW : Timestamptz) (t : StreamLocks) : Statement → StreamLocks
  | .acquire m streamId now uuid => (m.acquire NOW now uuid streamId t).2
  | .renew m streamId token now => (m.renew NOW now streamId token t).2
  | .release m streamId token => (m.release streamId token t).2
  | .releaseAll m => m.releaseAll t
  | .advance _ => t

/-- The lease operation that a statement performs. -/
def Statement.op : Statement → Option (Lease.Op String String String Timestamptz)
  | .acquire m streamId now uuid => some (.claim streamId (m.claimed now uuid))
  | .renew m streamId token now =>
    some (.extend streamId m.workerId token.token (now.plus m.ttlMs).toTimestamptz)
  | .release m streamId token => some (.drop streamId m.workerId token.token)
  | .releaseAll m => some (.dropAll m.workerId)
  | .advance _ => none

theorem Statement.exec_eq (NOW : Timestamptz) (t : StreamLocks) (st : Statement) :
    st.exec NOW t = match st.op with
      | some op => (Lease.apply NOW t op).2
      | none => t := by
  cases st with
  | acquire m streamId now uuid =>
    rw [exec, op, PostgresLockManager.acquire_eq]
  | renew m streamId token now =>
    rw [exec, op, PostgresLockManager.renew_eq]
  | release m streamId token =>
    rw [exec, op, PostgresLockManager.release_eq NOW]
  | releaseAll m =>
    rw [exec, op, PostgresLockManager.releaseAll_eq NOW]
  | advance micros => rfl

/-- The UUIDs a statement brings into the table. -/
def Statement.uuids : Statement → List String
  | .acquire _ _ _ uuid => [uuid]
  | _ => []

theorem Statement.covered (db : LockDatabase) (st : Statement) (streamId : String) (row : LockRow)
    (hrow : st.exec db.now db.locks streamId = some row) :
    row.token ∈ st.uuids ++ db.book.used := by
  rw [exec_eq] at hrow
  cases st with
  | advance micros => exact db.book.covered streamId row hrow
  | acquire | renew | release | releaseAll =>
    exact Lease.covered_apply db.book.covered db.now _ streamId row hrow

/-- One statement runs, or the clock moves on. -/
def step (db : LockDatabase) (st : Statement) : Option LockDatabase :=
  if ∀ uuid ∈ st.uuids, uuid ∉ db.book.used then
    some {
      now := match st with
        | .advance micros => ⟨db.now.micros + micros⟩
        | _ => db.now
      book := ⟨st.exec db.now db.locks, st.uuids ++ db.book.used, st.covered db⟩ }
  else none

/-- A step is a step of the lease book, or leaves the table alone. -/
theorem step_book {db db' : LockDatabase} {st : Statement} (h : step db st = some db') :
    (∃ op, db.book.step (db.now, op) = some db'.book) ∨ db'.book = db.book := by
  unfold step at h
  split at h
  · next hfresh =>
    rw [Option.some.injEq] at h
    subst h
    cases hop : st.op with
    | none =>
      cases st with
      | advance micros => exact .inr rfl
      | acquire | renew | release | releaseAll => cases hop
    | some op =>
      have hexec : st.exec db.now db.locks = (Lease.apply db.now db.locks op).2 := by
        rw [Statement.exec_eq, hop]
      have huuids : st.uuids = op.brings := by
        cases st <;> cases hop <;> rfl
      refine .inl ⟨op, ?_⟩
      rw [Lease.Book.step, if_pos (huuids ▸ hfresh)]
      congr 1
      simp only [huuids, hexec]
      rfl
  · cases h

/-- A pair that lost its row does not get it back. -/
theorem spent_run {db db' : LockDatabase} {sts : List Statement} {streamId workerId token : String}
    (h : db.book.Spent streamId workerId token) (hr : run step db sts = some db') :
    db'.book.Spent streamId workerId token := by
  apply run_invariant (I := fun db => db.book.Spent streamId workerId token) _ h hr
  intro db st db' h hs
  rcases step_book hs with ⟨op, hop⟩ | hsame
  · exact h.step hop
  · rw [hsame]
    exact h

/-- The statement ends the turn of the pair: a claim of the stream is granted, the
pair is released, or its worker releases everything. -/
inductive Ends (db : LockDatabase) (streamId workerId token : String) : Statement → Prop where
  | superseded (m : PostgresLockManager) (now : Date) (uuid : String) :
      (m.acquire db.now now uuid streamId db.locks).1.isSome = true →
      Ends db streamId workerId token (.acquire m streamId now uuid)
  | released (m : PostgresLockManager) (t : LockToken) : m.workerId = workerId →
      t.token = token → (m.release streamId t db.locks).1 = true →
      Ends db streamId workerId token (.release m streamId t)
  | covered (m : PostgresLockManager) : m.workerId = workerId →
      Ends db streamId workerId token (.releaseAll m)

theorem Ends.spent {db db' : LockDatabase} {streamId workerId token : String} {st : Statement}
    (he : Ends db streamId workerId token st) (hused : token ∈ db.book.used)
    (hs : step db st = some db') : db'.book.Spent streamId workerId token := by
  unfold step at hs
  split at hs
  · next hfresh =>
    rw [Option.some.injEq] at hs
    subst hs
    refine ⟨List.mem_append_right _ hused, ?_⟩
    show ¬Lease.Holds (st.exec db.now db.locks) streamId workerId token
    rw [Statement.exec_eq]
    cases he with
    | superseded m now uuid hok =>
      apply Lease.not_holds_after_claim
      · rw [PostgresLockManager.acquire_isSome_iff] at hok
        exact Lease.claim_granted_iff.mpr hok
      · show uuid ≠ token
        rintro rfl
        exact hfresh uuid (List.mem_singleton.mpr rfl) hused
    | released m t howner htoken _ =>
      subst howner
      subst htoken
      exact Lease.not_holds_after_drop _ _ _ _ _
    | covered m howner =>
      subst howner
      exact Lease.not_holds_after_dropAll _ _ _ _ _
  · cases hs

/-- Mutual exclusion and fencing: one pair at most can renew; a foreign claim
needs a row that is absent or expired; a pair whose turn has ended can neither
renew nor release, ever again, and changes nothing by trying. -/
theorem locks_fenced (db : LockDatabase) :
    (∀ m m' streamId t t' now now',
      (PostgresLockManager.renew db.now now streamId t m db.locks).1 = true →
      (PostgresLockManager.renew db.now now' streamId t' m' db.locks).1 = true →
      m.workerId = m'.workerId ∧ t.token = t'.token) ∧
    (∀ m streamId now uuid row, db.locks streamId = some row → row.owner ≠ m.workerId →
      (PostgresLockManager.acquire db.now now uuid streamId m db.locks).1.isSome = true →
      row.expiry ≤ db.now) ∧
    (∀ streamId token m st sts (db₁ db₂ : LockDatabase), token.token ∈ db.book.used →
      Ends db streamId m.workerId token.token st → step db st = some db₁ →
      run step db₁ sts = some db₂ →
      (∀ now, PostgresLockManager.renew db₂.now now streamId token m db₂.locks =
        (false, db₂.locks)) ∧
      PostgresLockManager.release streamId token m db₂.locks = (false, db₂.locks)) := by
  refine ⟨?_, ?_, ?_⟩
  · intro m m' streamId t t' now now' h h'
    rw [PostgresLockManager.renew_iff] at h h'
    exact h.holds.unique h'.holds
  · intro m streamId now uuid row hrow hforeign hok
    rw [PostgresLockManager.acquire_isSome_iff] at hok
    rcases hok row hrow with hexpired | hown
    · exact hexpired
    · exact absurd hown hforeign
  · intro streamId token m st sts db₁ db₂ hused hends hs hr
    have hspent := spent_run (hends.spent hused hs) hr
    constructor
    · intro now
      rw [PostgresLockManager.renew_eq]
      exact (hspent.refused _ _).1
    · rw [PostgresLockManager.release_eq db₂.now]
      exact (hspent.refused _ db₂.now).2

/-- `w2` takes over the expired row of `w1`. -/
theorem locks_fenced_takeover :
    ∃ db db₁, run step (.empty ⟨0⟩) [.acquire ⟨"w1", 30000⟩ "s" ⟨0⟩ "a", .advance 30000000] = some db ∧
      step db (.acquire ⟨"w2", 30000⟩ "s" ⟨30000⟩ "b") = some db₁ ∧
      ∀ now, PostgresLockManager.renew db₁.now now "s" ⟨"s", "w1", "a", ⟨30000⟩, ⟨0⟩⟩ ⟨"w1", 30000⟩
        db₁.locks = (false, db₁.locks) := by
  have hsome : ((run step (.empty ⟨0⟩)
      [.acquire ⟨"w1", 30000⟩ "s" ⟨0⟩ "a", .advance 30000000]).map fun db =>
        (db.book.used, (PostgresLockManager.acquire db.now ⟨30000⟩ "b" "s" ⟨"w2", 30000⟩
          db.locks).1.isSome, (step db (.acquire ⟨"w2", 30000⟩ "s" ⟨30000⟩ "b")).isSome)) =
      some (["a"], true, true) := by decide
  obtain ⟨db, hr, hdb⟩ := Option.map_eq_some_iff.mp hsome
  simp only [Prod.mk.injEq] at hdb
  obtain ⟨hused, hok, hstep⟩ := hdb
  obtain ⟨db₁, hs⟩ := Option.isSome_iff_exists.mp hstep
  refine ⟨db, db₁, hr, hs, ?_⟩
  exact ((locks_fenced db).2.2 "s" ⟨"s", "w1", "a", ⟨30000⟩, ⟨0⟩⟩ ⟨"w1", 30000⟩ _ [] db₁ db₁
    (by rw [hused]; exact List.mem_singleton.mpr rfl) (.superseded _ _ _ hok) hs rfl).1

end LeaderElection
end Processing
end XStreamRoll
