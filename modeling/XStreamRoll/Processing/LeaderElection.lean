/-
The two lock managers.

`MemoryLockManager` keeps its locks in a map of its own process and evicts each
one by a timer.  `PostgresLockManager` keeps them in the table `stream_locks`,
which every worker shares, and does each operation in one SQL statement, so an
operation is one step on the table.  `randomUUID()` and `Date.now()` are
arguments, and `NOW()` is the clock of the database server, which need not agree
with a worker's.

The second half reads the SQL statements as operations of `Lease`.
-/
import Mathlib.Data.List.AList
import XStreamRoll.Time
import XStreamRoll.Lease

namespace XStreamRoll
namespace Processing

structure LockToken where
  streamId : String
  workerId : String
  /-- The UUID of the acquisition. -/
  token : String
  expiresAt : Date
  acquiredAt : Date
deriving DecidableEq, Repr

/-! ## In-process locks -/

/-- An armed eviction timer: `evictIfCurrent(streamId, expectedToken)` once `due`. -/
structure EvictionTimer where
  streamId : String
  expectedToken : String
  due : Date
deriving DecidableEq, Repr

structure MemoryLockEntry where
  token : LockToken
  timer : Nat
deriving DecidableEq, Repr

structure MemoryLockManager where
  workerId : String
  ttlMs : Nat
  locks : AList fun _ : String => MemoryLockEntry
  /-- The armed timers, by the number `setTimeout` gave them. -/
  timers : AList fun _ : Nat => EvictionTimer
  nextTimer : Nat

namespace MemoryLockManager

def create (workerId : String) (ttlMs : Nat) : MemoryLockManager :=
  ⟨workerId, ttlMs, ∅, ∅, 0⟩

def clearTimeout (timer : Nat) (m : MemoryLockManager) : MemoryLockManager :=
  { m with timers := m.timers.erase timer }

/-- `locks.set(streamId, { token, timer })` with a new timer for the token. -/
def setLock (now : Date) (streamId : String) (token : LockToken) (m : MemoryLockManager) :
    MemoryLockManager :=
  { m with
    locks := m.locks.insert streamId ⟨token, m.nextTimer⟩
    timers := m.timers.insert m.nextTimer
      ⟨streamId, token.token, now.plus (Date.timeoutDelay m.ttlMs)⟩
    nextTimer := m.nextTimer + 1 }

def acquire (now : Date) (uuid streamId : String) (m : MemoryLockManager) :
    Option LockToken × MemoryLockManager :=
  let token : LockToken := ⟨streamId, m.workerId, uuid, now.plus m.ttlMs, now⟩
  match m.locks.lookup streamId with
  | none => (some token, m.setLock now streamId token)
  | some existing =>
    if now < existing.token.expiresAt ∧ existing.token.workerId ≠ m.workerId then (none, m)
    else (some token, (m.clearTimeout existing.timer).setLock now streamId token)

def renew (now : Date) (streamId : String) (token : LockToken) (m : MemoryLockManager) :
    Bool × MemoryLockManager :=
  match m.locks.lookup streamId with
  | none => (false, m)
  | some entry =>
    if entry.token.token ≠ token.token then (false, m)
    else
      let renewed := { token with expiresAt := now.plus m.ttlMs }
      (true, (m.clearTimeout entry.timer).setLock now streamId renewed)

def release (streamId : String) (token : LockToken) (m : MemoryLockManager) :
    Bool × MemoryLockManager :=
  match m.locks.lookup streamId with
  | none => (false, m)
  | some entry =>
    if entry.token.token ≠ token.token then (false, m)
    else
      let m := m.clearTimeout entry.timer
      (true, { m with locks := m.locks.erase streamId })

def releaseAll (m : MemoryLockManager) : MemoryLockManager :=
  { m with
    timers := m.locks.entries.foldl (fun timers entry => timers.erase entry.2.timer) m.timers
    locks := ∅ }

def evictIfCurrent (streamId expectedToken : String) (m : MemoryLockManager) :
    MemoryLockManager :=
  match m.locks.lookup streamId with
  | none => m
  | some entry =>
    if entry.token.token = expectedToken then { m with locks := m.locks.erase streamId } else m

/-- The timer runs: it is no longer armed, and its callback evicts. -/
def fire (now : Date) (timer : Nat) (m : MemoryLockManager) : Option MemoryLockManager :=
  match m.timers.lookup timer with
  | none => none
  | some t =>
    if t.due ≤ now then some ((m.clearTimeout timer).evictIfCurrent t.streamId t.expectedToken)
    else none

/-! ### What the operations do to the tokens held -/

/-- The token under which each stream is locked. -/
def held (m : MemoryLockManager) (streamId : String) : Option String :=
  (m.locks.lookup streamId).map (·.token.token)

theorem held_insert (m : MemoryLockManager) (streamId : String) (entry : MemoryLockEntry)
    (timers : AList fun _ : Nat => EvictionTimer) (nextTimer : Nat) :
    held { m with
      locks := m.locks.insert streamId entry, timers := timers, nextTimer := nextTimer } =
      Function.update m.held streamId (some entry.token.token) := by
  funext s
  by_cases h : s = streamId
  · subst h
    rw [Function.update_self, held, AList.lookup_insert]
    rfl
  · rw [Function.update_of_ne h, held, AList.lookup_insert_ne h]
    rfl

theorem held_erase (m : MemoryLockManager) (streamId : String)
    (timers : AList fun _ : Nat => EvictionTimer) :
    held { m with locks := m.locks.erase streamId, timers := timers } =
      Function.update m.held streamId none := by
  funext s
  by_cases h : s = streamId
  · subst h
    rw [Function.update_self, held, AList.lookup_erase]
    rfl
  · rw [Function.update_of_ne h, held, AList.lookup_erase_ne h]
    rfl

theorem acquire_held (now : Date) (uuid streamId : String) (m : MemoryLockManager) :
    (m.acquire now uuid streamId).2.held =
      if (m.acquire now uuid streamId).1.isSome then
        Function.update m.held streamId (some uuid)
      else m.held := by
  rw [acquire]
  cases m.locks.lookup streamId with
  | none => exact held_insert ..
  | some existing =>
    show held (if _ then _ else _ : Option LockToken × MemoryLockManager).2 =
      if (if _ then _ else _ : Option LockToken × MemoryLockManager).1.isSome then _ else _
    split
    · rfl
    · exact held_insert (m.clearTimeout existing.timer) ..

theorem acquire_token {now : Date} {uuid streamId : String} {m : MemoryLockManager}
    {token : LockToken} (h : (m.acquire now uuid streamId).1 = some token) :
    token.token = uuid := by
  rw [acquire] at h
  grind

/-- A renewal keeps the token, and is granted to the token that is there. -/
theorem renew_held (now : Date) (streamId : String) (token : LockToken) (m : MemoryLockManager) :
    (m.renew now streamId token).1 = decide (m.held streamId = some token.token) ∧
      (m.renew now streamId token).2.held = m.held := by
  rw [renew]
  cases hentry : m.locks.lookup streamId with
  | none => simp [held, hentry]
  | some entry =>
    have hheld : m.held streamId = some entry.token.token := by rw [held, hentry]; rfl
    rw [hheld]
    by_cases htok : entry.token.token = token.token
    · simp only [htok, ne_eq, not_true_eq_false, if_false, decide_true, true_and]
      refine (held_insert (m.clearTimeout entry.timer) ..).trans ?_
      show Function.update m.held streamId (some token.token) = m.held
      rw [← htok, ← hheld, Function.update_eq_self]
    · simp [htok]

theorem release_held (streamId : String) (token : LockToken) (m : MemoryLockManager) :
    (m.release streamId token).1 = decide (m.held streamId = some token.token) ∧
      (m.release streamId token).2.held =
        if m.held streamId = some token.token then Function.update m.held streamId none
        else m.held := by
  rw [release]
  cases hentry : m.locks.lookup streamId with
  | none => simp [held, hentry]
  | some entry =>
    have hheld : m.held streamId = some entry.token.token := by rw [held, hentry]; rfl
    rw [hheld]
    by_cases htok : entry.token.token = token.token
    · simp only [htok, ne_eq, not_true_eq_false, if_false, decide_true, true_and, if_true]
      exact held_erase m streamId (m.clearTimeout entry.timer).timers
    · simp [htok]

theorem releaseAll_held (m : MemoryLockManager) (streamId : String) :
    m.releaseAll.held streamId = none := rfl

theorem fire_held {now : Date} {timer : Nat} {m m' : MemoryLockManager} {t : EvictionTimer}
    (ht : m.timers.lookup timer = some t) (h : m.fire now timer = some m') :
    m'.held = if m.held t.streamId = some t.expectedToken then
      Function.update m.held t.streamId none else m.held := by
  rw [fire, ht] at h
  simp only at h
  split at h
  · rw [Option.some.injEq] at h
    subst h
    rw [evictIfCurrent]
    cases hentry : m.locks.lookup t.streamId with
    | none =>
      have hsame : (m.clearTimeout timer).locks.lookup t.streamId = none := hentry
      have hheld : m.held t.streamId = none := by rw [held, hentry]; rfl
      simp only [hsame, hheld, reduceCtorEq, if_false]
      rfl
    | some entry =>
      have hsame : (m.clearTimeout timer).locks.lookup t.streamId = some entry := hentry
      have hheld : m.held t.streamId = some entry.token.token := by rw [held, hentry]; rfl
      simp only [hsame, hheld, Option.some.injEq]
      by_cases htok : entry.token.token = t.expectedToken
      · simp only [htok, if_true]
        exact held_erase m t.streamId (m.clearTimeout timer).timers
      · simp only [htok, if_false]
        rfl
  · cases h

end MemoryLockManager

/-! ## Locks in `stream_locks` -/

/-- A row without its `stream_id`: `owner` is `owner_id`, `token` is `owner_token`
and `expiry` is `expires_at`. -/
abbrev LockRow := Lease.Row String String Timestamptz

/-- The table by its primary key `stream_id`. -/
abbrev StreamLocks := Lease.Table String String String Timestamptz

structure PostgresLockManager where
  workerId : String
  ttlMs : Nat
deriving DecidableEq, Repr

namespace PostgresLockManager

/-- `INSERT … ON CONFLICT (stream_id) DO UPDATE SET … WHERE expires_at <= NOW() OR
owner_id = EXCLUDED.owner_id RETURNING …`: the rows it returns. -/
def upsert (NOW : Timestamptz) (streamId : String) (excluded : LockRow) (t : StreamLocks) :
    List LockRow × StreamLocks :=
  match t streamId with
  | none => ([excluded], Function.update t streamId (some excluded))
  | some row =>
    if row.expiry ≤ NOW ∨ row.owner = excluded.owner then
      ([excluded], Function.update t streamId (some excluded))
    else ([], t)

/-- `now` is the worker's clock at the call, which the statement carries. -/
def acquire (NOW : Timestamptz) (now : Date) (uuid streamId : String) (m : PostgresLockManager)
    (t : StreamLocks) : Option LockToken × StreamLocks :=
  let expiresAt := now.plus m.ttlMs
  match upsert NOW streamId ⟨m.workerId, uuid, expiresAt.toTimestamptz⟩ t with
  | ([], t') => (none, t')
  | (row :: _, t') =>
    if row.owner ≠ m.workerId then (none, t')
    else (some ⟨streamId, m.workerId, row.token, row.expiry.toDate, now⟩, t')

/-- `UPDATE stream_locks SET expires_at = … WHERE stream_id = … AND owner_id = …
AND owner_token = … AND expires_at > NOW()`: true when `rowCount` is 1. -/
def renew (NOW : Timestamptz) (now : Date) (streamId : String) (token : LockToken)
    (m : PostgresLockManager) (t : StreamLocks) : Bool × StreamLocks :=
  let expiresAt := now.plus m.ttlMs
  match t streamId with
  | none => (false, t)
  | some row =>
    if row.owner = m.workerId ∧ row.token = token.token ∧ NOW < row.expiry then
      (true, Function.update t streamId (some { row with expiry := expiresAt.toTimestamptz }))
    else (false, t)

/-- `DELETE FROM stream_locks WHERE stream_id = … AND owner_id = … AND
owner_token = …`: true when `rowCount` is 1. -/
def release (streamId : String) (token : LockToken) (m : PostgresLockManager) (t : StreamLocks) :
    Bool × StreamLocks :=
  match t streamId with
  | none => (false, t)
  | some row =>
    if row.owner = m.workerId ∧ row.token = token.token then (true, Function.update t streamId none)
    else (false, t)

/-- `DELETE FROM stream_locks WHERE owner_id = …`. -/
def releaseAll (m : PostgresLockManager) (t : StreamLocks) : StreamLocks :=
  fun streamId => match t streamId with
    | none => none
    | some row => if row.owner = m.workerId then none else some row

/-! ### The statements are lease operations -/

/-- The row that `acquire` inserts. -/
def claimed (now : Date) (uuid : String) (m : PostgresLockManager) : LockRow :=
  ⟨m.workerId, uuid, (now.plus m.ttlMs).toTimestamptz⟩

/-- The token that `acquire` returns for it. -/
def claimToken (now : Date) (uuid streamId : String) (m : PostgresLockManager) : LockToken :=
  ⟨streamId, m.workerId, uuid, now.plus m.ttlMs, now⟩

theorem upsert_eq (NOW : Timestamptz) (streamId : String) (excluded : LockRow) (t : StreamLocks) :
    upsert NOW streamId excluded t =
      (if (Lease.apply NOW t (.claim streamId excluded)).1 then [excluded] else [],
        (Lease.apply NOW t (.claim streamId excluded)).2) := by
  rw [upsert, Lease.apply]
  cases hrow : t streamId with
  | none => rfl
  | some row =>
    show (if row.expiry ≤ NOW ∨ row.owner = excluded.owner then _ else _) = _
    by_cases hfree : row.expiry ≤ NOW ∨ row.owner = excluded.owner
    · simp only [hfree, if_true]
    · simp only [hfree, if_false, Bool.false_eq_true]

theorem acquire_eq (NOW : Timestamptz) (now : Date) (uuid streamId : String)
    (m : PostgresLockManager) (t : StreamLocks) :
    m.acquire NOW now uuid streamId t =
      (if (Lease.apply NOW t (.claim streamId (m.claimed now uuid))).1 then
          some (m.claimToken now uuid streamId) else none,
        (Lease.apply NOW t (.claim streamId (m.claimed now uuid))).2) := by
  rw [acquire, upsert_eq, claimed, claimToken]
  cases (Lease.apply NOW t (.claim streamId
    ⟨m.workerId, uuid, (now.plus m.ttlMs).toTimestamptz⟩)).1 with
  | false => rfl
  | true => simp

theorem renew_eq (NOW : Timestamptz) (now : Date) (streamId : String) (token : LockToken)
    (m : PostgresLockManager) (t : StreamLocks) :
    m.renew NOW now streamId token t =
      Lease.apply NOW t
        (.extend streamId m.workerId token.token (now.plus m.ttlMs).toTimestamptz) := by
  rw [renew, Lease.apply]
  cases t streamId <;> rfl

theorem release_eq (NOW : Timestamptz) (streamId : String) (token : LockToken)
    (m : PostgresLockManager) (t : StreamLocks) :
    m.release streamId token t =
      Lease.apply NOW t (.drop streamId m.workerId token.token) := by
  rw [release, Lease.apply]
  cases t streamId <;> rfl

theorem releaseAll_eq (NOW : Timestamptz) (m : PostgresLockManager) (t : StreamLocks) :
    m.releaseAll t = (Lease.apply NOW t (.dropAll m.workerId)).2 := by
  funext streamId
  cases hrow : t streamId <;> simp only [releaseAll, Lease.apply, hrow]

theorem acquire_isSome_iff {NOW : Timestamptz} {now : Date} {uuid streamId : String}
    {m : PostgresLockManager} {t : StreamLocks} :
    (m.acquire NOW now uuid streamId t).1.isSome = true ↔ Lease.Free NOW t streamId m.workerId := by
  have hclaim : (Lease.apply NOW t (.claim streamId (m.claimed now uuid))).1 = true ↔
      Lease.Free NOW t streamId m.workerId := Lease.claim_granted_iff
  rw [acquire_eq, ← hclaim]
  cases (Lease.apply NOW t (.claim streamId (m.claimed now uuid))).1 <;> simp

theorem renew_iff {NOW : Timestamptz} {now : Date} {streamId : String} {token : LockToken}
    {m : PostgresLockManager} {t : StreamLocks} :
    (m.renew NOW now streamId token t).1 = true ↔
      Lease.Live NOW t streamId m.workerId token.token := by
  rw [renew_eq, Lease.extend_granted_iff]

theorem release_iff (NOW : Timestamptz) {streamId : String} {token : LockToken}
    {m : PostgresLockManager} {t : StreamLocks} :
    (m.release streamId token t).1 = true ↔ Lease.Holds t streamId m.workerId token.token := by
  rw [release_eq NOW, Lease.drop_granted_iff]

end PostgresLockManager

end Processing
end XStreamRoll
