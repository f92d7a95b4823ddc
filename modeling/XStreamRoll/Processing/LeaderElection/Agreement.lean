/-
The two lock managers side by side, each used by the same worker alone.

Both get the same calls.  A token is named by the order in which it was issued,
because the two draw different UUIDs.  When the clock advances, the timers of the
in-process manager that are due run before the next call.

A lease in the map corresponds to a row that has not expired, with a timer armed
for the moment when it will.  A row that has expired corresponds to nothing, since
the timer has evicted the entry, and it stays in the table until somebody
overwrites or deletes it.  That row is the only thing the answers can differ on.
-/
import XStreamRoll.Lists
import XStreamRoll.Processing.LeaderElection.Timers

namespace XStreamRoll
namespace Processing
namespace Agreement

open Transition

structure Backends where
  now : Date
  memory : MemoryLockManager
  /-- The tokens issued by `memory`, in order. -/
  memoryTokens : List LockToken
  postgres : PostgresLockManager
  table : StreamLocks
  /-- The tokens issued by `postgres`, in order. -/
  postgresTokens : List LockToken

inductive Call where
  | acquire (memoryUuid postgresUuid streamId : String)
  | renew (streamId : String) (i : Nat)
  | release (streamId : String) (i : Nat)
  | releaseAll

/-- The answers of the two managers: whether a token was issued, or the boolean. -/
structure Answers where
  memory : Bool
  postgres : Bool
deriving DecidableEq, Repr

inductive Action where
  | call (c : Call)
  | advance (ms : Nat)

namespace Backends

def initial (workerId : String) (ttlMs : Nat) (now : Date) : Backends where
  now := now
  memory := .create workerId ttlMs
  memoryTokens := []
  postgres := ⟨workerId, ttlMs⟩
  table := fun _ => none
  postgresTokens := []

/-- The same call to both.  A UUID is new, and a token has been issued. -/
def call (b : Backends) : Call → Option (Answers × Backends)
  | .acquire memoryUuid postgresUuid streamId =>
    if memoryUuid ∈ b.memoryTokens.map (·.token) ∨
        postgresUuid ∈ b.postgresTokens.map (·.token) then none
    else
      let (m, memory) := b.memory.acquire b.now memoryUuid streamId
      let (p, table) :=
        b.postgres.acquire b.now.toTimestamptz b.now postgresUuid streamId b.table
      some (⟨m.isSome, p.isSome⟩, { b with
        memory := memory, memoryTokens := b.memoryTokens ++ m.toList
        table := table, postgresTokens := b.postgresTokens ++ p.toList })
  | .renew streamId i =>
    match b.memoryTokens[i]?, b.postgresTokens[i]? with
    | some m, some p =>
      let (renewed, memory) := b.memory.renew b.now streamId m
      let (renewed', table) := b.postgres.renew b.now.toTimestamptz b.now streamId p b.table
      some (⟨renewed, renewed'⟩, { b with memory := memory, table := table })
    | _, _ => none
  | .release streamId i =>
    match b.memoryTokens[i]?, b.postgresTokens[i]? with
    | some m, some p =>
      let (released, memory) := b.memory.release streamId m
      let (released', table) := b.postgres.release streamId p b.table
      some (⟨released, released'⟩, { b with memory := memory, table := table })
    | _, _ => none
  | .releaseAll =>
    some (⟨true, true⟩, { b with
      memory := b.memory.releaseAll, table := b.postgres.releaseAll b.table })

/-- Every timer in the list that is due runs. -/
def fireAll (now : Date) (timers : List Nat) (m : MemoryLockManager) : MemoryLockManager :=
  timers.foldl (fun m timer => (m.fire now timer).getD m) m

def advance (ms : Nat) (b : Backends) : Backends :=
  let now := b.now.plus ms
  { b with now := now, memory := fireAll now b.memory.timers.keys b.memory }

def step (b : Backends) : Action → Option Backends
  | .call c => (b.call c).map (·.2)
  | .advance ms => some (b.advance ms)

/-- The call releases a token whose row is still in the table, but has expired. -/
def Lapsed (b : Backends) : Call → Prop
  | .release streamId i => ∃ row p, b.table streamId = some row ∧ b.postgresTokens[i]? = some p ∧
      row.token = p.token ∧ row.expiry ≤ b.now.toTimestamptz
  | _ => False

/-! ## The correspondence -/

/-- The token with this UUID in one list and that UUID in the other. -/
def Issued (b : Backends) (memoryUuid postgresUuid : String) : Prop :=
  ∃ (i : Nat) (m p : LockToken), b.memoryTokens[i]? = some m ∧ b.postgresTokens[i]? = some p ∧
    m.token = memoryUuid ∧ p.token = postgresUuid

/-- The entry of the map has its row and its timer. -/
structure Backed (b : Backends) (streamId : String) (entry : MemoryLockEntry) : Prop where
  owner : entry.token.workerId = b.postgres.workerId
  timer : b.memory.timers.lookup entry.timer =
    some ⟨streamId, entry.token.token, entry.token.expiresAt⟩
  row : ∃ uuid, b.Issued entry.token.token uuid ∧
    b.table streamId = some ⟨b.postgres.workerId, uuid, entry.token.expiresAt.toTimestamptz⟩

structure Corresponds (b : Backends) : Prop where
  worker : b.memory.workerId = b.postgres.workerId
  ttl : b.memory.ttlMs = b.postgres.ttlMs
  delay : Date.timeoutDelay b.postgres.ttlMs = b.postgres.ttlMs
  positive : 0 < b.postgres.ttlMs
  length : b.memoryTokens.length = b.postgresTokens.length
  memoryUuids : (b.memoryTokens.map (·.token)).Nodup
  postgresUuids : (b.postgresTokens.map (·.token)).Nodup
  issuer : ∀ m ∈ b.memoryTokens, m.workerId = b.postgres.workerId
  backed : ∀ streamId entry, b.memory.locks.lookup streamId = some entry → b.Backed streamId entry
  /-- A row without an entry is the worker's, and has expired. -/
  expired : ∀ streamId row, b.table streamId = some row → b.memory.locks.lookup streamId = none →
    row.owner = b.postgres.workerId ∧ row.expiry ≤ b.now.toTimestamptz
  /-- An armed timer is the one of an entry. -/
  armed : ∀ timer t, b.memory.timers.lookup timer = some t → timer < b.memory.nextTimer ∧
    ∃ entry, b.memory.locks.lookup t.streamId = some entry ∧ entry.timer = timer

/-- The leases in the map are live, apart from those whose timers are still to be looked at. -/
def LiveBut (timers : List Nat) (b : Backends) : Prop :=
  ∀ streamId entry, b.memory.locks.lookup streamId = some entry →
    b.now < entry.token.expiresAt ∨ entry.timer ∈ timers

theorem initial_corresponds (workerId : String) {ttlMs : Nat} (hpos : 1 ≤ ttlMs)
    (hmax : ttlMs ≤ 2147483647) (now : Date) :
    (initial workerId ttlMs now).Corresponds ∧ (initial workerId ttlMs now).LiveBut [] := by
  have hdelay : Date.timeoutDelay ttlMs = ttlMs := if_neg (by omega)
  refine ⟨⟨rfl, rfl, hdelay, hpos, rfl, List.nodup_nil, List.nodup_nil, ?_, ?_, ?_, ?_⟩, ?_⟩
  · intro m hm
    cases hm
  · intro streamId entry h
    cases h
  · intro streamId row h
    cases h
  · intro timer t h
    cases h
  · intro streamId entry h
    cases h

/-- Which token it is can be seen from either UUID. -/
theorem Corresponds.issued_iff {b : Backends} (h : b.Corresponds) {memoryUuid postgresUuid : String}
    (hissued : b.Issued memoryUuid postgresUuid) {i : Nat} {m p : LockToken}
    (hm : b.memoryTokens[i]? = some m) (hp : b.postgresTokens[i]? = some p) :
    memoryUuid = m.token ↔ postgresUuid = p.token := by
  obtain ⟨j, m', p', hm', hp', rfl, rfl⟩ := hissued
  have hindex : ∀ {l : List LockToken}, (l.map (·.token)).Nodup → ∀ {x y : LockToken},
      l[j]? = some x → l[i]? = some y → (x.token = y.token ↔ j = i) := by
    intro l hnodup x y hx hy
    constructor
    · intro heq
      have hx' : (l.map (·.token))[j]? = some x.token := by rw [List.getElem?_map, hx]; rfl
      have hy' : (l.map (·.token))[i]? = some x.token := by rw [List.getElem?_map, hy, heq]; rfl
      exact (List.getElem?_inj (List.getElem?_eq_some_iff.mp hx').1 hnodup).mp (hx'.trans hy'.symm)
    · rintro rfl
      rw [hx, Option.some.injEq] at hy
      rw [hy]
  rw [hindex h.memoryUuids hm' hm, hindex h.postgresUuids hp' hp]

/-! ## Locking, unlocking, and the passing of time -/

/-- The manager without the timer of the entry for this stream. -/
def cleared (streamId : String) (m : MemoryLockManager) : MemoryLockManager :=
  match m.locks.lookup streamId with
  | none => m
  | some entry => m.clearTimeout entry.timer

theorem Corresponds.cleared_timers {b : Backends} (h : b.Corresponds) (streamId : String)
    (timer : Nat) (t : EvictionTimer) :
    (cleared streamId b.memory).timers.lookup timer = some t ↔
      b.memory.timers.lookup timer = some t ∧ t.streamId ≠ streamId := by
  rw [cleared]
  cases hentry : b.memory.locks.lookup streamId with
  | none =>
    constructor
    · intro ht
      refine ⟨ht, ?_⟩
      rintro rfl
      obtain ⟨-, entry, hlock, -⟩ := h.armed timer t ht
      rw [hentry] at hlock
      cases hlock
    · exact fun ht => ht.1
  | some entry =>
    show (b.memory.timers.erase entry.timer).lookup timer = some t ↔ _
    by_cases he : timer = entry.timer
    · subst he
      rw [AList.lookup_erase]
      constructor
      · intro ht
        cases ht
      · rintro ⟨ht, hne⟩
        rw [(h.backed streamId entry hentry).timer, Option.some.injEq] at ht
        exact absurd (by rw [← ht]) hne
    · rw [AList.lookup_erase_ne he]
      constructor
      · intro ht
        refine ⟨ht, ?_⟩
        rintro rfl
        obtain ⟨-, entry', hlock, htimer⟩ := h.armed timer t ht
        rw [hentry, Option.some.injEq] at hlock
        exact he (hlock ▸ htimer.symm)
      · exact fun ht => ht.1

@[simp] theorem cleared_locks (streamId : String) (m : MemoryLockManager) :
    (cleared streamId m).locks = m.locks := by
  rw [cleared]
  split <;> rfl

@[simp] theorem cleared_nextTimer (streamId : String) (m : MemoryLockManager) :
    (cleared streamId m).nextTimer = m.nextTimer := by
  rw [cleared]
  split <;> rfl

@[simp] theorem cleared_workerId (streamId : String) (m : MemoryLockManager) :
    (cleared streamId m).workerId = m.workerId := by
  rw [cleared]
  split <;> rfl

@[simp] theorem cleared_ttlMs (streamId : String) (m : MemoryLockManager) :
    (cleared streamId m).ttlMs = m.ttlMs := by
  rw [cleared]
  split <;> rfl

/-- Both sides give the stream a lease of the full length. -/
theorem Corresponds.lock {b b' : Backends} (h : b.Corresponds) (hlive : b.LiveBut [])
    {streamId uuid : String} {k : LockToken}
    (hnow : b'.now = b.now) (hpostgres : b'.postgres = b.postgres)
    (hmemory : b'.memory = (cleared streamId b.memory).setLock b.now streamId k)
    (htable : b'.table = Function.update b.table streamId
      (some ⟨b.postgres.workerId, uuid, (b.now.plus b.postgres.ttlMs).toTimestamptz⟩))
    (hworker : k.workerId = b.postgres.workerId)
    (hexpires : k.expiresAt = b.now.plus b.postgres.ttlMs)
    (hissued : b'.Issued k.token uuid)
    (hkeeps : ∀ u v, b.Issued u v → b'.Issued u v)
    (hlength : b'.memoryTokens.length = b'.postgresTokens.length)
    (hmemoryUuids : (b'.memoryTokens.map (·.token)).Nodup)
    (hpostgresUuids : (b'.postgresTokens.map (·.token)).Nodup)
    (hissuer : ∀ m ∈ b'.memoryTokens, m.workerId = b.postgres.workerId) :
    b'.Corresponds ∧ b'.LiveBut [] := by
  have hlocks : b'.memory.locks =
      b.memory.locks.insert streamId ⟨k, b.memory.nextTimer⟩ := by
    rw [hmemory]
    show (cleared streamId b.memory).locks.insert streamId
      ⟨k, (cleared streamId b.memory).nextTimer⟩ = _
    rw [cleared_locks, cleared_nextTimer]
  have htimers : b'.memory.timers = (cleared streamId b.memory).timers.insert b.memory.nextTimer
      ⟨streamId, k.token, k.expiresAt⟩ := by
    rw [hmemory, hexpires]
    show (cleared streamId b.memory).timers.insert (cleared streamId b.memory).nextTimer
      ⟨streamId, k.token,
        b.now.plus (Date.timeoutDelay (cleared streamId b.memory).ttlMs)⟩ = _
    rw [cleared_nextTimer, cleared_ttlMs, h.ttl, h.delay]
  have hnext : b'.memory.nextTimer = b.memory.nextTimer + 1 := by
    rw [hmemory]
    show (cleared streamId b.memory).nextTimer + 1 = _
    rw [cleared_nextTimer]
  have hfresh : ∀ timer t, (cleared streamId b.memory).timers.lookup timer = some t →
      timer < b.memory.nextTimer := by
    intro timer t ht
    exact (h.armed timer t ((h.cleared_timers streamId timer t).mp ht).1).1
  refine ⟨⟨?_, ?_, ?_, ?_, hlength, hmemoryUuids, hpostgresUuids, hpostgres ▸ hissuer, ?_, ?_,
    ?_⟩, ?_⟩
  · rw [hmemory, hpostgres]
    show (cleared streamId b.memory).workerId = _
    rw [cleared_workerId, h.worker]
  · rw [hmemory, hpostgres]
    show (cleared streamId b.memory).ttlMs = _
    rw [cleared_ttlMs, h.ttl]
  · rw [hpostgres]
    exact h.delay
  · rw [hpostgres]
    exact h.positive
  · intro s entry hentry
    rw [hlocks] at hentry
    by_cases hs : s = streamId
    · subst hs
      rw [AList.lookup_insert, Option.some.injEq] at hentry
      subst hentry
      refine ⟨by rw [hpostgres]; exact hworker, ?_, uuid, hissued, ?_⟩
      · rw [htimers, AList.lookup_insert]
      · rw [htable, hpostgres, Function.update_self, hexpires]
    · rw [AList.lookup_insert_ne hs] at hentry
      obtain ⟨howner, htimer, v, hv, hrow⟩ := h.backed s entry hentry
      refine ⟨by rw [hpostgres]; exact howner, ?_, v, hkeeps _ _ hv, ?_⟩
      · have hkept := (h.cleared_timers streamId entry.timer _).mpr ⟨htimer, hs⟩
        have hne : entry.timer ≠ b.memory.nextTimer := Nat.ne_of_lt (hfresh _ _ hkept)
        rw [htimers, AList.lookup_insert_ne hne]
        exact hkept
      · rw [htable, hpostgres, Function.update_of_ne hs]
        exact hrow
  · intro s row hrow hnone
    rw [hlocks] at hnone
    by_cases hs : s = streamId
    · subst hs
      rw [AList.lookup_insert] at hnone
      cases hnone
    · rw [AList.lookup_insert_ne hs] at hnone
      rw [htable, Function.update_of_ne hs] at hrow
      rw [hpostgres, hnow]
      exact h.expired s row hrow hnone
  · intro timer t ht
    rw [htimers] at ht
    rw [hnext]
    by_cases he : timer = b.memory.nextTimer
    · subst he
      rw [AList.lookup_insert, Option.some.injEq] at ht
      subst ht
      refine ⟨Nat.lt_succ_self _, ⟨k, b.memory.nextTimer⟩, ?_, rfl⟩
      rw [hlocks, AList.lookup_insert]
    · rw [AList.lookup_insert_ne he] at ht
      obtain ⟨hold, hne⟩ := (h.cleared_timers streamId timer t).mp ht
      obtain ⟨hlt, entry, hentry, htimer⟩ := h.armed timer t hold
      refine ⟨Nat.lt_succ_of_lt hlt, entry, ?_, htimer⟩
      rw [hlocks, AList.lookup_insert_ne hne]
      exact hentry
  · intro s entry hentry
    rw [hlocks] at hentry
    rw [hnow]
    by_cases hs : s = streamId
    · subst hs
      rw [AList.lookup_insert, Option.some.injEq] at hentry
      subst hentry
      apply Or.inl
      have hpos := h.positive
      rw [hexpires, Date.lt_iff]
      simp only [Date.plus]
      omega
    · rw [AList.lookup_insert_ne hs] at hentry
      exact hlive s entry hentry

/-- Both sides drop the lease of the stream, or there is only an expired row to delete. -/
theorem Corresponds.unlock {b b' : Backends} (h : b.Corresponds) {timers : List Nat}
    (hlive : b.LiveBut timers) (streamId : String)
    (hnow : b'.now = b.now) (hpostgres : b'.postgres = b.postgres)
    (hmemoryTokens : b'.memoryTokens = b.memoryTokens)
    (hpostgresTokens : b'.postgresTokens = b.postgresTokens)
    (hmemory : b'.memory = { cleared streamId b.memory with
      locks := b.memory.locks.erase streamId })
    (hrows : ∀ s, s ≠ streamId → b'.table s = b.table s)
    (hrow : ∀ row, b'.table streamId = some row →
      row.owner = b.postgres.workerId ∧ row.expiry ≤ b.now.toTimestamptz) :
    b'.Corresponds ∧ b'.LiveBut timers := by
  have hlocks : b'.memory.locks = b.memory.locks.erase streamId := by rw [hmemory]
  have htimers : b'.memory.timers = (cleared streamId b.memory).timers := by rw [hmemory]
  have hissued : ∀ u v, b.Issued u v → b'.Issued u v := by
    rintro u v ⟨i, m, p, hm, hp, rfl, rfl⟩
    exact ⟨i, m, p, by rw [hmemoryTokens, hm], by rw [hpostgresTokens, hp], rfl, rfl⟩
  refine ⟨⟨?_, ?_, ?_, ?_, ?_, ?_, ?_, ?_, ?_, ?_, ?_⟩, ?_⟩
  · rw [hmemory, hpostgres]
    exact (cleared_workerId streamId b.memory).trans h.worker
  · rw [hmemory, hpostgres]
    exact (cleared_ttlMs streamId b.memory).trans h.ttl
  · rw [hpostgres]
    exact h.delay
  · rw [hpostgres]
    exact h.positive
  · rw [hmemoryTokens, hpostgresTokens]
    exact h.length
  · rw [hmemoryTokens]
    exact h.memoryUuids
  · rw [hpostgresTokens]
    exact h.postgresUuids
  · rw [hmemoryTokens, hpostgres]
    exact h.issuer
  · intro s entry hentry
    rw [hlocks] at hentry
    have hs : s ≠ streamId := by
      rintro rfl
      rw [AList.lookup_erase] at hentry
      cases hentry
    rw [AList.lookup_erase_ne hs] at hentry
    obtain ⟨howner, htimer, v, hv, hold⟩ := h.backed s entry hentry
    refine ⟨by rw [hpostgres]; exact howner, ?_, v, hissued _ _ hv, ?_⟩
    · rw [htimers]
      exact (h.cleared_timers streamId entry.timer _).mpr ⟨htimer, hs⟩
    · rw [hpostgres, hrows s hs]
      exact hold
  · intro s row hs hnone
    rw [hpostgres, hnow]
    by_cases he : s = streamId
    · subst he
      exact hrow row hs
    · rw [hlocks, AList.lookup_erase_ne he] at hnone
      rw [hrows s he] at hs
      exact h.expired s row hs hnone
  · intro timer t ht
    rw [htimers] at ht
    obtain ⟨hold, hne⟩ := (h.cleared_timers streamId timer t).mp ht
    obtain ⟨hlt, entry, hentry, htimer⟩ := h.armed timer t hold
    refine ⟨?_, entry, ?_, htimer⟩
    · rw [hmemory]
      exact (cleared_nextTimer streamId b.memory).symm ▸ hlt
    · rw [hlocks, AList.lookup_erase_ne hne]
      exact hentry
  · intro s entry hentry
    rw [hlocks] at hentry
    have hs : s ≠ streamId := by
      rintro rfl
      rw [AList.lookup_erase] at hentry
      cases hentry
    rw [AList.lookup_erase_ne hs] at hentry
    rw [hnow]
    exact hlive s entry hentry

/-! ## One lemma for each call -/

/-- Every row is the worker's. -/
theorem Corresponds.owner {b : Backends} (h : b.Corresponds) {streamId : String} {row : LockRow}
    (hrow : b.table streamId = some row) : row.owner = b.postgres.workerId := by
  cases hentry : b.memory.locks.lookup streamId with
  | none => exact (h.expired streamId row hrow hentry).1
  | some entry =>
    obtain ⟨-, -, uuid, -, hbacked⟩ := h.backed streamId entry hentry
    rw [hrow, Option.some.injEq] at hbacked
    rw [hbacked]

theorem Corresponds.memory_acquire {b : Backends} (h : b.Corresponds) (uuid streamId : String) :
    let token : LockToken := ⟨streamId, b.postgres.workerId, uuid,
      b.now.plus b.postgres.ttlMs, b.now⟩
    b.memory.acquire b.now uuid streamId =
      (some token, (cleared streamId b.memory).setLock b.now streamId token) := by
  simp only [MemoryLockManager.acquire, cleared, h.worker, h.ttl]
  cases hentry : b.memory.locks.lookup streamId with
  | none => rfl
  | some entry =>
    have howner := (h.backed streamId entry hentry).owner
    simp only [howner, ne_eq, not_true_eq_false, and_false, if_false]

theorem Corresponds.postgres_acquire {b : Backends} (h : b.Corresponds) (uuid streamId : String) :
    b.postgres.acquire b.now.toTimestamptz b.now uuid streamId b.table =
      (some (b.postgres.claimToken b.now uuid streamId),
        Function.update b.table streamId (some (b.postgres.claimed b.now uuid))) := by
  rw [PostgresLockManager.acquire_eq, Lease.apply]
  cases hrow : b.table streamId with
  | none => rfl
  | some row =>
    have hfree : row.expiry ≤ b.now.toTimestamptz ∨
        row.owner = (b.postgres.claimed b.now uuid).owner := .inr (h.owner hrow)
    simp only [hfree, if_true]

theorem Corresponds.acquire {b b' : Backends} {answers : Answers}
    {memoryUuid postgresUuid streamId : String} (h : b.Corresponds) (hlive : b.LiveBut [])
    (hs : b.call (.acquire memoryUuid postgresUuid streamId) = some (answers, b')) :
    answers = ⟨true, true⟩ ∧ b'.Corresponds ∧ b'.LiveBut [] := by
  simp only [call] at hs
  split at hs
  · cases hs
  · next hfresh =>
    rw [not_or] at hfresh
    rw [h.memory_acquire, h.postgres_acquire] at hs
    simp only [Option.some.injEq, Prod.mk.injEq] at hs
    obtain ⟨rfl, rfl⟩ := hs
    refine ⟨rfl, ?_⟩
    refine h.lock hlive rfl rfl rfl rfl rfl rfl
      ⟨b.memoryTokens.length, _, b.postgres.claimToken b.now postgresUuid streamId,
        List.getElem?_concat_length, ?_, rfl, rfl⟩ ?_ ?_
      (nodup_concat h.memoryUuids fun _ hold heq => hfresh.1 (List.mem_map.mpr ⟨_, hold, heq⟩))
      (nodup_concat h.postgresUuids fun _ hold heq => hfresh.2 (List.mem_map.mpr ⟨_, hold, heq⟩)) ?_
    · rw [h.length]
      exact List.getElem?_concat_length
    · rintro u v ⟨i, m, p, hm, hp, hu, hv⟩
      refine ⟨i, m, p, ?_, ?_, hu, hv⟩
      · rw [List.getElem?_append_left (List.getElem?_eq_some_iff.mp hm).1, hm]
      · rw [List.getElem?_append_left (List.getElem?_eq_some_iff.mp hp).1, hp]
    · show (b.memoryTokens ++ [_]).length = (b.postgresTokens ++ [_]).length
      rw [List.length_append, List.length_append, h.length]
      rfl
    · intro m hm
      rcases List.mem_append.mp hm with hold | hnew
      · exact h.issuer m hold
      · rw [Option.toList_some, List.mem_singleton] at hnew
        rw [hnew]

theorem Corresponds.renew {b b' : Backends} {answers : Answers} {streamId : String} {i : Nat}
    (h : b.Corresponds) (hlive : b.LiveBut [])
    (hs : b.call (.renew streamId i) = some (answers, b')) :
    answers.memory = answers.postgres ∧ b'.Corresponds ∧ b'.LiveBut [] := by
  simp only [call] at hs
  split at hs
  · next m p hm hp =>
    simp only [Option.some.injEq, Prod.mk.injEq] at hs
    obtain ⟨rfl, rfl⟩ := hs
    simp only [MemoryLockManager.renew, PostgresLockManager.renew]
    cases hentry : b.memory.locks.lookup streamId with
    | none =>
      -- At most an expired row is there, which is not renewed.
      cases hrow : b.table streamId with
      | none => exact ⟨rfl, h, hlive⟩
      | some row =>
        have hexpired := (h.expired streamId row hrow hentry).2
        simp only [not_lt_of_ge hexpired, and_false, if_false]
        exact ⟨trivial, h, hlive⟩
    | some entry =>
      obtain ⟨howner, htimer, uuid, hissued, hrow⟩ := h.backed streamId entry hentry
      have hsame := h.issued_iff hissued hm hp
      have hunexpired : b.now.toTimestamptz < entry.token.expiresAt.toTimestamptz := by
        rcases hlive streamId entry hentry with hlt | hin
        · rw [Timestamptz.lt_iff]
          rw [Date.lt_iff] at hlt
          simp only [Date.toTimestamptz]
          omega
        · cases hin
      by_cases htoken : entry.token.token = m.token
      · have huuid := hsame.mp htoken
        simp only [hrow, htoken, huuid, ne_eq, not_true_eq_false, if_false, hunexpired, and_self,
          if_true, true_and]
        have hclear : cleared streamId b.memory = b.memory.clearTimeout entry.timer := by
          rw [cleared, hentry]
        let renewed : LockToken := { m with expiresAt := b.now.plus b.memory.ttlMs }
        have hlocked : renewed.expiresAt = b.now.plus b.postgres.ttlMs := by rw [← h.ttl]
        refine h.lock (k := renewed) hlive rfl rfl (by rw [hclear]) rfl (h.issuer m (List.mem_of_getElem? hm))
          hlocked ⟨i, m, p, hm, hp, rfl, rfl⟩ (fun u v huv => huv) h.length h.memoryUuids
          h.postgresUuids h.issuer
      · have huuid : uuid ≠ p.token := fun he => htoken (hsame.mpr he)
        simp only [hrow, htoken, huuid, ne_eq, not_false_eq_true, if_true, and_false, false_and,
          if_false]
        exact ⟨trivial, h, hlive⟩
  · cases hs

theorem erase_absent {m : MemoryLockManager} {streamId : String}
    (h : m.locks.lookup streamId = none) : m.locks.erase streamId = m.locks := by
  rw [AList.lookup_eq_none] at h
  apply AList.ext
  exact List.kerase_of_notMem_keys h

/-- The answers to a release agree, unless its row is all that is left of an expired lease. -/
theorem Corresponds.release {b b' : Backends} {answers : Answers} {streamId : String} {i : Nat}
    (h : b.Corresponds) (hlive : b.LiveBut [])
    (hs : b.call (.release streamId i) = some (answers, b')) :
    (b.Lapsed (.release streamId i) ∧ answers = ⟨false, true⟩ ∨
      ¬b.Lapsed (.release streamId i) ∧ answers.memory = answers.postgres) ∧
    b'.Corresponds ∧ b'.LiveBut [] := by
  simp only [call] at hs
  split at hs
  · next m p hm hp =>
    simp only [Option.some.injEq, Prod.mk.injEq] at hs
    obtain ⟨rfl, rfl⟩ := hs
    simp only [MemoryLockManager.release, PostgresLockManager.release]
    cases hentry : b.memory.locks.lookup streamId with
    | none =>
      have hsame : b.memory = { cleared streamId b.memory with
          locks := b.memory.locks.erase streamId } := by
        rw [erase_absent hentry, cleared, hentry]
      cases hrow : b.table streamId with
      | none =>
        refine ⟨.inr ⟨?_, rfl⟩, h, hlive⟩
        rintro ⟨row, p', hrow', -⟩
        rw [hrow] at hrow'
        cases hrow'
      | some row =>
        obtain ⟨howner, hexpired⟩ := h.expired streamId row hrow hentry
        by_cases htoken : row.token = p.token
        · simp only [howner, htoken, and_self, if_true]
          refine ⟨.inl ⟨⟨row, p, hrow, hp, htoken, hexpired⟩, trivial⟩, ?_⟩
          refine h.unlock hlive streamId rfl rfl rfl rfl hsame ?_ ?_
          · exact fun s hs => Function.update_of_ne hs _ _
          · intro row' hrow'
            cases (Function.update_self streamId none b.table).symm.trans hrow'
        · simp only [htoken, and_false, if_false]
          refine ⟨.inr ⟨?_, trivial⟩, h, hlive⟩
          rintro ⟨row', p', hrow', hp', htoken', -⟩
          rw [hrow, Option.some.injEq] at hrow'
          rw [hp, Option.some.injEq] at hp'
          subst hrow' hp'
          exact htoken htoken'
    | some entry =>
      obtain ⟨howner, htimer, uuid, hissued, hrow⟩ := h.backed streamId entry hentry
      have hsame := h.issued_iff hissued hm hp
      have hlapsed : ¬b.Lapsed (.release streamId i) := by
        rintro ⟨row, p', hrow', -, -, hexpired⟩
        rw [hrow, Option.some.injEq] at hrow'
        rw [← hrow', Timestamptz.le_iff] at hexpired
        rcases hlive streamId entry hentry with hlt | hin
        · rw [Date.lt_iff] at hlt
          simp only [Date.toTimestamptz] at hexpired
          omega
        · cases hin
      by_cases htoken : entry.token.token = m.token
      · have huuid := hsame.mp htoken
        simp only [hrow, htoken, huuid, ne_eq, not_true_eq_false, if_false, and_self, if_true]
        refine ⟨.inr ⟨hlapsed, trivial⟩, ?_⟩
        refine h.unlock hlive streamId rfl rfl rfl rfl ?_ ?_ ?_
        · rw [cleared, hentry]
          rfl
        · exact fun s hs => Function.update_of_ne hs _ _
        · intro row' hrow'
          cases (Function.update_self streamId none b.table).symm.trans hrow'
      · have huuid : uuid ≠ p.token := fun he => htoken (hsame.mpr he)
        simp only [hrow, htoken, huuid, ne_eq, not_false_eq_true, if_true, and_false, if_false]
        exact ⟨.inr ⟨hlapsed, trivial⟩, h, hlive⟩
  · cases hs

theorem Corresponds.releaseAll {b b' : Backends} {answers : Answers} (h : b.Corresponds)
    (hs : b.call .releaseAll = some (answers, b')) :
    answers = ⟨true, true⟩ ∧ b'.Corresponds ∧ b'.LiveBut [] := by
  simp only [call, Option.some.injEq, Prod.mk.injEq] at hs
  obtain ⟨rfl, rfl⟩ := hs
  have hempty : ∀ streamId, b.postgres.releaseAll b.table streamId = none := by
    intro streamId
    simp only [PostgresLockManager.releaseAll]
    cases hrow : b.table streamId with
    | none => rfl
    | some row => exact if_pos (h.owner hrow)
  refine ⟨rfl, ⟨h.worker, h.ttl, h.delay, h.positive, h.length, h.memoryUuids, h.postgresUuids,
    h.issuer, ?_, ?_, ?_⟩, ?_⟩
  · intro streamId entry hentry
    cases hentry
  · intro streamId row hrow
    have hnone := hempty streamId
    simp only at hrow
    rw [hnone] at hrow
    cases hrow
  · intro timer t ht
    -- Every timer is the one of an entry, and those are cleared.
    obtain ⟨hold, hne⟩ := MemoryLockManager.lookup_clearAll _ _ ht
    obtain ⟨-, entry, hentry, htimer⟩ := h.armed timer t hold
    exact absurd htimer (hne ⟨t.streamId, entry⟩ (AList.mem_lookup_iff.mp hentry))
  · intro streamId entry hentry
    cases hentry

/-- A timer that is looked at runs if it is due. -/
theorem Corresponds.fire {b : Backends} {timer : Nat} {timers : List Nat} (h : b.Corresponds)
    (hlive : b.LiveBut (timer :: timers)) :
    let b' := { b with memory := (b.memory.fire b.now timer).getD b.memory }
    b'.Corresponds ∧ b'.LiveBut timers := by
  have hskip : (∀ streamId entry, b.memory.locks.lookup streamId = some entry →
      entry.timer = timer → b.now < entry.token.expiresAt) → b.LiveBut timers := by
    intro hfresh streamId entry hentry
    rcases hlive streamId entry hentry with hlt | hin
    · exact .inl hlt
    · rcases List.mem_cons.mp hin with heq | hin
      · exact .inl (hfresh streamId entry hentry heq)
      · exact .inr hin
  cases ht : b.memory.timers.lookup timer with
  | none =>
    have hnone : b.memory.fire b.now timer = none := by rw [MemoryLockManager.fire, ht]
    simp only [hnone, Option.getD_none]
    refine ⟨h, hskip ?_⟩
    intro streamId entry hentry heq
    have hbacked := (h.backed streamId entry hentry).timer
    rw [heq, ht] at hbacked
    cases hbacked
  | some t =>
    obtain ⟨-, entry, hentry, htimer⟩ := h.armed timer t ht
    have hbacked := h.backed t.streamId entry hentry
    have hsame := hbacked.timer
    rw [htimer, ht, Option.some.injEq] at hsame
    by_cases hdue : t.due ≤ b.now
    · have hmemory : b.memory.fire b.now timer = some { cleared t.streamId b.memory with
          locks := b.memory.locks.erase t.streamId } := by
        have htoken : entry.token.token = t.expectedToken := by rw [hsame]
        have hlookup : (b.memory.clearTimeout timer).locks.lookup t.streamId = some entry := hentry
        simp only [MemoryLockManager.fire, ht, hdue, if_true, MemoryLockManager.evictIfCurrent,
          hlookup, htoken, cleared, hentry, htimer]
        rfl
      simp only [hmemory, Option.getD_some]
      let evicted : Backends := { b with memory := { cleared t.streamId b.memory with
        locks := b.memory.locks.erase t.streamId } }
      obtain ⟨hcorresponds, hlive'⟩ : evicted.Corresponds ∧ evicted.LiveBut (timer :: timers) := by
        refine h.unlock hlive t.streamId rfl rfl rfl rfl rfl (fun _ _ => rfl) ?_
        intro row hrow
        obtain ⟨-, -, uuid, -, hbackedRow⟩ := hbacked
        have hdue' : entry.token.expiresAt ≤ b.now := by
          rw [hsame] at hdue
          exact hdue
        have hrow' : b.table t.streamId = some row := hrow
        rw [hbackedRow, Option.some.injEq] at hrow'
        subst hrow'
        refine ⟨rfl, ?_⟩
        rw [Timestamptz.le_iff]
        rw [Date.le_iff] at hdue'
        simp only [Date.toTimestamptz]
        omega
      refine ⟨hcorresponds, ?_⟩
      intro streamId entry' hentry'
      rcases hlive' streamId entry' hentry' with hlt | hin
      · exact .inl hlt
      · rcases List.mem_cons.mp hin with heq | hin
        · -- The timer belonged to the entry that was evicted.
          have hother := (hcorresponds.backed streamId entry' hentry').timer
          rw [heq] at hother
          obtain ⟨hold, hne⟩ := (h.cleared_timers t.streamId timer _).mp hother
          rw [ht, Option.some.injEq] at hold
          exact absurd (by rw [hold]) hne
        · exact .inr hin
    · have hnone : b.memory.fire b.now timer = none := by
        simp only [MemoryLockManager.fire, ht, hdue, if_false]
      simp only [hnone, Option.getD_none]
      refine ⟨h, hskip ?_⟩
      intro streamId entry' hentry' heq
      have hother := (h.backed streamId entry' hentry').timer
      rw [heq, ht, Option.some.injEq] at hother
      rw [hother] at hdue
      exact lt_of_not_ge hdue

theorem Corresponds.fireAll {timers : List Nat} {b : Backends} (h : b.Corresponds)
    (hlive : b.LiveBut timers) :
    let b' := { b with memory := fireAll b.now timers b.memory }
    b'.Corresponds ∧ b'.LiveBut [] := by
  induction timers generalizing b with
  | nil => exact ⟨h, hlive⟩
  | cons timer timers ih =>
    obtain ⟨hfired, hrest⟩ := h.fire hlive
    exact ih hfired hrest

theorem Corresponds.advance {b : Backends} (h : b.Corresponds) (ms : Nat) :
    (b.advance ms).Corresponds ∧ (b.advance ms).LiveBut [] := by
  have hlater : { b with now := b.now.plus ms }.Corresponds := by
    refine ⟨h.worker, h.ttl, h.delay, h.positive, h.length, h.memoryUuids, h.postgresUuids,
      h.issuer, ?_, ?_, h.armed⟩
    · intro streamId entry hentry
      obtain ⟨howner, htimer, hrow⟩ := h.backed streamId entry hentry
      exact ⟨howner, htimer, hrow⟩
    · intro streamId row hrow hnone
      obtain ⟨howner, hexpired⟩ := h.expired streamId row hrow hnone
      refine ⟨howner, hexpired.trans ?_⟩
      rw [Timestamptz.le_iff]
      simp only [Date.toTimestamptz, Date.plus]
      omega
  apply hlater.fireAll
  intro streamId entry hentry
  have htimer := (h.backed streamId entry hentry).timer
  exact .inr (AList.lookup_isSome.mp (by rw [htimer]; rfl))

/-! ## Whole histories -/

theorem Corresponds.step {b b' : Backends} {a : Action} (h : b.Corresponds ∧ b.LiveBut [])
    (hs : b.step a = some b') : b'.Corresponds ∧ b'.LiveBut [] := by
  cases a with
  | advance ms =>
    rw [Backends.step, Option.some.injEq] at hs
    exact hs ▸ h.1.advance ms
  | call c =>
    obtain ⟨⟨answers, r⟩, hcall, rfl⟩ := Option.map_eq_some_iff.mp hs
    cases c with
    | acquire memoryUuid postgresUuid streamId => exact (h.1.acquire h.2 hcall).2
    | renew streamId i => exact (h.1.renew h.2 hcall).2
    | release streamId i => exact (h.1.release h.2 hcall).2
    | releaseAll => exact (h.1.releaseAll hcall).2

/-- After any history both managers answer the next call alike, apart from the release of a
lease that has expired and left its row. -/
theorem backends_agree (workerId : String) {ttlMs : Nat} (hpos : 1 ≤ ttlMs)
    (hmax : ttlMs ≤ 2147483647) (now : Date) {as : List Action} {b b' : Backends} {c : Call}
    {answers : Answers} (hrun : run step (initial workerId ttlMs now) as = some b)
    (hcall : b.call c = some (answers, b')) :
    b.Lapsed c ∧ answers = ⟨false, true⟩ ∨
      ¬b.Lapsed c ∧ answers.memory = answers.postgres := by
  have h : b.Corresponds ∧ b.LiveBut [] :=
    run_invariant (fun _ _ _ h hs => Corresponds.step h hs)
      (initial_corresponds workerId hpos hmax now) hrun
  cases c with
  | acquire memoryUuid postgresUuid streamId =>
    obtain ⟨rfl, -⟩ := h.1.acquire h.2 hcall
    exact .inr ⟨id, rfl⟩
  | renew streamId i => exact .inr ⟨id, (h.1.renew h.2 hcall).1⟩
  | release streamId i => exact (h.1.release h.2 hcall).1
  | releaseAll =>
    obtain ⟨rfl, -⟩ := h.1.releaseAll hcall
    exact .inr ⟨id, rfl⟩

/-- A lock is taken, renewed, and runs out. -/
def leaseRunsOut : List Action :=
  [.call (.acquire "m" "p" "s"), .advance 400, .call (.renew "s" 0), .advance 1000]

theorem backends_agree_leaseRunsOut : ∃ b b' answers,
    run step (initial "w" 1000 ⟨0⟩) leaseRunsOut = some b ∧
      b.call (.renew "s" 0) = some (answers, b') ∧ answers.memory = answers.postgres := by
  have hrun : (run step (initial "w" 1000 ⟨0⟩) leaseRunsOut).any (fun b =>
      (b.call (.renew "s" 0)).isSome) = true := by decide +kernel
  obtain ⟨b, hb, hsome⟩ := Option.any_eq_true _ _ |>.mp hrun
  obtain ⟨⟨answers, b'⟩, hcall⟩ := Option.isSome_iff_exists.mp hsome
  rcases backends_agree "w" (by decide) (by decide) ⟨0⟩ hb hcall with ⟨hlapsed, -⟩ | ⟨-, hsame⟩
  · exact hlapsed.elim
  · exact ⟨b, b', answers, hb, hcall, hsame⟩

/-- The lock has run out when its holder releases it: the in-process manager has evicted the
entry, and the table still has the row. -/
theorem lapsed_release_differs :
    ¬∀ (as : List Action) (b b' : Backends) (c : Call) (answers : Answers),
      run step (initial "w" 1000 ⟨0⟩) as = some b → b.call c = some (answers, b') →
        answers.memory = answers.postgres := by
  intro h
  have hrun : (run step (initial "w" 1000 ⟨0⟩) leaseRunsOut).any (fun b =>
      (b.call (.release "s" 0)).any fun r => r.1.memory ≠ r.1.postgres) = true := by decide +kernel
  obtain ⟨b, hb, hany⟩ := Option.any_eq_true _ _ |>.mp hrun
  obtain ⟨⟨answers, b'⟩, hcall, hne⟩ := Option.any_eq_true _ _ |>.mp hany
  exact of_decide_eq_true hne (h leaseRunsOut b b' (.release "s" 0) answers hb hcall)

end Backends

end Agreement
end Processing
end XStreamRoll
