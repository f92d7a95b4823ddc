/-
A worker that acquires a lock which it holds already.

Both managers let it, and both write the UUID that the call has just drawn, in every
state of the lease.  The token of the first acquisition is replaced, so whoever still
has it can neither renew nor release any more: the second caller has taken the lock
from the first.
-/
import XStreamRoll.Processing.LeaderElection.Fencing

namespace XStreamRoll
namespace Processing
namespace LeaderElection

open Transition

/-! ## The in-process manager -/

/-- The manager, and the UUIDs of its acquisitions. -/
structure MemoryLocks where
  manager : MemoryLockManager
  used : List String

inductive MemoryCall where
  | acquire (now : Date) (uuid streamId : String)
  | renew (now : Date) (streamId : String) (token : LockToken)
  | release (streamId : String) (token : LockToken)
  | releaseAll
  /-- An eviction timer runs. -/
  | fire (now : Date) (timer : Nat)

def MemoryCall.exec (m : MemoryLockManager) : MemoryCall → Option MemoryLockManager
  | .acquire now uuid streamId => some (m.acquire now uuid streamId).2
  | .renew now streamId token => some (m.renew now streamId token).2
  | .release streamId token => some (m.release streamId token).2
  | .releaseAll => some m.releaseAll
  | .fire now timer => m.fire now timer

def MemoryCall.uuids : MemoryCall → List String
  | .acquire _ uuid _ => [uuid]
  | _ => []

namespace MemoryLocks

def create (workerId : String) (ttlMs : Nat) : MemoryLocks :=
  ⟨.create workerId ttlMs, []⟩

def step (s : MemoryLocks) (c : MemoryCall) : Option MemoryLocks :=
  if ∀ uuid ∈ c.uuids, uuid ∉ s.used then
    (c.exec s.manager).map fun manager => ⟨manager, c.uuids ++ s.used⟩
  else none

/-- The worker's lease on the stream under the token `k` has not expired. -/
def HoldsLive (s : MemoryLocks) (now : Date) (streamId : String) (k : LockToken) : Prop :=
  ∃ entry, s.manager.locks.lookup streamId = some entry ∧ entry.token.token = k.token ∧
    entry.token.workerId = s.manager.workerId ∧ now < entry.token.expiresAt

end MemoryLocks

/-- A call leaves a stream locked under the token that was there, or under its own UUID. -/
theorem MemoryCall.held_of_exec {m m' : MemoryLockManager} {c : MemoryCall}
    (h : c.exec m = some m') {streamId token : String} (hheld : m'.held streamId = some token) :
    m.held streamId = some token ∨ token ∈ c.uuids := by
  cases c with
  | acquire now uuid s =>
    rw [exec, Option.some.injEq] at h
    subst h
    rw [MemoryLockManager.acquire_held] at hheld
    split at hheld
    · by_cases hs : streamId = s
      · subst hs
        rw [Function.update_self, Option.some.injEq] at hheld
        exact .inr (List.mem_singleton.mpr hheld.symm)
      · rw [Function.update_of_ne hs] at hheld
        exact .inl hheld
    · exact .inl hheld
  | renew now s t =>
    rw [exec, Option.some.injEq] at h
    subst h
    rw [(MemoryLockManager.renew_held now s t m).2] at hheld
    exact .inl hheld
  | release s t =>
    rw [exec, Option.some.injEq] at h
    subst h
    rw [(MemoryLockManager.release_held s t m).2] at hheld
    split at hheld
    · by_cases hs : streamId = s
      · subst hs
        rw [Function.update_self] at hheld
        cases hheld
      · rw [Function.update_of_ne hs] at hheld
        exact .inl hheld
    · exact .inl hheld
  | releaseAll =>
    rw [exec, Option.some.injEq] at h
    subst h
    rw [MemoryLockManager.releaseAll_held] at hheld
    cases hheld
  | fire now timer =>
    cases ht : m.timers.lookup timer with
    | none =>
      rw [exec, MemoryLockManager.fire, ht] at h
      cases h
    | some t =>
      rw [MemoryLockManager.fire_held ht h] at hheld
      split at hheld
      · by_cases hs : streamId = t.streamId
        · subst hs
          rw [Function.update_self] at hheld
          cases hheld
        · rw [Function.update_of_ne hs] at hheld
          exact .inl hheld
      · exact .inl hheld

namespace MemoryLocks

variable {s s' : MemoryLocks} {c : MemoryCall} {streamId token : String}

theorem step_eq_some (h : s.step c = some s') : (∀ uuid ∈ c.uuids, uuid ∉ s.used) ∧
    ∃ manager, c.exec s.manager = some manager ∧ s' = ⟨manager, c.uuids ++ s.used⟩ := by
  unfold step at h
  split at h
  · next hfresh =>
    obtain ⟨manager, hexec, rfl⟩ := Option.map_eq_some_iff.mp h
    exact ⟨hfresh, manager, hexec, rfl⟩
  · cases h

/-- A token in the map was brought in by an acquisition. -/
def Covered (s : MemoryLocks) : Prop :=
  ∀ streamId token, s.manager.held streamId = some token → token ∈ s.used

theorem Covered.step (h : s.Covered) (hs : s.step c = some s') : s'.Covered := by
  obtain ⟨-, manager, hexec, rfl⟩ := step_eq_some hs
  intro streamId token hheld
  rcases MemoryCall.held_of_exec hexec hheld with hold | hnew
  · exact List.mem_append_right _ (h streamId token hold)
  · exact List.mem_append_left _ hnew

theorem create_covered (workerId : String) (ttlMs : Nat) : (create workerId ttlMs).Covered := by
  intro streamId token hheld
  cases hheld

/-- The token has been used, and the stream is not locked under it. -/
def Spent (s : MemoryLocks) (streamId token : String) : Prop :=
  token ∈ s.used ∧ s.manager.held streamId ≠ some token

theorem Spent.step (h : s.Spent streamId token) (hs : s.step c = some s') :
    s'.Spent streamId token := by
  obtain ⟨hfresh, manager, hexec, rfl⟩ := step_eq_some hs
  refine ⟨List.mem_append_right _ h.1, ?_⟩
  intro hheld
  rcases MemoryCall.held_of_exec hexec hheld with hold | hnew
  · exact h.2 hold
  · exact hfresh token hnew h.1

theorem Spent.refused {k : LockToken} (h : s.Spent streamId k.token) :
    (∀ now, (s.manager.renew now streamId k).1 = false) ∧
      (s.manager.release streamId k).1 = false := by
  constructor
  · intro now
    rw [(MemoryLockManager.renew_held now streamId k s.manager).1, decide_eq_false_iff_not]
    exact h.2
  · rw [(MemoryLockManager.release_held streamId k s.manager).1, decide_eq_false_iff_not]
    exact h.2

theorem HoldsLive.held {now : Date} {k : LockToken} (h : s.HoldsLive now streamId k) :
    s.manager.held streamId = some k.token := by
  obtain ⟨entry, hentry, htoken, -⟩ := h
  rw [MemoryLockManager.held, hentry, ← htoken]
  rfl

/-- The worker's own lease does not stand in the way of the next one. -/
theorem HoldsLive.acquired {now : Date} {k : LockToken} (h : s.HoldsLive now streamId k)
    (uuid : String) : (s.manager.acquire now uuid streamId).1.isSome = true := by
  obtain ⟨entry, hentry, -, howner, -⟩ := h
  rw [MemoryLockManager.acquire, hentry]
  simp only [howner, ne_eq, not_true_eq_false, and_false, if_false, Option.isSome_some]

theorem HoldsLive.spent {now : Date} {uuid : String} {k : LockToken} (hcovered : s.Covered)
    (h : s.HoldsLive now streamId k) (hs : s.step (.acquire now uuid streamId) = some s') :
    s'.Spent streamId k.token := by
  have hused : k.token ∈ s.used := hcovered streamId k.token h.held
  obtain ⟨hfresh, manager, hexec, rfl⟩ := step_eq_some hs
  rw [MemoryCall.exec, Option.some.injEq] at hexec
  subst hexec
  refine ⟨List.mem_append_right _ hused, ?_⟩
  show (s.manager.acquire now uuid streamId).2.held streamId ≠ _
  rw [MemoryLockManager.acquire_held, if_pos (h.acquired uuid), Function.update_self, ne_eq,
    Option.some.injEq]
  rintro rfl
  exact hfresh _ (List.mem_singleton.mpr rfl) hused

end MemoryLocks

/-! ## Both managers -/

/-- A worker that holds a live lease under the token `k` and acquires the stream again gets the
lock, and from then on `k` is refused, by `renew` and by `release`, whatever happens next. -/
theorem reacquire_ends_token (now : Date) (uuid streamId : String) (k : LockToken) :
    (∀ (workerId : String) (ttlMs : Nat) (cs : List MemoryCall) (s s₁ : MemoryLocks),
      run MemoryLocks.step (.create workerId ttlMs) cs = some s → s.HoldsLive now streamId k →
      s.step (.acquire now uuid streamId) = some s₁ →
      (s.manager.acquire now uuid streamId).1.isSome = true ∧
        ∀ cs' s₂, run MemoryLocks.step s₁ cs' = some s₂ →
          (∀ now', (s₂.manager.renew now' streamId k).1 = false) ∧
          (s₂.manager.release streamId k).1 = false) ∧
    ∀ (NOW : Timestamptz) (sts : List Statement) (db db₁ : LockDatabase) (m : PostgresLockManager),
      run step (.empty NOW) sts = some db →
      Lease.Live db.now db.locks streamId m.workerId k.token →
      step db (.acquire m streamId now uuid) = some db₁ →
      (m.acquire db.now now uuid streamId db.locks).1.isSome = true ∧
        ∀ sts' db₂, run step db₁ sts' = some db₂ →
          (∀ now', (m.renew db₂.now now' streamId k db₂.locks).1 = false) ∧
          (m.release streamId k db₂.locks).1 = false := by
  constructor
  · intro workerId ttlMs cs s s₁ hrun hlive hs
    refine ⟨hlive.acquired uuid, ?_⟩
    intro cs' s₂ hrun'
    have hcovered : s.Covered := run_invariant (I := MemoryLocks.Covered)
      (fun _ _ _ h hs => h.step hs) (MemoryLocks.create_covered workerId ttlMs) hrun
    have hspent : s₂.Spent streamId k.token := run_invariant
      (I := fun s => s.Spent streamId k.token) (fun _ _ _ h hs => h.step hs)
      (hlive.spent hcovered hs) hrun'
    exact hspent.refused
  · intro NOW sts db db₁ m _ hlive hs
    have hacquired : (m.acquire db.now now uuid streamId db.locks).1.isSome = true := by
      rw [PostgresLockManager.acquire_isSome_iff]
      intro row hrow
      obtain ⟨row', hrow', howner, -⟩ := hlive
      rw [hrow, Option.some.injEq] at hrow'
      exact .inr (hrow' ▸ howner)
    refine ⟨hacquired, ?_⟩
    intro sts' db₂ hrun'
    have hused : k.token ∈ db.book.used := Lease.Book.holds_used hlive.holds
    have hspent : db₂.book.Spent streamId m.workerId k.token :=
      spent_run (Ends.spent (.superseded m now uuid hacquired) hused hs) hrun'
    constructor
    · intro now'
      rw [PostgresLockManager.renew_eq]
      exact congrArg Prod.fst (hspent.refused db₂.now _).1
    · rw [PostgresLockManager.release_eq db₂.now]
      exact congrArg Prod.fst (hspent.refused db₂.now db₂.now).2

/-- The token of the first acquisition at time 0. -/
def firstToken : LockToken := ⟨"s", "w", "a", ⟨30000⟩, ⟨0⟩⟩

def lockedOnce : MemoryLocks := ⟨((MemoryLockManager.create "w" 30000).acquire ⟨0⟩ "a" "s").2, ["a"]⟩

theorem lockedOnce_holdsLive {now : Date} (h : now < ⟨30000⟩) :
    lockedOnce.HoldsLive now "s" firstToken :=
  ⟨⟨firstToken, 0⟩, rfl, rfl, rfl, h⟩

theorem reacquire_ends_token_lockedTwice :
    (∃ s₁, lockedOnce.step (.acquire ⟨10⟩ "b" "s") = some s₁ ∧
      (s₁.manager.renew ⟨20⟩ "s" firstToken).1 = false) ∧
    ∃ db db₁, run step (.empty ⟨0⟩) [.acquire ⟨"w", 30000⟩ "s" ⟨0⟩ "a"] = some db ∧
      step db (.acquire ⟨"w", 30000⟩ "s" ⟨10⟩ "b") = some db₁ ∧
      (PostgresLockManager.release "s" firstToken ⟨"w", 30000⟩ db₁.locks).1 = false := by
  constructor
  · refine ⟨_, rfl, ?_⟩
    exact (((reacquire_ends_token ⟨10⟩ "b" "s" firstToken).1 "w" 30000 [.acquire ⟨0⟩ "a" "s"]
      lockedOnce _ rfl (lockedOnce_holdsLive (by decide)) rfl).2 [] _ rfl).1 ⟨20⟩
  · refine ⟨_, _, rfl, rfl, ?_⟩
    exact (((reacquire_ends_token ⟨10⟩ "b" "s" firstToken).2 ⟨0⟩
      [.acquire ⟨"w", 30000⟩ "s" ⟨0⟩ "a"] _ _ ⟨"w", 30000⟩ rfl ⟨_, rfl, rfl, rfl, by decide⟩
      rfl).2 [] _ rfl).2

/-- The lease would have run for another 29980 ms, but the second call has ended it. -/
theorem reacquire_loses_lease :
    ¬∀ (cs : List MemoryCall) (s s₁ : MemoryLocks) (now now' : Date) (uuid streamId : String)
      (k : LockToken), run MemoryLocks.step (.create "w" 30000) cs = some s →
      s.HoldsLive now streamId k → s.HoldsLive now' streamId k →
      s.step (.acquire now uuid streamId) = some s₁ →
      (s₁.manager.renew now' streamId k).1 = true := by
  intro h
  have hrenewed := h [.acquire ⟨0⟩ "a" "s"] lockedOnce _ ⟨10⟩ ⟨20⟩ "b" "s" firstToken rfl
    (lockedOnce_holdsLive (by decide)) (lockedOnce_holdsLive (by decide)) rfl
  exact absurd hrenewed (by decide)

end LeaderElection
end Processing
end XStreamRoll
