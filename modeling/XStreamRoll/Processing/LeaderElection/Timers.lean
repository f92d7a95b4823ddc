/-
The eviction timers of the in-process lock manager.

Every operation that writes an entry arms a timer for it and clears the timer of the entry
it replaces or removes, so entries and armed timers belong together one to one.  Between the
two halves of such an operation the stream has no timer, and everything else is as it
should be.

A timer is due when the lease runs out as long as `setTimeout` waits for the whole of
`ttlMs`.  The clock may pass the moment before the timer runs, and any other operation may
come first.
-/
import XStreamRoll.Processing.LeaderElection
import XStreamRoll.Transition

namespace XStreamRoll
namespace Processing
namespace MemoryLockManager

open Transition

/-- Every lease held has the timer that its entry names, due when it runs out, and there are
no other timers. -/
structure Timed (m : MemoryLockManager) : Prop where
  armed : ∀ streamId entry, m.locks.lookup streamId = some entry →
    m.timers.lookup entry.timer = some ⟨streamId, entry.token.token, entry.token.expiresAt⟩
  owned : ∀ timer t, m.timers.lookup timer = some t →
    ∃ entry, m.locks.lookup t.streamId = some entry ∧ entry.timer = timer

/-- `setTimeout` has given no number twice. -/
def Numbered (m : MemoryLockManager) : Prop :=
  ∀ timer t, m.timers.lookup timer = some t → timer < m.nextTimer

/-- The same but for one stream, which has no timer. -/
structure TimedBut (streamId : String) (m : MemoryLockManager) : Prop where
  armed : ∀ other entry, other ≠ streamId → m.locks.lookup other = some entry →
    m.timers.lookup entry.timer = some ⟨other, entry.token.token, entry.token.expiresAt⟩
  owned : ∀ timer t, m.timers.lookup timer = some t → t.streamId ≠ streamId ∧
    ∃ entry, m.locks.lookup t.streamId = some entry ∧ entry.timer = timer

theorem Timed.absent {m : MemoryLockManager} (h : m.Timed) {streamId : String}
    (absent : m.locks.lookup streamId = none) : m.TimedBut streamId where
  armed := fun other entry _ => h.armed other entry
  owned := by
    intro timer t ht
    obtain ⟨entry, hentry, htimer⟩ := h.owned timer t ht
    refine ⟨?_, entry, hentry, htimer⟩
    rintro rfl
    cases absent.symm.trans hentry

theorem Timed.clear {m : MemoryLockManager} (h : m.Timed) {streamId : String}
    {entry : MemoryLockEntry} (held : m.locks.lookup streamId = some entry) :
    (m.clearTimeout entry.timer).TimedBut streamId where
  armed := by
    intro other entry' apart hentry'
    have armed := h.armed other entry' hentry'
    have different : entry'.timer ≠ entry.timer := by
      intro same
      rw [same, h.armed streamId entry held, Option.some.injEq] at armed
      exact apart (congrArg EvictionTimer.streamId armed).symm
    exact (AList.lookup_erase_ne different).trans armed
  owned := by
    intro timer t ht
    have different : timer ≠ entry.timer := by
      rintro rfl
      cases (AList.lookup_erase entry.timer m.timers).symm.trans ht
    obtain ⟨entry', hentry', htimer⟩ :=
      h.owned timer t ((AList.lookup_erase_ne different).symm.trans ht)
    refine ⟨?_, entry', hentry', htimer⟩
    rintro rfl
    rw [held, Option.some.injEq] at hentry'
    exact different (hentry' ▸ htimer.symm)

theorem TimedBut.setLock {m : MemoryLockManager} {streamId : String} (h : m.TimedBut streamId)
    (numbered : m.Numbered) {now : Date} {token : LockToken}
    (due : token.expiresAt = now.plus (Date.timeoutDelay m.ttlMs)) :
    (m.setLock now streamId token).Timed where
  armed := by
    intro other entry hentry
    by_cases same : other = streamId
    · subst same
      rw [show (m.setLock now other token).locks.lookup other = _ from AList.lookup_insert _,
        Option.some.injEq] at hentry
      subst hentry
      rw [due]
      exact AList.lookup_insert _
    · have hentry' := (AList.lookup_insert_ne same).symm.trans hentry
      have armed := h.armed other entry same hentry'
      exact (AList.lookup_insert_ne (numbered _ _ armed).ne).trans armed
  owned := by
    intro timer t ht
    by_cases new : timer = m.nextTimer
    · subst new
      rw [show (m.setLock now streamId token).timers.lookup m.nextTimer = _ from
        AList.lookup_insert _, Option.some.injEq] at ht
      subst ht
      exact ⟨_, AList.lookup_insert _, rfl⟩
    · obtain ⟨apart, entry, hentry, htimer⟩ :=
        h.owned timer t ((AList.lookup_insert_ne new).symm.trans ht)
      exact ⟨entry, (AList.lookup_insert_ne apart).trans hentry, htimer⟩

theorem TimedBut.erase {m : MemoryLockManager} {streamId : String} (h : m.TimedBut streamId) :
    ({ m with locks := m.locks.erase streamId } : MemoryLockManager).Timed where
  armed := by
    intro other entry hentry
    have apart : other ≠ streamId := by
      rintro rfl
      cases (AList.lookup_erase other m.locks).symm.trans hentry
    exact h.armed other entry apart ((AList.lookup_erase_ne apart).symm.trans hentry)
  owned := by
    intro timer t ht
    obtain ⟨apart, entry, hentry, htimer⟩ := h.owned timer t ht
    exact ⟨entry, (AList.lookup_erase_ne apart).trans hentry, htimer⟩

/-- Clearing the timers of a list of entries. -/
theorem lookup_clearAll (entries : List (Sigma fun _ : String => MemoryLockEntry))
    (timers : AList fun _ : Nat => EvictionTimer) {timer : Nat} {t : EvictionTimer}
    (left : (entries.foldl (fun timers entry => timers.erase entry.2.timer) timers).lookup timer =
      some t) :
    timers.lookup timer = some t ∧ ∀ e ∈ entries, e.2.timer ≠ timer := by
  induction entries generalizing timers with
  | nil => exact ⟨left, List.forall_mem_nil _⟩
  | cons e entries ih =>
    obtain ⟨before, others⟩ := ih _ left
    have different : timer ≠ e.2.timer := by
      rintro rfl
      cases (AList.lookup_erase e.2.timer timers).symm.trans before
    exact ⟨(AList.lookup_erase_ne different).symm.trans before,
      List.forall_mem_cons.mpr ⟨different.symm, others⟩⟩

theorem Timed.releaseAll {m : MemoryLockManager} (h : m.Timed) : m.releaseAll.Timed where
  armed := by
    intro streamId entry hentry
    cases hentry
  owned := by
    intro timer t ht
    obtain ⟨before, cleared⟩ := lookup_clearAll m.locks.entries m.timers ht
    obtain ⟨entry, hentry, htimer⟩ := h.owned timer t before
    exact absurd htimer (cleared ⟨t.streamId, entry⟩ (AList.mem_lookup_iff.mp hentry))

/-! ## The operations -/

theorem numbered_setLock {m : MemoryLockManager} (h : m.Numbered) (now : Date) (streamId : String)
    (token : LockToken) : (m.setLock now streamId token).Numbered := by
  intro timer t ht
  by_cases new : timer = m.nextTimer
  · exact new ▸ Nat.lt_succ_self _
  · exact Nat.lt_succ_of_lt (h timer t ((AList.lookup_insert_ne new).symm.trans ht))

theorem numbered_clearTimeout {m : MemoryLockManager} (h : m.Numbered) (cleared : Nat) :
    (m.clearTimeout cleared).Numbered := by
  intro timer t ht
  have different : timer ≠ cleared := by
    rintro rfl
    cases (AList.lookup_erase timer m.timers).symm.trans ht
  exact h timer t ((AList.lookup_erase_ne different).symm.trans ht)

theorem Timed.acquire {m : MemoryLockManager} (h : m.Timed) (numbered : m.Numbered)
    (delay : Date.timeoutDelay m.ttlMs = m.ttlMs) (now : Date) (uuid streamId : String) :
    (m.acquire now uuid streamId).2.Timed ∧ (m.acquire now uuid streamId).2.Numbered := by
  unfold MemoryLockManager.acquire
  split
  next absent =>
    exact ⟨(h.absent absent).setLock numbered (by rw [delay]), numbered_setLock numbered _ _ _⟩
  next existing held =>
    split
    · exact ⟨h, numbered⟩
    · exact ⟨(h.clear held).setLock (numbered_clearTimeout numbered _) (by
        rw [show (m.clearTimeout existing.timer).ttlMs = m.ttlMs from rfl, delay]),
        numbered_setLock (numbered_clearTimeout numbered _) _ _ _⟩

theorem Timed.renew {m : MemoryLockManager} (h : m.Timed) (numbered : m.Numbered)
    (delay : Date.timeoutDelay m.ttlMs = m.ttlMs) (now : Date) (streamId : String)
    (token : LockToken) :
    (m.renew now streamId token).2.Timed ∧ (m.renew now streamId token).2.Numbered := by
  unfold MemoryLockManager.renew
  split
  · exact ⟨h, numbered⟩
  next entry held =>
    split
    · exact ⟨h, numbered⟩
    · exact ⟨(h.clear held).setLock (numbered_clearTimeout numbered _) (by
        rw [show (m.clearTimeout entry.timer).ttlMs = m.ttlMs from rfl, delay]),
        numbered_setLock (numbered_clearTimeout numbered _) _ _ _⟩

theorem Timed.release {m : MemoryLockManager} (h : m.Timed) (numbered : m.Numbered)
    (streamId : String) (token : LockToken) :
    (m.release streamId token).2.Timed ∧ (m.release streamId token).2.Numbered := by
  unfold MemoryLockManager.release
  split
  · exact ⟨h, numbered⟩
  next entry held =>
    split
    · exact ⟨h, numbered⟩
    · exact ⟨(h.clear held).erase, numbered_clearTimeout numbered _⟩

/-- The timer that runs is the one of the lease held, which has run out. -/
theorem Timed.fire {m m' : MemoryLockManager} (h : m.Timed) (numbered : m.Numbered) {now : Date}
    {timer : Nat} (fired : m.fire now timer = some m') :
    (m'.Timed ∧ m'.Numbered) ∧ ∃ streamId entry, m.locks.lookup streamId = some entry ∧
      entry.timer = timer ∧ entry.token.expiresAt ≤ now ∧ m'.locks = m.locks.erase streamId := by
  unfold MemoryLockManager.fire at fired
  split at fired
  · cases fired
  next t ht =>
    split at fired
    next due =>
      rw [Option.some.injEq] at fired
      subst fired
      obtain ⟨entry, held, rfl⟩ := h.owned timer t ht
      have own := h.armed t.streamId entry held
      rw [ht, Option.some.injEq] at own
      have token : entry.token.token = t.expectedToken := by rw [own]
      have expired : entry.token.expiresAt ≤ now := by
        rw [own] at due
        exact due
      have evicted : (m.clearTimeout entry.timer).evictIfCurrent t.streamId t.expectedToken =
          { m.clearTimeout entry.timer with locks := m.locks.erase t.streamId } := by
        unfold evictIfCurrent
        rw [show (m.clearTimeout entry.timer).locks.lookup t.streamId = some entry from held]
        exact if_pos token
      rw [evicted]
      exact ⟨⟨(h.clear held).erase, numbered_clearTimeout numbered _⟩, t.streamId, entry, held,
        rfl, expired, rfl⟩
    · cases fired

theorem acquire_ttlMs (now : Date) (uuid streamId : String) (m : MemoryLockManager) :
    (m.acquire now uuid streamId).2.ttlMs = m.ttlMs := by
  unfold MemoryLockManager.acquire
  split
  · rfl
  · split <;> rfl

theorem renew_ttlMs (now : Date) (streamId : String) (token : LockToken) (m : MemoryLockManager) :
    (m.renew now streamId token).2.ttlMs = m.ttlMs := by
  unfold MemoryLockManager.renew
  split
  · rfl
  · split <;> rfl

theorem release_ttlMs (streamId : String) (token : LockToken) (m : MemoryLockManager) :
    (m.release streamId token).2.ttlMs = m.ttlMs := by
  unfold MemoryLockManager.release
  split
  · rfl
  · split <;> rfl

theorem fire_ttlMs {m m' : MemoryLockManager} {now : Date} {timer : Nat}
    (fired : m.fire now timer = some m') : m'.ttlMs = m.ttlMs := by
  unfold MemoryLockManager.fire at fired
  split at fired
  · cases fired
  next t _ =>
    split at fired
    · cases fired
      unfold evictIfCurrent
      split
      · rfl
      · split <;> rfl
    · cases fired

/-! ## Runs -/

/-- The manager and the clock of its process. -/
structure Clocked where
  now : Date
  memory : MemoryLockManager

inductive Action where
  | acquire (uuid streamId : String)
  | renew (streamId : String) (token : LockToken)
  | release (streamId : String) (token : LockToken)
  | releaseAll
  | fire (timer : Nat)
  | advance (ms : Nat)

namespace Clocked

def initial (workerId : String) (ttlMs : Nat) (now : Date) : Clocked :=
  ⟨now, create workerId ttlMs⟩

def step (c : Clocked) (a : Action) : Option Clocked :=
  match a with
  | .acquire uuid streamId => some { c with memory := (c.memory.acquire c.now uuid streamId).2 }
  | .renew streamId token => some { c with memory := (c.memory.renew c.now streamId token).2 }
  | .release streamId token => some { c with memory := (c.memory.release streamId token).2 }
  | .releaseAll => some { c with memory := c.memory.releaseAll }
  | .fire timer => (c.memory.fire c.now timer).map fun memory => { c with memory }
  | .advance ms => some { c with now := c.now.plus ms }

/-- Entries and timers belong together after the step, and a timer that runs removes nothing
but the lease that it was armed for, once that has run out. -/
structure Evicts (c : Clocked) (a : Action) (c' : Clocked) : Prop where
  timed : c'.memory.Timed
  own : ∀ timer, a = .fire timer → ∀ streamId entry, c.memory.locks.lookup streamId = some entry →
    c'.memory.locks.lookup streamId = some entry ∨
      c'.memory.locks.lookup streamId = none ∧ entry.timer = timer ∧ entry.token.expiresAt ≤ c.now

/-- What the operations keep. -/
structure Sound (ttlMs : Nat) (c : Clocked) : Prop where
  ttl : c.memory.ttlMs = ttlMs
  timed : c.memory.Timed
  numbered : c.memory.Numbered

theorem initial_sound (workerId : String) (ttlMs : Nat) (now : Date) :
    (initial workerId ttlMs now).Sound ttlMs where
  ttl := rfl
  timed := by
    constructor
    · intro streamId entry hentry
      cases hentry
    · intro timer t ht
      cases ht
  numbered := by
    intro timer t ht
    cases ht

/-- Operations that are not a timer's. -/
theorem Sound.called {ttlMs : Nat} {c : Clocked} {a : Action} {memory : MemoryLockManager}
    (notFire : ∀ timer, a ≠ .fire timer) (ttl : memory.ttlMs = ttlMs)
    (timed : memory.Timed ∧ memory.Numbered) {now : Date} :
    Sound ttlMs ⟨now, memory⟩ ∧ Evicts c a ⟨now, memory⟩ :=
  ⟨⟨ttl, timed.1, timed.2⟩, timed.1, fun timer fires => absurd fires (notFire timer)⟩

theorem Sound.step {ttlMs : Nat} (delay : Date.timeoutDelay ttlMs = ttlMs) {c c' : Clocked}
    {a : Action} (h : c.Sound ttlMs) (stepped : step c a = some c') :
    c'.Sound ttlMs ∧ c.Evicts a c' := by
  have ownDelay : Date.timeoutDelay c.memory.ttlMs = c.memory.ttlMs := by rw [h.ttl, delay]
  cases a with
  | acquire uuid streamId =>
    cases stepped
    refine Sound.called ?_ ?_ (h.timed.acquire h.numbered ownDelay _ _ _)
    · intro timer fires
      cases fires
    · rw [acquire_ttlMs, h.ttl]
  | renew streamId token =>
    cases stepped
    refine Sound.called ?_ ?_ (h.timed.renew h.numbered ownDelay _ _ _)
    · intro timer fires
      cases fires
    · rw [renew_ttlMs, h.ttl]
  | release streamId token =>
    cases stepped
    refine Sound.called ?_ ?_ (h.timed.release h.numbered _ _)
    · intro timer fires
      cases fires
    · rw [release_ttlMs, h.ttl]
  | releaseAll =>
    cases stepped
    refine Sound.called ?_ ?_ ⟨h.timed.releaseAll, ?_⟩
    · intro timer fires
      cases fires
    · exact h.ttl
    · exact fun timer t ht => h.numbered timer t (lookup_clearAll _ _ ht).1
  | fire timer =>
    obtain ⟨memory, fired, rfl⟩ := Option.map_eq_some_iff.mp stepped
    obtain ⟨⟨timed, numbered⟩, streamId, entry, held, own, expired, locks⟩ :=
      h.timed.fire h.numbered fired
    refine ⟨⟨?_, timed, numbered⟩, timed, ?_⟩
    · rw [← h.ttl, fire_ttlMs fired]
    · intro fires hfires other entry' hentry'
      cases hfires
      show memory.locks.lookup other = some entry' ∨ memory.locks.lookup other = none ∧ _
      rw [locks]
      by_cases same : other = streamId
      · subst same
        rw [held, Option.some.injEq] at hentry'
        subst hentry'
        exact .inr ⟨AList.lookup_erase _ _, own, expired⟩
      · exact .inl ((AList.lookup_erase_ne same).trans hentry')
  | advance ms =>
    cases stepped
    refine Sound.called ?_ h.ttl ⟨h.timed, h.numbered⟩
    intro timer fires
    cases fires

/-- Timers and leases keep together exactly for the delays that `setTimeout` can wait. -/
theorem timed_iff (workerId : String) (ttlMs : Nat) (now : Date) :
    (∀ actions, AllSteps step Evicts (initial workerId ttlMs now) actions) ↔
      1 ≤ ttlMs ∧ ttlMs ≤ 2147483647 := by
  constructor
  · intro always
    have timed := (always [.acquire "" ""] _ rfl).1.timed
    have due := timed.armed "" ⟨⟨"", workerId, "", now.plus ttlMs, now⟩, 0⟩
      (AList.lookup_insert _)
    have armed : ((create workerId ttlMs).acquire now "" "").2.timers.lookup 0 =
        some ⟨"", "", now.plus (Date.timeoutDelay ttlMs)⟩ := AList.lookup_insert _
    have same := Option.some.inj (armed.symm.trans due)
    have delay : (Date.timeoutDelay ttlMs : Int) = ttlMs := by
      have times := congrArg (fun t : EvictionTimer => t.due.getTime) same
      simp only [Date.plus] at times
      omega
    unfold Date.timeoutDelay at delay
    split at delay <;> omega
  · rintro ⟨positive, short⟩ actions
    have delay : Date.timeoutDelay ttlMs = ttlMs := if_neg (by omega)
    exact allSteps_of_invariant (I := Sound ttlMs) (fun _ a _ h hs => Sound.step delay (a := a) h hs)
      (initial_sound workerId ttlMs now)

/-- A lease of 25 days, which `setTimeout` cannot wait for. -/
theorem timed_fails : ¬∀ (workerId : String) (ttlMs : Nat) (now : Date) (actions : List Action),
    AllSteps step Evicts (initial workerId ttlMs now) actions := by
  intro always
  have timed := (always "w" 2160000000 ⟨0⟩ [.acquire "k" "s"] _ rfl).1.timed
  have due := timed.armed "s" ⟨⟨"s", "w", "k", ⟨2160000000⟩, ⟨0⟩⟩, 0⟩ (by decide)
  exact absurd due (by decide)

end Clocked

end MemoryLockManager
end Processing
end XStreamRoll
