/-
What is left of a worker after `drainAll()`.

The drain stops the sessions that are in the map when it is called, and has the
backend drop every lock of the worker at its end.  A route that awaits its claim
meanwhile is not among them: when it resumes it spawns a session that nobody stops
any more, under a lock that may be granted after the others were dropped.

So a worker is shut down for good if no route spawns a session from the call of
`drainAll()` on.  Two things more are needed.  A session that failed before the
drain must have no retry left to make, and the backend must not lose the release,
or the answer to a claim that it grants after the release.
-/
import XStreamRoll.Processing.Cluster.Routing
import XStreamRoll.Processing.SessionRegistry.Drain

namespace XStreamRoll
namespace Processing

open Transition

variable {Data : Type}

/-! ## What an operation leaves to a worker -/

namespace Locks

variable {NOW : Timestamptz} {locks : Locks} {s w k : String}

/-- One manager in memory has changed. -/
theorem holds_update {managers : String → MemoryLockManager} {workerId : String}
    {m : MemoryLockManager}
    (h : (memory (Function.update managers workerId m)).Holds s w k) :
    w = workerId ∧ m.held s = some k ∨ w ≠ workerId ∧ (memory managers).Holds s w k := by
  have hheld : (Function.update managers workerId m w).held s = some k := h
  by_cases hw : w = workerId
  · rw [hw, Function.update_self] at hheld
    exact .inl ⟨hw, hheld⟩
  · rw [Function.update_of_ne hw] at hheld
    exact .inr ⟨hw, hheld⟩

/-- The lock of one stream may have been removed. -/
theorem held_of_removed {held : String → Option String} {streamId : String} {p : Prop}
    [Decidable p] (h : (if p then Function.update held streamId none else held) s = some k) :
    held s = some k := by
  split at h
  · by_cases hs : s = streamId
    · rw [hs, Function.update_self] at h
      cases h
    · rw [Function.update_of_ne hs] at h
      exact h
  · exact h

theorem acquire_holds {now : Date} {uuid streamId workerId : String} {ttlMs : Nat}
    (h : (locks.acquire NOW now uuid streamId workerId ttlMs).2.Holds s w k) :
    locks.Holds s w k ∨ w = workerId ∧ k = uuid ∧
      (locks.acquire NOW now uuid streamId workerId ttlMs).1.isSome = true := by
  cases locks with
  | memory managers =>
    rcases holds_update h with ⟨rfl, hheld⟩ | ⟨-, hold⟩
    · rw [MemoryLockManager.acquire_held] at hheld
      split at hheld
      · next hok =>
        by_cases hs : s = streamId
        · subst hs
          rw [Function.update_self, Option.some.injEq] at hheld
          exact .inr ⟨rfl, hheld.symm, hok⟩
        · rw [Function.update_of_ne hs] at hheld
          exact .inl hheld
      · exact .inl hheld
    · exact .inl hold
  | postgres table =>
    let m : PostgresLockManager := ⟨workerId, ttlMs⟩
    have hrow : Lease.Holds (m.acquire NOW now uuid streamId table).2 s w k := h
    show Lease.Holds table s w k ∨ w = workerId ∧ k = uuid ∧
      (m.acquire NOW now uuid streamId table).1.isSome = true
    rw [PostgresLockManager.acquire_eq] at hrow ⊢
    cases hok : (Lease.apply NOW table (.claim streamId (m.claimed now uuid))).1 with
    | true =>
      rcases Lease.Holds.of_apply hrow with hold | ⟨row, heq, howner, htoken⟩
      · exact .inl hold
      · rw [Lease.Op.claim.injEq] at heq
        obtain ⟨-, rfl⟩ := heq
        exact .inr ⟨howner.symm, htoken.symm, rfl⟩
    | false =>
      left
      have hbusy : ¬Lease.Free NOW table streamId workerId := by
        intro hfree
        rw [Lease.claim_granted_iff.mpr hfree] at hok
        cases hok
      rw [Lease.claim_refused hbusy] at hrow
      exact hrow

theorem renew_holds {now : Date} {streamId workerId : String} {token : LockToken} {ttlMs : Nat}
    (h : (locks.renew NOW now streamId token workerId ttlMs).2.Holds s w k) :
    locks.Holds s w k := by
  cases locks with
  | memory managers =>
    rcases holds_update h with ⟨rfl, hheld⟩ | ⟨-, hold⟩
    · rw [(MemoryLockManager.renew_held ..).2] at hheld
      exact hheld
    · exact hold
  | postgres table =>
    let m : PostgresLockManager := ⟨workerId, ttlMs⟩
    have hrow : Lease.Holds (m.renew NOW now streamId token table).2 s w k := h
    rw [PostgresLockManager.renew_eq] at hrow
    rcases Lease.Holds.of_apply hrow with hold | ⟨row, heq, -⟩
    · exact hold
    · cases heq

theorem release_holds (NOW : Timestamptz) {streamId workerId : String} {token : LockToken}
    {ttlMs : Nat} (h : (locks.release streamId token workerId ttlMs).2.Holds s w k) :
    locks.Holds s w k := by
  cases locks with
  | memory managers =>
    rcases holds_update h with ⟨rfl, hheld⟩ | ⟨-, hold⟩
    · rw [(MemoryLockManager.release_held ..).2] at hheld
      exact held_of_removed hheld
    · exact hold
  | postgres table =>
    let m : PostgresLockManager := ⟨workerId, ttlMs⟩
    have hrow : Lease.Holds (m.release streamId token table).2 s w k := h
    rw [PostgresLockManager.release_eq NOW] at hrow
    rcases Lease.Holds.of_apply hrow with hold | ⟨row, heq, -⟩
    · exact hold
    · cases heq

theorem releaseAll_holds (NOW : Timestamptz) {workerId : String} {ttlMs : Nat}
    (h : (locks.releaseAll workerId ttlMs).Holds s w k) : locks.Holds s w k ∧ w ≠ workerId := by
  cases locks with
  | memory managers =>
    rcases holds_update h with ⟨rfl, hheld⟩ | ⟨hne, hold⟩
    · rw [MemoryLockManager.releaseAll_held] at hheld
      cases hheld
    · exact ⟨hold, hne⟩
  | postgres table =>
    have hrow : Lease.Holds (PostgresLockManager.releaseAll ⟨workerId, ttlMs⟩ table) s w k := h
    obtain ⟨row, hrow, howner, htoken⟩ := hrow
    rw [PostgresLockManager.releaseAll_eq NOW] at hrow
    obtain ⟨hold, hne⟩ := Lease.dropAll_eq_some.mp hrow
    exact ⟨⟨row, hold, howner, htoken⟩, fun hw => hne (howner.trans hw)⟩

theorem evict_holds {managers : String → MemoryLockManager} {workerId : String} {timer : Nat}
    {now : Date} {t : EvictionTimer} {m : MemoryLockManager}
    (ht : (managers workerId).timers.lookup timer = some t)
    (hm : (managers workerId).fire now timer = some m)
    (h : (memory (Function.update managers workerId m)).Holds s w k) :
    (memory managers).Holds s w k := by
  rcases holds_update h with ⟨rfl, hheld⟩ | ⟨-, hold⟩
  · rw [MemoryLockManager.fire_held ht hm] at hheld
    exact held_of_removed hheld
  · exact hold

end Locks

/-- An answer of the lock manager spawns nothing. -/
theorem SessionRegistry.not_spawns_of_answers {r : SessionRegistry Data}
    {a : SessionRegistry.Action Data} (ha : a.answers = true) : ¬r.Spawns a := by
  rintro ⟨event, hhands, -⟩
  cases a with
  | acquireAnswered | renewAnswered | releaseAnswered | releaseAllAnswered => cases hhands
  | _ => cases ha

/-! ## A worker that stays shut -/

namespace Cluster

open SessionRegistry Session

/-- No route of the worker spawns a session.  When its drain ends, no failed session
has a retry left.  Its release reaches the backend, and once that is done no answer
to a granted claim is lost. -/
def KeepsShut (workerId : String) (c : Cluster Data) : Action Data → Prop
  | .worker w (.resumeDrain _ _) => w = workerId → ∀ obj ∈ (c.workers workerId).objects,
      terminal obj.session.state = true → ¬RetryLeft obj.session
  | .worker w a => w = workerId → ¬(c.workers workerId).Spawns a
  | .acquire w i uuid (.lost _) => w = workerId → true ∈ (c.workers workerId).released →
      ∀ call ∈ (c.workers workerId).acquires[i]?,
        (c.locks.acquire c.now call.issuedAt uuid call.request workerId
          (c.workers workerId).options.ttlMs).1 = none
  | .releaseAll w _ fate => w = workerId → fate.reached = true
  | _ => True

instance (workerId : String) (c : Cluster Data) (a : Action Data) :
    Decidable (c.KeepsShut workerId a) := by
  cases a with
  | worker w a => cases a <;> unfold KeepsShut <;> infer_instance
  | acquire w i uuid fate => cases fate <;> unfold KeepsShut <;> infer_instance
  | renew | release | releaseAll | evict | advance => unfold KeepsShut; infer_instance

theorem KeepsShut.spawns {workerId : String} {c : Cluster Data} {a : SessionRegistry.Action Data}
    (h : c.KeepsShut workerId (.worker workerId a)) : ¬(c.workers workerId).Spawns a := by
  cases a with
  | resumeDrain now i =>
    rintro ⟨event, hhands, -⟩
    cases hhands
  | _ => exact h rfl

/-- The drain is over, and what the backend has for the worker since the release is
waited for by its routes. -/
structure Closed (workerId : String) (c : Cluster Data) : Prop where
  drained : (c.workers workerId).Drained
  locks : true ∈ (c.workers workerId).released → ∀ streamId k,
    c.locks.Holds streamId workerId k → (c.workers workerId).roster.Pending k

theorem step_drainAll {c c' : Cluster Data} {workerId : String} {now : Date}
    (hs : c.step (.worker workerId (.drainAll now)) = some c') :
    c'.workers workerId = (c.workers workerId).drainAll now := by
  simp only [step] at hs
  split at hs
  · obtain ⟨r, hr, rfl⟩ := Option.map_eq_some_iff.mp hs
    simp only [SessionRegistry.step, Option.some.injEq] at hr
    rw [← hr]
    exact Function.update_self ..
  · cases hs

theorem dealt_holds {c : Cluster Data} {w : String} {fate : Fate} {locks : Locks} {ok : Bool}
    {op : Lease.Op String String String Timestamptz} {r : SessionRegistry Data}
    {streamId workerId k : String}
    (h : (c.dealt w fate locks ok op r).locks.Holds streamId workerId k) :
    c.locks.Holds streamId workerId k ∨ fate.reached = true ∧ locks.Holds streamId workerId k := by
  unfold dealt at h
  cases hreached : fate.reached with
  | false =>
    simp only [hreached, Bool.false_eq_true, if_false] at h
    exact .inl h
  | true =>
    simp only [hreached, if_true] at h
    exact .inr ⟨rfl, h⟩

/-- A call of the worker has been answered, and gave it no lock. -/
theorem Closed.answered {c c' : Cluster Data} {workerId : String} (h : c.Closed workerId)
    {a : SessionRegistry.Action Data}
    (hs : (c.workers workerId).step a = some (c'.workers workerId)) (ha : a.answers = true)
    (hall : ∀ i answer, a ≠ .releaseAllAnswered i answer)
    (hlocks : true ∈ (c.workers workerId).released → ∀ streamId k,
      c'.locks.Holds streamId workerId k → c.locks.Holds streamId workerId k ∨
        (c'.workers workerId).roster.Pending k) :
    c'.Closed workerId ∧
      (c'.workers workerId).workload.publishes = (c.workers workerId).workload.publishes := by
  obtain ⟨hdrained, hpublishes, hpending⟩ := h.drained.step
    (by rintro now rfl; cases ha) (SessionRegistry.not_spawns_of_answers ha) hs
  refine ⟨⟨hdrained, ?_⟩, hpublishes⟩
  intro hreleased streamId k hk
  rw [step_released hs (by rintro now i rfl; cases ha) hall] at hreleased
  rcases hlocks hreleased streamId k hk with hold | hnew
  · exact hpending k (h.locks hreleased streamId k hold)
  · exact hnew

/-- Nothing has happened to the worker, and it has no lock that it did not have. -/
theorem Closed.congr {c c' : Cluster Data} {workerId : String} (h : c.Closed workerId)
    (hworker : c'.workers workerId = c.workers workerId)
    (hlocks : ∀ streamId k, c'.locks.Holds streamId workerId k →
      c.locks.Holds streamId workerId k) :
    c'.Closed workerId ∧
      (c'.workers workerId).workload.publishes = (c.workers workerId).workload.publishes := by
  refine ⟨⟨by rw [hworker]; exact h.drained, ?_⟩, by rw [hworker]⟩
  rw [hworker]
  exact fun hreleased streamId k hk => h.locks hreleased streamId k (hlocks streamId k hk)

/-- A call of some worker has been answered, and gave nobody a lock. -/
theorem Closed.answered_or {c c' : Cluster Data} {workerId w : String} (h : c.Closed workerId)
    {a : SessionRegistry.Action Data} {r : SessionRegistry Data}
    (hs : (c.workers w).step a = some r) (ha : a.answers = true)
    (hall : ∀ i answer, a ≠ .releaseAllAnswered i answer)
    (hworkers : c'.workers = Function.update c.workers w r)
    (hlocks : ∀ streamId k, c'.locks.Holds streamId workerId k →
      c.locks.Holds streamId workerId k) :
    c'.Closed workerId ∧
      (c'.workers workerId).workload.publishes = (c.workers workerId).workload.publishes := by
  by_cases hw : workerId = w
  · subst hw
    rw [← Function.update_self workerId r c.workers, ← hworkers] at hs
    exact h.answered hs ha hall (fun _ streamId k hk => .inl (hlocks streamId k hk))
  · exact h.congr (by rw [hworkers, Function.update_of_ne hw]) hlocks

/-- A worker does something by itself. -/
theorem Closed.of_worker {c c' : Cluster Data} {workerId w : String} {b : SessionRegistry.Action Data}
    (h : c.Closed workerId) (ha : ∀ now, Action.worker w b ≠ .worker workerId (.drainAll now))
    (hkeeps : c.KeepsShut workerId (.worker w b)) (hs : c.step (.worker w b) = some c') :
    c'.Closed workerId ∧
      (c'.workers workerId).workload.publishes = (c.workers workerId).workload.publishes := by
  simp only [Cluster.step] at hs
  split at hs
  · next hlocal =>
    obtain ⟨r, hr, rfl⟩ := Option.map_eq_some_iff.mp hs
    by_cases hw : workerId = w
    · subst hw
      have hdrain : ∀ now, b ≠ .drainAll now := by
        rintro now rfl
        exact ha now rfl
      have hresume : ∀ now i, b ≠ .resumeDrain now i := by
        rintro now i rfl
        simp [SessionRegistry.step, resumeDrain, h.drained.drains] at hr
      have hanswer : ∀ i answer, b ≠ .releaseAllAnswered i answer := by
        rintro i answer rfl
        cases hlocal.1
      obtain ⟨hdrained, hpublishes, hpending⟩ := h.drained.step hdrain hkeeps.spawns hr
      simp only [Function.update_self]
      refine ⟨⟨by simpa using hdrained, ?_⟩, hpublishes⟩
      simp only [Function.update_self]
      intro hreleased streamId k hk
      rw [step_released hr hresume hanswer] at hreleased
      exact hpending k (h.locks hreleased streamId k hk)
    · exact h.congr (Function.update_of_ne hw _ _) (fun _ _ hk => hk)
  · cases hs

/-- A lock is asked for, and the worker may get it. -/
theorem Closed.of_acquire {c c' : Cluster Data} {workerId w : String} {i : Nat} {uuid : String}
    {fate : Fate} (h : c.Closed workerId) (hkeeps : c.KeepsShut workerId (.acquire w i uuid fate))
    (hs : c.step (.acquire w i uuid fate) = some c') :
    c'.Closed workerId ∧
      (c'.workers workerId).workload.publishes = (c.workers workerId).workload.publishes := by
  simp only [Cluster.step, Cluster.acquire] at hs
  split at hs
  · cases hs
  · next call hc =>
    split at hs
    · cases hs
    · obtain ⟨r, hr, rfl⟩ := Option.map_eq_some_iff.mp hs
      by_cases hw : workerId = w
      · subst hw
        have hworker : (Cluster.dealt workerId fate
            (c.locks.acquire c.now call.issuedAt uuid call.request workerId
              (c.workers workerId).options.ttlMs).2
            (c.locks.acquire c.now call.issuedAt uuid call.request workerId
              (c.workers workerId).options.ttlMs).1.isSome
            (.claim call.request ⟨workerId, uuid,
              (call.issuedAt.plus (c.workers workerId).options.ttlMs).toTimestamptz⟩)
            { c with issued := uuid :: c.issued } r).workers workerId = r :=
          Function.update_self ..
        have hanswered := hr
        rw [← hworker] at hanswered
        refine h.answered hanswered rfl (by simp) ?_
        intro hreleased streamId k hk
        rcases dealt_holds hk with hold | ⟨hreached, hnew⟩
        · exact .inl hold
        · rcases Locks.acquire_holds hnew with hold | ⟨-, rfl, hgranted⟩
          · exact .inl hold
          · right
            rw [hworker]
            obtain ⟨token, htoken⟩ := Option.isSome_iff_exists.mp hgranted
            cases fate with
            | unreached error => cases hreached
            | lost error =>
              have hnone := hkeeps rfl hreleased call hc
              rw [htoken] at hnone
              cases hnone
            | answered =>
              rw [htoken] at hr
              have hpending := answered_pending h.drained.awaited hr
              rw [Locks.acquire_token htoken] at hpending
              exact hpending
      · refine h.congr (Function.update_of_ne hw _ _) ?_
        intro streamId k hk
        rcases dealt_holds hk with hold | ⟨-, hnew⟩
        · exact hold
        · rcases Locks.acquire_holds hnew with hold | ⟨hsame, -⟩
          · exact hold
          · exact absurd hsame hw

/-- The locks of a worker are released. -/
theorem Closed.of_releaseAll {c c' : Cluster Data} {workerId w : String} {i : Nat} {fate : Fate}
    (h : c.Closed workerId) (hkeeps : c.KeepsShut workerId (.releaseAll w i fate))
    (hs : c.step (.releaseAll w i fate) = some c') :
    c'.Closed workerId ∧
      (c'.workers workerId).workload.publishes = (c.workers workerId).workload.publishes := by
  obtain ⟨r, hr, rfl⟩ := Option.map_eq_some_iff.mp hs
  by_cases hw : workerId = w
  · subst hw
    have hreached : fate.reached = true := hkeeps rfl
    obtain ⟨hdrained, hpublishes, -⟩ := h.drained.step (by simp)
      (SessionRegistry.not_spawns_of_answers rfl) hr
    have hworker : (c.dealt workerId fate (c.locks.releaseAll workerId
        (c.workers workerId).options.ttlMs) true (.dropAll workerId) r).workers workerId = r :=
      Function.update_self ..
    rw [hworker]
    refine ⟨⟨by rw [hworker]; exact hdrained, ?_⟩, hpublishes⟩
    intro _ streamId k hk
    unfold dealt at hk
    simp only [hreached, if_true] at hk
    exact absurd rfl (Locks.releaseAll_holds c.now hk).2
  · refine h.congr (Function.update_of_ne hw _ _) ?_
    intro streamId k hk
    rcases dealt_holds hk with hold | ⟨-, hnew⟩
    · exact hold
    · exact (Locks.releaseAll_holds c.now hnew).1

theorem Closed.step {c c' : Cluster Data} {workerId : String} {a : Action Data}
    (h : c.Closed workerId) (ha : ∀ now, a ≠ .worker workerId (.drainAll now))
    (hkeeps : c.KeepsShut workerId a) (hs : c.step a = some c') :
    c'.Closed workerId ∧
      (c'.workers workerId).workload.publishes = (c.workers workerId).workload.publishes := by
  cases a with
  | worker w b => exact h.of_worker ha hkeeps hs
  | acquire w i uuid fate => exact h.of_acquire hkeeps hs
  | renew w i fate =>
    simp only [Cluster.step, Cluster.renew] at hs
    split at hs
    · cases hs
    · obtain ⟨r, hr, rfl⟩ := Option.map_eq_some_iff.mp hs
      refine h.answered_or hr rfl (by simp) rfl ?_
      intro streamId k hk
      rcases dealt_holds hk with hold | ⟨-, hnew⟩
      · exact hold
      · exact Locks.renew_holds hnew
  | release w i fate =>
    simp only [Cluster.step, Cluster.release] at hs
    split at hs
    · cases hs
    · obtain ⟨r, hr, rfl⟩ := Option.map_eq_some_iff.mp hs
      refine h.answered_or hr rfl (by simp) rfl ?_
      intro streamId k hk
      rcases dealt_holds hk with hold | ⟨-, hnew⟩
      · exact hold
      · exact Locks.release_holds c.now hnew
  | releaseAll w i fate => exact h.of_releaseAll hkeeps hs
  | evict w timer =>
    simp only [Cluster.step, Cluster.evict] at hs
    split at hs
    · cases hs
    · next managers hl =>
      split at hs
      · cases hs
      · next t ht =>
        obtain ⟨m, hm, rfl⟩ := Option.map_eq_some_iff.mp hs
        refine h.congr rfl ?_
        intro streamId k hk
        rw [hl]
        exact Locks.evict_holds ht hm hk
  | advance micros =>
    simp only [Cluster.step, Option.some.injEq] at hs
    subst hs
    exact h.congr rfl (fun _ _ hk => hk)

/-! ## The whole drain -/

/-- `drainAll()` and every `route()` of the worker have come to an end. -/
structure AllReturned (workerId : String) (c : Cluster Data) : Prop where
  drains : (c.workers workerId).drains = []
  released : ∀ answered ∈ (c.workers workerId).released, answered = true
  routes : (c.workers workerId).routes = []

/-- No session of the worker runs or drains, and the backend has no lock of it. -/
structure Shut (workerId : String) (c : Cluster Data) : Prop where
  ended : ∀ obj ∈ (c.workers workerId).objects, obj.session.state.live = false
  unlocked : ∀ streamId k, ¬c.locks.Holds streamId workerId k

/-- The number of publishes that the sessions of the worker have started. -/
def publishes (workerId : String) (c : Cluster Data) : Nat :=
  (c.workers workerId).workload.publishes

theorem Closed.shut {c : Cluster Data} {workerId : String} (h : c.Closed workerId)
    (hreturned : c.AllReturned workerId) : c.Shut workerId where
  ended := by
    intro obj hobj
    have hend := (h.drained.quiet obj.session (List.mem_map_of_mem hobj)).1
    cases hstate : obj.session.state with
    | stopped | errored => rfl
    | idle | running | draining =>
      rw [hstate] at hend
      cases hend
  unlocked := by
    intro streamId k hk
    obtain ⟨answered, hmem⟩ := List.exists_mem_of_ne_nil _ h.drained.released
    have hreleased := hreturned.released answered hmem
    subst hreleased
    obtain ⟨i, claim, stream, -, -, hwaits⟩ := h.locks hmem streamId k hk
    simp [roster, hreturned.routes] at hwaits

/-- Nothing is left that could go wrong. -/
theorem Closed.keepsShut {c c' : Cluster Data} {workerId : String} (h : c.Closed workerId)
    (hreturned : c.AllReturned workerId) {a : Action Data} (hs : c.step a = some c') :
    c.KeepsShut workerId a := by
  cases a with
  | worker w b =>
    cases b with
    | resumeDrain now i =>
      rintro rfl obj hobj -
      exact (h.drained.quiet obj.session (List.mem_map_of_mem hobj)).2
    | _ =>
      rintro rfl
      exact not_spawns_of_routes hreturned.routes
  | acquire w i uuid fate =>
    cases fate with
    | lost error =>
      rintro rfl - call (hcall : _ = some call)
      -- An acquire that is still to be answered has a route that waits for it.
      exfalso
      simp only [Cluster.step, Cluster.acquire, hcall] at hs
      split at hs
      · cases hs
      · obtain ⟨r, hr, -⟩ := Option.map_eq_some_iff.mp hs
        obtain ⟨calls, hcalls, -⟩ := Option.map_eq_some_iff.mp hr
        rw [LockCall.arrive, hcall] at hcalls
        simp only at hcalls
        split at hcalls
        · cases hcalls
        · next hnone =>
          have hclaim : (c.workers w).roster.claims[i]? = some call.claim := by simp [roster, hcall]
          have hopen : call.claim.grant = none := by
            rw [LockCall.claim, Option.not_isSome_iff_eq_none.mp hnone]
            rfl
          obtain ⟨stream, hwaits⟩ := h.drained.awaited i _ hclaim (.inr hopen)
          simp [roster, hreturned.routes] at hwaits
    | answered | unreached => trivial
  | releaseAll w i fate =>
    rintro rfl
    exfalso
    obtain ⟨r, hr, -⟩ := Option.map_eq_some_iff.mp hs
    obtain ⟨calls, hcalls, -⟩ := Option.map_eq_some_iff.mp hr
    unfold LockCall.arrive at hcalls
    split at hcalls
    · cases hcalls
    · next call hcall =>
      split at hcalls
      · cases hcalls
      · next hnone =>
        have hmem : call.answer.isSome ∈ (c.workers w).released :=
          List.mem_map.mpr ⟨call, List.mem_of_getElem? hcall, rfl⟩
        exact hnone (hreturned.released _ hmem)
  | renew | release | evict | advance => trivial

theorem AllReturned.step {c c' : Cluster Data} {workerId : String} {a : Action Data}
    (h : c.AllReturned workerId) (hdrain : ∀ now, a ≠ .worker workerId (.drainAll now))
    (hroute : ∀ now event, a ≠ .worker workerId (.route now event)) (hs : c.step a = some c') :
    c'.AllReturned workerId := by
  rcases step_registry hs workerId with hsame | ⟨ra, hra, hown⟩
  · exact ⟨hsame ▸ h.drains, hsame ▸ h.released, hsame ▸ h.routes⟩
  · have hdrain' : ∀ now, ra ≠ .drainAll now := by
      rintro now rfl
      rcases hown with hown | hown
      · exact hdrain now hown
      · cases hown
    have hresume : ∀ now i, ra ≠ .resumeDrain now i := by
      rintro now i rfl
      simp [SessionRegistry.step, resumeDrain, h.drains] at hra
    have hanswer : ∀ i answer, ra ≠ .releaseAllAnswered i answer := by
      rintro i answer rfl
      obtain ⟨calls, hcalls, -⟩ := Option.map_eq_some_iff.mp hra
      unfold LockCall.arrive at hcalls
      split at hcalls
      · cases hcalls
      · next call hcall =>
        split at hcalls
        · cases hcalls
        · next hnone =>
          have hmem : call.answer.isSome ∈ (c.workers workerId).released :=
            List.mem_map.mpr ⟨call, List.mem_of_getElem? hcall, rfl⟩
          exact hnone (h.released _ hmem)
    refine ⟨(step_drains hra hdrain' hresume).trans h.drains, ?_, ?_⟩
    · rw [step_released hra hresume hanswer]
      exact h.released
    · apply List.eq_nil_iff_forall_not_mem.mpr
      intro f hf
      rcases step_routes hra f hf with hold | ⟨now, rfl⟩
      · rw [h.routes] at hold
        cases hold
      · rcases hown with hown | hown
        · exact hroute now f.event hown
        · cases hown

theorem step_undrained {c c' : Cluster Data} {workerId : String} {a : Action Data}
    (h : (c.workers workerId).Undrained) (ha : ∀ now, a ≠ .worker workerId (.drainAll now))
    (hs : c.step a = some c') : (c'.workers workerId).Undrained := by
  rcases step_registry hs workerId with hsame | ⟨ra, hra, hown⟩
  · rw [hsame]
    exact h
  · refine h.step ?_ hra
    rintro now rfl
    rcases hown with hown | hown
    · exact ha now hown
    · cases hown

theorem step_draining {c c' : Cluster Data} {workerId : String} {a : Action Data}
    (h : (c.workers workerId).Draining) (ha : ∀ now, a ≠ .worker workerId (.drainAll now))
    (hkeeps : c.KeepsShut workerId a) (hs : c.step a = some c') :
    (c'.workers workerId).Draining ∨ c'.Closed workerId := by
  rcases step_registry hs workerId with hsame | ⟨ra, hra, hown⟩
  · rw [hsame]
    exact .inl h
  · have hstep : (c'.workers workerId).Draining ∨
        (c'.workers workerId).Drained ∧ true ∉ (c'.workers workerId).released := by
      rcases hown with rfl | hown
      · refine h.step (fun now he => ha now (by rw [he])) hkeeps.spawns ?_ hra
        rintro now i rfl
        exact hkeeps rfl
      · refine h.step ?_ (SessionRegistry.not_spawns_of_answers hown) ?_ hra
        · rintro now rfl
          cases hown
        · rintro now i rfl
          cases hown
    rcases hstep with hdraining | ⟨hdrained, hnone⟩
    · exact .inl hdraining
    · exact .inr ⟨hdrained, fun hmem => absurd hmem hnone⟩

/-- A step of the drain: it keeps the worker shut, and `drainAll()` is not called again. -/
def DrainStep (workerId : String) (c : Cluster Data) (a : Action Data) (_ : Cluster Data) : Prop :=
  (∀ now, a ≠ .worker workerId (.drainAll now)) ∧ c.KeepsShut workerId a

/-- The worker whose `drainAll()` the action calls. -/
def drainedBy : Action Data → Option String
  | .worker w (.drainAll _) => some w
  | _ => none

theorem drainedBy_eq_some {a : Action Data} {workerId : String} :
    drainedBy a = some workerId ↔ ∃ now, a = .worker workerId (.drainAll now) := by
  constructor
  · intro h
    cases a with
    | worker w b =>
      cases b with
      | drainAll now =>
        simp only [drainedBy, Option.some.injEq] at h
        exact ⟨now, by rw [h]⟩
      | _ => cases h
    | _ => cases h
  · rintro ⟨now, rfl⟩
    rfl

instance (workerId : String) (a : Action Data) :
    Decidable (∀ now, a ≠ .worker workerId (.drainAll now)) :=
  decidable_of_iff (drainedBy a ≠ some workerId) (by rw [Ne, drainedBy_eq_some, not_exists])

instance (workerId : String) (c : Cluster Data) (a : Action Data) (c' : Cluster Data) :
    Decidable (DrainStep workerId c a c') :=
  inferInstanceAs (Decidable (_ ∧ _))

theorem run_draining {c c' : Cluster Data} {workerId : String} {as : List (Action Data)}
    (h : (c.workers workerId).Draining) (hsteps : AllSteps step (DrainStep workerId) c as)
    (hr : run step c as = some c') : (c'.workers workerId).Draining ∨ c'.Closed workerId := by
  refine AllSteps.invariant
    (I := fun q : Cluster Data => (q.workers workerId).Draining ∨ q.Closed workerId)
    ?_ (.inl h) hsteps hr
  rintro q a q' (hdraining | hclosed) ⟨ha, hkeeps⟩ hs
  · exact step_draining hdraining ha hkeeps hs
  · exact .inr (hclosed.step ha hkeeps hs).1

theorem run_closed {c c' : Cluster Data} {workerId : String} {as : List (Action Data)}
    (h : c.Closed workerId) (hsteps : AllSteps step (DrainStep workerId) c as)
    (hr : run step c as = some c') :
    c'.Closed workerId ∧ c'.publishes workerId = c.publishes workerId := by
  refine AllSteps.invariant
    (I := fun q : Cluster Data => q.Closed workerId ∧ q.publishes workerId = c.publishes workerId)
    ?_ ⟨h, rfl⟩ hsteps hr
  rintro q a q' ⟨hclosed, hsame⟩ ⟨ha, hkeeps⟩ hs
  obtain ⟨hclosed', hpublishes⟩ := hclosed.step ha hkeeps hs
  exact ⟨hclosed', hpublishes.trans hsame⟩

/-- A worker that is shut stays so while no route is made. -/
theorem run_shut {c c' : Cluster Data} {workerId : String} {as : List (Action Data)}
    (h : c.Closed workerId) (hreturned : c.AllReturned workerId)
    (hquiet : ∀ a ∈ as, (∀ now, a ≠ .worker workerId (.drainAll now)) ∧
      ∀ now event, a ≠ .worker workerId (.route now event))
    (hr : run step c as = some c') :
    c'.Shut workerId ∧ c'.publishes workerId = c.publishes workerId := by
  have hall := run_invariant_of
    (I := fun q : Cluster Data => q.Closed workerId ∧ q.AllReturned workerId ∧
      q.publishes workerId = c.publishes workerId) ?_ ⟨h, hreturned, rfl⟩ hquiet hr
  · exact ⟨hall.1.shut hall.2.1, hall.2.2⟩
  · rintro q a q' ⟨hclosed, hback, hsame⟩ ⟨hdrain, hroute⟩ hs
    obtain ⟨hclosed', hpublishes⟩ := hclosed.step hdrain (hclosed.keepsShut hback hs) hs
    exact ⟨hclosed', hback.step hdrain hroute hs, hpublishes.trans hsame⟩

/-- From the moment a worker calls `drainAll()`, let no route of it spawn a session, and
let nothing else keep it from shutting (`KeepsShut`).  Then it publishes nothing once
the drain is past its stops.  When the drain and the routes have returned, no session
of the worker runs, the backend has no lock of it, and without a further route that is
so for good. -/
theorem drain_complete {c₀ c c₁ c₂ : Cluster Data} {workerId : String} {now : Date}
    {as bs : List (Action Data)} (hinit : c₀.Initial) (hbefore : run step c₀ as = some c)
    (hfirst : ∀ a ∈ as, ∀ now, a ≠ .worker workerId (.drainAll now))
    (hdrain : c.step (.worker workerId (.drainAll now)) = some c₁)
    (hsteps : AllSteps step (DrainStep workerId) c₁ bs) (hafter : run step c₁ bs = some c₂) :
    (∀ bs₁ bs₂ c', bs = bs₁ ++ bs₂ → run step c₁ bs₁ = some c' →
      (c'.workers workerId).drains = [] → c₂.publishes workerId = c'.publishes workerId) ∧
    (c₂.AllReturned workerId → c₂.Shut workerId ∧
      ∀ cs c₃, (∀ a ∈ cs, (∀ now, a ≠ .worker workerId (.drainAll now)) ∧
          ∀ now event, a ≠ .worker workerId (.route now event)) →
        run step c₂ cs = some c₃ →
        c₃.Shut workerId ∧ c₃.publishes workerId = c₂.publishes workerId) := by
  obtain ⟨options, hcreate⟩ := hinit.workers workerId
  have hundrained : (c.workers workerId).Undrained :=
    run_invariant_of (I := fun q : Cluster Data => (q.workers workerId).Undrained)
      (fun _ _ _ h ha hs => step_undrained h ha hs) (create_undrained hcreate) hfirst hbefore
  have hdraining : (c₁.workers workerId).Draining := by
    rw [step_drainAll hdrain]
    exact hundrained.drainAll now
  have hclosed : ∀ q : Cluster Data, (q.workers workerId).Draining ∨ q.Closed workerId →
      (q.workers workerId).drains = [] → q.Closed workerId := by
    rintro q (h | h) hnil
    · obtain ⟨stops, hdrains, -⟩ := h.drains
      rw [hnil] at hdrains
      cases hdrains
    · exact h
  constructor
  · rintro bs₁ bs₂ c' rfl hr hnil
    obtain ⟨q, hq, hrest⟩ := run_append_eq_some.mp hafter
    rw [hr, Option.some.injEq] at hq
    subst hq
    have hc' := hclosed c' (run_draining hdraining hsteps.of_append hr) hnil
    exact (run_closed hc' (AllSteps.after_run hsteps hr) hrest).2
  · intro hreturned
    have hc₂ := hclosed c₂ (run_draining hdraining hsteps hafter) hreturned.drains
    refine ⟨hc₂.shut hreturned, ?_⟩
    intro cs c₃ hquiet hr
    exact run_shut hc₂ hreturned hquiet hr

/-- A route spawns a session, which publishes its event. -/
def published : List (Action Unit) :=
  [routed, .acquire "w" 0 "k1" .answered, .worker "w" (.settleAcquire 0),
    .worker "w" (.resumeRoute ⟨0⟩ 0 "x"), .worker "w" (.pump ⟨0⟩ 0 0 .resolved)]

/-- The rest of `drainAll()`. -/
def drainOver : List (Action Unit) :=
  [.worker "w" (.resumeDrain ⟨0⟩ 0), .releaseAll "w" 0 .answered,
    .worker "w" (.resumeReleaseAll 0)]

/-- The claim of a route is granted after `releaseAll()`, and the route resumes. -/
def spawnedLate : List (Action Unit) :=
  drainOver ++ [.acquire "w" 0 "k1" .answered, .worker "w" (.settleAcquire 0),
    .worker "w" (.resumeRoute ⟨0⟩ 0 "x")]

instance (workerId : String) (c : Cluster Data) : Decidable (c.AllReturned workerId) :=
  decidable_of_iff
    ((c.workers workerId).drains.length = 0 ∧
      (∀ answered ∈ (c.workers workerId).released, answered = true) ∧
      (c.workers workerId).routes.length = 0)
    ⟨fun h => ⟨List.eq_nil_of_length_eq_zero h.1, h.2.1, List.eq_nil_of_length_eq_zero h.2.2⟩,
      fun h => ⟨by rw [h.drains, List.length_nil], h.released,
        by rw [h.routes, List.length_nil]⟩⟩

/-- A worker whose only session has published its event is shut by the drain. -/
theorem drain_complete_published : ∃ c c₁ c₂ : Cluster Unit,
    run step oneWorker published = some c ∧ c.step (.worker "w" (.drainAll ⟨0⟩)) = some c₁ ∧
      run step c₁ drainOver = some c₂ ∧ c₂.Shut "w" := by
  have hfirst : ∀ a ∈ published, ∀ now, a ≠ .worker "w" (.drainAll now) := by decide
  have hcheck : ((run step oneWorker published).bind fun c =>
      (c.step (.worker "w" (.drainAll ⟨0⟩))).bind fun c₁ =>
        (run step c₁ drainOver).map fun c₂ =>
          decide (AllSteps step (DrainStep "w") c₁ drainOver) && decide (c₂.AllReturned "w")) =
      some true := by decide +kernel
  obtain ⟨c, hc, hcheck⟩ := Option.bind_eq_some_iff.mp hcheck
  obtain ⟨c₁, hc₁, hcheck⟩ := Option.bind_eq_some_iff.mp hcheck
  obtain ⟨c₂, hc₂, hcheck⟩ := Option.map_eq_some_iff.mp hcheck
  simp only [Bool.and_eq_true, decide_eq_true_eq] at hcheck
  obtain ⟨hsteps, hreturned⟩ := hcheck
  have hshut := (drain_complete oneWorker_initial hc hfirst hc₁ hsteps hc₂).2 hreturned
  exact ⟨c, c₁, c₂, hc, hc₁, hc₂, hshut.1⟩

/-- A session that is spawned after the drain keeps running. -/
theorem spawnedLate_not_shut :
    ¬∀ (c₀ c c₁ c₂ : Cluster Unit) (workerId : String) (now : Date)
      (as bs : List (Action Unit)), c₀.Initial → run step c₀ as = some c →
      (∀ a ∈ as, ∀ now, a ≠ .worker workerId (.drainAll now)) →
      c.step (.worker workerId (.drainAll now)) = some c₁ →
      (∀ a ∈ bs, ∀ now, a ≠ .worker workerId (.drainAll now)) →
      run step c₁ bs = some c₂ → c₂.AllReturned workerId → c₂.Shut workerId := by
  intro h
  have hcheck : ((run step oneWorker [routed]).bind fun c =>
      (c.step (.worker "w" (.drainAll ⟨0⟩))).bind fun c₁ =>
        (run step c₁ spawnedLate).map fun c₂ => decide (c₂.AllReturned "w") &&
          (c₂.workers "w").objects.any fun obj => obj.session.state.live) =
      some true := by decide +kernel
  obtain ⟨c, hc, hcheck⟩ := Option.bind_eq_some_iff.mp hcheck
  obtain ⟨c₁, hc₁, hcheck⟩ := Option.bind_eq_some_iff.mp hcheck
  obtain ⟨c₂, hc₂, hcheck⟩ := Option.map_eq_some_iff.mp hcheck
  simp only [Bool.and_eq_true, decide_eq_true_eq, List.any_eq_true] at hcheck
  obtain ⟨hreturned, obj, hobj, hlive⟩ := hcheck
  have hshut := h oneWorker c c₁ c₂ "w" ⟨0⟩ [routed] spawnedLate oneWorker_initial hc
    (by decide) hc₁ (by decide) hc₂ hreturned
  rw [hshut.ended obj hobj] at hlive
  cases hlive

end Cluster

end Processing
end XStreamRoll
