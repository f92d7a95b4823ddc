/-
Who may publish for a stream.

Nothing looks at the lease when a publish starts.  What the lock manager gives is
this: a session that has not failed runs under the token of its worker's lease,
and until that lease runs out the row of the stream is that lease.  A lease that
no renewal reaches in time runs out under a session that goes on publishing, and
from then on another worker may take the stream over.
-/
import XStreamRoll.Processing.Cluster.Ownership

namespace XStreamRoll
namespace Processing

open Transition

variable {Data : Type}

/-- The row of a stream in `stream_locks`. -/
def Locks.row (streamId : String) : Locks → Option LockRow
  | .memory _ => none
  | .postgres table => table streamId

def Locks.shared : Locks → Bool
  | .memory _ => false
  | .postgres _ => true

namespace Cluster

/-- In the step the worker's session `obj` starts a publish. -/
def Publishes (workerId : String) (obj : SessionObject Data) (c c' : Cluster Data) : Prop :=
  ∃ o, (c'.workers workerId).objects[o]? = some obj ∧
    ((c'.workers workerId).log.drop (c.workers workerId).log.length).any
      (fun e => e.1 = o ∧ e.2.isPublish) = true

/-- The backend stays what it is. -/
theorem step_shared {c c' : Cluster Data} {a : Action Data} (hs : c.step a = some c') :
    c'.locks.shared = c.locks.shared := by
  have hdealt : ∀ (w : String) (fate : Fate) (locks : Locks) (ok : Bool)
      (op : Lease.Op String String String Timestamptz) (r : SessionRegistry Data)
      (c : Cluster Data), locks.shared = c.locks.shared →
        (c.dealt w fate locks ok op r).locks.shared = c.locks.shared := by
    intro w fate locks ok op r c hsame
    unfold dealt
    cases fate.reached with
    | false => rfl
    | true => exact hsame
  cases a with
  | worker w a =>
    simp only [step] at hs
    split at hs
    · obtain ⟨r, -, rfl⟩ := Option.map_eq_some_iff.mp hs
      rfl
    · cases hs
  | acquire w i uuid fate =>
    simp only [step, acquire] at hs
    split at hs
    · cases hs
    · split at hs
      · cases hs
      · obtain ⟨r, -, rfl⟩ := Option.map_eq_some_iff.mp hs
        exact hdealt _ _ _ _ _ _ _ (by cases hl : c.locks <;> rfl)
  | renew w i fate =>
    simp only [step, renew] at hs
    split at hs
    · cases hs
    · obtain ⟨r, -, rfl⟩ := Option.map_eq_some_iff.mp hs
      exact hdealt _ _ _ _ _ _ _ (by cases hl : c.locks <;> rfl)
  | release w i fate =>
    simp only [step, release] at hs
    split at hs
    · cases hs
    · obtain ⟨r, -, rfl⟩ := Option.map_eq_some_iff.mp hs
      exact hdealt _ _ _ _ _ _ _ (by cases hl : c.locks <;> rfl)
  | releaseAll w i fate =>
    obtain ⟨r, -, rfl⟩ := Option.map_eq_some_iff.mp hs
    exact hdealt _ _ _ _ _ _ _ (by cases hl : c.locks <;> rfl)
  | evict w timer =>
    simp only [step, evict] at hs
    split at hs
    · cases hs
    · next managers hl =>
      split at hs
      · cases hs
      · obtain ⟨m, -, rfl⟩ := Option.map_eq_some_iff.mp hs
        rw [hl]
        rfl
  | advance micros =>
    simp only [step, Option.some.injEq] at hs
    subst hs
    rfl

/-- The session runs under its worker's lease on the stream. -/
theorem Owned.lease {c : Cluster Data} {workerId : String} (h : c.Owned workerId)
    {obj : SessionObject Data} (hobj : obj ∈ (c.workers workerId).objects)
    (hlive : obj.session.state.live = true) :
    ∃ expiry, c.leases obj.session.streamId workerId = some (obj.claim.token, expiry) := by
  obtain ⟨o, ho⟩ := List.mem_iff_getElem?.mp hobj
  have hmember : (c.workers workerId).roster.objects[o]? =
      some ⟨obj.session.streamId, obj.claim.token, true⟩ := by
    simp [SessionRegistry.roster, ho, SessionObject.member, hlive]
  have htoken := h.backed.live o _ _ hmember
  obtain ⟨lease, hlease, hfst⟩ := Option.map_eq_some_iff.mp htoken
  exact ⟨lease.2, by rw [hlease, ← hfst]⟩

/-- An unexpired lease is the row, and nobody else has an unexpired one. -/
theorem Sound.row {c : Cluster Data} (h : c.Sound) (hshared : c.locks.shared = true)
    {streamId workerId token : String} {expiry : Timestamptz}
    (hlease : c.leases streamId workerId = some (token, expiry)) (hlt : c.now < expiry) :
    c.locks.row streamId = some ⟨workerId, token, expiry⟩ ∧
      ∀ w token' expiry', c.leases streamId w = some (token', expiry') → c.now < expiry' →
        w = workerId := by
  have hcur := h.current
  cases hl : c.locks with
  | memory managers =>
    rw [hl] at hshared
    cases hshared
  | postgres table =>
    rw [hl] at hcur
    have hrow := hcur streamId workerId token expiry hlease hlt
    refine ⟨hrow, ?_⟩
    intro w token' expiry' hlease' hlt'
    have hrow' := hcur streamId w token' expiry' hlease' hlt'
    rw [hrow, Option.some.injEq] at hrow'
    exact (congrArg Lease.Row.owner hrow').symm

/-- Whenever a session that has not failed starts a publish, its worker has a lease
on the stream under the session's token.  Unless that lease has run out, it is
the row of the stream, and no other worker has a lease there that has not. -/
theorem publishes_under_lease {c₀ c c' : Cluster Data} {as : List (Action Data)} {a : Action Data}
    {workerId : String} {obj : SessionObject Data} (hinit : c₀.Initial)
    (hshared : c₀.locks.shared = true)
    (horderly : AllSteps step (fun c a _ => c.Orderly workerId a) c₀ (as ++ [a]))
    (hr : run step c₀ as = some c) (hs : c.step a = some c')
    (hpublishes : c.Publishes workerId obj c') (hlive : obj.session.state.live = true) :
    ∃ expiry, c'.leases obj.session.streamId workerId = some (obj.claim.token, expiry) ∧
      (c'.now < expiry →
        c'.locks.row obj.session.streamId = some ⟨workerId, obj.claim.token, expiry⟩ ∧
          ∀ w token' expiry', c'.leases obj.session.streamId w = some (token', expiry') →
            c'.now < expiry' → w = workerId) := by
  have hr' : run step c₀ (as ++ [a]) = some c' :=
    run_append_eq_some.mpr ⟨c, hr, by rw [run_singleton, hs]⟩
  obtain ⟨hsound, howned⟩ := run_owned hinit horderly hr'
  have hkept : c'.locks.shared = true :=
    run_invariant (I := fun c : Cluster Data => c.locks.shared = true)
      (fun _ _ _ h hs => (step_shared hs).trans h) hshared hr'
  obtain ⟨o, ho, -⟩ := hpublishes
  obtain ⟨expiry, hlease⟩ := howned.lease (List.mem_of_getElem? ho) hlive
  exact ⟨expiry, hlease, hsound.row hkept hlease⟩

/-! ## A lease that runs out under a publish -/

/-- Workers with a heartbeat of 10 s and a lease of 30 s. -/
def twoWorkers : Cluster Unit :=
  initial (.postgres fun _ => none) ⟨10, 30000, some 10000, none, none, true⟩ 10000

theorem twoWorkers_initial : twoWorkers.Initial := initial_initial rfl (by decide)

/-- Worker `v` obtains the lock of stream `s`. -/
def obtained : List (Action Unit) :=
  [.worker "v" (.route ⟨0⟩ ⟨none, "s", (), ⟨"", none⟩⟩), .acquire "v" 0 "k1" .answered,
    .worker "v" (.settleAcquire 0)]

/-- `v` spawns its session, which publishes at once. -/
def spawned : Action Unit := .worker "v" (.resumeRoute ⟨0⟩ 0 "x")

/-- No renewal of `v` reaches the database, and its publish fails just before the
lease runs out.  Worker `w` takes the stream over while `v` sleeps. -/
def takenOver : List (Action Unit) :=
  [.advance 10000000, .worker "v" (.tick ⟨10000⟩ 0), .renew "v" 0 (.unreached "timeout"),
    .worker "v" (.resumeTick ⟨10000⟩ 0), .advance 10000000, .worker "v" (.tick ⟨20000⟩ 1),
    .renew "v" 1 (.unreached "timeout"), .worker "v" (.resumeTick ⟨20000⟩ 0), .advance 9950000,
    .worker "v" (.pump ⟨29950⟩ 0 0 (.rejected "timeout")), .advance 50000,
    .worker "w" (.route ⟨30000⟩ ⟨none, "s", (), ⟨"", none⟩⟩), .acquire "w" 0 "k2" .answered,
    .worker "w" (.settleAcquire 0), .worker "w" (.resumeRoute ⟨30000⟩ 0 "y"), .advance 50000]

/-- `v` tries its publish again. -/
def retried : Action Unit := .worker "v" (.pump ⟨30050⟩ 0 0 .resolved)

/-- The new log entries of `v`'s only session hold a publish. -/
def publishing (c c' : Cluster Unit) : Bool :=
  ((c'.workers "v").log.drop (c.workers "v").log.length).any fun e => e.1 = 0 ∧ e.2.isPublish

theorem Publishes.of_publishing {c c' : Cluster Unit} {obj : SessionObject Unit}
    (ho : (c'.workers "v").objects[0]? = some obj) (h : publishing c c' = true) :
    c.Publishes "v" obj c' :=
  ⟨0, ho, h⟩

/-- The first publish of `v` is covered. -/
theorem publishes_under_lease_spawned : ∃ (c c' : Cluster Unit) (obj : SessionObject Unit),
    run step twoWorkers obtained = some c ∧ c.step spawned = some c' ∧
      c.Publishes "v" obj c' ∧ ∃ expiry, c'.now < expiry ∧
        c'.locks.row obj.session.streamId = some ⟨"v", obj.claim.token, expiry⟩ := by
  have horderly : AllSteps step (fun c a _ => c.Orderly "v" a) twoWorkers
      (obtained ++ [spawned]) := by decide +kernel
  have hrun : ((run step twoWorkers obtained).bind fun c => (c.step spawned).bind fun c' =>
      ((c'.workers "v").objects[0]?).map fun obj =>
        publishing c c' && obj.session.state.live &&
          (c'.leases obj.session.streamId "v").all fun lease => decide (c'.now < lease.2)) =
      some true := by decide +kernel
  simp only [Option.bind_eq_some_iff, Option.map_eq_some_iff, Bool.and_eq_true] at hrun
  obtain ⟨c, hc, c', hc', obj, hobj, ⟨hpub, hlive⟩, hunexpired⟩ := hrun
  have hpublishes := Publishes.of_publishing hobj hpub
  obtain ⟨expiry, hlease, hrow⟩ := publishes_under_lease twoWorkers_initial rfl horderly hc hc'
    hpublishes hlive
  rw [hlease] at hunexpired
  have hlt : c'.now < expiry := by simpa using hunexpired
  exact ⟨c, c', obj, hc, hc', hpublishes, expiry, hlt, (hrow hlt).1⟩

/-- The retry of `v` is not: the row is `w`'s by then. -/
theorem retried_without_row :
    ¬∀ (c₀ c c' : Cluster Unit) (as : List (Action Unit)) (a : Action Unit) (workerId : String)
      (obj : SessionObject Unit), c₀.Initial → c₀.locks.shared = true →
      run step c₀ as = some c → c.step a = some c' → c.Publishes workerId obj c' →
      ∃ expiry, c'.now < expiry ∧
        c'.locks.row obj.session.streamId = some ⟨workerId, obj.claim.token, expiry⟩ := by
  intro h
  have hrun : ((run step twoWorkers (obtained ++ [spawned] ++ takenOver)).bind fun c =>
      (c.step retried).bind fun c' => ((c'.workers "v").objects[0]?).map fun obj =>
        publishing c c' && decide (c'.locks.row obj.session.streamId =
          some ⟨"w", "k2", ⟨60000000⟩⟩)) = some true := by decide +kernel
  simp only [Option.bind_eq_some_iff, Option.map_eq_some_iff, Bool.and_eq_true,
    decide_eq_true_eq] at hrun
  obtain ⟨c, hc, c', hc', obj, hobj, hpub, hrow⟩ := hrun
  obtain ⟨expiry, -, hown⟩ := h _ c c' _ retried "v" obj twoWorkers_initial rfl hc hc'
    (Publishes.of_publishing hobj hpub)
  rw [hrow, Option.some.injEq] at hown
  have howner : "w" = "v" := congrArg Lease.Row.owner hown
  exact absurd howner (by decide)

end Cluster

end Processing
end XStreamRoll
