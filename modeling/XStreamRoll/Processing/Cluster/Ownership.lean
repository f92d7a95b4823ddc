/-
What a worker owns, and what the backend has for it.

Three facts travel along every run.  The leases on record are in the backend
(`Locks.Current`), whatever the workers do.  The UUIDs that came back are among
those issued.  And a worker whose steps are orderly is backed by its leases: a
live session runs under the token of the lease on its stream.
-/
import XStreamRoll.Processing.Cluster
import XStreamRoll.Processing.SessionRegistry.Holding

namespace XStreamRoll
namespace Processing

open Transition

variable {Data : Type}

/-! ## The leases on record are in the backend -/

namespace Locks

/-- In `stream_locks` a row stays until its lease runs out, and then may go to
another worker.  A lock in memory stays until it is evicted. -/
def Current (now : Timestamptz) (leases : Lease.Tenure String String String Timestamptz) :
    Locks → Prop
  | .memory managers => ∀ streamId workerId token,
      leases.token streamId workerId = some token →
        (managers workerId).held streamId = some token
  | .postgres table => Lease.Kept now table leases

variable {NOW : Timestamptz} {leases : Lease.Tenure String String String Timestamptz}
  {locks : Locks}

theorem Current.advance (h : locks.Current NOW leases) {NOW' : Timestamptz} (hle : NOW ≤ NOW') :
    locks.Current NOW' leases := by
  cases locks with
  | memory managers => exact h
  | postgres table => exact Lease.Kept.advance h hle

/-- One manager in memory has changed, for one stream. -/
theorem Current.update {managers : String → MemoryLockManager}
    (h : (memory managers).Current NOW leases) (streamId : String) {workerId : String}
    {m : MemoryLockManager} {leases' : Lease.Tenure String String String Timestamptz}
    (hleases : ∀ s w, ¬(s = streamId ∧ w = workerId) → leases'.token s w = leases.token s w)
    (hheld : ∀ s, s ≠ streamId → m.held s = (managers workerId).held s)
    (hself : ∀ token, leases'.token streamId workerId = some token →
      m.held streamId = some token) :
    (memory (Function.update managers workerId m)).Current NOW leases' := by
  intro s w token hl
  by_cases hw : w = workerId
  · subst hw
    rw [Function.update_self]
    by_cases hs : s = streamId
    · subst hs
      exact hself token hl
    · rw [hheld s hs]
      rw [hleases s w (fun hc => hs hc.1)] at hl
      exact h s w token hl
  · rw [Function.update_of_ne hw]
    rw [hleases s w (fun hc => hw hc.2)] at hl
    exact h s w token hl

theorem acquire_token {now : Date} {uuid streamId workerId : String} {ttlMs : Nat}
    {token : LockToken}
    (h : (locks.acquire NOW now uuid streamId workerId ttlMs).1 = some token) :
    token.token = uuid := by
  cases locks with
  | memory managers => exact MemoryLockManager.acquire_token h
  | postgres table =>
    have hacq : (PostgresLockManager.acquire NOW now uuid streamId ⟨workerId, ttlMs⟩ table).1 =
        some token := h
    rw [PostgresLockManager.acquire_eq] at hacq
    simp only at hacq
    split at hacq
    · rw [Option.some.injEq] at hacq
      rw [← hacq]
      rfl
    · cases hacq

theorem Current.acquire (h : locks.Current NOW leases) (now : Date)
    (uuid streamId workerId : String) (ttlMs : Nat) :
    (locks.acquire NOW now uuid streamId workerId ttlMs).2.Current NOW
      (leases.note (locks.acquire NOW now uuid streamId workerId ttlMs).1.isSome
        (.claim streamId ⟨workerId, uuid, (now.plus ttlMs).toTimestamptz⟩)) := by
  cases locks with
  | memory managers =>
    let ran := (managers workerId).acquire now uuid streamId
    have hheld : ran.2.held = if ran.1.isSome then _ else _ :=
      MemoryLockManager.acquire_held now uuid streamId (managers workerId)
    show (memory (Function.update managers workerId ran.2)).Current NOW
      (leases.note ran.1.isSome _)
    cases hok : ran.1.isSome with
    | false =>
      rw [hok] at hheld
      refine h.update streamId (fun _ _ _ => rfl) (fun s _ => congrFun hheld s) ?_
      intro token hl
      exact (congrFun hheld streamId).trans (h streamId workerId token hl)
    | true =>
      rw [hok, if_pos rfl] at hheld
      refine h.update streamId ?_ ?_ ?_
      · intro s w hne
        exact (leases.token_claim ..).trans (if_neg hne)
      · intro s hs
        rw [hheld, Function.update_of_ne hs]
      · intro token hl
        rw [Lease.Tenure.note, if_pos rfl, Lease.Tenure.token_claim, if_pos ⟨rfl, rfl⟩] at hl
        rw [hheld, Function.update_self, hl]
  | postgres table =>
    let m : PostgresLockManager := ⟨workerId, ttlMs⟩
    show Lease.Kept NOW (m.acquire NOW now uuid streamId table).2
      (leases.note (m.acquire NOW now uuid streamId table).1.isSome _)
    have hkept := Lease.Kept.apply h (.claim streamId (m.claimed now uuid))
    rw [PostgresLockManager.acquire_eq]
    cases hok : (Lease.apply NOW table (.claim streamId (m.claimed now uuid))).1 with
    | false =>
      rw [hok] at hkept
      exact hkept
    | true =>
      rw [hok] at hkept
      exact hkept

theorem Current.renew (h : locks.Current NOW leases) (now : Date) (streamId : String)
    (token : LockToken) (workerId : String) (ttlMs : Nat) :
    (locks.renew NOW now streamId token workerId ttlMs).2.Current NOW
      (leases.note (locks.renew NOW now streamId token workerId ttlMs).1
        (.extend streamId workerId token.token (now.plus ttlMs).toTimestamptz)) := by
  cases locks with
  | memory managers =>
    let ran := (managers workerId).renew now streamId token
    have hheld : ran.2.held = (managers workerId).held :=
      (MemoryLockManager.renew_held now streamId token (managers workerId)).2
    have htoken : ∀ s w, (leases.note ran.1 (.extend streamId workerId token.token
        (now.plus ttlMs).toTimestamptz)).token s w = leases.token s w := by
      intro s w
      cases ran.1 with
      | false => rfl
      | true => exact leases.token_extend ..
    show (memory (Function.update managers workerId ran.2)).Current NOW (leases.note ran.1 _)
    refine h.update streamId (fun s w _ => htoken s w)
      (fun s _ => congrFun hheld s) ?_
    intro token' hl
    rw [htoken] at hl
    rw [hheld]
    exact h streamId workerId token' hl
  | postgres table =>
    let m : PostgresLockManager := ⟨workerId, ttlMs⟩
    show Lease.Kept NOW (m.renew NOW now streamId token table).2
      (leases.note (m.renew NOW now streamId token table).1 _)
    rw [PostgresLockManager.renew_eq]
    exact Lease.Kept.apply h _

theorem Current.release (h : locks.Current NOW leases) (streamId : String)
    (token : LockToken) (workerId : String) (ttlMs : Nat) :
    (locks.release streamId token workerId ttlMs).2.Current NOW
      (leases.note (locks.release streamId token workerId ttlMs).1
        (.drop streamId workerId token.token)) := by
  cases locks with
  | memory managers =>
    let ran := (managers workerId).release streamId token
    obtain ⟨hok, hheld⟩ := MemoryLockManager.release_held streamId token (managers workerId)
    show (memory (Function.update managers workerId ran.2)).Current NOW (leases.note ran.1 _)
    by_cases hmatch : (managers workerId).held streamId = some token.token
    · have hgranted : ran.1 = true := hok.trans (decide_eq_true hmatch)
      rw [if_pos hmatch] at hheld
      rw [hgranted]
      refine h.update streamId ?_ ?_ ?_
      · intro s w hne
        exact (leases.token_drop ..).trans (if_neg fun hc => hne hc.1)
      · intro s hs
        show ran.2.held s = _
        rw [hheld, Function.update_of_ne hs]
      · intro token' hl
        rw [Lease.Tenure.note, if_pos rfl, Lease.Tenure.token_drop] at hl
        split at hl
        · cases hl
        · next hnot =>
          -- The lock is the released one, and so is the lease.
          have hcur := h streamId workerId token' hl
          rw [hmatch] at hcur
          exact absurd ⟨⟨rfl, rfl⟩, hl.trans hcur.symm⟩ hnot
    · have hrefused : ran.1 = false := hok.trans (decide_eq_false hmatch)
      rw [if_neg hmatch] at hheld
      rw [hrefused]
      refine h.update streamId (fun _ _ _ => rfl) (fun s _ => congrFun hheld s) ?_
      intro token' hl
      exact (congrFun hheld streamId).trans (h streamId workerId token' hl)
  | postgres table =>
    let m : PostgresLockManager := ⟨workerId, ttlMs⟩
    show Lease.Kept NOW (m.release streamId token table).2
      (leases.note (m.release streamId token table).1 _)
    rw [PostgresLockManager.release_eq NOW]
    exact Lease.Kept.apply h _

theorem Current.releaseAll (h : locks.Current NOW leases) (workerId : String) (ttlMs : Nat) :
    (locks.releaseAll workerId ttlMs).Current NOW (leases.note true (.dropAll workerId)) := by
  cases locks with
  | memory managers =>
    intro s w token hl
    rw [Lease.Tenure.note, Lease.Tenure.token_dropAll] at hl
    split at hl
    · cases hl
    · next hw =>
      rw [Function.update_of_ne hw]
      exact h s w token hl
  | postgres table =>
    show Lease.Kept NOW (PostgresLockManager.releaseAll ⟨workerId, ttlMs⟩ table) _
    rw [PostgresLockManager.releaseAll_eq NOW]
    exact Lease.Kept.apply h (.dropAll workerId)

theorem Current.evict {managers : String → MemoryLockManager}
    (h : (memory managers).Current NOW leases) {now : Date} {workerId : String} {timer : Nat}
    {t : EvictionTimer} {m : MemoryLockManager}
    (ht : (managers workerId).timers.lookup timer = some t)
    (hm : (managers workerId).fire now timer = some m) :
    (memory (Function.update managers workerId m)).Current NOW
      (leases.drop t.streamId workerId t.expectedToken) := by
  have hheld := MemoryLockManager.fire_held ht hm
  refine h.update t.streamId ?_ ?_ ?_
  · intro s w hne
    exact (leases.token_drop ..).trans (if_neg fun hc => hne hc.1)
  · intro s hs
    rw [hheld]
    split
    · rw [Function.update_of_ne hs]
    · rfl
  · intro token hl
    rw [Lease.Tenure.token_drop] at hl
    split at hl
    · cases hl
    · next hnot =>
      have hcur := h t.streamId workerId token hl
      have hstays : (managers workerId).held t.streamId ≠ some t.expectedToken := by
        intro hexpected
        rw [hcur] at hexpected
        exact hnot ⟨⟨rfl, rfl⟩, hl.trans hexpected⟩
      rw [hheld, if_neg hstays]
      exact hcur

end Locks

/-! ## Every step keeps the record true -/

namespace Cluster

structure Sound (c : Cluster Data) : Prop where
  current : c.locks.Current c.now c.leases
  issued : ∀ workerId i k, (c.workers workerId).grantOf i = some k → k ∈ c.issued

theorem granted_answer {fate : Fate} {token : Option LockToken} {k : String}
    (h : granted (fate.answer token) = some k) :
    fate = .answered ∧ ∃ t, token = some t ∧ t.token = k := by
  cases fate with
  | answered =>
    cases token with
    | none => cases h
    | some t => exact ⟨rfl, t, rfl, Option.some.inj h⟩
  | lost error => cases h
  | unreached error => cases h

/-- A worker's step that is no answer to a claim leaves every grant as it was. -/
theorem issued_update {c : Cluster Data} {workerId : String} {r : SessionRegistry Data}
    {a : SessionRegistry.Action Data} {issued : List String}
    (h : ∀ w i k, (c.workers w).grantOf i = some k → k ∈ issued)
    (ha : ∀ i answer, a ≠ .acquireAnswered i answer)
    (hs : (c.workers workerId).step a = some r) (w : String) (i : Nat) (k : String)
    (hk : (Function.update c.workers workerId r w).grantOf i = some k) : k ∈ issued := by
  by_cases hw : w = workerId
  · subst hw
    rw [Function.update_self, SessionRegistry.step_grantOf ha hs] at hk
    exact h w i k hk
  · rw [Function.update_of_ne hw] at hk
    exact h w i k hk

/-- Whether or not the backend was reached, its locks match the record. -/
theorem dealt_current {c : Cluster Data} {fate : Fate} {locks : Locks} {ok : Bool}
    {op : Lease.Op String String String Timestamptz} (h : c.locks.Current c.now c.leases)
    (hdone : locks.Current c.now (c.leases.note ok op)) (workerId : String)
    (r : SessionRegistry Data) :
    (c.dealt workerId fate locks ok op r).locks.Current c.now
      (c.dealt workerId fate locks ok op r).leases := by
  unfold dealt
  cases fate.reached with
  | false => exact h
  | true => exact hdone

theorem Sound.step {c c' : Cluster Data} {a : Action Data} (h : c.Sound)
    (hs : c.step a = some c') : c'.Sound := by
  cases a with
  | worker workerId a =>
    simp only [Cluster.step] at hs
    split at hs
    · next hlocal =>
      obtain ⟨r, hr, rfl⟩ := Option.map_eq_some_iff.mp hs
      refine ⟨h.current, issued_update h.issued ?_ hr⟩
      rintro i answer rfl
      cases hlocal.1
    · cases hs
  | acquire workerId i uuid fate =>
    simp only [Cluster.step, Cluster.acquire] at hs
    split at hs
    · cases hs
    · next call hc =>
      split at hs
      · cases hs
      · obtain ⟨r, hr, rfl⟩ := Option.map_eq_some_iff.mp hs
        refine ⟨dealt_current h.current (h.current.acquire ..) workerId r, ?_⟩
        intro w j k hk
        show k ∈ uuid :: c.issued
        have hk : (Function.update c.workers workerId r w).grantOf j = some k := hk
        by_cases hw : w = workerId
        · subst hw
          rw [Function.update_self] at hk
          rcases SessionRegistry.answered_grantOf hr hk with hk | hk
          · exact List.mem_cons_of_mem _ (h.issued w j k hk)
          · obtain ⟨-, t, ht, rfl⟩ := granted_answer hk
            rw [Locks.acquire_token ht]
            exact List.mem_cons_self
        · rw [Function.update_of_ne hw] at hk
          exact List.mem_cons_of_mem _ (h.issued w j k hk)
  | renew workerId i fate =>
    simp only [Cluster.step, Cluster.renew] at hs
    split at hs
    · cases hs
    · obtain ⟨r, hr, rfl⟩ := Option.map_eq_some_iff.mp hs
      refine ⟨dealt_current h.current (h.current.renew ..) workerId r,
        issued_update h.issued ?_ hr⟩
      rintro j answer he
      cases he
  | release workerId i fate =>
    simp only [Cluster.step, Cluster.release] at hs
    split at hs
    · cases hs
    · obtain ⟨r, hr, rfl⟩ := Option.map_eq_some_iff.mp hs
      refine ⟨dealt_current h.current (h.current.release ..) workerId r,
        issued_update h.issued ?_ hr⟩
      rintro j answer he
      cases he
  | releaseAll workerId i fate =>
    obtain ⟨r, hr, rfl⟩ := Option.map_eq_some_iff.mp hs
    refine ⟨dealt_current h.current (h.current.releaseAll ..) workerId r,
      issued_update h.issued ?_ hr⟩
    rintro j answer he
    cases he
  | evict workerId timer =>
    simp only [Cluster.step, Cluster.evict] at hs
    split at hs
    · cases hs
    · next managers hl =>
      split at hs
      · cases hs
      · next t ht =>
        obtain ⟨m, hm, rfl⟩ := Option.map_eq_some_iff.mp hs
        have hcur := h.current
        rw [hl] at hcur
        exact ⟨hcur.evict ht hm, h.issued⟩
  | advance micros =>
    simp only [Cluster.step, Option.some.injEq] at hs
    subst hs
    refine ⟨h.current.advance ?_, h.issued⟩
    rw [Timestamptz.le_iff]
    simp only
    omega

/-! ## A worker is backed by its leases -/

structure Owned (workerId : String) (c : Cluster Data) : Prop where
  coherent : (c.workers workerId).roster.Coherent
  backed : Roster.Backed (fun streamId => c.leases.token streamId workerId)
    (c.workers workerId).roster

/-- The timer evicts a lock of the worker that has not been released. -/
def Evicts (workerId : String) (timer : Nat) (c : Cluster Data) : Prop :=
  match c.locks with
  | .postgres _ => False
  | .memory managers =>
    match (managers workerId).timers.lookup timer with
    | none => False
    | some t => c.leases.token t.streamId workerId = some t.expectedToken

/-- A step after which the worker still owns its streams coherently and keeps its
locks.  What other workers do is not restricted. -/
def Orderly (workerId : String) (c : Cluster Data) : Action Data → Prop
  | .worker w a => w = workerId → (c.workers w).Orderly a
  | .releaseAll w _ _ => w ≠ workerId
  | .evict w timer => w = workerId → ¬c.Evicts w timer
  | _ => True

instance (workerId : String) (timer : Nat) (c : Cluster Data) :
    Decidable (c.Evicts workerId timer) := by
  unfold Evicts
  split
  · exact isFalse id
  · split
    · exact isFalse id
    · infer_instance

instance (workerId : String) (c : Cluster Data) :
    ∀ a : Action Data, Decidable (c.Orderly workerId a)
  | .worker w a => inferInstanceAs (Decidable (w = workerId → (c.workers w).Orderly a))
  | .releaseAll w _ _ => inferInstanceAs (Decidable (w ≠ workerId))
  | .evict w timer => inferInstanceAs (Decidable (w = workerId → ¬c.Evicts w timer))
  | .acquire .. | .renew .. | .release .. | .advance _ => isTrue trivial

theorem Owned.congr {workerId : String} {c c' : Cluster Data} (h : c.Owned workerId)
    (hworker : c'.workers workerId = c.workers workerId)
    (htoken : ∀ s, c'.leases.token s workerId = c.leases.token s workerId) :
    c'.Owned workerId := by
  refine ⟨?_, ?_⟩
  · rw [hworker]
    exact h.coherent
  · rw [hworker]
    exact h.backed.congr htoken

/-- A lease that the answer leaves alone is also left alone without the answer. -/
theorem dealt_token {c : Cluster Data} {w : String} {fate : Fate} {locks : Locks} {ok : Bool}
    {op : Lease.Op String String String Timestamptz} {r : SessionRegistry Data}
    {s workerId : String}
    (h : (c.leases.note ok op).token s workerId = c.leases.token s workerId) :
    (c.dealt w fate locks ok op r).leases.token s workerId = c.leases.token s workerId := by
  unfold dealt
  cases fate.reached with
  | false => rfl
  | true => exact h

theorem dealt_owned_of_ne {c : Cluster Data} {w : String} {fate : Fate} {locks : Locks} {ok : Bool}
    {op : Lease.Op String String String Timestamptz} {r : SessionRegistry Data}
    {workerId : String} (h : c.Owned workerId) (hw : workerId ≠ w) (hop : op.owner = w) :
    (c.dealt w fate locks ok op r).Owned workerId :=
  h.congr (Function.update_of_ne hw _ _)
    (fun s => dealt_token (c.leases.token_note_of_ne ok op s (hop ▸ hw)))

theorem Owned.acquire {c c' : Cluster Data} {workerId : String} {i : Nat} {uuid : String}
    {fate : Fate} (h : c.Owned workerId) (hc : c.Sound)
    (hs : c.acquire workerId i uuid fate = some c') : c'.Owned workerId := by
  unfold Cluster.acquire at hs
  simp only at hs
  split at hs
  · cases hs
  · next call hcall =>
    split at hs
    · cases hs
    · next hfresh =>
      obtain ⟨r, hr, rfl⟩ := Option.map_eq_some_iff.mp hs
      let ran := c.locks.acquire c.now call.issuedAt uuid call.request workerId
        (c.workers workerId).options.ttlMs
      have hsound := by
        refine SessionRegistry.answered_sound (fun s => (if fate.reached then
          c.leases.note ran.1.isSome (.claim call.request ⟨workerId, uuid,
            (call.issuedAt.plus (c.workers workerId).options.ttlMs).toTimestamptz⟩)
          else c.leases).token s workerId) h.coherent h.backed hcall ?_ ?_ ?_ hr
        · intro k hk j hj
          obtain ⟨-, t, ht, rfl⟩ := granted_answer hk
          rw [Locks.acquire_token ht] at hj
          exact hfresh (hc.issued workerId j uuid hj)
        · intro s hne
          cases fate.reached with
          | false => rfl
          | true =>
            cases ran.1.isSome with
            | false => rfl
            | true => exact (c.leases.token_claim ..).trans (if_neg fun hsame => hne hsame.1)
        · intro k hk
          obtain ⟨rfl, t, ht, rfl⟩ := granted_answer hk
          have hsome : ran.1.isSome = true := by rw [show ran.1 = some t from ht]; rfl
          rw [Locks.acquire_token ht, hsome]
          exact (c.leases.token_claim ..).trans (if_pos ⟨rfl, rfl⟩)
      have hself : Function.update c.workers workerId r workerId = r := Function.update_self ..
      refine ⟨?_, ?_⟩
      · show (Function.update c.workers workerId r workerId).roster.Coherent
        rw [hself]
        exact hsound.1
      · show Roster.Backed _ (Function.update c.workers workerId r workerId).roster
        rw [hself]
        exact hsound.2

/-- A step of the worker that grants nothing, beside what becomes of its leases. -/
theorem Owned.stepped {c c' : Cluster Data} {workerId : String} {a : SessionRegistry.Action Data}
    {r : SessionRegistry Data} (h : c.Owned workerId)
    (hkept : Roster.Backed (fun s => c'.leases.token s workerId) (c.workers workerId).roster)
    (ho : (c.workers workerId).Orderly a) (ha : ∀ i answer, a ≠ .acquireAnswered i answer)
    (hs : (c.workers workerId).step a = some r) (hr : c'.workers workerId = r) :
    c'.Owned workerId := by
  have hsound := SessionRegistry.step_sound h.coherent hkept ho ha hs
  refine ⟨?_, ?_⟩
  · rw [hr]
    exact hsound.1
  · rw [hr]
    exact hsound.2

theorem Owned.renew {c c' : Cluster Data} {workerId : String} {i : Nat} {fate : Fate}
    (h : c.Owned workerId) (hs : c.renew workerId i fate = some c') : c'.Owned workerId := by
  unfold Cluster.renew at hs
  simp only at hs
  split at hs
  · cases hs
  · obtain ⟨r, hr, rfl⟩ := Option.map_eq_some_iff.mp hs
    refine h.stepped (a := .renewAnswered i _) ?_ trivial ?_ hr (Function.update_self ..)
    · exact h.backed.congr fun s => dealt_token (c.leases.token_note_extend ..)
    · rintro j answer he
      cases he

theorem Owned.release {c c' : Cluster Data} {workerId : String} {i : Nat} {fate : Fate}
    (h : c.Owned workerId) (hs : c.release workerId i fate = some c') : c'.Owned workerId := by
  unfold Cluster.release at hs
  simp only at hs
  split at hs
  · cases hs
  · next call hcall =>
    obtain ⟨r, hr, rfl⟩ := Option.map_eq_some_iff.mp hs
    refine h.stepped (a := .releaseAnswered i _) ?_ trivial ?_ hr (Function.update_self ..)
    · have hreleased : call.request.token.token ∈ (c.workers workerId).roster.released :=
        List.mem_map.mpr ⟨call, List.mem_of_getElem? hcall, rfl⟩
      exact h.backed.released h.coherent hreleased fun s hs =>
        dealt_token (c.leases.token_note_drop _ _ _ hs)
    · rintro j answer he
      cases he

theorem Owned.evict {c c' : Cluster Data} {workerId w : String} {timer : Nat}
    (h : c.Owned workerId) (ho : w = workerId → ¬c.Evicts w timer)
    (hs : c.evict w timer = some c') : c'.Owned workerId := by
  unfold Cluster.evict at hs
  split at hs
  · cases hs
  · next managers hl =>
    split at hs
    · cases hs
    · next t ht =>
      obtain ⟨m, -, rfl⟩ := Option.map_eq_some_iff.mp hs
      refine h.congr rfl ?_
      intro s
      refine (c.leases.token_drop ..).trans (if_neg ?_)
      rintro ⟨⟨rfl, rfl⟩, htoken⟩
      apply ho rfl
      simp only [Evicts, hl, ht]
      exact htoken

theorem Owned.step {c c' : Cluster Data} {workerId : String} {a : Action Data}
    (h : c.Owned workerId) (hc : c.Sound) (ho : c.Orderly workerId a)
    (hs : c.step a = some c') : c'.Owned workerId := by
  cases a with
  | worker w a =>
    simp only [Cluster.step] at hs
    split at hs
    · next hlocal =>
      obtain ⟨r, hr, rfl⟩ := Option.map_eq_some_iff.mp hs
      by_cases hw : w = workerId
      · subst hw
        refine h.stepped h.backed (ho rfl) ?_ hr (Function.update_self ..)
        rintro i answer rfl
        cases hlocal.1
      · exact h.congr (Function.update_of_ne (Ne.symm hw) _ _) (fun _ => rfl)
    · cases hs
  | acquire w i uuid fate =>
    by_cases hw : w = workerId
    · subst hw
      exact h.acquire hc hs
    · simp only [Cluster.step, Cluster.acquire] at hs
      split at hs
      · cases hs
      · split at hs
        · cases hs
        · obtain ⟨r, -, rfl⟩ := Option.map_eq_some_iff.mp hs
          exact dealt_owned_of_ne (h.congr rfl fun _ => rfl) (Ne.symm hw) rfl
  | renew w i fate =>
    by_cases hw : w = workerId
    · subst hw
      exact h.renew hs
    · simp only [Cluster.step, Cluster.renew] at hs
      split at hs
      · cases hs
      · obtain ⟨r, -, rfl⟩ := Option.map_eq_some_iff.mp hs
        exact dealt_owned_of_ne h (Ne.symm hw) rfl
  | release w i fate =>
    by_cases hw : w = workerId
    · subst hw
      exact h.release hs
    · simp only [Cluster.step, Cluster.release] at hs
      split at hs
      · cases hs
      · obtain ⟨r, -, rfl⟩ := Option.map_eq_some_iff.mp hs
        exact dealt_owned_of_ne h (Ne.symm hw) rfl
  | releaseAll w i fate =>
    obtain ⟨r, -, rfl⟩ := Option.map_eq_some_iff.mp hs
    exact dealt_owned_of_ne h (Ne.symm ho) rfl
  | evict w timer => exact h.evict ho hs
  | advance micros =>
    simp only [Cluster.step, Option.some.injEq] at hs
    subst hs
    exact h.congr rfl (fun _ => rfl)

theorem Initial.sound {c : Cluster Data} (h : c.Initial) : c.Sound where
  current := by
    have hnone : ∀ s w, c.leases s w = none := h.leases
    cases hl : c.locks with
    | memory managers =>
      intro s w token htoken
      rw [Lease.Tenure.token, hnone] at htoken
      cases htoken
    | postgres table =>
      intro s w token expiry hlease
      rw [hnone] at hlease
      cases hlease
  issued := by
    intro w i k hk
    obtain ⟨options, hcreate⟩ := h.workers w
    rw [SessionRegistry.grantOf_roster, SessionRegistry.create_roster hcreate] at hk
    cases hk

theorem Initial.owned {c : Cluster Data} (h : c.Initial) (workerId : String) :
    c.Owned workerId := by
  obtain ⟨options, hcreate⟩ := h.workers workerId
  have hempty := SessionRegistry.create_roster hcreate
  refine ⟨?_, ?_⟩
  · rw [hempty]
    exact Roster.empty_coherent
  · rw [hempty]
    exact Roster.empty_backed _

/-- Along every run the record is true, and a worker whose steps are orderly is
backed by its leases. -/
theorem run_owned {c₀ c : Cluster Data} {as : List (Action Data)} {workerId : String}
    (hinit : c₀.Initial) (horderly : AllSteps Cluster.step (fun c a _ => c.Orderly workerId a) c₀ as)
    (hr : run Cluster.step c₀ as = some c) : c.Sound ∧ c.Owned workerId :=
  AllSteps.invariant (I := fun c => c.Sound ∧ c.Owned workerId)
    (fun _ _ _ h ho hs => ⟨h.1.step hs, h.2.step h.1 ho hs⟩) ⟨hinit.sound, hinit.owned workerId⟩
    horderly hr

end Cluster

end Processing
end XStreamRoll
