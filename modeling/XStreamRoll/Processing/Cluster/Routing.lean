/-
Concurrent routing of one stream.

Routes that overlap share the acquire in flight, and whoever resumes first spawns
the session for all.  The entry in `inflightAcquires` goes away when the acquire
settles, though, before the routes that wait for it resume.  A route that starts
in between asks for a claim of its own, which replaces the first one at the
backend.  By then the session runs under the first token, so the second claim is
released as surplus, and nothing is left at the backend for the session.

Without such a route the outcome is as intended, with either backend and in any
order of answers and continuations.
-/
import XStreamRoll.Processing.Cluster.Ownership

namespace XStreamRoll
namespace Processing

open Transition

variable {Data : Type}

/-! ## What a route returned -/

namespace SessionRegistry

/-- A step ends at most one route, and ends it as enqueued only with a session in
the map. -/
def EndsRoute (r r' : SessionRegistry Data) : Prop :=
  r'.results = r.results ∨ ∃ event result, r'.results = r.results ++ [(event, result)] ∧
    (result = .ok .enqueued → r'.sessions.lookup event.streamId ≠ none)

theorem deregister_results (now : Date) (o : Nat) (streamId : String) (r : SessionRegistry Data) :
    (r.deregister now o streamId).results = r.results := by
  obtain ⟨_, _, _, _, _, hframe⟩ := deregister_frame now o streamId r
  rw [hframe]

theorem sessionRan_results (now : Date) (o : Nat) (obj : SessionObject Data)
    (ran : StreamSession Data × List (Effect Data)) (r : SessionRegistry Data) :
    (r.sessionRan now o obj ran).results = r.results := by
  rw [sessionRan, notify_foldl]
  split
  · exact deregister_results ..
  · rfl

theorem enqueueOn_results (now : Date) (o : Nat) (event : StreamEvent Data)
    (r : SessionRegistry Data) : (r.enqueueOn now o event).2.results = r.results := by
  rw [enqueueOn]
  cases r.objects[o]? with
  | none => rfl
  | some obj => exact sessionRan_results now o obj _ r

theorem scheduleNext_results (now : Date) (streamId : String) (token : LockToken)
    (r : SessionRegistry Data) : (r.scheduleNext now streamId token).results = r.results := by
  unfold scheduleNext
  split
  · rfl
  · split <;> rfl

theorem startOn_results (now : Date) (o : Nat) (r : SessionRegistry Data) :
    (r.startOn now o).results = r.results := by
  unfold startOn
  split
  · rfl
  · exact sessionRan_results ..

theorem stopOn_results (now : Date) (o : Nat) (r : SessionRegistry Data) :
    (r.stopOn now o).results = r.results := by
  unfold stopOn
  split
  · rfl
  · exact sessionRan_results ..

/-- `enqueue` leaves the map of sessions alone. -/
theorem enqueueAndReturn_ends {now : Date} {o : Nat} {event : StreamEvent Data}
    {r r₀ : SessionRegistry Data} (hr : r.results = r₀.results)
    (hs : r.sessions.lookup event.streamId ≠ none) :
    r₀.EndsRoute (r.enqueueAndReturn now o event) := by
  have hroster := enqueueAndReturn_roster now o event r
  refine .inr ⟨event, .ok (if (r.enqueueOn now o event).1 then .enqueued else .rejected), ?_, ?_⟩
  · show (r.enqueueOn now o event).2.results ++ [_] = r₀.results ++ [_]
    rw [enqueueOn_results, hr]
    rfl
  · intro _ hnone
    have hsame := congrFun (congrArg Roster.sessions hroster) event.streamId
    exact hs (hsame.symm.trans hnone)

theorem finish_ends {event : StreamEvent Data} {result : Except String RouteResult}
    {r r₀ : SessionRegistry Data} (hr : r.results = r₀.results)
    (hne : result ≠ .ok .enqueued) : r₀.EndsRoute (r.finish event result) := by
  refine .inr ⟨event, result, ?_, fun he => absurd he hne⟩
  rw [finish, hr]

theorem resumeRoute_results {now : Date} {i : Nat} {suffix : String} {r r' : SessionRegistry Data}
    (h : r.resumeRoute now i suffix = some r') : r.EndsRoute r' := by
  unfold resumeRoute at h
  split at h
  · cases h
  · next f hf =>
    split at h
    · cases h
    · next call hc =>
      split at h
      · cases h
      · simp only at h
        split at h
        · cases h
        · rw [Option.some.injEq] at h
          subst h
          apply finish_ends
          · rfl
          · intro he
            cases he
        · rw [Option.some.injEq] at h
          subst h
          apply finish_ends
          · rfl
          · intro he
            cases he
        · next token _ =>
          split at h
          · next raced hraced =>
            rw [Option.some.injEq] at h
            subst h
            apply enqueueAndReturn_ends
            · split <;> rfl
            · have hsome : r.sessions.lookup f.event.streamId ≠ none := by
                rw [hraced]
                simp
              split
              · exact hsome
              · exact hsome
          · rw [Option.some.injEq] at h
            subst h
            apply enqueueAndReturn_ends
            · rw [startOn_results]
              exact scheduleNext_results ..
            · have hspawned := start_spawned_roster now suffix f.event.streamId token
                (startHeartbeat now f.event.streamId token { r with
                  routes := r.routes.eraseIdx i
                  metrics := r.metrics.incrementLockAcquisitions
                  lockTokens := r.lockTokens.insert f.event.streamId token })
              have hsome := congrFun (congrArg Roster.sessions hspawned) f.event.streamId
              simp only [Function.update_self] at hsome
              intro hnone
              cases hsome.symm.trans hnone

theorem resumeTick_results {now : Date} {i : Nat} {r r' : SessionRegistry Data}
    (h : r.resumeTick now i = some r') : r'.results = r.results := by
  have hlost : ∀ streamId (q : SessionRegistry Data),
      (q.lockLost now streamId).results = q.results := by
    intro streamId q
    unfold lockLost
    grind [sessionRan_results]
  have hextend : ∀ streamId token (q : SessionRegistry Data),
      (q.extendToken now streamId token).results = q.results := by
    intro streamId token q
    grind [extendToken]
  unfold resumeTick at h
  grind [scheduleNext_results]

theorem resumeDrain_results {now : Date} {i : Nat} {r r' : SessionRegistry Data}
    (h : r.resumeDrain now i = some r') : r'.results = r.results := by
  have hclear : ∀ (entries : List (Sigma fun _ : String => Nat)) (q : SessionRegistry Data),
      (entries.foldl (fun q entry => q.clearTimeout entry.2) q).results = q.results := by
    intro entries q
    obtain ⟨_, hframe⟩ := clearTimeouts_frame entries q
    rw [hframe]
  unfold resumeDrain at h
  grind

theorem step_results {r r' : SessionRegistry Data} {a : Action Data} (h : r.step a = some r') :
    r.EndsRoute r' := by
  cases a with
  | route now event =>
    simp only [step, Option.some.injEq] at h
    subst h
    unfold route
    split
    · next existing he =>
      apply enqueueAndReturn_ends
      · rfl
      · rw [he]
        simp
    · split
      · apply finish_ends
        · rfl
        · intro he
          cases he
      · apply Or.inl
        unfold acquireDeduplicated
        cases r.inflightAcquires.lookup event.streamId <;> rfl
  | resumeRoute now i suffix => exact resumeRoute_results h
  | settleAcquire i => exact .inl (by grind [step, settleAcquire])
  | tick now timer => exact .inl (by grind [step, tick, clearTimeout])
  | resumeTick now i => exact .inl (resumeTick_results h)
  | resumeRelease i => exact .inl (by grind [step, resumeRelease])
  | pump now o i answer =>
    simp only [step] at h
    split at h
    · cases h
    · obtain ⟨ran, -, rfl⟩ := Option.map_eq_some_iff.mp h
      exact .inl (sessionRan_results ..)
  | stop now o => exact .inl (by grind [step, stopOn_results])
  | stopWake now o call => exact .inl (by grind [step, sessionRan_results])
  | fail now o error => exact .inl (by grind [step, sessionRan_results])
  | drainAll now =>
    simp only [step, Option.some.injEq] at h
    subst h
    have hall : ∀ (all : List Nat) (q : SessionRegistry Data),
        (all.foldl (stopOn now) q).results = q.results := by
      intro all
      induction all with
      | nil => exact fun _ => rfl
      | cons o all ih =>
        intro q
        rw [List.foldl_cons, ih, stopOn_results]
    apply Or.inl
    exact hall (r.sessions.entries.map (·.2)) r
  | resumeDrain now i => exact .inl (resumeDrain_results h)
  | resumeReleaseAll i => exact .inl (by grind [step, resumeReleaseAll])
  | acquireAnswered i answer | renewAnswered i answer | releaseAnswered i answer
  | releaseAllAnswered i answer =>
    obtain ⟨calls, -, rfl⟩ := Option.map_eq_some_iff.mp h
    exact .inl rfl

end SessionRegistry

/-- The worker has had a session for the stream. -/
def Roster.Served (stream : String) (ro : Roster) : Prop :=
  ∃ m ∈ ro.objects, m.stream = stream

theorem Roster.Served.step {ro ro' : Roster} {m : Move} {stream : String}
    (h : ro.Served stream) (hs : ro.step m = some ro') : ro'.Served stream := by
  obtain ⟨obj, hobj, hstream⟩ := h
  rcases Roster.step_sessions hs with ⟨-, heq⟩ | ⟨s, k, -, -, heq⟩ | ⟨o, m, hm, rfl⟩ |
    ⟨-, -, heq⟩
  · exact ⟨obj, heq ▸ hobj, hstream⟩
  · exact ⟨obj, heq ▸ List.mem_append_left _ hobj, hstream⟩
  · obtain ⟨o', ho'⟩ := List.mem_iff_getElem?.mp hobj
    have hlt := Heap.lt_of_getElem?_eq_some hm
    rw [Served, endSession_objects]
    by_cases he : o' = o
    · subst he
      rw [hm, Option.some.injEq] at ho'
      exact ⟨_, List.mem_of_getElem? (Heap.getElem?_write_self hlt _), by rw [ho', hstream]⟩
    · exact ⟨obj, List.mem_of_getElem? ((Heap.getElem?_write_ne he _).trans ho'), hstream⟩
  · exact ⟨obj, heq ▸ hobj, hstream⟩

namespace SessionRegistry

/-- Every accepted event has had a session. -/
def Accounted (r : SessionRegistry Data) : Prop :=
  ∀ event, (event, .ok .enqueued) ∈ r.results → r.roster.Served event.streamId

theorem step_accounted {r r' : SessionRegistry Data} {a : Action Data} (h : r.Accounted)
    (hco : r'.roster.Coherent) (hs : r.step a = some r') : r'.Accounted := by
  have hserved : ∀ stream, r.roster.Served stream → r'.roster.Served stream := by
    intro stream hstream
    obtain ⟨ms, -, hr⟩ := step_moves hs
    exact run_invariant (I := fun ro => ro.Served stream) (fun _ _ _ h hs => h.step hs) hstream hr
  intro event hevent
  rcases step_results hs with hsame | ⟨event', result, happend, hsome⟩
  · rw [hsame] at hevent
    exact hserved _ (h event hevent)
  · rw [happend, List.mem_append, List.mem_singleton, Prod.mk.injEq] at hevent
    rcases hevent with hold | ⟨rfl, rfl⟩
    · exact hserved _ (h event hold)
    · obtain ⟨o, ho⟩ := Option.ne_none_iff_exists'.mp (hsome rfl)
      obtain ⟨k, -, hobj, -⟩ := hco.registered event.streamId o ho
      exact ⟨_, List.mem_of_getElem? hobj, rfl⟩

end SessionRegistry

/-! ## One session, under the token that the backend holds -/

namespace Cluster

/-- A route that asks for a claim does so while no route of its stream still awaits
a granted one. -/
def AsksApart (workerId : String) (c : Cluster Data) : Action Data → Prop
  | .worker w (.route _ event) => w = workerId → (c.workers w).Admits event →
      (c.workers w).inflightAcquires.lookup event.streamId = none →
      (c.workers w).ClaimsApart event.streamId
  | _ => True

/-- The lease of the worker on the stream has not run out.  In memory that is up to
the eviction timer. -/
def Unexpired (workerId streamId : String) (c : Cluster Data) : Prop :=
  match c.locks with
  | .memory _ => True
  | .postgres _ => ∀ lease ∈ c.leases streamId workerId, c.now < lease.2

/-- The worker shuts down in this step, or one of its locks is evicted. -/
def LetsGo (workerId : String) (c : Cluster Data) : Action Data → Prop
  | .worker w (.resumeDrain ..) => w = workerId
  | .releaseAll w _ _ => w = workerId
  | .evict w timer => w = workerId ∧ c.Evicts w timer
  | _ => False

/-- No session of the worker has ended, and its lease on the stream has not run out. -/
def Undisturbed (workerId streamId : String) (c : Cluster Data) (a : Action Data)
    (c' : Cluster Data) : Prop :=
  (∀ obj ∈ (c'.workers workerId).objects, obj.session.state.live = true) ∧
    c'.Unexpired workerId streamId ∧ ¬c.LetsGo workerId a

/-- Some event of the stream was accepted. -/
def Accepted (workerId streamId : String) (c : Cluster Data) : Prop :=
  ∃ event, event.streamId = streamId ∧ (event, .ok .enqueued) ∈ (c.workers workerId).results

/-- Exactly one session exists for the stream, its token renews, and the backend
holds no other token for the worker there. -/
def OneSession (workerId streamId : String) (c : Cluster Data) : Prop :=
  ∃ (o : Nat) (obj : SessionObject Data) (token : LockToken),
    (c.workers workerId).sessions.lookup streamId = some o ∧
    (c.workers workerId).objects[o]? = some obj ∧ obj.session.streamId = streamId ∧
    (∀ (o' : Nat) (obj' : SessionObject Data), (c.workers workerId).objects[o']? = some obj' →
      obj'.session.streamId = streamId → o' = o) ∧
    (c.workers workerId).lockTokens.lookup streamId = some token ∧
    (∀ now ttlMs, (c.locks.renew c.now now streamId token workerId ttlMs).1 = true) ∧
    ∀ k, c.locks.Holds streamId workerId k → k = token.token

structure Settled (workerId streamId : String) (c : Cluster Data) : Prop where
  sound : c.Sound
  owned : c.Owned workerId
  accounted : (c.workers workerId).Accounted
  live : ∀ obj ∈ (c.workers workerId).objects, obj.session.state.live = true
  unexpired : c.Unexpired workerId streamId

theorem orderly_of_undisturbed {c c' : Cluster Data} {workerId streamId : String}
    {a : Action Data} (h : c.Settled workerId streamId) (hapart : c.AsksApart workerId a)
    (hquiet : c.Undisturbed workerId streamId a c') : c.Orderly workerId a := by
  cases a with
  | worker w a =>
    rintro rfl
    cases a with
    | route now event => exact hapart rfl
    | resumeRoute now i suffix =>
      exact SessionRegistry.spawnsAnew_of_live h.owned.coherent h.live i
    | resumeDrain now i => exact absurd rfl hquiet.2.2
    | settleAcquire | tick | resumeTick | resumeRelease | pump | stop | stopWake | fail | drainAll
    | resumeReleaseAll | acquireAnswered | renewAnswered | releaseAnswered | releaseAllAnswered =>
      trivial
  | releaseAll w i fate => exact fun hw => hquiet.2.2 hw
  | evict w timer => exact fun hw hevicts => hquiet.2.2 ⟨hw, hevicts⟩
  | acquire | renew | release | advance => trivial

/-- What a step of the cluster does to the registry of one worker. -/
theorem step_registry {c c' : Cluster Data} {a : Action Data} (hs : c.step a = some c')
    (workerId : String) : c'.workers workerId = c.workers workerId ∨
      ∃ ra, (c.workers workerId).step ra = some (c'.workers workerId) ∧
        (a = .worker workerId ra ∨ ra.answers = true) := by
  have hupdate : ∀ (w : String) (ra : SessionRegistry.Action Data) (r : SessionRegistry Data),
      (c.workers w).step ra = some r → a = .worker w ra ∨ ra.answers = true →
      Function.update c.workers w r workerId = c.workers workerId ∨
        ∃ ra, (c.workers workerId).step ra = some (Function.update c.workers w r workerId) ∧
          (a = .worker workerId ra ∨ ra.answers = true) := by
    intro w ra r hr hra
    by_cases hw : workerId = w
    · subst hw
      rw [Function.update_self]
      exact .inr ⟨ra, hr, hra⟩
    · exact .inl (Function.update_of_ne hw _ _)
  cases a with
  | worker w a =>
    simp only [step] at hs
    split at hs
    · obtain ⟨r, hr, rfl⟩ := Option.map_eq_some_iff.mp hs
      exact hupdate w _ r hr (.inl rfl)
    · cases hs
  | acquire w i uuid fate =>
    simp only [step, acquire] at hs
    split at hs
    · cases hs
    · split at hs
      · cases hs
      · obtain ⟨r, hr, rfl⟩ := Option.map_eq_some_iff.mp hs
        exact hupdate w _ r hr (.inr rfl)
  | renew w i fate =>
    simp only [step, renew] at hs
    split at hs
    · cases hs
    · obtain ⟨r, hr, rfl⟩ := Option.map_eq_some_iff.mp hs
      exact hupdate w _ r hr (.inr rfl)
  | release w i fate =>
    simp only [step, release] at hs
    split at hs
    · cases hs
    · obtain ⟨r, hr, rfl⟩ := Option.map_eq_some_iff.mp hs
      exact hupdate w _ r hr (.inr rfl)
  | releaseAll w i fate =>
    obtain ⟨r, hr, rfl⟩ := Option.map_eq_some_iff.mp hs
    exact hupdate w _ r hr (.inr rfl)
  | evict w timer =>
    simp only [step, evict] at hs
    split at hs
    · cases hs
    · split at hs
      · cases hs
      · obtain ⟨m, -, rfl⟩ := Option.map_eq_some_iff.mp hs
        exact .inl rfl
  | advance micros =>
    simp only [step, Option.some.injEq] at hs
    subst hs
    exact .inl rfl

theorem Settled.step {c c' : Cluster Data} {workerId streamId : String} {a : Action Data}
    (h : c.Settled workerId streamId) (hapart : c.AsksApart workerId a)
    (hquiet : c.Undisturbed workerId streamId a c') (hs : c.step a = some c') :
    c'.Settled workerId streamId := by
  have howned := h.owned.step h.sound (orderly_of_undisturbed h hapart hquiet) hs
  refine ⟨h.sound.step hs, howned, ?_, hquiet.1, hquiet.2.1⟩
  rcases step_registry hs workerId with hsame | ⟨ra, hra, -⟩
  · rw [hsame]
    exact h.accounted
  · exact SessionRegistry.step_accounted h.accounted howned.coherent hra

theorem Initial.settled {c : Cluster Data} (h : c.Initial) (workerId streamId : String) :
    c.Settled workerId streamId := by
  obtain ⟨options, hcreate⟩ := h.workers workerId
  have hinitial : ∃ heartbeatMs, c.workers workerId = .initial workerId options heartbeatMs := by
    unfold SessionRegistry.create at hcreate
    simp only at hcreate
    split at hcreate
    · cases hcreate
    · exact ⟨_, (Except.ok.inj hcreate).symm⟩
  obtain ⟨heartbeatMs, hworker⟩ := hinitial
  refine ⟨h.sound, h.owned workerId, ?_, ?_, ?_⟩
  · intro event hevent
    rw [hworker] at hevent
    cases hevent
  · intro obj hobj
    rw [hworker] at hobj
    cases hobj
  · unfold Unexpired
    split
    · trivial
    · intro lease hlease
      rw [h.leases] at hlease
      cases hlease

/-- A lease that has not run out is at the backend, and renews. -/
theorem Sound.renews {c : Cluster Data} (h : c.Sound) {workerId streamId k : String}
    {expiry : Timestamptz} (hlease : c.leases streamId workerId = some (k, expiry))
    (hunexpired : c.Unexpired workerId streamId) :
    c.locks.Holds streamId workerId k ∧ ∀ (token : LockToken) now ttlMs, token.token = k →
      (c.locks.renew c.now now streamId token workerId ttlMs).1 = true := by
  have hcur := h.current
  unfold Unexpired at hunexpired
  cases hl : c.locks with
  | memory managers =>
    rw [hl] at hcur
    have htoken : c.leases.token streamId workerId = some k := by
      rw [Lease.Tenure.token, hlease]
      rfl
    have hheld := hcur streamId workerId k htoken
    refine ⟨hheld, ?_⟩
    rintro token now ttlMs rfl
    exact (MemoryLockManager.renew_held now streamId token _).1.trans (decide_eq_true hheld)
  | postgres table =>
    rw [hl] at hcur hunexpired
    have hlt : c.now < expiry := hunexpired _ hlease
    have hrow := hcur streamId workerId k expiry hlease hlt
    refine ⟨⟨_, hrow, rfl, rfl⟩, ?_⟩
    rintro token now ttlMs rfl
    exact PostgresLockManager.renew_iff.mpr ⟨_, hrow, rfl, rfl, hlt⟩

theorem Settled.oneSession {c : Cluster Data} {workerId streamId : String}
    (h : c.Settled workerId streamId) (haccepted : c.Accepted workerId streamId) :
    c.OneSession workerId streamId := by
  obtain ⟨event, rfl, hevent⟩ := haccepted
  obtain ⟨m, hm, hstream⟩ := h.accounted event hevent
  obtain ⟨obj, hobj, rfl⟩ := List.mem_map.mp hm
  -- Every session of the stream is live, hence the one in the map.
  have hpresent : ∀ (o : Nat) (obj : SessionObject Data),
      (c.workers workerId).objects[o]? = some obj → obj.session.streamId = event.streamId →
        (c.workers workerId).sessions.lookup event.streamId = some o := by
    intro o obj ho hs
    apply h.owned.coherent.present o event.streamId obj.claim.token
    simp [SessionRegistry.roster, ho, SessionObject.member, hs,
      h.live obj (List.mem_of_getElem? ho)]
  obtain ⟨o, ho⟩ := List.mem_iff_getElem?.mp hobj
  have hreg := hpresent o obj ho hstream
  obtain ⟨k, i, hmember, htok, -⟩ := h.owned.coherent.registered event.streamId o hreg
  obtain ⟨token, htoken, hk⟩ := Option.map_eq_some_iff.mp htok
  obtain ⟨expiry, hlease⟩ : ∃ expiry,
      c.leases event.streamId workerId = some (k, expiry) := by
    obtain ⟨lease, hl, hfst⟩ :=
      Option.map_eq_some_iff.mp (h.owned.backed.live o event.streamId k hmember)
    exact ⟨lease.2, by rw [hl, ← hfst]⟩
  obtain ⟨hholds, hrenews⟩ := h.sound.renews hlease h.unexpired
  refine ⟨o, obj, token, hreg, ho, hstream, ?_, htoken, fun now ttlMs => hrenews token now ttlMs hk,
    ?_⟩
  · intro o' obj' ho' hs'
    have hreg' := hpresent o' obj' ho' hs'
    rw [hreg, Option.some.injEq] at hreg'
    exact hreg'.symm
  · intro k' hk'
    rw [hk]
    exact hk'.unique hholds

/-- While no session ends and no lease runs out, routes that never ask for a second
claim beside a granted one end with one session, whose token the backend holds. -/
theorem routes_share_session {c₀ c : Cluster Data} {as : List (Action Data)}
    {workerId streamId : String} (hinit : c₀.Initial)
    (hquiet : AllSteps step (fun c a c' => c.AsksApart workerId a ∧
      c.Undisturbed workerId streamId a c') c₀ as)
    (hr : run step c₀ as = some c) (haccepted : c.Accepted workerId streamId) :
    c.OneSession workerId streamId := by
  have hsettled : c.Settled workerId streamId :=
    AllSteps.invariant (I := fun c => c.Settled workerId streamId)
      (fun _ _ _ h hstep hs => h.step hstep.1 hstep.2 hs) (hinit.settled workerId streamId)
      hquiet hr
  exact hsettled.oneSession haccepted

/-! ## A route between the answer and its continuation -/

instance (workerId : String) (c : Cluster Data) :
    ∀ a : Action Data, Decidable (c.AsksApart workerId a)
  | .worker w (.route _ event) =>
    inferInstanceAs (Decidable (w = workerId → (c.workers w).Admits event →
      (c.workers w).inflightAcquires.lookup event.streamId = none →
      (c.workers w).ClaimsApart event.streamId))
  | .worker _ (.settleAcquire _) | .worker _ (.resumeRoute ..) | .worker _ (.tick ..)
  | .worker _ (.resumeTick ..) | .worker _ (.resumeRelease _) | .worker _ (.pump ..)
  | .worker _ (.stop ..) | .worker _ (.stopWake ..) | .worker _ (.fail ..)
  | .worker _ (.drainAll _) | .worker _ (.resumeDrain ..) | .worker _ (.resumeReleaseAll _)
  | .worker _ (.acquireAnswered ..) | .worker _ (.renewAnswered ..)
  | .worker _ (.releaseAnswered ..) | .worker _ (.releaseAllAnswered ..)
  | .acquire .. | .renew .. | .release .. | .releaseAll .. | .evict .. | .advance _ => isTrue trivial

instance (workerId streamId : String) (c : Cluster Data) :
    Decidable (c.Unexpired workerId streamId) :=
  match h : c.locks with
  | .memory _ => isTrue (by rw [Unexpired, h]; trivial)
  | .postgres _ => decidable_of_iff (∀ lease ∈ c.leases streamId workerId, c.now < lease.2)
      (by rw [Unexpired, h])

instance (workerId : String) (c : Cluster Data) :
    ∀ a : Action Data, Decidable (c.LetsGo workerId a)
  | .worker w (.resumeDrain ..) => inferInstanceAs (Decidable (w = workerId))
  | .releaseAll w _ _ => inferInstanceAs (Decidable (w = workerId))
  | .evict w timer => inferInstanceAs (Decidable (w = workerId ∧ c.Evicts w timer))
  | .worker _ (.route ..) | .worker _ (.settleAcquire _) | .worker _ (.resumeRoute ..)
  | .worker _ (.tick ..) | .worker _ (.resumeTick ..) | .worker _ (.resumeRelease _)
  | .worker _ (.pump ..) | .worker _ (.stop ..) | .worker _ (.stopWake ..) | .worker _ (.fail ..)
  | .worker _ (.drainAll _) | .worker _ (.resumeReleaseAll _) | .worker _ (.acquireAnswered ..)
  | .worker _ (.renewAnswered ..) | .worker _ (.releaseAnswered ..)
  | .worker _ (.releaseAllAnswered ..) | .acquire .. | .renew .. | .release .. | .advance _ =>
    isFalse id

instance (workerId streamId : String) (c : Cluster Data) (a : Action Data) (c' : Cluster Data) :
    Decidable (c.Undisturbed workerId streamId a c') :=
  inferInstanceAs (Decidable (_ ∧ _ ∧ _))

/-- No call of the worker is under way. -/
def AllSettled (workerId : String) (c : Cluster Data) : Prop :=
  (c.workers workerId).routes.length = 0 ∧
    (∀ call ∈ (c.workers workerId).acquires, call.settled = true) ∧
    ∀ call ∈ (c.workers workerId).releases, call.settled = true

instance (workerId : String) (c : Cluster Data) : Decidable (c.AllSettled workerId) :=
  inferInstanceAs (Decidable (_ ∧ _ ∧ _))

/-- A worker over `stream_locks`, with a heartbeat of 10 s and a lease of 30 s. -/
def oneWorker : Cluster Unit :=
  initial (.postgres fun _ => none) ⟨10, 30000, some 10000, none, none, true⟩ 10000

theorem oneWorker_initial : oneWorker.Initial := initial_initial rfl (by decide)

def routed : Action Unit := .worker "w" (.route ⟨0⟩ ⟨none, "s", (), ⟨"", none⟩⟩)

/-- The second route starts while the first one's acquire is in flight. -/
def joined : List (Action Unit) :=
  [routed, routed, .acquire "w" 0 "k1" .answered, .worker "w" (.settleAcquire 0),
    .worker "w" (.resumeRoute ⟨0⟩ 0 "x"), .worker "w" (.resumeRoute ⟨0⟩ 0 "y")]

/-- The second route starts when the acquire has settled, and before the first route
resumes. -/
def slippedIn : List (Action Unit) :=
  [routed, .acquire "w" 0 "k1" .answered, .worker "w" (.settleAcquire 0), routed,
    .worker "w" (.resumeRoute ⟨0⟩ 0 "x"), .acquire "w" 1 "k2" .answered,
    .worker "w" (.settleAcquire 1), .worker "w" (.resumeRoute ⟨0⟩ 0 "y"),
    .release "w" 0 .answered, .worker "w" (.resumeRelease 0)]

/-- The stream of every event that was accepted. -/
def acceptedStreams (c : Cluster Unit) : List String :=
  (c.workers "w").results.filterMap fun r => match r.2 with
    | .ok .enqueued => some r.1.streamId
    | _ => none

theorem accepted_of_streams {c : Cluster Unit} {streamId : String}
    (h : streamId ∈ acceptedStreams c) : c.Accepted "w" streamId := by
  obtain ⟨⟨event, result⟩, hmem, he⟩ := List.mem_filterMap.mp h
  simp only at he
  split at he
  · rw [Option.some.injEq] at he
    exact ⟨event, he, hmem⟩
  · cases he

/-- Two routes that share an acquire share the session. -/
theorem routes_share_session_joined : ∃ c : Cluster Unit, run step oneWorker joined = some c ∧
    c.OneSession "w" "s" := by
  have hquiet : AllSteps step (fun c a c' => c.AsksApart "w" a ∧ c.Undisturbed "w" "s" a c')
      oneWorker joined := by decide +kernel
  have hrun : (run step oneWorker joined).map (fun c => decide ("s" ∈ acceptedStreams c)) =
      some true := by decide +kernel
  obtain ⟨c, hc, haccepted⟩ := Option.map_eq_some_iff.mp hrun
  exact ⟨c, hc, routes_share_session oneWorker_initial hquiet hc
    (accepted_of_streams (of_decide_eq_true haccepted))⟩

/-- A route that slips in leaves the session without its lock. -/
theorem slippedIn_loses_lock :
    ¬∀ (c₀ c : Cluster Unit) (as : List (Action Unit)) (workerId streamId : String),
      c₀.Initial → AllSteps step (Undisturbed workerId streamId) c₀ as →
      run step c₀ as = some c → c.AllSettled workerId → c.Accepted workerId streamId →
      c.OneSession workerId streamId := by
  intro h
  have hquiet : AllSteps step (Undisturbed "w" "s") oneWorker slippedIn := by decide +kernel
  have hrun : (run step oneWorker slippedIn).map (fun c =>
      decide ("s" ∈ acceptedStreams c) && decide (c.AllSettled "w") &&
        ((c.workers "w").lockTokens.lookup "s").all fun token =>
          !(c.locks.renew c.now ⟨0⟩ "s" token "w" 30000).1) = some true := by decide +kernel
  obtain ⟨c, hc, hcheck⟩ := Option.map_eq_some_iff.mp hrun
  simp only [Bool.and_eq_true, decide_eq_true_eq] at hcheck
  obtain ⟨⟨haccepted, hsettled⟩, hlost⟩ := hcheck
  obtain ⟨o, obj, token, -, -, -, -, htoken, hrenews, -⟩ :=
    h oneWorker c slippedIn "w" "s" oneWorker_initial hquiet hc hsettled
      (accepted_of_streams haccepted)
  rw [htoken, Option.all_some, hrenews ⟨0⟩ 30000] at hlost
  cases hlost

end Cluster

end Processing
end XStreamRoll
