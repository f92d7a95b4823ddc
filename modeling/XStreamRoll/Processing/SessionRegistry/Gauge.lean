/-
The gauge of active locks against the number of tokens that the registry holds.

`activeLocks` is kept by increments: one up when a session is spawned, one down
when a release settles, and one down when a renewal comes back refused.  The
number of tokens is the size of a map.  Between the two stand the releases that
are on their way, and three kinds of steps that count a lock out too often or
not at all: a refused renewal, which the release of its failed session counts
out again; a release that fails, which nothing counts; and a `drainAll` that
clears the tokens it finds.
-/
import XStreamRoll.Lists
import XStreamRoll.Processing.SessionRegistry.Coherence

namespace XStreamRoll
namespace Processing

open Transition

variable {Data : Type}

namespace SessionRegistry

/-- The release of a session's own lock that has not been counted yet. -/
def releasePending (call : LockCall ReleaseRequest Bool) : Bool :=
  !call.request.surplus && !call.settled

def pendingReleases (r : SessionRegistry Data) : Nat := r.releases.countP releasePending

def NoReleasePending (r : SessionRegistry Data) : Prop :=
  ∀ call ∈ r.releases, call.request.surplus = false → call.settled = true

instance (r : SessionRegistry Data) : Decidable r.NoReleasePending :=
  inferInstanceAs (Decidable (∀ call ∈ r.releases, _))

/-- How far the gauge is above the locks that are held or being released. -/
def surplusLocks (r : SessionRegistry Data) : Int :=
  r.metrics.activeLocks - r.lockCount - r.pendingReleases

/-- What a step adds to the gauge without a lock behind it. -/
def miscounts (r : SessionRegistry Data) : Action Data → Int
  | .resumeTick _ i =>
    match (r.ticks[i]?).bind fun f => (r.renews[f.call]?).bind (·.answer) with
    | some (.ok false) => -1
    | _ => 0
  | .resumeRelease i =>
    match r.releases[i]? with
    | some ⟨⟨_, _, false⟩, _, some (.error _), _⟩ => 1
    | _ => 0
  | .resumeDrain .. => r.lockCount
  | _ => 0

theorem pendingReleases_eq_zero {r : SessionRegistry Data} (h : r.NoReleasePending) :
    r.pendingReleases = 0 := by
  rw [pendingReleases, List.countP_eq_zero]
  intro call hcall hpending
  rw [releasePending, Bool.and_eq_true, Bool.not_eq_true', Bool.not_eq_true'] at hpending
  rw [h call hcall hpending.1] at hpending
  exact absurd hpending.2 (by decide)

/-! ## The size of the token map -/

theorem lockCount_erase {tokens : AList fun _ : String => LockToken} {streamId : String}
    {token : LockToken} (h : tokens.lookup streamId = some token) :
    (tokens.erase streamId).keys.length + 1 = tokens.keys.length := by
  have hmem : streamId ∈ tokens.keys := AList.mem_keys.mp
    (AList.lookup_isSome.mp (by rw [h]; rfl))
  have hpos : 0 < tokens.keys.length := List.length_pos_of_mem hmem
  rw [AList.keys_erase, List.length_erase_of_mem hmem]
  omega

theorem lockCount_insert {tokens : AList fun _ : String => LockToken} {streamId : String}
    (token : LockToken) (h : tokens.lookup streamId = none) :
    (tokens.insert streamId token).keys.length = tokens.keys.length + 1 := by
  have hmem : streamId ∉ tokens.keys := fun hin =>
    AList.lookup_eq_none.mp h (AList.mem_keys.mpr hin)
  rw [AList.keys_insert, List.erase_of_not_mem hmem, List.length_cons]

theorem lockCount_replace {tokens : AList fun _ : String => LockToken} {streamId : String}
    {current : LockToken} (token : LockToken) (h : tokens.lookup streamId = some current) :
    (tokens.insert streamId token).keys.length = tokens.keys.length := by
  rw [AList.keys_insert, List.length_cons, ← AList.keys_erase]
  exact lockCount_erase h

/-! ## What each method adds -/

theorem release_surplusLocks (now : Date) (streamId : String) (token : LockToken)
    (surplus : Bool) (r : SessionRegistry Data) :
    (r.release now streamId token surplus).surplusLocks =
      r.surplusLocks - if surplus then 0 else 1 := by
  have hpending : (r.release now streamId token surplus).pendingReleases =
      r.pendingReleases + if surplus then 0 else 1 := by
    rw [pendingReleases, release, List.countP_append]
    cases surplus <;> rfl
  have hsame : (r.release now streamId token surplus).surplusLocks =
      r.metrics.activeLocks - r.lockCount -
        (r.release now streamId token surplus).pendingReleases := rfl
  rw [hsame, hpending, surplusLocks]
  cases surplus with
  | false => simp only [Bool.false_eq_true, if_false]; omega
  | true => simp only [if_true]; omega

theorem deregister_surplusLocks (now : Date) (o : Nat) (streamId : String)
    (r : SessionRegistry Data) :
    (r.deregister now o streamId).surplusLocks = r.surplusLocks := by
  by_cases h : r.sessions.lookup streamId = some o
  · rw [deregister, stateListener]
    simp only [ne_eq, not_true_eq_false, false_and, if_false, h]
    cases ht : r.lockTokens.lookup streamId with
    | none => rfl
    | some token =>
      have hcount := lockCount_erase ht
      have hreleased : ∀ q : SessionRegistry Data, q.lockTokens = r.lockTokens.erase streamId →
          q.metrics = r.metrics → q.releases = r.releases →
          (q.release now streamId token false).surplusLocks = r.surplusLocks := by
        intro q htokens hmetrics hreleases
        rw [release_surplusLocks, surplusLocks, surplusLocks, pendingReleases, pendingReleases,
          lockCount, lockCount, htokens, hmetrics, hreleases]
        simp only [Bool.false_eq_true, if_false]
        omega
      cases r.heartbeats.lookup streamId with
      | none => exact hreleased _ rfl rfl rfl
      | some timer => exact hreleased _ rfl rfl rfl
  · rw [deregister_absent h]

theorem sessionRan_surplusLocks (now : Date) (o : Nat) (obj : SessionObject Data)
    (ran : StreamSession Data × List (Effect Data)) (r : SessionRegistry Data) :
    (r.sessionRan now o obj ran).surplusLocks = r.surplusLocks := by
  rw [sessionRan, notify_foldl]
  split
  · rw [deregister_surplusLocks]
    rfl
  · rfl

theorem enqueueAndReturn_surplusLocks (now : Date) (o : Nat) (event : StreamEvent Data)
    (r : SessionRegistry Data) :
    (r.enqueueAndReturn now o event).surplusLocks = r.surplusLocks := by
  unfold enqueueAndReturn enqueueOn
  cases r.objects[o]? with
  | none => rfl
  | some obj => exact sessionRan_surplusLocks ..

theorem stopOn_surplusLocks (now : Date) (r : SessionRegistry Data) (o : Nat) :
    (r.stopOn now o).surplusLocks = r.surplusLocks := by
  unfold stopOn
  split
  · rfl
  · rw [sessionRan_surplusLocks]
    rfl

theorem stopAll_surplusLocks (now : Date) (all : List Nat) (r : SessionRegistry Data) :
    (all.foldl (stopOn now) r).surplusLocks = r.surplusLocks := by
  induction all generalizing r with
  | nil => rfl
  | cons o all ih => rw [List.foldl_cons, ih, stopOn_surplusLocks]

theorem scheduleNext_surplusLocks (now : Date) (streamId : String) (token : LockToken)
    (r : SessionRegistry Data) :
    (r.scheduleNext now streamId token).surplusLocks = r.surplusLocks := by
  unfold scheduleNext
  split
  · rfl
  · split <;> rfl

theorem extendToken_surplusLocks (now : Date) (streamId : String) (token : LockToken)
    (r : SessionRegistry Data) :
    (r.extendToken now streamId token).surplusLocks = r.surplusLocks := by
  unfold extendToken
  split
  · rfl
  · next current hcurrent =>
    split
    · rfl
    · simp only [surplusLocks, lockCount, lockCount_replace _ hcurrent]
      rfl

theorem spawnAndStart_surplusLocks {now : Date} {suffix : String} {event : StreamEvent Data}
    {token : LockToken} {r : SessionRegistry Data}
    (h : r.lockTokens.lookup event.streamId = none) :
    (r.spawnAndStart now suffix event token).surplusLocks = r.surplusLocks := by
  have hstart : ∀ (o : Nat) (q : SessionRegistry Data),
      (q.startOn now o).surplusLocks = q.surplusLocks := by
    intro o q
    unfold startOn
    split
    · rfl
    · exact sessionRan_surplusLocks ..
  have hspawn : ∀ q : SessionRegistry Data,
      (q.spawn suffix event.streamId token).2.surplusLocks = q.surplusLocks := fun _ => rfl
  rw [spawnAndStart, enqueueAndReturn_surplusLocks, hstart, hspawn, startHeartbeat,
    scheduleNext_surplusLocks]
  simp only [surplusLocks, lockCount, lockCount_insert token h,
    LockMetrics.incrementLockAcquisitions, pendingReleases]
  omega

theorem joinRaced_surplusLocks (now : Date) (raced : Nat) (event : StreamEvent Data)
    (token : LockToken) (r : SessionRegistry Data) :
    (r.joinRaced now raced event token).surplusLocks = r.surplusLocks := by
  rw [joinRaced, enqueueAndReturn_surplusLocks]
  split
  · rw [release_surplusLocks, if_pos rfl, Int.sub_zero]
    rfl
  · rfl

theorem lockLost_surplusLocks (now : Date) (streamId : String) (r : SessionRegistry Data) :
    (r.lockLost now streamId).surplusLocks = r.surplusLocks - 1 := by
  have hfailed : ({ r with metrics := r.metrics.incrementLockRenewalsFailed } :
      SessionRegistry Data).surplusLocks = r.surplusLocks - 1 := by
    show r.metrics.activeLocks - 1 - r.lockCount - r.pendingReleases = _
    rw [surplusLocks]
    omega
  unfold lockLost
  simp only
  split
  · exact hfailed
  · split
    · exact hfailed
    · split
      · rw [sessionRan_surplusLocks]
        exact hfailed
      · exact hfailed

/-! ## One step -/

theorem resumeTick_surplusLocks {now : Date} {i : Nat} {r r' : SessionRegistry Data}
    (h : r.resumeTick now i = some r') :
    r'.surplusLocks = r.surplusLocks + r.miscounts (.resumeTick now i) := by
  unfold resumeTick at h
  rw [miscounts]
  split at h
  · cases h
  · next f hf =>
    rw [hf, Option.bind_some]
    split at h
    · cases h
    · next answer hanswer =>
      rw [hanswer]
      simp only at h
      split at h
      · rw [Option.some.injEq] at h
        subst h
        rw [scheduleNext_surplusLocks, extendToken_surplusLocks]
        exact (Int.add_zero _).symm
      · rw [Option.some.injEq] at h
        subst h
        rw [lockLost_surplusLocks]
        rfl
      · rw [Option.some.injEq] at h
        subst h
        rw [scheduleNext_surplusLocks]
        exact (Int.add_zero _).symm

/-- A call that is settled for the first time stops being pending. -/
theorem countP_settled {calls : List (LockCall ReleaseRequest Bool)} {i : Nat}
    {call : LockCall ReleaseRequest Bool} (hcall : calls[i]? = some call)
    (hsettled : call.settled = false) :
    (calls.set i { call with settled := true }).countP releasePending +
      (if call.request.surplus then 0 else 1) = calls.countP releasePending := by
  have hcount : (calls.set i { call with settled := true }).countP releasePending +
      (releasePending call).toNat =
      calls.countP releasePending + (releasePending { call with settled := true }).toNat :=
    countP_set hcall
  have hsettle : releasePending { call with settled := true } = false := Bool.and_false _
  have hpending : releasePending call = !call.request.surplus := by
    rw [releasePending, hsettled, Bool.not_false, Bool.and_true]
  rw [hsettle, hpending, Bool.toNat_false, Nat.add_zero] at hcount
  rw [← hcount]
  cases call.request.surplus <;> rfl

theorem resumeRelease_surplusLocks {i : Nat} {r r' : SessionRegistry Data}
    (h : r.resumeRelease i = some r') :
    r'.surplusLocks = r.surplusLocks + r.miscounts (.resumeRelease i) := by
  unfold resumeRelease at h
  rw [miscounts]
  split at h
  · cases h
  · next call hcall =>
    rw [hcall]
    split at h
    · cases h
    · next hsettled =>
      have hcount := countP_settled hcall (Bool.eq_false_iff.mpr hsettled)
      split at h
      · cases h
      · next answer hanswer =>
        obtain ⟨⟨streamId, token, surplus⟩, issuedAt, given, settled⟩ := call
        subst hanswer
        cases surplus with
        | true =>
          simp only [if_true, Option.some.injEq] at h hcount
          subst h
          simp only [surplusLocks, pendingReleases, lockCount, Int.add_zero] at hcount ⊢
          omega
        | false =>
          cases answer with
          | ok released =>
            simp only [Bool.false_eq_true, if_false, Option.some.injEq] at h hcount
            subst h
            simp only [surplusLocks, pendingReleases, lockCount, LockMetrics.incrementLockReleases]
            omega
          | error message =>
            simp only [Bool.false_eq_true, if_false, Option.some.injEq] at h hcount
            subst h
            simp only [surplusLocks, pendingReleases, lockCount,
              LockMetrics.incrementLockReleasesFailed]
            omega

theorem resumeDrain_surplusLocks {now : Date} {i : Nat} {r r' : SessionRegistry Data}
    (h : r.resumeDrain now i = some r') : r'.surplusLocks = r.surplusLocks + r.lockCount := by
  have hclear : ∀ (entries : List (Sigma fun _ : String => Nat)) (q : SessionRegistry Data),
      (entries.foldl (fun q entry => q.clearTimeout entry.2) q).releases = q.releases ∧
        (entries.foldl (fun q entry => q.clearTimeout entry.2) q).metrics = q.metrics := by
    intro entries q
    obtain ⟨_, hframe⟩ := clearTimeouts_frame entries q
    rw [hframe]
    exact ⟨rfl, rfl⟩
  unfold resumeDrain at h
  split at h
  · cases h
  · split at h
    · rw [Option.some.injEq] at h
      subst h
      simp only [surplusLocks, pendingReleases, (hclear r.heartbeats.entries r).1,
        (hclear r.heartbeats.entries r).2]
      show r.metrics.activeLocks - 0 - _ = _
      omega
    · cases h

theorem resumeRoute_surplusLocks {now : Date} {i : Nat} {suffix : String}
    {r r' : SessionRegistry Data} (h : r.roster.Paired)
    (hs : r.resumeRoute now i suffix = some r') : r'.surplusLocks = r.surplusLocks := by
  simp only [resumeRoute] at hs
  split at hs
  · cases hs
  · next f hf =>
    split at hs
    · cases hs
    · split at hs
      · cases hs
      · split at hs
        · cases hs
        · rw [Option.some.injEq] at hs
          subst hs
          rfl
        · rw [Option.some.injEq] at hs
          subst hs
          rfl
        · split at hs
          · rw [Option.some.injEq] at hs
            subst hs
            exact joinRaced_surplusLocks ..
          · next token _ hnone =>
            rw [Option.some.injEq] at hs
            subst hs
            have htoken : r.lockTokens.lookup f.event.streamId = none :=
              Option.map_eq_none_iff.mp (h.untracked f.event.streamId hnone)
            exact spawnAndStart_surplusLocks htoken

/-- The answer to a release leaves it pending. -/
theorem countP_releasePending {releases calls : List (LockCall ReleaseRequest Bool)} {i : Nat}
    {answer : Except String Bool}
    (h : LockCall.arrive i answer releases = some calls) :
    calls.countP releasePending = releases.countP releasePending := by
  unfold LockCall.arrive at h
  split at h
  · cases h
  · next call hcall =>
    split at h
    · cases h
    · rw [Option.some.injEq] at h
      subst h
      exact countP_set_eq hcall rfl

theorem step_surplusLocks {r r' : SessionRegistry Data} {a : Action Data}
    (h : r.roster.Paired) (hs : r.step a = some r') :
    r'.surplusLocks = r.surplusLocks + r.miscounts a := by
  have hzero : ∀ {n m : Int}, n = m → n = m + 0 := fun h => by omega
  cases a with
  | route now event =>
    rw [step, Option.some.injEq] at hs
    subst hs
    apply hzero
    unfold route
    split
    · exact enqueueAndReturn_surplusLocks ..
    · split
      · rfl
      · unfold acquireDeduplicated
        cases r.inflightAcquires.lookup event.streamId <;> rfl
  | settleAcquire i =>
    apply hzero
    simp only [step, settleAcquire] at hs
    grind [surplusLocks, lockCount, pendingReleases]
  | resumeRoute now i suffix =>
    apply hzero
    exact resumeRoute_surplusLocks h hs
  | tick now timer =>
    apply hzero
    simp only [step, tick] at hs
    grind [surplusLocks, lockCount, pendingReleases, clearTimeout]
  | resumeTick now i => exact resumeTick_surplusLocks hs
  | resumeRelease i => exact resumeRelease_surplusLocks hs
  | pump now o i answer =>
    apply hzero
    simp only [step] at hs
    split at hs
    · cases hs
    · obtain ⟨ran, -, rfl⟩ := Option.map_eq_some_iff.mp hs
      exact sessionRan_surplusLocks ..
  | stop now o =>
    apply hzero
    simp only [step] at hs
    split at hs
    · rw [Option.some.injEq] at hs
      subst hs
      exact stopOn_surplusLocks ..
    · cases hs
  | stopWake now o call =>
    apply hzero
    simp only [step] at hs
    split at hs
    · cases hs
    · split at hs
      · rw [Option.some.injEq] at hs
        subst hs
        exact sessionRan_surplusLocks ..
      · cases hs
  | fail now o error =>
    apply hzero
    simp only [step] at hs
    split at hs
    · cases hs
    · rw [Option.some.injEq] at hs
      subst hs
      exact sessionRan_surplusLocks ..
  | drainAll now =>
    rw [step, Option.some.injEq] at hs
    subst hs
    exact hzero (stopAll_surplusLocks ..)
  | resumeDrain now i => exact resumeDrain_surplusLocks hs
  | resumeReleaseAll i =>
    apply hzero
    simp only [step, resumeReleaseAll] at hs
    grind [surplusLocks, lockCount, pendingReleases]
  | acquireAnswered i answer =>
    obtain ⟨calls, -, rfl⟩ := Option.map_eq_some_iff.mp hs
    exact hzero rfl
  | renewAnswered i answer =>
    obtain ⟨calls, -, rfl⟩ := Option.map_eq_some_iff.mp hs
    exact hzero rfl
  | releaseAnswered i answer =>
    obtain ⟨calls, hcalls, rfl⟩ := Option.map_eq_some_iff.mp hs
    apply hzero
    simp only [surplusLocks, pendingReleases, lockCount, countP_releasePending hcalls]
  | releaseAllAnswered i answer =>
    obtain ⟨calls, -, rfl⟩ := Option.map_eq_some_iff.mp hs
    exact hzero rfl

/-! ## Every run -/

/-- Once no release is pending, the gauge shows the locks that the registry holds exactly
when the miscounts of the run cancel, and so whenever no step of it miscounts. -/
theorem activeLocks_eq_lockCount_iff {workerId : String} {options : SessionRegistryOptions}
    {r r' : SessionRegistry Data} {as : List (Action Data)}
    (hcreate : create workerId options = .ok r) (h : run step r as = some r')
    (hnone : r'.NoReleasePending) :
    (r'.metrics.activeLocks = r'.lockCount ↔ total step miscounts r as = 0) ∧
      (AllSteps step (fun q a _ => q.miscounts a = 0) r as →
        r'.metrics.activeLocks = r'.lockCount) := by
  have hpaired : r.roster.Paired := by
    rw [create_roster hcreate]
    exact Roster.empty_paired
  have hstart : r.surplusLocks = 0 := by
    unfold create at hcreate
    simp only at hcreate
    split at hcreate
    · cases hcreate
    · rw [Except.ok.injEq] at hcreate
      subst hcreate
      rfl
  have htotal : r'.surplusLocks = r.surplusLocks + total step miscounts r as :=
    run_total (fun _ _ _ hp hs => step_paired hp hs) (fun _ _ _ hp hs => step_surplusLocks hp hs)
      hpaired h
  rw [hstart, surplusLocks, pendingReleases_eq_zero hnone] at htotal
  have hiff : r'.metrics.activeLocks = r'.lockCount ↔ total step miscounts r as = 0 := by
    omega
  exact ⟨hiff, fun hall => hiff.mpr hall.total_eq_zero⟩

/-- A stream gets a session under a lock. -/
def claimed : List (Action Unit) :=
  [.route ⟨0⟩ ⟨none, "a", (), ⟨"", none⟩⟩,
    .acquireAnswered 0 (.ok (some ⟨"a", "w", "k", ⟨20⟩, ⟨0⟩⟩)), .settleAcquire 0,
    .resumeRoute ⟨0⟩ 0 "x"]

/-- The session fails, and its lock is released. -/
def failedAndReleased : List (Action Unit) :=
  claimed ++ [.fail ⟨1⟩ 0 "broken", .releaseAnswered 0 (.ok true), .resumeRelease 0]

theorem activeLocks_eq_lockCount_failedAndReleased :
    ∃ start r : SessionRegistry Unit, create "w" ⟨2, 20, some 5, none, none, true⟩ = .ok start ∧
      run step start failedAndReleased = some r ∧ r.metrics.lockReleasesTotal = 1 ∧
      r.metrics.activeLocks = r.lockCount := by
  have hcheck : (match create "w" ⟨2, 20, some 5, none, none, true⟩ with
      | .ok start => (run step start failedAndReleased).map fun r =>
          decide (r.NoReleasePending ∧ r.metrics.lockReleasesTotal = 1 ∧
            AllSteps step (fun q a _ => q.miscounts a = 0) start failedAndReleased)
      | .error _ => none) = some true := by decide
  cases hc : (create "w" ⟨2, 20, some 5, none, none, true⟩ :
      Except String (SessionRegistry Unit)) with
  | error message =>
    rw [hc] at hcheck
    cases hcheck
  | ok start =>
    rw [hc] at hcheck
    obtain ⟨r, hr, hdecide⟩ := Option.map_eq_some_iff.mp hcheck
    obtain ⟨hnone, hreleased, hall⟩ := of_decide_eq_true hdecide
    exact ⟨start, r, rfl, hr, hreleased, (activeLocks_eq_lockCount_iff hc hr hnone).2 hall⟩

/-- The heartbeat learns that the lock is lost and fails the session, whose release is
answered too. -/
def lostLock : List (Action Unit) :=
  claimed ++ [.tick ⟨5⟩ 0, .renewAnswered 0 (.ok false), .resumeTick ⟨6⟩ 0,
    .releaseAnswered 0 (.ok false), .resumeRelease 0]

/-- The lost lock is counted out twice: the gauge shows one lock less than none. -/
theorem activeLocks_below_lockCount :
    ¬∀ (workerId : String) (options : SessionRegistryOptions) (r r' : SessionRegistry Unit)
      (as : List (Action Unit)), create workerId options = .ok r → run step r as = some r' →
      r'.NoReleasePending → r'.metrics.activeLocks = r'.lockCount := by
  intro h
  have hcheck : (match create "w" ⟨2, 20, some 5, none, none, true⟩ with
      | .ok start => (run step start lostLock).map fun r =>
          decide (r.NoReleasePending ∧ r.metrics.activeLocks = -1 ∧ r.lockCount = 0)
      | .error _ => none) = some true := by decide
  cases hc : (create "w" ⟨2, 20, some 5, none, none, true⟩ :
      Except String (SessionRegistry Unit)) with
  | error message =>
    rw [hc] at hcheck
    cases hcheck
  | ok start =>
    rw [hc] at hcheck
    obtain ⟨r, hr, hdecide⟩ := Option.map_eq_some_iff.mp hcheck
    obtain ⟨hnone, hgauge, hcount⟩ := of_decide_eq_true hdecide
    have heq := h "w" _ start r lostLock hc hr hnone
    rw [hgauge, hcount] at heq
    exact absurd heq (by decide)

end SessionRegistry

end Processing
end XStreamRoll
