/-
The cap on simultaneously active sessions.

`route()` compares the number of sessions with the cap before it awaits the lock,
and inserts the session after.  Routes of other streams that pass the check in
between are not counted, so the cap is soft: it holds as long as each route that
goes on to ask for a lock leaves room for every session that may still come of
the routes already waiting.
-/
import Mathlib.Data.Finset.Card
import Mathlib.Data.Finset.Dedup
import XStreamRoll.Processing.SessionRegistry.Refinement

namespace XStreamRoll
namespace Processing

open Transition

variable {Data : Type}

/-- The stream has a session, or a route that waits for a claim on it. -/
def Roster.Reserved (ro : Roster) (stream : String) : Prop :=
  ro.sessions stream ≠ none ∨ ∃ i, (stream, i) ∈ ro.waiting

/-- Only a route reserves a stream. -/
theorem Roster.reserved_of_step {ro ro' : Roster} {m : Move} (hs : ro.step m = some ro')
    {stream : String} (h : ro'.Reserved stream) :
    ro.Reserved stream ∨ m = .ask stream ∨ ∃ i, m = .join stream i := by
  have herase : ∀ {j : Nat}, (∃ i, (stream, i) ∈ ro.waiting.eraseIdx j) →
      ∃ i, (stream, i) ∈ ro.waiting := by
    rintro j ⟨i, hi⟩
    exact ⟨i, List.mem_of_mem_eraseIdx hi⟩
  cases m with
  | ask s =>
    simp only [Roster.step] at hs
    split at hs
    · rw [Option.some.injEq] at hs
      subst hs
      rcases h with h | ⟨i, hi⟩
      · exact .inl (.inl h)
      · rcases List.mem_append.mp hi with hi | hi
        · exact .inl (.inr ⟨i, hi⟩)
        · rw [List.mem_singleton, Prod.mk.injEq] at hi
          exact .inr (.inl (by rw [hi.1]))
    · cases hs
  | join s i =>
    simp only [Roster.step] at hs
    split at hs
    · rw [Option.some.injEq] at hs
      subst hs
      rcases h with h | ⟨i', hi⟩
      · exact .inl (.inl h)
      · rcases List.mem_append.mp hi with hi | hi
        · exact .inl (.inr ⟨i', hi⟩)
        · rw [List.mem_singleton, Prod.mk.injEq] at hi
          exact .inr (.inr ⟨i, by rw [hi.1]⟩)
    · cases hs
  | answer i grant =>
    simp only [Roster.step] at hs
    split at hs
    · cases hs
    · split at hs
      · cases hs
      · rw [Option.some.injEq] at hs
        subst hs
        exact .inl h
  | settle i =>
    simp only [Roster.step] at hs
    split at hs
    · cases hs
    · split at hs
      · cases hs
      · rw [Option.some.injEq] at hs
        subst hs
        exact .inl h
  | leave j =>
    simp only [Roster.step] at hs
    split at hs
    · rw [Option.some.injEq] at hs
      subst hs
      exact .inl (h.imp id herase)
    · cases hs
  | share j | surplus j =>
    simp only [Roster.step] at hs
    split at hs
    · split at hs
      · rw [Option.some.injEq] at hs
        subst hs
        exact .inl (h.imp id herase)
      · cases hs
    · cases hs
  | spawn j =>
    simp only [Roster.step] at hs
    split at hs
    · next s k hr =>
      split at hs
      · rw [Option.some.injEq] at hs
        subst hs
        obtain ⟨i, c, hw, -⟩ := Roster.resuming_eq_some.mp hr
        rcases h with h | h
        · by_cases he : stream = s
          · subst he
            exact .inl (.inr ⟨i, List.mem_of_getElem? hw⟩)
          · have hold := Function.update_of_ne he (some ro.objects.length) ro.sessions
            exact .inl (.inl (hold ▸ h))
        · exact .inl (.inr (herase h))
      · cases hs
    · cases hs
  | ended o =>
    simp only [Roster.step] at hs
    split at hs
    · cases hs
    · next m hm =>
      rw [Option.some.injEq] at hs
      subst hs
      rcases h with h | h
      · rw [Roster.endSession_sessions] at h
        split at h
        · by_cases he : stream = m.stream
          · rw [he, Function.update_self] at h
            exact absurd rfl h
          · rw [Function.update_of_ne he] at h
            exact .inl (.inl h)
        · exact .inl (.inl h)
      · rw [Roster.endSession_waiting] at h
        exact .inl (.inr h)
  | drained =>
    simp only [Roster.step, Option.some.injEq] at hs
    subst hs
    rcases h with h | h
    · exact absurd rfl h
    · exact .inl (.inr h)

/-- A history without `ask` and `join` reserves nothing. -/
theorem Roster.reserved_of_run {ro ro' : Roster} {ms : List Move}
    (hr : run Roster.step ro ms = some ro')
    (hms : ∀ m ∈ ms, (∀ stream, m ≠ .ask stream) ∧ ∀ stream i, m ≠ .join stream i)
    {stream : String} (h : ro'.Reserved stream) : ro.Reserved stream := by
  have hback := run_invariant_of (I := fun q : Roster => q.Reserved stream → ro.Reserved stream)
    (K := fun m => (∀ stream, m ≠ .ask stream) ∧ ∀ stream i, m ≠ .join stream i)
    ?_ (fun h => h) hms hr
  · exact hback h
  · rintro q m q' hq ⟨hask, hjoin⟩ hs hres
    rcases Roster.reserved_of_step hs hres with hres | hm | ⟨i, hm⟩
    · exact hq hres
    · exact absurd hm (hask stream)
    · exact absurd hm (hjoin stream i)

namespace SessionRegistry

/-- The streams with a session or a waiting route. -/
def reserved (r : SessionRegistry Data) : Finset String :=
  r.sessions.keys.toFinset ∪ (r.routes.map fun f => f.event.streamId).toFinset

theorem mem_reserved {r : SessionRegistry Data} {streamId : String} :
    streamId ∈ r.reserved ↔ r.roster.Reserved streamId := by
  rw [reserved, Finset.mem_union, List.mem_toFinset, List.mem_toFinset, Roster.Reserved]
  apply or_congr
  · show streamId ∈ r.sessions.keys ↔ r.sessions.lookup streamId ≠ none
    rw [← AList.mem_keys, ← AList.lookup_isSome, Option.isSome_iff_ne_none]
  · simp only [roster, List.mem_map]
    constructor
    · rintro ⟨f, hf, rfl⟩
      exact ⟨f.call, f, hf, rfl⟩
    · rintro ⟨i, f, hf, heq⟩
      exact ⟨f, hf, congrArg Prod.fst heq⟩

theorem size_le_reserved (r : SessionRegistry Data) : r.size ≤ r.reserved.card := by
  rw [size, ← List.toFinset_card_of_nodup r.sessions.keys_nodup, reserved]
  exact Finset.card_le_card Finset.subset_union_left

/-- A step other than `route` reserves nothing new, and `route` its own stream. -/
theorem step_reserved {r r' : SessionRegistry Data} {a : Action Data} (h : r.step a = some r') :
    r'.reserved ⊆ r.reserved ∨ ∃ now event, a = .route now event ∧ r.Admits event ∧
      r'.reserved ⊆ insert event.streamId r.reserved := by
  obtain ⟨ms, hexp, hr⟩ := step_moves h
  have hother : (∀ m ∈ ms, (∀ stream, m ≠ Roster.Move.ask stream) ∧
      ∀ stream i, m ≠ .join stream i) → r'.reserved ⊆ r.reserved := by
    intro hms streamId hres
    rw [mem_reserved] at hres ⊢
    exact Roster.reserved_of_run hr hms hres
  have hroute : ∀ event : StreamEvent Data,
      (ms = [.ask event.streamId] ∨ ∃ i, ms = [.join event.streamId i]) →
        r'.reserved ⊆ insert event.streamId r.reserved := by
    intro event hms streamId hres
    rw [Finset.mem_insert, mem_reserved]
    rw [mem_reserved] at hres
    rcases hms with rfl | ⟨i, rfl⟩
    · rw [run_singleton] at hr
      rcases Roster.reserved_of_step hr hres with hold | hm | ⟨i, hm⟩
      · exact .inr hold
      · exact .inl (Roster.Move.ask.inj hm).symm
      · cases hm
    · rw [run_singleton] at hr
      rcases Roster.reserved_of_step hr hres with hold | hm | ⟨i', hm⟩
      · exact .inr hold
      · cases hm
      · exact .inl (Roster.Move.join.inj hm).1.symm
  cases hexp with
  | asks now event hadmits =>
    exact .inr ⟨now, event, rfl, hadmits, hroute event (.inl rfl)⟩
  | joins now event i hadmits =>
    exact .inr ⟨now, event, rfl, hadmits, hroute event (.inr ⟨i, rfl⟩)⟩
  | ends _ os =>
    apply Or.inl
    apply hother
    intro m hm
    obtain ⟨o, -, rfl⟩ := List.mem_map.mp hm
    constructor
    · intro _ he
      cases he
    · intro _ _ he
      cases he
  | answers | settles | leaves | shares | surplus | spawns | drained =>
    apply Or.inl
    apply hother
    intro m hm
    rw [List.mem_singleton] at hm
    subst hm
    constructor
    · intro _ he
      cases he
    · intro _ _ he
      cases he

/-! ## The cap -/

/-- A route that goes on to ask for a lock leaves room for every session that may
still come of a waiting route, its own included. -/
def LeavesRoom (r : SessionRegistry Data) : Action Data → Prop
  | .route _ event => r.Admits event →
      (insert event.streamId r.reserved).card ≤ r.options.maxConcurrentSessions
  | _ => True

instance (r : SessionRegistry Data) : ∀ a : Action Data, Decidable (r.LeavesRoom a)
  | .route _ _ => inferInstanceAs (Decidable (_ → _))
  | .settleAcquire _ | .resumeRoute .. | .tick .. | .resumeTick .. | .resumeRelease _ | .pump ..
  | .stop .. | .stopWake .. | .fail .. | .drainAll _ | .resumeDrain .. | .resumeReleaseAll _
  | .acquireAnswered .. | .renewAnswered .. | .releaseAnswered .. | .releaseAllAnswered .. =>
    isTrue trivial

theorem create_reserved {workerId : String} {options : SessionRegistryOptions}
    {r : SessionRegistry Data} (h : create workerId options = .ok r) :
    r.options = options ∧ r.reserved = ∅ := by
  unfold create at h
  simp only at h
  split at h
  · cases h
  · rw [Except.ok.injEq] at h
    subst h
    exact ⟨rfl, rfl⟩

theorem step_withinCapacity {r r' : SessionRegistry Data} {a : Action Data}
    (hcap : r.reserved.card ≤ r.options.maxConcurrentSessions) (hroom : r.LeavesRoom a)
    (h : r.step a = some r') : r'.reserved.card ≤ r'.options.maxConcurrentSessions := by
  have hoptions : r'.options = r.options := congrArg (fun c => c.2.1) (step_config h)
  rw [hoptions]
  rcases step_reserved h with hsub | ⟨now, event, rfl, hadmits, hsub⟩
  · exact Nat.le_trans (Finset.card_le_card hsub) hcap
  · exact Nat.le_trans (Finset.card_le_card hsub) (hroom hadmits)

/-- The cap holds in every state of a history in which each such route leaves room. -/
theorem size_le_maxConcurrentSessions {workerId : String} {options : SessionRegistryOptions}
    {start r : SessionRegistry Data} {as : List (Action Data)}
    (hcreate : create workerId options = .ok start)
    (hroom : AllSteps step (fun r a _ => r.LeavesRoom a) start as)
    (hr : run step start as = some r) : r.size ≤ options.maxConcurrentSessions := by
  obtain ⟨hoptions, hreserved⟩ := create_reserved hcreate
  have hinit : start.reserved.card ≤ start.options.maxConcurrentSessions ∧
      start.options = options := by
    rw [hreserved, Finset.card_empty]
    exact ⟨Nat.zero_le _, hoptions⟩
  have hinv := AllSteps.invariant (I := fun q : SessionRegistry Data =>
    q.reserved.card ≤ q.options.maxConcurrentSessions ∧ q.options = options) ?_ hinit hroom hr
  · have hsize := size_le_reserved r
    rw [← hinv.2]
    omega
  · rintro q a q' ⟨hcap, hopt⟩ hleaves hs
    have hsame : q'.options = q.options := congrArg (fun c => c.2.1) (step_config hs)
    exact ⟨step_withinCapacity hcap hleaves hs, hsame.trans hopt⟩

/-- One session at most, and two streams whose locks are granted together. -/
def twoStreams : List (Action Unit) :=
  let event (streamId : String) : StreamEvent Unit := ⟨none, streamId, (), ⟨"", none⟩⟩
  let token (streamId uuid : String) : LockToken := ⟨streamId, "w", uuid, ⟨30000⟩, ⟨0⟩⟩
  [.route ⟨0⟩ (event "a"), .route ⟨0⟩ (event "b"),
    .acquireAnswered 0 (.ok (some (token "a" "k1"))), .settleAcquire 0, .resumeRoute ⟨1⟩ 0 "x",
    .acquireAnswered 1 (.ok (some (token "b" "k2"))), .settleAcquire 1, .resumeRoute ⟨1⟩ 0 "y"]

theorem twoStreams_exceed :
    ¬∀ (options : SessionRegistryOptions) (start r : SessionRegistry Unit) as,
      create "w" options = .ok start → run step start as = some r →
      r.size ≤ options.maxConcurrentSessions := by
  intro h
  have hrun : (match create "w" ⟨1, 30000, none, none, none, true⟩ with
      | .ok start => (run step start twoStreams).map size
      | .error _ => none) = some 2 := by decide
  cases hc : (create "w" ⟨1, 30000, none, none, none, true⟩ :
      Except String (SessionRegistry Unit)) with
  | error message =>
    rw [hc] at hrun
    cases hrun
  | ok start =>
    rw [hc] at hrun
    obtain ⟨r, hr, hsize⟩ := Option.map_eq_some_iff.mp hrun
    have hle := h _ start r twoStreams hc hr
    rw [hsize] at hle
    exact absurd hle (by decide)

/-- With room for both, the same history stays within the cap. -/
theorem size_le_maxConcurrentSessions_twoStreams :
    ∃ start r : SessionRegistry Unit, create "w" ⟨2, 30000, none, none, none, true⟩ = .ok start ∧
      run step start twoStreams = some r ∧ r.size ≤ 2 := by
  have hcheck : (match create "w" ⟨2, 30000, none, none, none, true⟩ with
      | .ok start => decide (AllSteps step (fun r a _ => r.LeavesRoom a) start twoStreams) &&
          (run step start twoStreams).isSome
      | .error _ => false) = true := by decide
  cases hc : (create "w" ⟨2, 30000, none, none, none, true⟩ :
      Except String (SessionRegistry Unit)) with
  | error message =>
    rw [hc] at hcheck
    cases hcheck
  | ok start =>
    rw [hc, Bool.and_eq_true, decide_eq_true_eq] at hcheck
    obtain ⟨r, hr⟩ := Option.isSome_iff_exists.mp hcheck.2
    exact ⟨start, r, rfl, hr, size_le_maxConcurrentSessions hc hcheck.1 hr⟩

end SessionRegistry

end Processing
end XStreamRoll
