/-
What a heartbeat tick may do to a session.

A tick renews one token.  It checks that the token is still the stored one before
it awaits the renewal, and not again afterwards: when the renewal is refused, it
fails whatever session the map has for the stream by then.  So it keeps to its own
session exactly when no other token was stored while it waited.
-/
import XStreamRoll.Lists
import XStreamRoll.Processing.Session.Silence
import XStreamRoll.Processing.SessionRegistry.Coherence
import XStreamRoll.Processing.SessionRegistry.Workload

namespace XStreamRoll
namespace Processing

open Transition

variable {Data : Type}

/-! ## Every session has an error listener -/

namespace Session

theorem step_errorListener {s : StreamSession Data} {a : Action Data} {t : Trace Data}
    (h : step (.init s) a = some t) : t.session.errorListener = s.errorListener := by
  have htransition : ∀ (next : SessionState) (q : StreamSession Data),
      (q.transition next).1.errorListener = q.errorListener := by
    intro next q
    unfold StreamSession.transition
    split <;> rfl
  have hloop : ∀ (now : Date) (q : StreamSession Data),
      (q.pumpLoop now).1.errorListener = q.errorListener := by
    intro now q
    unfold StreamSession.pumpLoop
    split
    · split <;> rfl
    · rfl
  have hpump : ∀ (now : Date) (q : StreamSession Data),
      (q.pump now).1.errorListener = q.errorListener := by
    intro now q
    unfold StreamSession.pump
    split
    · rfl
    · exact hloop now _
  cases a with
  | start now => grind [step, StreamSession.start, Trace.init, Trace.after]
  | enqueue now event => grind [step, StreamSession.enqueue, Trace.init, Trace.after]
  | stop call => grind [step, StreamSession.stop, Trace.init, Trace.after]
  | stopWake call => grind [step, StreamSession.stopWake, Trace.init, Trace.after]
  | fail error => grind [step, StreamSession.fail, Trace.init, Trace.after]
  | resume now i answer =>
    grind [step, StreamSession.resume, StreamSession.publishResolved,
      StreamSession.publishRejected, StreamSession.backoffElapsed,
      StreamSession.deadLetterSettled, StreamSession.setPump, StreamSession.resumePump,
      Trace.init, Trace.after]

end Session

namespace Workload

def Listening (w : Workload Data) : Prop := ∀ s ∈ w.sessions, s.errorListener = true

theorem Listening.step {w w' : Workload Data} {m : Move Data} (h : w.Listening)
    (hm : ∀ session, m = .spawn session → session.errorListener = true)
    (hs : w.step m = some w') : w'.Listening := by
  cases m with
  | spawn session =>
    simp only [Workload.step, Option.some.injEq] at hs
    subst hs
    intro s hmem
    rcases List.mem_append.mp hmem with hold | hnew
    · exact h s hold
    · rw [List.mem_singleton.mp hnew]
      exact hm session rfl
  | call o action =>
    rw [Workload.step] at hs
    split at hs
    · cases hs
    · next s ho =>
      obtain ⟨t, ht, rfl⟩ := Option.map_eq_some_iff.mp hs
      refine forall_mem_set h ?_
      rw [Session.step_errorListener ht]
      exact h s (List.mem_of_getElem? ho)

end Workload

namespace SessionRegistry

theorem step_listening {r r' : SessionRegistry Data} {a : Action Data}
    (h : r.workload.Listening) (hs : r.step a = some r') : r'.workload.Listening := by
  obtain ⟨ms, hms, hr⟩ := step_schedules hs
  refine run_invariant_of
    (K := fun m => ∀ session, m = .spawn session → session.errorListener = true)
    (fun _ _ _ h hm hs => h.step hm hs) h ?_ hr
  intro m hm session he
  subst he
  cases hms with
  | spawns _ now suffix event _ _ =>
    simp only [List.mem_cons, List.not_mem_nil, or_false, reduceCtorEq, Workload.Move.spawn.injEq] at hm
    rw [hm]
    rfl
  | drains now stops =>
    obtain ⟨stop, -, heq⟩ := List.mem_map.mp hm
    cases heq
  | idle => cases hm
  | enqueues | pumps | stops | wakes | fails | loses =>
    rw [List.mem_singleton] at hm
    cases hm

/-! ## The two halves of a tick -/

/-- The stream and the token that a tick is about. -/
def tickOf (r : SessionRegistry Data) : Action Data → Option (String × LockToken)
  | .tick _ timer => (r.timers[timer]?).map fun t => (t.streamId, t.token)
  | .resumeTick _ i => (r.ticks[i]?).map fun f => (f.streamId, f.token)
  | _ => none

/-- The step changes the session object, or takes its entry out of the map. -/
def Touches (r r' : SessionRegistry Data) (o : Nat) : Prop :=
  r'.objects[o]? ≠ r.objects[o]? ∨
    ∃ streamId, r.sessions.lookup streamId = some o ∧ r'.sessions.lookup streamId ≠ some o

/-- A tick touches only the session that runs under the token it is about. -/
def Isolated (r : SessionRegistry Data) (a : Action Data) (r' : SessionRegistry Data) : Prop :=
  ∀ streamId token, r.tickOf a = some (streamId, token) → ∀ o, Touches r r' o →
    r.sessions.lookup streamId = some o ∧ r.tokenOf streamId = some token.token

/-- When a renewal comes back refused, the stream has no live session, or its token is
still the one that the tick renewed. -/
def RenewsCurrent (r : SessionRegistry Data) : Action Data → Prop
  | .resumeTick _ i => ∀ f ∈ r.ticks[i]?,
    (r.renews[f.call]?).bind (·.answer) = some (.ok false) →
    ∀ o ∈ r.sessions.lookup f.streamId, ∀ obj ∈ r.objects[o]?,
      obj.session.state.live = true → r.tokenOf f.streamId = some f.token.token
  | _ => True

instance (r : SessionRegistry Data) : ∀ a : Action Data, Decidable (r.RenewsCurrent a)
  | .resumeTick _ i => inferInstanceAs (Decidable (∀ f ∈ r.ticks[i]?, _))
  | .route .. | .settleAcquire _ | .resumeRoute .. | .tick .. | .resumeRelease _ | .pump ..
  | .stop .. | .stopWake .. | .fail .. | .drainAll _ | .resumeDrain .. | .resumeReleaseAll _
  | .acquireAnswered .. | .renewAnswered .. | .releaseAnswered .. | .releaseAllAnswered .. =>
    isTrue trivial

theorem not_touches {r r' : SessionRegistry Data} (hobjects : r'.objects = r.objects)
    (hsessions : r'.sessions = r.sessions) (o : Nat) : ¬Touches r r' o := by
  rintro (h | ⟨streamId, hin, hout⟩)
  · rw [hobjects] at h
    exact h rfl
  · rw [hsessions] at hout
    exact hout hin

theorem tick_untouched {now : Date} {timer : Nat} {r r' : SessionRegistry Data}
    (h : r.tick now timer = some r') : r'.objects = r.objects ∧ r'.sessions = r.sessions := by
  unfold tick at h
  grind [clearTimeout]

theorem scheduleNext_untouched (now : Date) (streamId : String) (token : LockToken)
    (r : SessionRegistry Data) :
    (r.scheduleNext now streamId token).objects = r.objects ∧
      (r.scheduleNext now streamId token).sessions = r.sessions := by
  unfold scheduleNext
  split
  · exact ⟨rfl, rfl⟩
  · split <;> exact ⟨rfl, rfl⟩

theorem extendToken_untouched (now : Date) (streamId : String) (token : LockToken)
    (r : SessionRegistry Data) :
    (r.extendToken now streamId token).objects = r.objects ∧
      (r.extendToken now streamId token).sessions = r.sessions := by
  unfold extendToken
  split
  · exact ⟨rfl, rfl⟩
  · split <;> exact ⟨rfl, rfl⟩

theorem deregister_objects (now : Date) (o : Nat) (streamId : String) (r : SessionRegistry Data) :
    (r.deregister now o streamId).objects = r.objects := by
  obtain ⟨_, _, _, _, _, hframe⟩ := deregister_frame now o streamId r
  rw [hframe]

/-- A method of the session object `o` touches no other. -/
theorem sessionRan_touches {now : Date} {o : Nat} {obj : SessionObject Data}
    {ran : StreamSession Data × List (Effect Data)} {r : SessionRegistry Data} {o' : Nat}
    (h : Touches r (r.sessionRan now o obj ran) o') : o' = o := by
  by_contra hne
  rw [sessionRan, notify_foldl] at h
  rcases h with hobjects | ⟨streamId, hin, hout⟩
  · apply hobjects
    split
    · rw [deregister_objects]
      exact Heap.getElem?_write_ne hne _
    · exact Heap.getElem?_write_ne hne _
  · apply hout
    split
    · rw [deregister_sessions]
      split
      · next hreg =>
        have hother : streamId ≠ obj.session.streamId := by
          rintro rfl
          have hsame : r.sessions.lookup obj.session.streamId = some o := hreg
          rw [hin, Option.some.injEq] at hsame
          exact hne hsame
        rw [AList.lookup_erase_ne hother]
        exact hin
      · exact hin
    · exact hin

theorem sessionRan_object {now : Date} {o : Nat} {obj : SessionObject Data}
    {ran : StreamSession Data × List (Effect Data)} {r : SessionRegistry Data}
    (ho : r.objects[o]? = some obj) :
    (r.sessionRan now o obj ran).objects[o]? = some { obj with session := ran.1 } := by
  have hself := Heap.getElem?_write_self (Heap.lt_of_getElem?_eq_some ho)
    { obj with session := ran.1 }
  rw [sessionRan, notify_foldl]
  split
  · rw [deregister_objects]
    exact hself
  · exact hself

/-- `renew` was refused: the session that is touched is the live one in the map. -/
theorem lockLost_touches {now : Date} {streamId : String} {r : SessionRegistry Data} {o : Nat}
    (h : Touches r (r.lockLost now streamId) o) :
    ∃ obj, r.sessions.lookup streamId = some o ∧ r.objects[o]? = some obj ∧
      obj.session.state.live = true := by
  unfold lockLost at h
  simp only at h
  split at h
  · exact absurd h (not_touches rfl rfl o)
  · next o' hreg =>
    split at h
    · exact absurd h (not_touches rfl rfl o)
    · next obj hobj =>
      split at h
      · next hstate =>
        have hsame : o = o' := sessionRan_touches
          (r := { r with metrics := r.metrics.incrementLockRenewalsFailed }) h
        subst hsame
        refine ⟨obj, hreg, hobj, ?_⟩
        rcases hstate with hstate | hstate
        · rw [hstate]
          rfl
        · rw [hstate]
          rfl
      · exact absurd h (not_touches rfl rfl o)

theorem fail_object_ne {obj : SessionObject Data} (hl : obj.session.errorListener = true)
    (hlive : obj.session.state.live = true) (error : String) :
    { obj with session := (obj.session.fail error).1 } ≠ obj := by
  intro he
  have hstate : (obj.session.fail error).1.state = obj.session.state :=
    congrArg (fun x => x.session.state) he
  rw [Session.fail_session, hl] at hstate
  have herrored : obj.session.state = .errored := hstate.symm
  rw [herrored] at hlive
  cases hlive

/-- Being the live one in the map is enough. -/
theorem touches_lockLost {now : Date} {streamId : String} {r : SessionRegistry Data} {o : Nat}
    {obj : SessionObject Data} (hreg : r.sessions.lookup streamId = some o)
    (hobj : r.objects[o]? = some obj) (hl : obj.session.errorListener = true)
    (hlive : obj.session.state.live = true) : Touches r (r.lockLost now streamId) o := by
  have hstate : obj.session.state = .running ∨ obj.session.state = .draining := by
    cases hs : obj.session.state with
    | running => exact .inl rfl
    | draining => exact .inr rfl
    | idle | stopped | errored =>
      rw [hs] at hlive
      cases hlive
  left
  unfold lockLost
  simp only [hreg, hobj, hstate, if_true]
  rw [sessionRan_object (r := { r with metrics := r.metrics.incrementLockRenewalsFailed }) hobj]
  intro he
  exact fail_object_ne hl hlive _ (Option.some.inj he)

theorem resumeTick_cases {now : Date} {i : Nat} {r r' : SessionRegistry Data}
    (h : r.resumeTick now i = some r') : ∃ f, r.ticks[i]? = some f ∧
      ((r.renews[f.call]?).bind (·.answer) = some (.ok false) ∧
        (∃ q : SessionRegistry Data, q.objects = r.objects ∧ q.sessions = r.sessions ∧
          r' = q.lockLost now f.streamId) ∨
      (r.renews[f.call]?).bind (·.answer) ≠ some (.ok false) ∧
        r'.objects = r.objects ∧ r'.sessions = r.sessions) := by
  unfold resumeTick at h
  split at h
  · cases h
  · next f hf =>
    refine ⟨f, hf, ?_⟩
    split at h
    · cases h
    · next answer hanswer =>
      rw [hanswer]
      simp only at h
      split at h
      · rw [Option.some.injEq] at h
        subst h
        refine .inr ⟨by simp, ?_⟩
        obtain ⟨hobjects, hsessions⟩ := scheduleNext_untouched now f.streamId f.token
          (extendToken now f.streamId f.token { r with
            ticks := r.ticks.eraseIdx i
            renews := r.renews.modify f.call fun c => { c with settled := true }
            metrics := r.metrics.incrementLockRenewals })
        obtain ⟨hobjects', hsessions'⟩ := extendToken_untouched now f.streamId f.token { r with
            ticks := r.ticks.eraseIdx i
            renews := r.renews.modify f.call fun c => { c with settled := true }
            metrics := r.metrics.incrementLockRenewals }
        exact ⟨hobjects.trans hobjects', hsessions.trans hsessions'⟩
      · rw [Option.some.injEq] at h
        subst h
        exact .inl ⟨rfl, { r with
          ticks := r.ticks.eraseIdx i
          renews := r.renews.modify f.call fun c => { c with settled := true } }, rfl, rfl, rfl⟩
      · rw [Option.some.injEq] at h
        subst h
        exact .inr ⟨by simp, scheduleNext_untouched now f.streamId f.token _⟩

/-- One step keeps to its own session exactly under that condition. -/
theorem isolated_iff {r r' : SessionRegistry Data} {a : Action Data}
    (hl : r.workload.Listening) (hs : r.step a = some r') :
    Isolated r a r' ↔ r.RenewsCurrent a := by
  cases a with
  | tick now timer =>
    obtain ⟨hobjects, hsessions⟩ := tick_untouched hs
    constructor
    · exact fun _ => trivial
    · exact fun _ _ _ _ o ho => absurd ho (not_touches hobjects hsessions o)
  | resumeTick now i =>
    obtain ⟨f, hf, ⟨hrefused, q, hobjects, hsessions, rfl⟩ | ⟨hkept, hobjects, hsessions⟩⟩ :=
      resumeTick_cases hs
    · have hframe : ∀ o, Touches r (q.lockLost now f.streamId) o ↔
          Touches q (q.lockLost now f.streamId) o := by
        intro o
        rw [Touches, Touches, hobjects, hsessions]
      constructor
      · intro hisolated g hg _ o hreg obj hobj hlive
        rw [hf, Option.mem_some_iff] at hg
        subst hg
        have hmem : obj.session ∈ r.workload.sessions :=
          List.mem_map_of_mem (List.mem_of_getElem? hobj)
        have htouches : Touches q (q.lockLost now f.streamId) o :=
          touches_lockLost (by rw [hsessions, hreg]) (by rw [hobjects, hobj]) (hl _ hmem) hlive
        exact (hisolated f.streamId f.token (by simp [tickOf, hf]) o ((hframe o).mpr htouches)).2
      · intro hcurrent streamId token htick o ho
        simp only [tickOf, hf, Option.map_some, Option.some.injEq, Prod.mk.injEq] at htick
        obtain ⟨rfl, rfl⟩ := htick
        obtain ⟨obj, hreg, hobj, hlive⟩ := lockLost_touches ((hframe o).mp ho)
        rw [hsessions] at hreg
        rw [hobjects] at hobj
        exact ⟨hreg, hcurrent f hf hrefused o hreg obj hobj hlive⟩
    · constructor
      · intro _ g hg hrefused
        rw [hf, Option.mem_some_iff] at hg
        subst hg
        exact absurd hrefused hkept
      · exact fun _ _ _ _ o ho => absurd ho (not_touches hobjects hsessions o)
  | _ =>
    constructor
    · exact fun _ => trivial
    · intro _ streamId token htick
      cases htick

/-- In a run from a new registry every tick keeps to the session of its own token
exactly when every refused renewal finds that token still stored, or no live session. -/
theorem ticks_isolated_iff {workerId : String} {options : SessionRegistryOptions}
    {r : SessionRegistry Data} (hcreate : create workerId options = .ok r)
    (as : List (Action Data)) :
    AllSteps step Isolated r as ↔ AllSteps step (fun q a _ => q.RenewsCurrent a) r as := by
  have hnew : r.workload.Listening := by
    unfold create at hcreate
    simp only at hcreate
    split at hcreate
    · cases hcreate
    · rw [Except.ok.injEq] at hcreate
      subst hcreate
      intro s hs
      cases hs
  constructor
  · exact AllSteps.of_invariant (fun _ _ _ hl _ hs => step_listening hl hs)
      (fun _ _ _ hl hi hs => (isolated_iff hl hs).mp hi) hnew
  · exact AllSteps.of_invariant (fun _ _ _ hl _ hs => step_listening hl hs)
      (fun _ _ _ hl hi hs => (isolated_iff hl hs).mpr hi) hnew

/-- A tick awaits its renewal while its session fails and the stream gets another one.
The renewal comes back refused, for the lock that was released. -/
def renewalOvertaken : List (Action Unit) :=
  let event : StreamEvent Unit := ⟨none, "a", (), ⟨"", none⟩⟩
  let token (uuid : String) : LockToken := ⟨"a", "w", uuid, ⟨20⟩, ⟨0⟩⟩
  [.route ⟨0⟩ event, .acquireAnswered 0 (.ok (some (token "k1"))), .settleAcquire 0,
    .resumeRoute ⟨1⟩ 0 "x", .tick ⟨6⟩ 0, .fail ⟨7⟩ 0 "lost", .releaseAnswered 0 (.ok true),
    .route ⟨8⟩ event, .acquireAnswered 1 (.ok (some (token "k2"))), .settleAcquire 1,
    .resumeRoute ⟨9⟩ 0 "y", .renewAnswered 0 (.ok false), .resumeTick ⟨10⟩ 0]

/-- The second session fails under its own token `k2`, by the tick that renewed `k1`. -/
theorem tick_fails_successor :
    ¬∀ (options : SessionRegistryOptions) (start : SessionRegistry Unit) as,
      create "w" options = .ok start → AllSteps step Isolated start as := by
  intro h
  have hcheck : (match create "w" ⟨2, 20, some 5, none, none, true⟩ with
      | .ok start => (run step start (renewalOvertaken.take 12)).bind fun r =>
        (r.step (.resumeTick ⟨10⟩ 0)).map fun r' =>
          ((r.tickOf (.resumeTick ⟨10⟩ 0)).map fun t => (t.1, t.2.token), r.sessions.lookup "a",
            r'.sessions.lookup "a", r.tokenOf "a")
      | .error _ => none) = some (some ("a", "k1"), some 1, none, some "k2") := by decide
  cases hc : (create "w" ⟨2, 20, some 5, none, none, true⟩ :
      Except String (SessionRegistry Unit)) with
  | error message =>
    rw [hc] at hcheck
    cases hcheck
  | ok start =>
    rw [hc] at hcheck
    obtain ⟨r, hr, hcheck⟩ := Option.bind_eq_some_iff.mp hcheck
    obtain ⟨r', hr', hcheck⟩ := Option.map_eq_some_iff.mp hcheck
    simp only [Prod.mk.injEq] at hcheck
    obtain ⟨htick, hbefore, hafter, htoken⟩ := hcheck
    obtain ⟨⟨streamId, token⟩, htick, heq⟩ := Option.map_eq_some_iff.mp htick
    rw [Prod.mk.injEq] at heq
    obtain ⟨rfl, hk1⟩ := heq
    have hall := h _ start (renewalOvertaken.take 12 ++ [.resumeTick ⟨10⟩ 0]) hc
    have hlast := ((AllSteps.after_run hall hr) r' hr').1
    have htouched : Touches r r' 1 := .inr ⟨"a", hbefore, by rw [hafter]; simp⟩
    obtain ⟨-, hown⟩ := hlast "a" token htick 1 htouched
    rw [htoken, hk1] at hown
    exact absurd hown (by decide)

/-- A tick whose own lock is lost fails its own session. -/
def ownLockLost : List (Action Unit) :=
  renewalOvertaken.take 5 ++ [.renewAnswered 0 (.ok false), .resumeTick ⟨10⟩ 0]

theorem ticks_isolated_ownLockLost :
    ∃ start : SessionRegistry Unit, create "w" ⟨2, 20, some 5, none, none, true⟩ = .ok start ∧
      (run step start ownLockLost).isSome = true ∧ AllSteps step Isolated start ownLockLost := by
  have hcheck : (match create "w" ⟨2, 20, some 5, none, none, true⟩ with
      | .ok start => (run step start ownLockLost).isSome &&
          decide (AllSteps step (fun q a _ => q.RenewsCurrent a) start ownLockLost)
      | .error _ => false) = true := by decide
  cases hc : (create "w" ⟨2, 20, some 5, none, none, true⟩ :
      Except String (SessionRegistry Unit)) with
  | error message =>
    rw [hc] at hcheck
    cases hcheck
  | ok start =>
    rw [hc, Bool.and_eq_true, decide_eq_true_eq] at hcheck
    exact ⟨start, rfl, hcheck.1, (ticks_isolated_iff hc ownLockLost).mpr hcheck.2⟩

end SessionRegistry

end Processing
end XStreamRoll
