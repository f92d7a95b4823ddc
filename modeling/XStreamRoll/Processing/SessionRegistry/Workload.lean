/-
What the sessions of a registry are given to do, and what they do of it.

A workload has the sessions in the order they were spawned, the events that were
accepted, and the log.  Everything else about the registry is left out: a step
of the registry is a short history of its workload, in which a session is spawned
or runs one of its methods.  `Schedules` says which histories belong to which
action.  It says more about the two methods that matter to the order of events:
an event is enqueued only into the session that the map has for its stream, and
only a lost lock makes a session fail.
-/
import XStreamRoll.Heap
import XStreamRoll.Processing.Session.Queue
import XStreamRoll.Processing.SessionRegistry.Refinement

namespace XStreamRoll
namespace Processing

open Transition

variable {Data : Type}

structure Workload (Data : Type) where
  sessions : List (StreamSession Data)
  accepted : List (StreamEvent Data)
  log : List (Nat × Effect Data)

namespace Workload

inductive Move (Data : Type) where
  | spawn (session : StreamSession Data)
  | call (o : Nat) (action : Session.Action Data)

def step (w : Workload Data) : Move Data → Option (Workload Data)
  | .spawn session => some { w with sessions := w.sessions ++ [session] }
  | .call o action =>
    match w.sessions[o]? with
    | none => none
    | some s => (Session.step (.init s) action).map fun t =>
      { sessions := w.sessions.set o t.session
        accepted := w.accepted ++ t.accepted
        log := w.log ++ (Session.effectsOf t.log).map fun e => (o, e) }

/-- A method that ran as the session says it runs. -/
theorem step_call {w : Workload Data} {o : Nat} {s : StreamSession Data}
    (ho : w.sessions[o]? = some s) {action : Session.Action Data} {t : Session.Trace Data}
    (ht : Session.step (.init s) action = some t) :
    w.step (.call o action) = some
      { sessions := w.sessions.set o t.session
        accepted := w.accepted ++ t.accepted
        log := w.log ++ (Session.effectsOf t.log).map fun e => (o, e) } := by
  rw [step, ho]
  show (Session.step (.init s) action).map _ = _
  rw [ht]
  rfl

/-- Only what is enqueued is accepted, and nothing accepted is forgotten. -/
theorem step_accepted {w w' : Workload Data} {m : Move Data} (h : w.step m = some w') :
    w.accepted ⊆ w'.accepted ∧
      ∀ e ∈ w'.accepted, e ∈ w.accepted ∨ ∃ o now, m = .call o (.enqueue now e) := by
  cases m with
  | spawn session =>
    simp only [step, Option.some.injEq] at h
    subst h
    exact ⟨List.Subset.refl _, fun e he => .inl he⟩
  | call o action =>
    rw [step] at h
    split at h
    · cases h
    · next s hs =>
      obtain ⟨t, ht, rfl⟩ := Option.map_eq_some_iff.mp h
      refine ⟨List.subset_append_left _ _, ?_⟩
      intro e he
      rcases List.mem_append.mp he with hold | hnew
      · exact .inl hold
      · obtain ⟨now, rfl⟩ := Session.step_accepted ht e hnew
        exact .inr ⟨o, now, rfl⟩

end Workload

namespace SessionRegistry

/-- The event of a route that returned `"enqueued"`. -/
def enqueued? : StreamEvent Data × Except String RouteResult → Option (StreamEvent Data)
  | (event, .ok .enqueued) => some event
  | _ => none

def workload (r : SessionRegistry Data) : Workload Data where
  sessions := r.objects.map (·.session)
  accepted := r.results.filterMap enqueued?
  log := r.log

/-- The session that a route spawns. -/
def newSession (suffix streamId : String) (r : SessionRegistry Data) : StreamSession Data :=
  StreamSession.create suffix streamId r.workerId (r.options.maxQueueDepth.getD 1000)
    (r.options.maxPublishRetries.getD 3) r.options.hasDeadLetter true

/-- The event that the step hands to a session, or spawns a session for. -/
def hands (r : SessionRegistry Data) : Action Data → Option (StreamEvent Data)
  | .route _ event => if (r.sessions.lookup event.streamId).isSome then some event else none
  | .resumeRoute _ i _ =>
    (r.routes[i]?).bind fun f => (r.acquires[f.call]?).bind fun call =>
      match call.settled, call.answer with
      | true, some (.ok (some _)) => some f.event
      | _, _ => none
  | _ => none

/-- The session that the step fails because its lock is lost. -/
def loses (r : SessionRegistry Data) : Action Data → Option Nat
  | .resumeTick _ i =>
    (r.ticks[i]?).bind fun f => match (r.renews[f.call]?).bind (·.answer) with
      | some (.ok false) => r.sessions.lookup f.streamId
      | _ => none
  | _ => none

inductive Schedules (r : SessionRegistry Data) :
    Action Data → List (Workload.Move Data) → Prop where
  | idle (a : Action Data) : Schedules r a []
  | enqueues (a : Action Data) (now : Date) (event : StreamEvent Data) (o : Nat) :
      r.hands a = some event → r.sessions.lookup event.streamId = some o →
      Schedules r a [.call o (.enqueue now event)]
  | spawns (a : Action Data) (now : Date) (suffix : String) (event : StreamEvent Data) :
      r.hands a = some event → r.sessions.lookup event.streamId = none →
      Schedules r a [.spawn (r.newSession suffix event.streamId),
        .call r.objects.length (.start now), .call r.objects.length (.enqueue now event)]
  | pumps (now : Date) (o i : Nat) (answer : Settlement) :
      Schedules r (.pump now o i answer) [.call o (.resume now i answer)]
  | stops (now : Date) (o call : Nat) : Schedules r (.stop now o) [.call o (.stop call)]
  | wakes (now : Date) (o call : Nat) :
      Schedules r (.stopWake now o call) [.call o (.stopWake call)]
  | fails (now : Date) (o : Nat) (error : String) :
      Schedules r (.fail now o error) [.call o (.fail error)]
  | loses (a : Action Data) (o : Nat) (error : String) : r.loses a = some o →
      Schedules r a [.call o (.fail error)]
  | drains (now : Date) (stops : List (Nat × Nat)) :
      Schedules r (.drainAll now) (stops.map fun s => .call s.1 (.stop s.2))

/-! ## One lemma for each method that moves the workload -/

theorem deregister_workload (now : Date) (o : Nat) (streamId : String)
    (r : SessionRegistry Data) : (r.deregister now o streamId).workload = r.workload := by
  obtain ⟨_, _, _, _, _, hframe⟩ := deregister_frame now o streamId r
  rw [hframe]
  rfl

theorem sessionRan_workload (now : Date) (o : Nat) (obj : SessionObject Data)
    (ran : StreamSession Data × List (Effect Data)) (r : SessionRegistry Data) :
    (r.sessionRan now o obj ran).workload =
      { r.workload with
        sessions := r.workload.sessions.set o ran.1
        log := r.workload.log ++ ran.2.map fun e => (o, e) } := by
  have hran : ({ r with
      objects := r.objects.set o { obj with session := ran.1 }
      log := r.log ++ ran.2.map fun e => (o, e) } : SessionRegistry Data).workload =
      { r.workload with
        sessions := r.workload.sessions.set o ran.1
        log := r.workload.log ++ ran.2.map fun e => (o, e) } := by
    simp [workload, List.map_set]
  rw [sessionRan, notify_foldl]
  split
  · rw [deregister_workload, hran]
  · exact hran

/-- A method that accepts nothing. -/
theorem sessionRan_step {r : SessionRegistry Data} {o : Nat} {obj : SessionObject Data}
    (ho : r.objects[o]? = some obj) {action : Session.Action Data} {t : Session.Trace Data}
    (ht : Session.step (.init obj.session) action = some t) (haccepted : t.accepted = [])
    (now : Date) :
    r.workload.step (.call o action) =
      some (r.sessionRan now o obj (t.session, Session.effectsOf t.log)).workload := by
  have hget : r.workload.sessions[o]? = some obj.session := by simp [workload, ho]
  rw [Workload.step_call hget ht, sessionRan_workload, haccepted, List.append_nil]

theorem finish_workload (event : StreamEvent Data) (result : Except String RouteResult)
    (r : SessionRegistry Data) :
    (r.finish event result).workload =
      { r.workload with
        accepted := r.workload.accepted ++ (enqueued? (event, result)).toList } := by
  have hsplit : (r.results ++ [(event, result)]).filterMap enqueued? =
      r.results.filterMap enqueued? ++ (enqueued? (event, result)).toList := by
    rw [List.filterMap_append, List.filterMap_cons]
    cases enqueued? (event, result) <;> rfl
  rw [workload, finish, hsplit]
  rfl

theorem finish_workload_of_ne {result : Except String RouteResult} (h : result ≠ .ok .enqueued)
    (event : StreamEvent Data) (r : SessionRegistry Data) :
    (r.finish event result).workload = r.workload := by
  have hnone : enqueued? (event, result) = none := by
    unfold enqueued?
    split
    · next heq =>
      cases heq
      exact absurd rfl h
    · rfl
  rw [finish_workload, hnone, Option.toList_none, List.append_nil]

theorem enqueueAndReturn_step {r : SessionRegistry Data} {o : Nat} {obj : SessionObject Data}
    (ho : r.objects[o]? = some obj) (now : Date) (event : StreamEvent Data) :
    r.workload.step (.call o (.enqueue now event)) =
      some (r.enqueueAndReturn now o event).workload := by
  have hget : r.workload.sessions[o]? = some obj.session := by simp [workload, ho]
  rw [Workload.step_call hget (Session.enqueue_trace now event obj.session), enqueueAndReturn, enqueueOn,
    ho]
  simp only [finish_workload, sessionRan_workload, Session.effectsOf_effects]
  cases (obj.session.enqueue now event).1 <;> rfl

theorem scheduleNext_workload (now : Date) (streamId : String) (token : LockToken)
    (r : SessionRegistry Data) : (r.scheduleNext now streamId token).workload = r.workload := by
  unfold scheduleNext
  split
  · rfl
  · split <;> rfl

theorem sessionRan_objects (now : Date) (o : Nat) (obj : SessionObject Data)
    (ran : StreamSession Data × List (Effect Data)) (r : SessionRegistry Data) :
    (r.sessionRan now o obj ran).objects.length = r.objects.length := by
  have hsessions := congrArg Workload.sessions (sessionRan_workload now o obj ran r)
  have hlength := congrArg List.length hsessions
  simpa [workload] using hlength

/-- A spawned session is started at once. -/
theorem spawn_steps (now : Date) (suffix streamId : String) (token : LockToken)
    (r : SessionRegistry Data) :
    (∃ obj, ((r.spawn suffix streamId token).2.startOn now r.objects.length).objects[
      r.objects.length]? = some obj) ∧
    run Workload.step r.workload [.spawn (r.newSession suffix streamId),
      .call r.objects.length (.start now)] =
      some ((r.spawn suffix streamId token).2.startOn now r.objects.length).workload := by
  let s := r.newSession suffix streamId
  have hget : (r.spawn suffix streamId token).2.objects[r.objects.length]? = some ⟨s, token⟩ :=
    Heap.getElem?_alloc_self r.objects _
  have hran : (r.spawn suffix streamId token).2.startOn now r.objects.length =
      (r.spawn suffix streamId token).2.sessionRan now r.objects.length ⟨s, token⟩
        (s.start now) := by
    rw [startOn, hget]
  rw [hran]
  constructor
  · have hlt : r.objects.length < ((r.spawn suffix streamId token).2.sessionRan now
        r.objects.length ⟨s, token⟩ (s.start now)).objects.length := by
      rw [sessionRan_objects]
      simp [spawn]
    exact ⟨_, List.getElem?_eq_getElem hlt⟩
  · have hspawned : r.workload.step (.spawn s) =
        some (r.spawn suffix streamId token).2.workload := by
      simp [Workload.step, workload, spawn, s, newSession]
    have hstart : Session.step (.init s) (.start now) =
        some ⟨(s.start now).1, [], (s.start now).2.map .effect⟩ := rfl
    have hcall := sessionRan_step hget hstart rfl now
    rw [Session.effectsOf_effects] at hcall
    apply run_cons_eq_some.mpr
    refine ⟨_, hspawned, ?_⟩
    rw [run_singleton]
    exact hcall

/-! ## Steps as histories of the workload -/

/-- A step that does not show in the workload. -/
theorem idle_schedules {r r' : SessionRegistry Data} (a : Action Data)
    (h : r'.workload = r.workload) :
    ∃ ms, Schedules r a ms ∧ run Workload.step r.workload ms = some r'.workload :=
  ⟨[], .idle a, by rw [run_nil, h]⟩

theorem call_schedules {r r' : SessionRegistry Data} {a : Action Data} {m : Workload.Move Data}
    (hm : Schedules r a [m]) (h : r.workload.step m = some r'.workload) :
    ∃ ms, Schedules r a ms ∧ run Workload.step r.workload ms = some r'.workload :=
  ⟨[m], hm, by rw [run_singleton, h]⟩

/-- A call of `enqueue` on what the map has for the stream. -/
theorem enqueue_schedules {r r₁ : SessionRegistry Data} {a : Action Data} {now : Date} {o : Nat}
    {event : StreamEvent Data} (hhands : r.hands a = some event)
    (ho : r.sessions.lookup event.streamId = some o) (hr : r₁.workload = r.workload)
    (hobjects : r₁.objects = r.objects) :
    ∃ ms, Schedules r a ms ∧
      run Workload.step r.workload ms = some (r₁.enqueueAndReturn now o event).workload := by
  cases hobj : r.objects[o]? with
  | none =>
    apply idle_schedules
    rw [enqueueAndReturn, enqueueOn, hobjects, hobj]
    rw [← hr]
    apply finish_workload_of_ne
    intro he
    cases he
  | some obj =>
    refine call_schedules (.enqueues a now event o hhands ho) ?_
    rw [← hr]
    apply enqueueAndReturn_step
    rw [hobjects, hobj]

theorem route_schedules (now : Date) (event : StreamEvent Data) (r : SessionRegistry Data) :
    ∃ ms, Schedules r (.route now event) ms ∧
      run Workload.step r.workload ms = some (r.route now event).workload := by
  unfold route
  cases hs : r.sessions.lookup event.streamId with
  | some existing =>
    refine enqueue_schedules ?_ hs (rfl : r.workload = r.workload) rfl
    simp [hands, hs]
  | none =>
    apply idle_schedules
    simp only
    split
    · apply finish_workload_of_ne
      intro he
      cases he
    · unfold acquireDeduplicated
      cases r.inflightAcquires.lookup event.streamId <;> rfl

theorem resumeRoute_schedules {now : Date} {i : Nat} {suffix : String}
    {r r' : SessionRegistry Data} (h : r.resumeRoute now i suffix = some r') :
    ∃ ms, Schedules r (.resumeRoute now i suffix) ms ∧
      run Workload.step r.workload ms = some r'.workload := by
  unfold resumeRoute at h
  split at h
  · cases h
  · next f hf =>
    split at h
    · cases h
    · next call hc =>
      split at h
      · cases h
      · next hset =>
        simp only at h
        split at h
        · cases h
        · rw [Option.some.injEq] at h
          subst h
          apply idle_schedules
          apply finish_workload_of_ne
          intro he
          cases he
        · rw [Option.some.injEq] at h
          subst h
          apply idle_schedules
          apply finish_workload_of_ne
          intro he
          cases he
        · next token hanswer =>
          have hsettled : call.settled = true := by simpa using hset
          have hhands : r.hands (.resumeRoute now i suffix) = some f.event := by
            simp [hands, hf, hc, hsettled, hanswer]
          split at h
          · next raced hraced =>
            rw [Option.some.injEq] at h
            subst h
            apply enqueue_schedules hhands hraced
            · split <;> rfl
            · split <;> rfl
          · next hnone =>
            rw [Option.some.injEq] at h
            subst h
            let r₁ := startHeartbeat now f.event.streamId token { r with
              routes := r.routes.eraseIdx i
              metrics := r.metrics.incrementLockAcquisitions
              lockTokens := r.lockTokens.insert f.event.streamId token }
            have hworkload : r₁.workload = r.workload := scheduleNext_workload ..
            have hobjects : r₁.objects.length = r.objects.length := by
              simpa [workload] using congrArg (List.length ∘ Workload.sessions) hworkload
            have hconfig : r₁.config = r.config := scheduleNext_config ..
            have hnew : r₁.newSession suffix f.event.streamId =
                r.newSession suffix f.event.streamId := by
              simp only [config, Prod.mk.injEq] at hconfig
              simp only [newSession, hconfig]
            obtain ⟨⟨obj, hobj⟩, hspawn⟩ := spawn_steps now suffix f.event.streamId token r₁
            rw [hworkload, hobjects, hnew] at hspawn
            rw [hobjects] at hobj
            refine ⟨_, .spawns _ now suffix f.event hhands hnone, ?_⟩
            have henqueue := (@run_singleton _ _ Workload.step _ _).trans
              (enqueueAndReturn_step hobj now f.event)
            have hall := run_append_eq_some.mpr ⟨_, hspawn, henqueue⟩
            rw [← hobjects] at hall ⊢
            exact hall

theorem resumeTick_schedules {now : Date} {i : Nat} {r r' : SessionRegistry Data}
    (h : r.resumeTick now i = some r') :
    ∃ ms, Schedules r (.resumeTick now i) ms ∧
      run Workload.step r.workload ms = some r'.workload := by
  unfold resumeTick at h
  split at h
  · cases h
  · next f hf =>
    split at h
    · cases h
    · next answer hanswer =>
      simp only at h
      split at h
      · rw [Option.some.injEq] at h
        subst h
        apply idle_schedules
        rw [scheduleNext_workload]
        unfold extendToken
        split
        · rfl
        · split <;> rfl
      · rw [Option.some.injEq] at h
        subst h
        unfold lockLost
        simp only
        split
        · exact idle_schedules _ rfl
        · next o ho =>
          split
          · exact idle_schedules _ rfl
          · next obj hobj =>
            split
            · have hloses : r.loses (.resumeTick now i) = some o := by
                simp only [loses, hf, Option.bind_some, hanswer]
                exact ho
              have hfail : Session.step (.init obj.session)
                  (.fail ("lost lock for stream " ++ f.streamId)) = some
                    ⟨(obj.session.fail ("lost lock for stream " ++ f.streamId)).1, [],
                      (obj.session.fail ("lost lock for stream " ++ f.streamId)).2.map
                        .effect⟩ := rfl
              refine call_schedules (.loses _ o ("lost lock for stream " ++ f.streamId) hloses) ?_
              have hstep := sessionRan_step (r := { r with
                ticks := r.ticks.eraseIdx i
                renews := r.renews.modify f.call fun c => { c with settled := true }
                metrics := r.metrics.incrementLockRenewalsFailed }) hobj hfail rfl now
              rw [Session.effectsOf_effects] at hstep
              exact hstep
            · exact idle_schedules _ rfl
      · rw [Option.some.injEq] at h
        subst h
        apply idle_schedules
        rw [scheduleNext_workload]
        rfl

theorem stopOn_steps (now : Date) (o : Nat) (r : SessionRegistry Data) :
    ∃ stops : List (Nat × Nat), run Workload.step r.workload
      (stops.map fun s => .call s.1 (.stop s.2)) = some (r.stopOn now o).workload := by
  unfold stopOn
  split
  · exact ⟨[], rfl⟩
  · next obj ho =>
    have hstop : Session.step (.init obj.session) (.stop r.stopCalls) =
        some ⟨(obj.session.stop r.stopCalls).1, [],
          (obj.session.stop r.stopCalls).2.map .effect⟩ := rfl
    have hstep := sessionRan_step (r := { r with stopCalls := r.stopCalls + 1 }) ho hstop rfl now
    rw [Session.effectsOf_effects] at hstep
    refine ⟨[(o, r.stopCalls)], ?_⟩
    rw [List.map_singleton, run_singleton]
    exact hstep

theorem stopAll_steps (now : Date) (all : List Nat) (r : SessionRegistry Data) :
    ∃ stops : List (Nat × Nat), run Workload.step r.workload
      (stops.map fun s => .call s.1 (.stop s.2)) = some (all.foldl (stopOn now) r).workload := by
  induction all generalizing r with
  | nil => exact ⟨[], rfl⟩
  | cons o all ih =>
    obtain ⟨stops, hstops⟩ := stopOn_steps now o r
    obtain ⟨later, hlater⟩ := ih (r.stopOn now o)
    refine ⟨stops ++ later, ?_⟩
    rw [List.map_append, run_append_eq_some]
    exact ⟨_, hstops, hlater⟩

theorem resumeDrain_workload {now : Date} {i : Nat} {r r' : SessionRegistry Data}
    (h : r.resumeDrain now i = some r') : r'.workload = r.workload := by
  have hclear : ∀ (entries : List (Sigma fun _ : String => Nat)) (q : SessionRegistry Data),
      (entries.foldl (fun q entry => q.clearTimeout entry.2) q).workload = q.workload := by
    intro entries q
    obtain ⟨_, hframe⟩ := clearTimeouts_frame entries q
    rw [hframe]
    rfl
  unfold resumeDrain at h
  split at h
  · cases h
  · split at h
    · simp only [Option.some.injEq] at h
      subst h
      exact hclear r.heartbeats.entries r
    · cases h

/-- Each step of a registry is a history of its workload. -/
theorem step_schedules {r r' : SessionRegistry Data} {a : Action Data} (h : r.step a = some r') :
    ∃ ms, Schedules r a ms ∧ run Workload.step r.workload ms = some r'.workload := by
  cases a with
  | route now event =>
    simp only [step, Option.some.injEq] at h
    subst h
    exact route_schedules now event r
  | resumeRoute now i suffix => exact resumeRoute_schedules h
  | resumeTick now i => exact resumeTick_schedules h
  | pump now o i answer =>
    simp only [step] at h
    split at h
    · cases h
    · next obj ho =>
      obtain ⟨ran, hran, rfl⟩ := Option.map_eq_some_iff.mp h
      have htrace : Session.step (.init obj.session) (.resume now i answer) = some
          ⟨ran.1, [], Session.answered obj.session i answer ++ ran.2.map .effect⟩ := by
        simp [Session.step, hran, Session.Trace.after, Session.Trace.init]
      have hstep := sessionRan_step ho htrace rfl now
      have heffects : Session.effectsOf
          (Session.answered obj.session i answer ++ ran.2.map .effect) = ran.2 := by
        have hnone : Session.effectsOf (Session.answered obj.session i answer) = [] := by
          unfold Session.answered
          split
          · split <;> rfl
          · rfl
        rw [Session.effectsOf, List.filterMap_append]
        rw [Session.effectsOf] at hnone
        rw [hnone, List.nil_append]
        exact Session.effectsOf_effects ran.2
      rw [heffects] at hstep
      exact call_schedules (.pumps now o i answer) hstep
  | stop now o =>
    simp only [step] at h
    split at h
    · next hlt =>
      rw [Option.some.injEq] at h
      subst h
      have ho : r.objects[o]? = some r.objects[o] := List.getElem?_eq_getElem hlt
      have hstop : Session.step (.init r.objects[o].session) (.stop r.stopCalls) =
          some ⟨(r.objects[o].session.stop r.stopCalls).1, [],
            (r.objects[o].session.stop r.stopCalls).2.map .effect⟩ := rfl
      have hstep := sessionRan_step (r := { r with stopCalls := r.stopCalls + 1 }) ho hstop rfl now
      rw [Session.effectsOf_effects] at hstep
      refine call_schedules (.stops now o r.stopCalls) ?_
      rw [stopOn, ho]
      exact hstep
    · cases h
  | stopWake now o call =>
    simp only [step] at h
    split at h
    · cases h
    · next obj ho =>
      split at h
      · next hmem =>
        rw [Option.some.injEq] at h
        subst h
        have hwake : Session.step (.init obj.session) (.stopWake call) =
            some ⟨(obj.session.stopWake call).1, [],
              (obj.session.stopWake call).2.map .effect⟩ := by
          simp [Session.step, Session.Trace.init, hmem, Session.Trace.after]
        have hstep := sessionRan_step ho hwake rfl now
        rw [Session.effectsOf_effects] at hstep
        exact call_schedules (.wakes now o call) hstep
      · cases h
  | fail now o error =>
    simp only [step] at h
    split at h
    · cases h
    · next obj ho =>
      rw [Option.some.injEq] at h
      subst h
      have hfail : Session.step (.init obj.session) (.fail error) =
          some ⟨(obj.session.fail error).1, [], (obj.session.fail error).2.map .effect⟩ := rfl
      have hstep := sessionRan_step ho hfail rfl now
      rw [Session.effectsOf_effects] at hstep
      exact call_schedules (.fails now o error) hstep
  | drainAll now =>
    simp only [step, Option.some.injEq] at h
    subst h
    obtain ⟨stops, hstops⟩ := stopAll_steps now (r.sessions.entries.map (·.2)) r
    exact ⟨_, .drains now stops, hstops⟩
  | resumeDrain now i => exact idle_schedules _ (resumeDrain_workload h)
  | settleAcquire i => exact idle_schedules _ (by grind [step, settleAcquire, workload])
  | tick now timer => exact idle_schedules _ (by grind [step, tick, clearTimeout, workload])
  | resumeRelease i => exact idle_schedules _ (by grind [step, resumeRelease, workload])
  | resumeReleaseAll i => exact idle_schedules _ (by grind [step, resumeReleaseAll, workload])
  | acquireAnswered i answer | renewAnswered i answer | releaseAnswered i answer
  | releaseAllAnswered i answer =>
    obtain ⟨calls, -, rfl⟩ := Option.map_eq_some_iff.mp h
    exact idle_schedules _ rfl

/-- Only the event that a step hands to a session is accepted in it. -/
theorem step_accepted {r r' : SessionRegistry Data} {a : Action Data} (h : r.step a = some r') :
    r.workload.accepted ⊆ r'.workload.accepted ∧
      ∀ e ∈ r'.workload.accepted, e ∈ r.workload.accepted ∨ r.hands a = some e := by
  obtain ⟨ms, hms, hr⟩ := step_schedules h
  have hmoves : ∀ m ∈ ms, ∀ o now e, m = .call o (.enqueue now e) → r.hands a = some e := by
    intro m hm o now e he
    subst he
    cases hms with
    | idle => cases hm
    | enqueues _ now' event o' hhands _ =>
      rw [List.mem_singleton, Workload.Move.call.injEq, Session.Action.enqueue.injEq] at hm
      rw [hhands, hm.2.2]
    | spawns _ now' suffix event hhands _ =>
      simp only [List.mem_cons, reduceCtorEq, Workload.Move.call.injEq, and_false,
        Session.Action.enqueue.injEq, List.not_mem_nil, or_false, false_or] at hm
      rw [hhands, hm.2.2]
    | pumps | stops | wakes | fails | loses =>
      rw [List.mem_singleton, Workload.Move.call.injEq] at hm
      cases hm.2
    | drains now' stops =>
      obtain ⟨stop, -, heq⟩ := List.mem_map.mp hm
      rw [Workload.Move.call.injEq] at heq
      cases heq.2
  refine run_invariant_of (I := fun w => r.workload.accepted ⊆ w.accepted ∧
    ∀ e ∈ w.accepted, e ∈ r.workload.accepted ∨ r.hands a = some e)
    (K := fun m => ∀ o now e, m = .call o (.enqueue now e) → r.hands a = some e)
    ?_ ⟨List.Subset.refl _, fun e he => .inl he⟩ hmoves hr
  rintro w m w' ⟨hsub, hall⟩ hm hs
  obtain ⟨hgrow, hnew⟩ := Workload.step_accepted hs
  refine ⟨List.Subset.trans hsub hgrow, ?_⟩
  intro e he
  rcases hnew e he with hold | ⟨o, now, heq⟩
  · exact hall e hold
  · exact .inr (hm o now e heq)

theorem sessionRan_frames (now : Date) (o : Nat) (obj : SessionObject Data)
    (ran : StreamSession Data × List (Effect Data)) (r : SessionRegistry Data) :
    (r.sessionRan now o obj ran).routes = r.routes ∧
      (r.sessionRan now o obj ran).drains = r.drains := by
  have hderegister : ∀ (streamId : String) (q : SessionRegistry Data),
      (q.deregister now o streamId).routes = q.routes ∧
        (q.deregister now o streamId).drains = q.drains := by
    intro streamId q
    obtain ⟨_, _, _, _, _, hframe⟩ := deregister_frame now o streamId q
    rw [hframe]
    exact ⟨rfl, rfl⟩
  rw [sessionRan, notify_foldl]
  split
  · exact hderegister ..
  · exact ⟨rfl, rfl⟩

theorem sessionRan_routes (now : Date) (o : Nat) (obj : SessionObject Data)
    (ran : StreamSession Data × List (Effect Data)) (r : SessionRegistry Data) :
    (r.sessionRan now o obj ran).routes = r.routes :=
  (sessionRan_frames now o obj ran r).1

theorem sessionRan_drains (now : Date) (o : Nat) (obj : SessionObject Data)
    (ran : StreamSession Data × List (Effect Data)) (r : SessionRegistry Data) :
    (r.sessionRan now o obj ran).drains = r.drains :=
  (sessionRan_frames now o obj ran r).2

theorem enqueueAndReturn_frames (now : Date) (o : Nat) (event : StreamEvent Data)
    (r : SessionRegistry Data) : (r.enqueueAndReturn now o event).routes = r.routes ∧
      (r.enqueueAndReturn now o event).drains = r.drains := by
  unfold enqueueAndReturn enqueueOn
  cases r.objects[o]? with
  | none => exact ⟨rfl, rfl⟩
  | some obj => exact sessionRan_frames ..

theorem stopAll_routes (now : Date) (all : List Nat) (r : SessionRegistry Data) :
    (all.foldl (stopOn now) r).routes = r.routes := by
  induction all generalizing r with
  | nil => rfl
  | cons o all ih =>
    rw [List.foldl_cons, ih]
    unfold stopOn
    split
    · rfl
    · rw [sessionRan_routes]

theorem resumeRoute_frames {now : Date} {i : Nat} {suffix : String} {r r' : SessionRegistry Data}
    (h : r.resumeRoute now i suffix = some r') :
    r'.routes = r.routes.eraseIdx i ∧ r'.drains = r.drains := by
  unfold resumeRoute at h
  have hspawned : ∀ (event : StreamEvent Data) token (q : SessionRegistry Data),
      (q.spawnAndStart now suffix event token).routes = q.routes ∧
        (q.spawnAndStart now suffix event token).drains = q.drains := by
    intro event token q
    have hnext : ∀ q : SessionRegistry Data,
        (q.startHeartbeat now event.streamId token).routes = q.routes ∧
          (q.startHeartbeat now event.streamId token).drains = q.drains := by
      intro q
      grind [startHeartbeat, scheduleNext]
    have hstart : ∀ o (q : SessionRegistry Data), (q.startOn now o).routes = q.routes ∧
        (q.startOn now o).drains = q.drains := by
      intro o q
      unfold startOn
      split
      · exact ⟨rfl, rfl⟩
      · exact sessionRan_frames ..
    rw [spawnAndStart, (enqueueAndReturn_frames ..).1, (enqueueAndReturn_frames ..).2,
      (hstart ..).1, (hstart ..).2]
    exact hnext _
  have hjoined : ∀ o (event : StreamEvent Data) token (q : SessionRegistry Data),
      (q.joinRaced now o event token).routes = q.routes ∧
        (q.joinRaced now o event token).drains = q.drains := by
    intro o event token q
    rw [joinRaced, (enqueueAndReturn_frames ..).1, (enqueueAndReturn_frames ..).2]
    split <;> exact ⟨rfl, rfl⟩
  split at h
  · cases h
  · split at h
    · cases h
    · split at h
      · cases h
      · simp only at h
        split at h
        · cases h
        · rw [Option.some.injEq] at h
          rw [← h]
          exact ⟨rfl, rfl⟩
        · rw [Option.some.injEq] at h
          rw [← h]
          exact ⟨rfl, rfl⟩
        · split at h
          · rw [Option.some.injEq] at h
            rw [← h, (hjoined ..).1, (hjoined ..).2]
            exact ⟨rfl, rfl⟩
          · rw [Option.some.injEq] at h
            rw [← h, (hspawned ..).1, (hspawned ..).2]
            exact ⟨rfl, rfl⟩

/-- Only `route()` adds to the routes that wait. -/
theorem step_routes {r r' : SessionRegistry Data} {a : Action Data} (h : r.step a = some r') :
    ∀ f ∈ r'.routes, f ∈ r.routes ∨ ∃ now, a = .route now f.event := by
  intro f hf
  cases a with
  | route now event =>
    simp only [step, Option.some.injEq] at h
    subst h
    unfold route at hf
    split at hf
    · rw [(enqueueAndReturn_frames ..).1] at hf
      exact .inl hf
    · split at hf
      · exact .inl hf
      · have hsame : (r.acquireDeduplicated now event.streamId).2.routes = r.routes := by
          unfold acquireDeduplicated
          cases r.inflightAcquires.lookup event.streamId <;> rfl
        simp only [hsame, List.mem_append, List.mem_singleton] at hf
        rcases hf with hold | rfl
        · exact .inl hold
        · exact .inr ⟨now, rfl⟩
  | resumeRoute now i suffix =>
    rw [(resumeRoute_frames h).1] at hf
    exact .inl (List.mem_of_mem_eraseIdx hf)
  | resumeTick now i =>
    have hextend : ∀ streamId token (q : SessionRegistry Data),
        (q.extendToken now streamId token).routes = q.routes := by
      intro streamId token q
      grind [extendToken]
    have hnext : ∀ streamId token (q : SessionRegistry Data),
        (q.scheduleNext now streamId token).routes = q.routes := by
      intro streamId token q
      grind [scheduleNext]
    have hlost : ∀ streamId (q : SessionRegistry Data),
        (q.lockLost now streamId).routes = q.routes := by
      intro streamId q
      unfold lockLost
      grind [sessionRan_routes]
    simp only [step, resumeTick] at h
    exact .inl (by grind)
  | drainAll now =>
    simp only [step, Option.some.injEq] at h
    subst h
    have hall := stopAll_routes now (r.sessions.entries.map (·.2)) r
    exact .inl (hall ▸ hf)
  | resumeDrain now i =>
    have hclear : ∀ (entries : List (Sigma fun _ : String => Nat)) (q : SessionRegistry Data),
        (entries.foldl (fun q entry => q.clearTimeout entry.2) q).routes = q.routes := by
      intro entries q
      obtain ⟨_, hframe⟩ := clearTimeouts_frame entries q
      rw [hframe]
    simp only [step, resumeDrain] at h
    exact .inl (by grind)
  | settleAcquire i => exact .inl (by grind [step, settleAcquire])
  | tick now timer => exact .inl (by grind [step, tick, clearTimeout])
  | resumeRelease i => exact .inl (by grind [step, resumeRelease])
  | pump now o i answer =>
    simp only [step] at h
    split at h
    · cases h
    · obtain ⟨ran, -, rfl⟩ := Option.map_eq_some_iff.mp h
      rw [sessionRan_routes] at hf
      exact .inl hf
  | stop now o => exact .inl (by grind [step, stopOn, sessionRan_routes])
  | stopWake now o call => exact .inl (by grind [step, sessionRan_routes])
  | fail now o error => exact .inl (by grind [step, sessionRan_routes])
  | resumeReleaseAll i => exact .inl (by grind [step, resumeReleaseAll])
  | acquireAnswered i answer | renewAnswered i answer | releaseAnswered i answer
  | releaseAllAnswered i answer =>
    obtain ⟨calls, -, rfl⟩ := Option.map_eq_some_iff.mp h
    exact .inl hf

/-- Only `drainAll()` adds to the drains under way, and only its end takes one away. -/
theorem step_drains {r r' : SessionRegistry Data} {a : Action Data} (h : r.step a = some r')
    (hdrain : ∀ now, a ≠ .drainAll now) (hresume : ∀ now i, a ≠ .resumeDrain now i) :
    r'.drains = r.drains := by
  cases a with
  | route now event =>
    simp only [step, Option.some.injEq] at h
    subst h
    unfold route
    split
    · exact (enqueueAndReturn_frames ..).2
    · split
      · rfl
      · unfold acquireDeduplicated
        cases r.inflightAcquires.lookup event.streamId <;> rfl
  | resumeRoute now i suffix => exact (resumeRoute_frames h).2
  | resumeTick now i =>
    have hextend : ∀ streamId token (q : SessionRegistry Data),
        (q.extendToken now streamId token).drains = q.drains := by
      intro streamId token q
      grind [extendToken]
    have hnext : ∀ streamId token (q : SessionRegistry Data),
        (q.scheduleNext now streamId token).drains = q.drains := by
      intro streamId token q
      grind [scheduleNext]
    have hlost : ∀ streamId (q : SessionRegistry Data),
        (q.lockLost now streamId).drains = q.drains := by
      intro streamId q
      unfold lockLost
      grind [sessionRan_drains]
    simp only [step, resumeTick] at h
    grind
  | drainAll now => exact absurd rfl (hdrain now)
  | resumeDrain now i => exact absurd rfl (hresume now i)
  | settleAcquire i => grind [step, settleAcquire]
  | tick now timer => grind [step, tick, clearTimeout]
  | resumeRelease i => grind [step, resumeRelease]
  | pump now o i answer =>
    simp only [step] at h
    split at h
    · cases h
    · obtain ⟨ran, -, rfl⟩ := Option.map_eq_some_iff.mp h
      exact sessionRan_drains ..
  | stop now o => grind [step, stopOn, sessionRan_drains]
  | stopWake now o call => grind [step, sessionRan_drains]
  | fail now o error => grind [step, sessionRan_drains]
  | resumeReleaseAll i => grind [step, resumeReleaseAll]
  | acquireAnswered i answer | renewAnswered i answer | releaseAnswered i answer
  | releaseAllAnswered i answer =>
    obtain ⟨calls, -, rfl⟩ := Option.map_eq_some_iff.mp h
    rfl

end SessionRegistry

end Processing
end XStreamRoll
