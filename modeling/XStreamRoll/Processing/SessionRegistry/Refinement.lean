/-
A registry refines its roster.

`SessionRegistry.roster` reads a roster off a registry, and each step of the
registry is a short history of the roster: none of its moves for most steps, one
for a route or a session's end, and one for each session that `drainAll` stops
at once.  `Explains` says which moves belong to which action.
-/
import Mathlib.Data.List.InsertIdx
import XStreamRoll.Processing.Session.Pump
import XStreamRoll.Processing.SessionRegistry
import XStreamRoll.Processing.SessionRegistry.Roster

namespace XStreamRoll
namespace Processing

open Transition

variable {Data : Type}

/-- The effect tells the listeners that the session is over. -/
def Effect.ends : Effect Data → Bool
  | .emitState .stopped _ | .emitState .errored _ => true
  | _ => false

def Effect.isPublish : Effect Data → Bool
  | .publish _ => true
  | _ => false

/-! ## What a session tells its listeners -/

/-- A method that ends the session says so, and any other leaves it as live as it
was. -/
structure Reports (s : StreamSession Data) (ran : StreamSession Data × List (Effect Data)) :
    Prop where
  streamId : ran.1.streamId = s.streamId
  ends : ran.2.any Effect.ends = true → ran.1.state.live = false
  lasts : ran.2.any Effect.ends = false → ran.1.state.live = s.state.live

theorem reports_unchanged {s s' : StreamSession Data} {effects : List (Effect Data)}
    (hid : s'.streamId = s.streamId) (hstate : s'.state = s.state)
    (heffects : effects.any Effect.ends = false) : Reports s (s', effects) where
  streamId := hid
  ends := by
    intro h
    rw [heffects] at h
    cases h
  lasts := fun _ => by rw [hstate]

theorem pumpLoop_reports (now : Date) (s : StreamSession Data) :
    (s.pumpLoop now).1.streamId = s.streamId ∧ (s.pumpLoop now).1.state = s.state ∧
      (s.pumpLoop now).2.any Effect.ends = false := by
  unfold StreamSession.pumpLoop
  split
  · split
    · exact ⟨rfl, rfl, rfl⟩
    · exact ⟨rfl, rfl, rfl⟩
  · exact ⟨rfl, rfl, rfl⟩

theorem pump_reports (now : Date) (s : StreamSession Data) :
    (s.pump now).1.streamId = s.streamId ∧ (s.pump now).1.state = s.state ∧
      (s.pump now).2.any Effect.ends = false := by
  unfold StreamSession.pump
  split
  · exact ⟨rfl, rfl, rfl⟩
  · exact pumpLoop_reports now { s with processing := true }

/-- A transition to one of the two last states. -/
theorem transition_reports {next : SessionState} (hnext : next = .stopped ∨ next = .errored)
    (s : StreamSession Data) : Reports s (s.transition next) := by
  by_cases he : s.state = next
  · rw [StreamSession.transition, if_pos he]
    exact reports_unchanged rfl rfl rfl
  · rw [StreamSession.transition, if_neg he]
    rcases hnext with rfl | rfl
    · exact ⟨rfl, fun _ => rfl, fun h => by simp [Effect.ends] at h⟩
    · exact ⟨rfl, fun _ => rfl, fun h => by simp [Effect.ends] at h⟩

theorem enqueue_state (now : Date) (event : StreamEvent Data) (s : StreamSession Data) :
    (s.enqueue now event).2.1.streamId = s.streamId ∧
      (s.enqueue now event).2.1.state = s.state ∧
      (s.enqueue now event).2.2.any Effect.ends = false := by
  unfold StreamSession.enqueue
  split
  · exact ⟨rfl, rfl, rfl⟩
  · split
    · exact ⟨rfl, rfl, rfl⟩
    · let s' := { s with queue := s.queue ++ [event] }
      let ran := if s.processing then (s', []) else s'.pump now
      show ran.1.streamId = s.streamId ∧ ran.1.state = s.state ∧ ran.2.any Effect.ends = false
      by_cases hp : s.processing = true
      · rw [show ran = (s', []) from if_pos hp]
        exact ⟨rfl, rfl, rfl⟩
      · rw [show ran = s'.pump now from if_neg hp]
        exact pump_reports now s'

theorem enqueue_reports (now : Date) (event : StreamEvent Data) (s : StreamSession Data) :
    Reports s (s.enqueue now event).2 :=
  reports_unchanged (enqueue_state now event s).1 (enqueue_state now event s).2.1
    (enqueue_state now event s).2.2

theorem stop_reports (call : Nat) (s : StreamSession Data) : Reports s (s.stop call) := by
  unfold StreamSession.stop
  by_cases hclosed : s.state = .stopped ∨ s.state = .errored
  · rw [if_pos hclosed]
    exact reports_unchanged rfl rfl rfl
  · rw [if_neg hclosed]
    by_cases hrun : s.state = .running
    · simp only [hrun, if_true, StreamSession.transition, reduceCtorEq, if_false]
      by_cases hp : s.processing = true
      · rw [if_pos hp]
        exact ⟨rfl, fun h => by simp [Effect.ends] at h, fun _ => by rw [hrun]; rfl⟩
      · rw [if_neg hp]
        exact ⟨rfl, fun _ => rfl, fun h => by simp [Effect.ends] at h⟩
    · simp only [hrun, if_false]
      by_cases hp : s.processing = true
      · rw [if_pos hp]
        exact reports_unchanged rfl rfl rfl
      · rw [if_neg hp]
        exact transition_reports (.inl rfl) s

theorem stopWake_reports (call : Nat) (s : StreamSession Data) : Reports s (s.stopWake call) := by
  unfold StreamSession.stopWake
  split
  · exact reports_unchanged rfl rfl rfl
  · obtain ⟨hid, hends, hlasts⟩ :=
      transition_reports (.inl rfl) { s with stops := s.stops.erase call }
    exact ⟨hid, hends, hlasts⟩

theorem fail_reports (error : String) (s : StreamSession Data) : Reports s (s.fail error) := by
  unfold StreamSession.fail
  show Reports s (if s.errorListener then _ else _)
  split
  · obtain ⟨hid, hends, hlasts⟩ := transition_reports (.inr rfl) { s with queue := [] }
    refine ⟨hid, fun h => hends ?_, fun h => hlasts ?_⟩
    · rw [List.any_cons] at h
      exact h
    · rw [List.any_cons] at h
      exact h
  · exact reports_unchanged rfl rfl rfl

theorem resume_reports {now : Date} {i : Nat} {answer : Settlement} {s : StreamSession Data}
    {ran : StreamSession Data × List (Effect Data)} (h : s.resume now i answer = some ran) :
    Reports s ran := by
  unfold StreamSession.resume at h
  split at h
  · cases h
  · next f hf =>
    obtain ⟨hid, hstate, heffects⟩ := pumpLoop_reports now (s.resumePump i)
    split at h
    · rw [Option.some.injEq] at h
      subst h
      exact reports_unchanged hid hstate heffects
    · rw [Option.some.injEq] at h
      subst h
      unfold StreamSession.publishRejected
      simp only
      split
      · refine reports_unchanged rfl rfl ?_
        split <;> rfl
      · exact reports_unchanged rfl rfl rfl
    · rw [Option.some.injEq] at h
      subst h
      exact reports_unchanged rfl rfl rfl
    · cases h
    · rw [Option.some.injEq] at h
      subst h
      exact reports_unchanged hid hstate heffects

/-! ## The roster of a registry -/

/-- What a claim gives: a token, or nothing when it is refused or fails. -/
def granted : Except String (Option LockToken) → Option String
  | .ok (some token) => some token.token
  | _ => none

def SessionObject.member (obj : SessionObject Data) : Member :=
  ⟨obj.session.streamId, obj.claim.token, obj.session.state.live⟩

def LockCall.claim (call : LockCall String (Option LockToken)) : Claim :=
  ⟨call.request, call.answer.map granted, call.settled⟩

namespace SessionRegistry

def roster (r : SessionRegistry Data) : Roster where
  sessions := fun streamId => r.sessions.lookup streamId
  tokens := fun streamId => (r.lockTokens.lookup streamId).map (·.token)
  inflight := fun streamId => r.inflightAcquires.lookup streamId
  objects := r.objects.map SessionObject.member
  claims := r.acquires.map LockCall.claim
  waiting := r.routes.map fun f => (f.event.streamId, f.call)
  released := r.releases.map (·.request.token.token)

/-- The `"state"` listener when the session is over. -/
def deregister (now : Date) (o : Nat) (streamId : String) (r : SessionRegistry Data) :
    SessionRegistry Data :=
  r.stateListener now o streamId .stopped

theorem notify_eq (now : Date) (o : Nat) (streamId : String) (r : SessionRegistry Data)
    (e : Effect Data) :
    r.notify now o streamId e = if e.ends then r.deregister now o streamId else r := by
  cases e with
  | emitState next prev => cases next <;> rfl
  | publish | incrementProcessed | emitProcessed | deadLetter | emitDeadLetter | emitError
  | throws => rfl

theorem deregister_absent {now : Date} {o : Nat} {streamId : String} {r : SessionRegistry Data}
    (h : r.sessions.lookup streamId ≠ some o) : r.deregister now o streamId = r := by
  rw [deregister, stateListener]
  simp [h]

/-- The listener writes to the maps, the timers and the releases only. -/
theorem deregister_frame (now : Date) (o : Nat) (streamId : String) (r : SessionRegistry Data) :
    ∃ sessions lockTokens heartbeats timers releases, r.deregister now o streamId = { r with
      sessions := sessions, lockTokens := lockTokens, heartbeats := heartbeats
      timers := timers, releases := releases } := by
  by_cases h : r.sessions.lookup streamId = some o
  · rw [deregister, stateListener]
    simp only [ne_eq, not_true_eq_false, false_and, if_false, h]
    cases r.lockTokens.lookup streamId with
    | none => exact ⟨_, _, _, _, _, rfl⟩
    | some token =>
      cases r.heartbeats.lookup streamId with
      | none => exact ⟨_, _, _, _, _, rfl⟩
      | some timer => exact ⟨_, _, _, _, _, rfl⟩
  · rw [deregister_absent h]
    exact ⟨_, _, _, _, _, rfl⟩

/-- Clearing timers writes to the timers only. -/
theorem clearTimeouts_frame (entries : List (Sigma fun _ : String => Nat))
    (r : SessionRegistry Data) :
    ∃ timers, entries.foldl (fun q entry => q.clearTimeout entry.2) r = { r with timers } := by
  induction entries generalizing r with
  | nil => exact ⟨_, rfl⟩
  | cons entry entries ih =>
    obtain ⟨timers, hframe⟩ := ih (r.clearTimeout entry.2)
    exact ⟨timers, hframe⟩

theorem deregister_sessions (now : Date) (o : Nat) (streamId : String) (r : SessionRegistry Data) :
    (r.deregister now o streamId).sessions =
      if r.sessions.lookup streamId = some o then r.sessions.erase streamId else r.sessions := by
  by_cases h : r.sessions.lookup streamId = some o
  · rw [if_pos h, deregister, stateListener]
    simp only [ne_eq, not_true_eq_false, false_and, if_false, h]
    cases r.lockTokens.lookup streamId with
    | none => rfl
    | some token => cases r.heartbeats.lookup streamId <;> simp [release, clearTimeout]
  · rw [if_neg h, deregister_absent h]

theorem deregister_idem (now : Date) (o : Nat) (streamId : String) (r : SessionRegistry Data) :
    (r.deregister now o streamId).deregister now o streamId = r.deregister now o streamId := by
  apply deregister_absent
  rw [deregister_sessions]
  split
  · rw [AList.lookup_erase]
    simp
  · assumption

/-- However often a method says that the session is over, it leaves the map once. -/
theorem notify_foldl (now : Date) (o : Nat) (streamId : String) (effects : List (Effect Data))
    (r : SessionRegistry Data) :
    effects.foldl (notify now o streamId) r =
      if effects.any Effect.ends then r.deregister now o streamId else r := by
  induction effects generalizing r with
  | nil => rfl
  | cons e effects ih =>
    rw [List.foldl_cons, ih, notify_eq, List.any_cons]
    cases e.ends with
    | false => rfl
    | true =>
      simp only [if_true, Bool.true_or]
      split
      · exact deregister_idem ..
      · rfl

/-! ## One lemma for each method that moves the roster -/

theorem lookup_erase_eq {β : Type} (m : AList fun _ : String => β) (k : String) :
    (fun s => (m.erase k).lookup s) = Function.update (fun s => m.lookup s) k none := by
  funext s
  by_cases h : s = k
  · subst h
    rw [Function.update_self, AList.lookup_erase]
  · rw [Function.update_of_ne h, AList.lookup_erase_ne h]

theorem lookup_insert_eq {β : Type} (m : AList fun _ : String => β) (k : String) (v : β) :
    (fun s => (m.insert k v).lookup s) = Function.update (fun s => m.lookup s) k (some v) := by
  funext s
  by_cases h : s = k
  · subst h
    rw [Function.update_self, AList.lookup_insert]
  · rw [Function.update_of_ne h, AList.lookup_insert_ne h]

theorem tokens_erase_eq (m : AList fun _ : String => LockToken) (k : String) :
    (fun s => ((m.erase k).lookup s).map (·.token)) =
      Function.update (fun s => (m.lookup s).map (·.token)) k none := by
  funext s
  by_cases h : s = k
  · subst h
    rw [Function.update_self, AList.lookup_erase]
    rfl
  · rw [Function.update_of_ne h, AList.lookup_erase_ne h]

theorem tokens_insert_eq (m : AList fun _ : String => LockToken) (k : String) (t : LockToken) :
    (fun s => ((m.insert k t).lookup s).map (·.token)) =
      Function.update (fun s => (m.lookup s).map (·.token)) k (some t.token) := by
  funext s
  by_cases h : s = k
  · subst h
    rw [Function.update_self, AList.lookup_insert]
    rfl
  · rw [Function.update_of_ne h, AList.lookup_insert_ne h]

theorem deregister_roster {now : Date} {o : Nat} {streamId : String} {r : SessionRegistry Data}
    (h : r.sessions.lookup streamId = some o) :
    (r.deregister now o streamId).roster =
      { r.roster with
        sessions := Function.update r.roster.sessions streamId none
        tokens := Function.update r.roster.tokens streamId none
        released := r.roster.released ++ (r.roster.tokens streamId).toList } := by
  rw [deregister, stateListener]
  simp only [ne_eq, not_true_eq_false, false_and, if_false, h]
  cases ht : r.lockTokens.lookup streamId with
  | none =>
    have htok : r.roster.tokens streamId = none := by simp [roster, ht]
    rw [htok, Option.toList_none, List.append_nil]
    apply Roster.ext
    · exact lookup_erase_eq r.sessions streamId
    · rw [← htok, Function.update_eq_self]
      rfl
    all_goals rfl
  | some token =>
    have htok : r.roster.tokens streamId = some token.token := by simp [roster, ht]
    rw [htok, Option.toList_some]
    cases hb : r.heartbeats.lookup streamId with
    | none =>
      apply Roster.ext
      · exact lookup_erase_eq r.sessions streamId
      · exact tokens_erase_eq r.lockTokens streamId
      all_goals simp [roster, release]
    | some timer =>
      apply Roster.ext
      · exact lookup_erase_eq r.sessions streamId
      · exact tokens_erase_eq r.lockTokens streamId
      all_goals simp [roster, release, clearTimeout]

theorem sessionRan_roster {now : Date} {o : Nat} {obj : SessionObject Data}
    {ran : StreamSession Data × List (Effect Data)} {r : SessionRegistry Data}
    (ho : r.objects[o]? = some obj) (hran : Reports obj.session ran) :
    (r.sessionRan now o obj ran).roster =
      if ran.2.any Effect.ends then r.roster.endSession o obj.member else r.roster := by
  rw [sessionRan, notify_foldl]
  have hobjects : ∀ live, ran.1.state.live = live →
      (r.objects.set o { obj with session := ran.1 }).map SessionObject.member =
        r.roster.objects.set o { obj.member with live := live } := by
    rintro live rfl
    rw [List.map_set]
    simp [SessionObject.member, hran.streamId, roster]
  cases hends : ran.2.any Effect.ends with
  | false =>
    simp only [Bool.false_eq_true, if_false]
    apply Roster.ext
    case objects =>
      have hsame := hobjects obj.session.state.live (hran.lasts hends)
      have hget : r.roster.objects[o]? = some obj.member := by simp [roster, ho]
      show (r.objects.set o { obj with session := ran.1 }).map SessionObject.member = _
      rw [hsame]
      exact Heap.write_self hget
    all_goals rfl
  | true =>
    have hdead := hobjects false (hran.ends hends)
    simp only [if_true]
    unfold Roster.endSession
    by_cases hreg : r.sessions.lookup obj.session.streamId = some o
    · have hreg' : r.roster.sessions obj.member.stream = some o := hreg
      rw [deregister_roster (by exact hreg)]
      simp only [hreg', if_true]
      apply Roster.ext
      case objects => exact hdead
      all_goals rfl
    · have hreg' : ¬r.roster.sessions obj.member.stream = some o := hreg
      rw [deregister_absent (by exact hreg)]
      simp only [hreg', if_false]
      apply Roster.ext
      case objects => exact hdead
      all_goals rfl

theorem finish_roster (event : StreamEvent Data) (result : Except String RouteResult)
    (r : SessionRegistry Data) : (r.finish event result).roster = r.roster := rfl

theorem enqueueAndReturn_roster (now : Date) (o : Nat) (event : StreamEvent Data)
    (r : SessionRegistry Data) : (r.enqueueAndReturn now o event).roster = r.roster := by
  rw [enqueueAndReturn, enqueueOn]
  cases ho : r.objects[o]? with
  | none => rfl
  | some obj =>
    show (r.sessionRan now o obj (obj.session.enqueue now event).2).roster = r.roster
    rw [sessionRan_roster ho (enqueue_reports now event obj.session),
      (enqueue_state now event obj.session).2.2]
    rfl

theorem scheduleNext_roster (now : Date) (streamId : String) (token : LockToken)
    (r : SessionRegistry Data) : (r.scheduleNext now streamId token).roster = r.roster := by
  unfold scheduleNext
  split
  · rfl
  · split
    · rfl
    · rfl

/-- A spawned session runs as soon as it is started. -/
theorem start_spawned_roster (now : Date) (suffix streamId : String) (token : LockToken)
    (r : SessionRegistry Data) :
    ((r.spawn suffix streamId token).2.startOn now (r.spawn suffix streamId token).1).roster =
      { r.roster with
        objects := r.roster.objects ++ [⟨streamId, token.token, true⟩]
        sessions := Function.update r.roster.sessions streamId (some r.roster.objects.length) } := by
  rw [spawn]
  simp only
  let session : StreamSession Data := StreamSession.create suffix streamId r.workerId
    (r.options.maxQueueDepth.getD 1000) (r.options.maxPublishRetries.getD 3)
    r.options.hasDeadLetter true
  have hget : (r.objects ++ [⟨session, token⟩])[r.objects.length]? = some ⟨session, token⟩ :=
    Heap.getElem?_alloc_self ..
  have hstart : session.start now =
      ({ session with state := .running }, [.emitState .running .idle]) :=
    Session.start_idle rfl rfl rfl now
  have hlength : r.roster.objects.length = r.objects.length := by simp [roster]
  rw [startOn]
  simp only [session] at hget hstart
  simp only [hget, hstart, sessionRan, notify_foldl, List.any_cons, List.any_nil, Effect.ends,
    Bool.or_self, Bool.false_eq_true, if_false, hlength]
  apply Roster.ext
  case sessions => exact lookup_insert_eq r.sessions streamId r.objects.length
  case objects =>
    show ((r.objects ++ [_]).set r.objects.length _).map SessionObject.member = _
    rw [List.set_append_right _ _ (Nat.le_refl _), Nat.sub_self, List.map_append]
    rfl
  all_goals rfl

/-- A spawned session runs at once, and takes the event it was spawned for. -/
theorem spawnAndStart_roster (now : Date) (suffix : String) (event : StreamEvent Data)
    (token : LockToken) (r : SessionRegistry Data) :
    (r.spawnAndStart now suffix event token).roster =
      { r.roster with
        objects := r.roster.objects ++ [⟨event.streamId, token.token, true⟩]
        sessions := Function.update r.roster.sessions event.streamId (some r.roster.objects.length)
        tokens := Function.update r.roster.tokens event.streamId (some token.token) } := by
  rw [spawnAndStart]
  simp only [enqueueAndReturn_roster, start_spawned_roster, startHeartbeat, scheduleNext_roster]
  apply Roster.ext
  case tokens => exact tokens_insert_eq r.lockTokens event.streamId token
  all_goals rfl

theorem joinRaced_roster (now : Date) (raced : Nat) (event : StreamEvent Data)
    (token : LockToken) (r : SessionRegistry Data) :
    (r.joinRaced now raced event token).roster =
      if r.roster.tokens event.streamId = some token.token then r.roster
      else { r.roster with released := r.roster.released ++ [token.token] } := by
  rw [joinRaced]
  simp only [enqueueAndReturn_roster]
  by_cases h : r.roster.tokens event.streamId = some token.token
  · have heq : (r.lockTokens.lookup event.streamId).map (·.token) = some token.token := h
    rw [if_pos h, if_neg (not_not.mpr heq)]
    rfl
  · have hne : (r.lockTokens.lookup event.streamId).map (·.token) ≠ some token.token := h
    rw [if_neg h, if_pos hne]
    apply Roster.ext
    case released =>
      simp [roster, release]
    all_goals rfl

theorem extendToken_roster (now : Date) (streamId : String) (token : LockToken)
    (r : SessionRegistry Data) : (r.extendToken now streamId token).roster = r.roster := by
  unfold extendToken
  split
  · rfl
  · next current hc =>
    split
    · rfl
    · apply Roster.ext
      case tokens =>
        have htok : r.roster.tokens streamId = some current.token := by simp [roster, hc]
        have hinsert := tokens_insert_eq r.lockTokens streamId
          { current with expiresAt := now.plus r.options.ttlMs }
        refine hinsert.trans ?_
        rw [← htok]
        exact Function.update_eq_self streamId r.roster.tokens
      all_goals rfl

theorem resuming_roster {r : SessionRegistry Data} {j : Nat} {f : RouteFrame Data}
    {call : LockCall String (Option LockToken)} (hf : r.routes[j]? = some f)
    (hc : r.acquires[f.call]? = some call) (hs : call.settled = true) :
    r.roster.resuming j = some (f.event.streamId, call.answer.map granted) := by
  apply Roster.resuming_eq_some.mpr
  refine ⟨f.call, call.claim, ?_, ?_, hs, rfl⟩
  · simp [roster, hf]
  · simp [roster, hc]

/-! ## Steps as histories of the roster -/

/-- A `route()` that finds no session and passes the capacity check. -/
def Admits (r : SessionRegistry Data) (event : StreamEvent Data) : Prop :=
  r.sessions.lookup event.streamId = none ∧ r.size < r.options.maxConcurrentSessions

instance (r : SessionRegistry Data) (event : StreamEvent Data) : Decidable (r.Admits event) :=
  inferInstanceAs (Decidable (_ ∧ _))

/-- The moves that belong to an action. -/
inductive Explains (r : SessionRegistry Data) : Action Data → List Roster.Move → Prop where
  | asks (now : Date) (event : StreamEvent Data) : r.Admits event →
      Explains r (.route now event) [.ask event.streamId]
  | joins (now : Date) (event : StreamEvent Data) (i : Nat) : r.Admits event →
      Explains r (.route now event) [.join event.streamId i]
  | answers (i : Nat) (answer : Except String (Option LockToken)) :
      Explains r (.acquireAnswered i answer) [.answer i (granted answer)]
  | settles (i : Nat) : Explains r (.settleAcquire i) [.settle i]
  | leaves (now : Date) (i : Nat) (suffix : String) :
      Explains r (.resumeRoute now i suffix) [.leave i]
  | shares (now : Date) (i : Nat) (suffix : String) :
      Explains r (.resumeRoute now i suffix) [.share i]
  | surplus (now : Date) (i : Nat) (suffix : String) :
      Explains r (.resumeRoute now i suffix) [.surplus i]
  | spawns (now : Date) (i : Nat) (suffix : String) :
      Explains r (.resumeRoute now i suffix) [.spawn i]
  | ends (a : Action Data) (os : List Nat) : Explains r a (os.map .ended)
  | drained (now : Date) (i : Nat) : Explains r (.resumeDrain now i) [.drained]

/-- A step that does not show in the roster. -/
theorem quiet_moves {r r' : SessionRegistry Data} (a : Action Data) (h : r'.roster = r.roster) :
    ∃ ms, Explains r a ms ∧ run Roster.step r.roster ms = some r'.roster :=
  ⟨[], .ends a [], by rw [run_nil, h]⟩

theorem single_move {r r' : SessionRegistry Data} {a : Action Data} {m : Roster.Move}
    (he : Explains r a [m]) (h : r.roster.step m = some r'.roster) :
    ∃ ms, Explains r a ms ∧ run Roster.step r.roster ms = some r'.roster :=
  ⟨[m], he, by rw [run_singleton, h]⟩

theorem sessionRan_moves {now : Date} {o : Nat} {obj : SessionObject Data}
    {ran : StreamSession Data × List (Effect Data)} {r : SessionRegistry Data}
    (ho : r.objects[o]? = some obj) (hran : Reports obj.session ran) :
    ∃ os : List Nat, run Roster.step r.roster (os.map .ended) =
      some (r.sessionRan now o obj ran).roster := by
  rw [sessionRan_roster ho hran]
  cases ran.2.any Effect.ends with
  | false => exact ⟨[], rfl⟩
  | true =>
    have hget : r.roster.objects[o]? = some obj.member := by simp [roster, ho]
    refine ⟨[o], ?_⟩
    rw [List.map_singleton, run_singleton, Roster.step, hget]
    rfl

theorem stopOn_moves (now : Date) (o : Nat) (r : SessionRegistry Data) :
    ∃ os : List Nat, run Roster.step r.roster (os.map .ended) = some (r.stopOn now o).roster := by
  unfold stopOn
  split
  · exact ⟨[], rfl⟩
  · next obj ho =>
    exact sessionRan_moves (r := { r with stopCalls := r.stopCalls + 1 }) ho
      (stop_reports _ obj.session)

theorem stopAll_moves (now : Date) (all : List Nat) (r : SessionRegistry Data) :
    ∃ os : List Nat, run Roster.step r.roster (os.map .ended) =
      some (all.foldl (stopOn now) r).roster := by
  induction all generalizing r with
  | nil => exact ⟨[], rfl⟩
  | cons o all ih =>
    obtain ⟨os, hos⟩ := stopOn_moves now o r
    obtain ⟨os', hos'⟩ := ih (r.stopOn now o)
    refine ⟨os ++ os', ?_⟩
    rw [List.map_append, run_append_eq_some]
    exact ⟨_, hos, hos'⟩

theorem route_moves (now : Date) (event : StreamEvent Data) (r : SessionRegistry Data) :
    ∃ ms, Explains r (.route now event) ms ∧
      run Roster.step r.roster ms = some (r.route now event).roster := by
  unfold route
  cases hs : r.sessions.lookup event.streamId with
  | some existing => exact quiet_moves _ (enqueueAndReturn_roster ..)
  | none =>
    show ∃ ms, _ ∧ run Roster.step r.roster ms =
      some (if r.options.maxConcurrentSessions ≤ r.size then _ else _ : SessionRegistry Data).roster
    split
    · exact quiet_moves _ rfl
    · next hroom =>
      have hadmits : r.Admits event := ⟨hs, Nat.not_le.mp hroom⟩
      rw [acquireDeduplicated]
      cases hi : r.inflightAcquires.lookup event.streamId with
      | some pending =>
        refine single_move (.joins now event pending hadmits) ?_
        have hflight : r.roster.inflight event.streamId = some pending := hi
        rw [Roster.step, if_pos hflight]
        simp [roster]
      | none =>
        refine single_move (.asks now event hadmits) ?_
        have hfree : r.roster.sessions event.streamId = none ∧
            r.roster.inflight event.streamId = none := ⟨hs, hi⟩
        rw [Roster.step, if_pos hfree]
        congr 1
        apply Roster.ext
        case inflight =>
          simp only [roster, List.length_map]
          exact (lookup_insert_eq r.inflightAcquires event.streamId r.acquires.length).symm
        all_goals simp [roster, LockCall.claim]

theorem resumeRoute_moves {now : Date} {i : Nat} {suffix : String} {r r' : SessionRegistry Data}
    (h : r.resumeRoute now i suffix = some r') :
    ∃ ms, Explains r (.resumeRoute now i suffix : Action Data) ms ∧
      run Roster.step r.roster ms = some r'.roster := by
  unfold resumeRoute at h
  split at h
  · cases h
  · next f hf =>
    split at h
    · cases h
    · next call hc =>
      split at h
      · cases h
      · next hset =>
        have hset' : call.settled = true := by simpa using hset
        have hres := resuming_roster hf hc hset'
        have hwait : ({ r with routes := r.routes.eraseIdx i } : SessionRegistry Data).roster =
            { r.roster with waiting := r.roster.waiting.eraseIdx i } := by
          apply Roster.ext
          case waiting => exact (List.eraseIdx_map ..).symm
          all_goals rfl
        cases ha : call.answer with
        | none => simp [ha] at h
        | some answer =>
          rw [ha, Option.map_some] at hres
          simp only [ha] at h
          cases answer with
          | error message =>
            simp only [Option.some.injEq] at h
            subst h
            refine single_move (.leaves now i suffix) ?_
            rw [Roster.step, hres, finish_roster, hwait]
            rfl
          | ok token? =>
            cases token? with
            | none =>
              simp only [Option.some.injEq] at h
              subst h
              refine single_move (.leaves now i suffix) ?_
              rw [Roster.step, hres, finish_roster]
              exact congrArg some hwait.symm
            | some token =>
              simp only at h
              have hres' : r.roster.resuming i =
                  some (f.event.streamId, some (some token.token)) := hres
              cases hs : r.sessions.lookup f.event.streamId with
              | some raced =>
                have hreg : r.roster.sessions f.event.streamId ≠ none := by
                  show r.sessions.lookup f.event.streamId ≠ none
                  rw [hs]
                  simp
                simp only [hs, Option.some.injEq] at h
                subst h
                by_cases htok : r.roster.tokens f.event.streamId = some token.token
                · refine single_move (.shares now i suffix) ?_
                  rw [Roster.step, hres', joinRaced_roster, hwait]
                  simp only [hreg, htok, ne_eq, not_false_eq_true, and_self, if_true]
                · refine single_move (.surplus now i suffix) ?_
                  rw [Roster.step, hres', joinRaced_roster, hwait]
                  simp only [hreg, htok, ne_eq, not_false_eq_true, and_self, if_true, if_false]
              | none =>
                have hreg : r.roster.sessions f.event.streamId = none := hs
                simp only [hs, Option.some.injEq] at h
                subst h
                refine single_move (.spawns now i suffix) ?_
                rw [Roster.step, hres', spawnAndStart_roster, hwait]
                simp only [hreg, if_true]

theorem lockLost_moves (now : Date) (streamId : String) (r : SessionRegistry Data) :
    ∃ os : List Nat, run Roster.step r.roster (os.map .ended) =
      some (r.lockLost now streamId).roster := by
  unfold lockLost
  simp only
  split
  · exact ⟨[], rfl⟩
  · split
    · exact ⟨[], rfl⟩
    · next obj ho =>
      split
      · exact sessionRan_moves
          (r := { r with metrics := r.metrics.incrementLockRenewalsFailed }) ho
          (fail_reports _ obj.session)
      · exact ⟨[], rfl⟩

theorem resumeTick_moves {now : Date} {i : Nat} {r r' : SessionRegistry Data}
    (h : r.resumeTick now i = some r') :
    ∃ os : List Nat, run Roster.step r.roster (os.map .ended) = some r'.roster := by
  unfold resumeTick at h
  split at h
  · cases h
  · next f hf =>
    split at h
    · cases h
    · simp only at h
      split at h
      · rw [Option.some.injEq] at h
        subst h
        refine ⟨[], ?_⟩
        rw [scheduleNext_roster, extendToken_roster]
        rfl
      · rw [Option.some.injEq] at h
        subst h
        have hmoves := lockLost_moves now f.streamId ({ r with
          ticks := r.ticks.eraseIdx i
          renews := r.renews.modify f.call fun c => { c with settled := true } } :
            SessionRegistry Data)
        exact hmoves
      · rw [Option.some.injEq] at h
        subst h
        exact ⟨[], by rw [scheduleNext_roster]; rfl⟩

theorem tick_roster {now : Date} {timer : Nat} {r r' : SessionRegistry Data}
    (h : r.tick now timer = some r') : r'.roster = r.roster := by
  unfold tick at h
  split at h
  · cases h
  · split at h
    · cases h
    · simp only at h
      split at h
      · rw [Option.some.injEq] at h
        subst h
        rfl
      · split at h
        · rw [Option.some.injEq] at h
          subst h
          rfl
        · rw [Option.some.injEq] at h
          subst h
          rfl

theorem resumeDrain_moves {now : Date} {i : Nat} {r r' : SessionRegistry Data}
    (h : r.resumeDrain now i = some r') : r.roster.step .drained = some r'.roster := by
  unfold resumeDrain at h
  split at h
  · cases h
  · split at h
    · simp only [Option.some.injEq] at h
      subst h
      have hclear : ∀ (entries : List (Sigma fun _ : String => Nat)) (q : SessionRegistry Data),
          (entries.foldl (fun q entry => q.clearTimeout entry.2) q).roster = q.roster := by
        intro entries q
        obtain ⟨_, hframe⟩ := clearTimeouts_frame entries q
        rw [hframe]
        rfl
      have hq := hclear r.heartbeats.entries r
      rw [Roster.step, ← hq]
      rfl
    · cases h

theorem arrive_claims {i : Nat} {answer : Except String (Option LockToken)}
    {r : SessionRegistry Data} {calls : List (LockCall String (Option LockToken))}
    (h : LockCall.arrive i answer r.acquires = some calls) :
    r.roster.step (.answer i (granted answer)) =
      some { r with acquires := calls : SessionRegistry Data }.roster := by
  unfold LockCall.arrive at h
  split at h
  · cases h
  · next call hc =>
    split at h
    · cases h
    · next hnone =>
      rw [Option.some.injEq] at h
      subst h
      have hget : r.roster.claims[i]? = some call.claim := by simp [roster, hc]
      have hno : ¬call.claim.grant.isSome = true := by simpa [LockCall.claim] using hnone
      rw [Roster.step, hget]
      simp only [hno, if_false, Bool.false_eq_true]
      congr 1
      apply Roster.ext
      case claims =>
        show r.roster.claims.set i _ = (r.acquires.set i _).map LockCall.claim
        rw [List.map_set]
        rfl
      all_goals rfl

theorem settleAcquire_moves {i : Nat} {r r' : SessionRegistry Data}
    (h : r.settleAcquire i = some r') : r.roster.step (.settle i) = some r'.roster := by
  unfold settleAcquire at h
  split at h
  · cases h
  · next call hc =>
    split at h
    · cases h
    · next hnot =>
      rw [Option.some.injEq] at h
      subst h
      have hget : r.roster.claims[i]? = some call.claim := by simp [roster, hc]
      have hgo : ¬(call.claim.grant.isNone = true ∨ call.claim.settled = true) := by
        simpa [LockCall.claim] using hnot
      rw [Roster.step, hget]
      simp only [hgo, if_false]
      congr 1
      apply Roster.ext
      case claims =>
        show r.roster.claims.set i _ = (r.acquires.set i _).map LockCall.claim
        rw [List.map_set]
        rfl
      case inflight => exact (lookup_erase_eq r.inflightAcquires call.request).symm
      all_goals rfl

theorem releaseAnswered_roster {i : Nat} {answer : Except String Bool} {r : SessionRegistry Data}
    {calls : List (LockCall ReleaseRequest Bool)}
    (h : LockCall.arrive i answer r.releases = some calls) :
    ({ r with releases := calls } : SessionRegistry Data).roster = r.roster := by
  unfold LockCall.arrive at h
  split at h
  · cases h
  · next call hc =>
    split at h
    · cases h
    · rw [Option.some.injEq] at h
      subst h
      apply Roster.ext
      case released =>
        show (r.releases.set i _).map _ = r.releases.map _
        rw [List.map_set]
        apply Heap.write_self
        simp [hc]
      all_goals rfl

theorem resumeRelease_roster {i : Nat} {r r' : SessionRegistry Data}
    (h : r.resumeRelease i = some r') : r'.roster = r.roster := by
  unfold resumeRelease at h
  split at h
  · cases h
  · next call hc =>
    have hsame : ∀ metrics, ({ r with
        releases := r.releases.set i { call with settled := true }
        metrics := metrics } : SessionRegistry Data).roster = r.roster := by
      intro metrics
      apply Roster.ext
      case released =>
        show (r.releases.set i _).map _ = r.releases.map _
        rw [List.map_set]
        apply Heap.write_self
        simp [hc]
      all_goals rfl
    split at h
    · cases h
    · split at h
      · cases h
      · simp only at h
        split at h
        · rw [Option.some.injEq] at h
          subst h
          exact hsame r.metrics
        · split at h
          · rw [Option.some.injEq] at h
            subst h
            exact hsame _
          · rw [Option.some.injEq] at h
            subst h
            exact hsame _

/-- Each step of a registry is a history of its roster. -/
theorem step_moves {r r' : SessionRegistry Data} {a : Action Data} (h : r.step a = some r') :
    ∃ ms, Explains r a ms ∧ run Roster.step r.roster ms = some r'.roster := by
  have hended : (∃ os : List Nat, run Roster.step r.roster (os.map .ended) = some r'.roster) →
      ∃ ms, Explains r a ms ∧ run Roster.step r.roster ms = some r'.roster := by
    rintro ⟨os, hos⟩
    exact ⟨_, .ends a os, hos⟩
  cases a with
  | route now event =>
    simp only [step, Option.some.injEq] at h
    subst h
    exact route_moves now event r
  | settleAcquire i => exact single_move (.settles i) (settleAcquire_moves h)
  | resumeRoute now i suffix => exact resumeRoute_moves h
  | tick now timer => exact quiet_moves _ (tick_roster h)
  | resumeTick now i => exact hended (resumeTick_moves h)
  | resumeRelease i => exact quiet_moves _ (resumeRelease_roster h)
  | pump now o i answer =>
    simp only [step] at h
    split at h
    · cases h
    · next obj ho =>
      obtain ⟨ran, hran, rfl⟩ := Option.map_eq_some_iff.mp h
      exact hended (sessionRan_moves ho (resume_reports hran))
  | stop now o =>
    simp only [step] at h
    split at h
    · rw [Option.some.injEq] at h
      subst h
      exact hended (stopOn_moves now o r)
    · cases h
  | stopWake now o call =>
    simp only [step] at h
    split at h
    · cases h
    · next obj ho =>
      split at h
      · rw [Option.some.injEq] at h
        subst h
        exact hended (sessionRan_moves ho (stopWake_reports call obj.session))
      · cases h
  | fail now o error =>
    simp only [step] at h
    split at h
    · cases h
    · next obj ho =>
      rw [Option.some.injEq] at h
      subst h
      exact hended (sessionRan_moves ho (fail_reports error obj.session))
  | drainAll now =>
    simp only [step, Option.some.injEq] at h
    subst h
    exact hended (stopAll_moves now _ r)
  | resumeDrain now i => exact single_move (.drained now i) (resumeDrain_moves h)
  | resumeReleaseAll i =>
    simp only [step, resumeReleaseAll] at h
    split at h
    · cases h
    · split at h
      · cases h
      · rw [Option.some.injEq] at h
        subst h
        exact quiet_moves _ rfl
  | acquireAnswered i answer =>
    obtain ⟨calls, hcalls, rfl⟩ := Option.map_eq_some_iff.mp h
    exact single_move (.answers i answer) (arrive_claims hcalls)
  | renewAnswered i answer =>
    obtain ⟨calls, -, rfl⟩ := Option.map_eq_some_iff.mp h
    exact quiet_moves _ rfl
  | releaseAnswered i answer =>
    obtain ⟨calls, hcalls, rfl⟩ := Option.map_eq_some_iff.mp h
    exact quiet_moves _ (releaseAnswered_roster hcalls)
  | releaseAllAnswered i answer =>
    obtain ⟨calls, -, rfl⟩ := Option.map_eq_some_iff.mp h
    exact quiet_moves _ rfl

/-! ## What never changes -/

/-- The parameters of the constructor. -/
def config (r : SessionRegistry Data) : String × SessionRegistryOptions × Nat :=
  (r.workerId, r.options, r.heartbeatMs)

theorem deregister_config (now : Date) (o : Nat) (streamId : String) (r : SessionRegistry Data) :
    (r.deregister now o streamId).config = r.config := by
  obtain ⟨_, _, _, _, _, hframe⟩ := deregister_frame now o streamId r
  rw [hframe]
  rfl

theorem sessionRan_config (now : Date) (o : Nat) (obj : SessionObject Data)
    (ran : StreamSession Data × List (Effect Data)) (r : SessionRegistry Data) :
    (r.sessionRan now o obj ran).config = r.config := by
  rw [sessionRan, notify_foldl]
  split
  · exact deregister_config ..
  · rfl

theorem enqueueAndReturn_config (now : Date) (o : Nat) (event : StreamEvent Data)
    (r : SessionRegistry Data) : (r.enqueueAndReturn now o event).config = r.config := by
  rw [enqueueAndReturn, enqueueOn]
  cases r.objects[o]? with
  | none => rfl
  | some obj => exact sessionRan_config now o obj _ r

theorem scheduleNext_config (now : Date) (streamId : String) (token : LockToken)
    (r : SessionRegistry Data) : (r.scheduleNext now streamId token).config = r.config := by
  unfold scheduleNext
  split
  · rfl
  · split <;> rfl

theorem stopOn_config (now : Date) (o : Nat) (r : SessionRegistry Data) :
    (r.stopOn now o).config = r.config := by
  unfold stopOn
  split
  · rfl
  · exact sessionRan_config ..

theorem spawnAndStart_config (now : Date) (suffix : String) (event : StreamEvent Data)
    (token : LockToken) (r : SessionRegistry Data) :
    (r.spawnAndStart now suffix event token).config = r.config := by
  rw [spawnAndStart]
  simp only [enqueueAndReturn_config, startHeartbeat]
  unfold startOn
  split
  · exact scheduleNext_config ..
  · rw [sessionRan_config]
    exact scheduleNext_config ..

theorem joinRaced_config (now : Date) (raced : Nat) (event : StreamEvent Data)
    (token : LockToken) (r : SessionRegistry Data) :
    (r.joinRaced now raced event token).config = r.config := by
  rw [joinRaced]
  simp only [enqueueAndReturn_config]
  split <;> rfl

theorem resumeRoute_config {now : Date} {i : Nat} {suffix : String} {r r' : SessionRegistry Data}
    (h : r.resumeRoute now i suffix = some r') : r'.config = r.config := by
  unfold resumeRoute at h
  split at h
  · cases h
  · next f hf =>
    split at h
    · cases h
    · next call hc =>
      split at h
      · cases h
      · simp only at h
        split at h
        · cases h
        · rw [Option.some.injEq] at h
          subst h
          rfl
        · rw [Option.some.injEq] at h
          subst h
          rfl
        · split at h
          · rw [Option.some.injEq] at h
            subst h
            exact joinRaced_config ..
          · rw [Option.some.injEq] at h
            subst h
            exact spawnAndStart_config ..

theorem resumeTick_config {now : Date} {i : Nat} {r r' : SessionRegistry Data}
    (h : r.resumeTick now i = some r') : r'.config = r.config := by
  unfold resumeTick at h
  have hlost : ∀ streamId (q : SessionRegistry Data), (q.lockLost now streamId).config = q.config := by
    intro streamId q
    unfold lockLost
    grind [sessionRan_config, config]
  have hextend : ∀ streamId token (q : SessionRegistry Data),
      (q.extendToken now streamId token).config = q.config := by
    intro streamId token q
    grind [extendToken, config]
  grind [scheduleNext_config, config]

theorem resumeDrain_config {now : Date} {i : Nat} {r r' : SessionRegistry Data}
    (h : r.resumeDrain now i = some r') : r'.config = r.config := by
  have hclear : ∀ (entries : List (Sigma fun _ : String => Nat)) (q : SessionRegistry Data),
      (entries.foldl (fun q entry => q.clearTimeout entry.2) q).config = q.config := by
    intro entries q
    obtain ⟨_, hframe⟩ := clearTimeouts_frame entries q
    rw [hframe]
    rfl
  unfold resumeDrain at h
  grind [config]

theorem step_config {r r' : SessionRegistry Data} {a : Action Data} (h : r.step a = some r') :
    r'.config = r.config := by
  cases a with
  | route now event =>
    simp only [step, Option.some.injEq] at h
    subst h
    unfold route
    grind [enqueueAndReturn_config, acquireDeduplicated, finish, config]
  | settleAcquire i => grind [step, settleAcquire, config]
  | resumeRoute now i suffix => exact resumeRoute_config h
  | tick now timer => grind [step, tick, clearTimeout, config]
  | resumeTick now i => exact resumeTick_config h
  | resumeRelease i => grind [step, resumeRelease, config]
  | pump now o i answer =>
    simp only [step] at h
    split at h
    · cases h
    · obtain ⟨ran, -, rfl⟩ := Option.map_eq_some_iff.mp h
      exact sessionRan_config ..
  | stop now o => grind [step, stopOn_config]
  | stopWake now o call => grind [step, sessionRan_config]
  | fail now o error => grind [step, sessionRan_config]
  | drainAll now =>
    simp only [step, Option.some.injEq] at h
    subst h
    have hall : ∀ (all : List Nat) (q : SessionRegistry Data),
        (all.foldl (stopOn now) q).config = q.config := by
      intro all
      induction all with
      | nil => exact fun _ => rfl
      | cons o all ih =>
        intro q
        rw [List.foldl_cons, ih, stopOn_config]
    exact hall (r.sessions.entries.map (·.2)) r
  | resumeDrain now i => exact resumeDrain_config h
  | resumeReleaseAll i => grind [step, resumeReleaseAll, config]
  | acquireAnswered i answer | renewAnswered i answer | releaseAnswered i answer
  | releaseAllAnswered i answer =>
    obtain ⟨calls, -, rfl⟩ := Option.map_eq_some_iff.mp h
    rfl

end SessionRegistry

end Processing
end XStreamRoll
