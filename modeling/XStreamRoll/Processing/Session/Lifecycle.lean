/-
`SessionLifecycleManager`: the lifecycle state of a stream session, which the API is told
of with a PATCH on every change.

A change writes the state first and sends its PATCH then, so a call that makes two changes
waits between them for as long as the API takes.  `start()` and `stop()` look at the state
when they are called and not again when their first PATCH has settled; whatever the state
has become meanwhile, the second change is written over it.  Only `handleDisconnect()` can
come between.
-/
import Mathlib.Data.List.Perm.Basic
import XStreamRoll.Time
import XStreamRoll.Transition

namespace XStreamRoll
namespace Processing

open Transition

inductive LifecycleState where
  | idle
  | starting
  | active
  | stopping
  | ended
  | error
deriving DecidableEq, Repr

def LifecycleState.text : LifecycleState → String
  | idle => "idle"
  | starting => "starting"
  | active => "active"
  | stopping => "stopping"
  | ended => "ended"
  | error => "error"

/-- The calls that wait for a PATCH. -/
inductive LifecycleCall where
  | start
  | stop
  | handleDisconnect
deriving DecidableEq, Repr

/-- A PATCH under way, and the call that awaits it. -/
structure PendingPatch where
  call : LifecycleCall
  status : LifecycleState
deriving DecidableEq, Repr

/-- The request that tells the API of a change. -/
structure StatusUpdate where
  url : String
  status : String
  workerId : String
  reason : Option String
  updatedAt : String
deriving DecidableEq, Repr

structure SessionLifecycleManager where
  streamId : String
  apiUrl : String
  workerId : String
  state : LifecycleState
  pending : List PendingPatch
  /-- the requests sent so far, the latest last -/
  sent : List StatusUpdate
deriving DecidableEq, Repr

namespace SessionLifecycleManager

def initial (streamId apiUrl workerId : String) : SessionLifecycleManager :=
  ⟨streamId, apiUrl, workerId, .idle, [], []⟩

def assertState (expected : LifecycleState) (m : SessionLifecycleManager) : Except String Unit :=
  if m.state ≠ expected then
    .error ("Invalid transition: expected state \"" ++ expected.text ++
      "\", current state is \"" ++ m.state.text ++ "\"")
  else .ok ()

/-- The change itself and the sending of its PATCH. -/
def transition (now : Date) (call : LifecycleCall) (next : LifecycleState)
    (reason : Option String) (m : SessionLifecycleManager) : SessionLifecycleManager :=
  { m with
    state := next
    pending := m.pending ++ [⟨call, next⟩]
    sent := m.sent ++ [⟨m.apiUrl ++ "/streams/" ++ m.streamId, next.text, m.workerId,
      reason.filter fun reason => reason ≠ "", now.toISOString⟩] }

def start (now : Date) (m : SessionLifecycleManager) : Except String SessionLifecycleManager := do
  m.assertState .idle
  return m.transition now .start .starting none

def stop (now : Date) (m : SessionLifecycleManager) : Except String SessionLifecycleManager := do
  m.assertState .active
  return m.transition now .stop .stopping none

/-- `message` is that of the error, when there is one. -/
def handleDisconnect (now : Date) (message : Option String) (m : SessionLifecycleManager) :
    SessionLifecycleManager :=
  if m.state = .ended ∨ m.state = .error then m
  else m.transition now .handleDisconnect .error (some (message.getD "unexpected disconnect"))

/-- What a call does once its PATCH has settled. -/
def resume (now : Date) (patch : PendingPatch) (m : SessionLifecycleManager) :
    SessionLifecycleManager :=
  match patch with
  | ⟨.start, .starting⟩ => m.transition now .start .active none
  | ⟨.stop, .stopping⟩ => m.transition now .stop .ended none
  | _ => m

inductive Action where
  | start (now : Date)
  | stop (now : Date)
  | handleDisconnect (now : Date) (message : Option String)
  /-- the `i`-th of the PATCHes under way is answered or fails; a failure is logged, no more -/
  | settle (now : Date) (i : Nat) (ok : Bool)

def step (m : SessionLifecycleManager) (a : Action) : Option SessionLifecycleManager :=
  match a with
  | .start now =>
    match m.start now with
    | .ok next => some next
    | .error _ => some m
  | .stop now =>
    match m.stop now with
    | .ok next => some next
    | .error _ => some m
  | .handleDisconnect now message => some (m.handleDisconnect now message)
  | .settle now i _ =>
    m.pending[i]?.map fun patch =>
      { m with pending := m.pending.eraseIdx i }.resume now patch

/-! ## Terminal states -/

def Terminal (state : LifecycleState) : Prop := state = .ended ∨ state = .error

/-- The step leaves a terminal state as it is. -/
def KeepsTerminal (m next : SessionLifecycleManager) : Prop :=
  Terminal m.state → next.state = m.state

/-- The PATCHes behind which another change waits. -/
def PendingPatch.first (patch : PendingPatch) : Bool :=
  patch == ⟨.start, .starting⟩ || patch == ⟨.stop, .stopping⟩

/-- No second change is about to be written over an error. -/
def Undisturbed (m : SessionLifecycleManager) : Action → Prop
  | .settle _ i _ => m.state = .error → ∀ patch ∈ m.pending[i]?, ¬PendingPatch.first patch
  | _ => True

/-- There is at most one call with a change to come, and its first change still stands
unless a disconnect came in between. -/
structure Single (m : SessionLifecycleManager) : Prop where
  one : (m.pending.filter PendingPatch.first).length ≤ 1
  stands : ∀ patch ∈ m.pending, PendingPatch.first patch →
    m.state = patch.status ∨ m.state = .error

theorem initial_single (streamId apiUrl workerId : String) :
    (initial streamId apiUrl workerId).Single :=
  ⟨Nat.zero_le _, List.forall_mem_nil _⟩

theorem first_iff {patch : PendingPatch} :
    PendingPatch.first patch ↔ patch = ⟨.start, .starting⟩ ∨ patch = ⟨.stop, .stopping⟩ := by
  rw [PendingPatch.first, Bool.or_eq_true, beq_iff_eq, beq_iff_eq]

theorem Single.none_of_state {m : SessionLifecycleManager} (h : m.Single)
    (apart : m.state ≠ .starting ∧ m.state ≠ .stopping ∧ m.state ≠ .error) :
    m.pending.filter PendingPatch.first = [] := by
  rw [List.filter_eq_nil_iff]
  intro patch hpatch isFirst
  rcases h.stands patch hpatch isFirst with stands | error
  · rcases first_iff.mp isFirst with rfl | rfl
    · exact apart.1 stands
    · exact apart.2.1 stands
  · exact apart.2.2 error

/-- A change that no other waits behind, or the first of a call that is alone. -/
theorem transition_single {m : SessionLifecycleManager} {now : Date} {call : LifecycleCall}
    {next : LifecycleState} {reason : Option String}
    (one : (m.pending.filter PendingPatch.first).length +
      (if PendingPatch.first ⟨call, next⟩ then 1 else 0) ≤ 1)
    (stands : ∀ patch ∈ m.pending, PendingPatch.first patch → next = patch.status ∨ next = .error) :
    (m.transition now call next reason).Single := by
  constructor
  · simp only [transition, List.filter_append, List.length_append]
    cases isFirst : PendingPatch.first ⟨call, next⟩ <;> simp_all
  · simp only [transition, List.forall_mem_append, List.forall_mem_singleton]
    exact ⟨stands, fun _ => Or.inl trivial⟩

theorem step_start (m : SessionLifecycleManager) (now : Date) :
    step m (.start now) =
      some (if m.state = .idle then m.transition now .start .starting none else m) := by
  by_cases isIdle : m.state = .idle
  · simp [step, start, assertState, isIdle, bind, Except.bind, pure, Except.pure]
  · simp [step, start, assertState, isIdle, bind, Except.bind]

theorem step_stop (m : SessionLifecycleManager) (now : Date) :
    step m (.stop now) =
      some (if m.state = .active then m.transition now .stop .stopping none else m) := by
  by_cases isActive : m.state = .active
  · simp [step, stop, assertState, isActive, bind, Except.bind, pure, Except.pure]
  · simp [step, stop, assertState, isActive, bind, Except.bind]

/-- A call that begins where no other has a change to come. -/
theorem Single.begin {m : SessionLifecycleManager} (h : m.Single)
    (apart : m.state ≠ .starting ∧ m.state ≠ .stopping ∧ m.state ≠ .error) {now : Date}
    {call : LifecycleCall} {next : LifecycleState} {reason : Option String} :
    (m.transition now call next reason).Single := by
  have none := h.none_of_state apart
  refine transition_single ?_ ?_
  · rw [none]
    split <;> simp
  · rw [List.filter_eq_nil_iff] at none
    exact fun patch hpatch isFirst => absurd isFirst (none patch hpatch)

theorem Single.handleDisconnect {m : SessionLifecycleManager} (h : m.Single) {now : Date}
    {message : Option String} : (m.handleDisconnect now message).Single := by
  unfold SessionLifecycleManager.handleDisconnect
  split
  · exact h
  · exact transition_single (by simpa [PendingPatch.first] using h.one) fun _ _ _ => .inr rfl

/-- A PATCH that settles leaves the others, and when a change waits behind it these hold no
such PATCH any more. -/
theorem Single.settled {m : SessionLifecycleManager} (h : m.Single) {i : Nat}
    {patch : PendingPatch} (settles : m.pending[i]? = some patch) :
    ({ m with pending := m.pending.eraseIdx i } : SessionLifecycleManager).Single ∧
      (PendingPatch.first patch → (m.pending.eraseIdx i).filter PendingPatch.first = []) := by
  obtain ⟨inside, found⟩ := List.getElem?_eq_some_iff.mp settles
  have others : (m.pending.filter PendingPatch.first).Perm
      ((patch :: m.pending.eraseIdx i).filter PendingPatch.first) := by
    rw [← found]
    exact (List.getElem_cons_eraseIdx_perm inside).symm.filter _
  have count := h.one
  rw [others.length_eq, List.filter_cons] at count
  refine ⟨⟨?_, fun other hother => h.stands other (List.mem_of_mem_eraseIdx hother)⟩, ?_⟩
  · show ((m.pending.eraseIdx i).filter PendingPatch.first).length ≤ 1
    split at count
    · rw [List.length_cons] at count
      omega
    · exact count
  · intro isFirst
    rw [if_pos isFirst, List.length_cons] at count
    exact List.length_eq_zero_iff.mp (by omega)

/-- What the continuation of a call does, by the PATCH that it awaited. -/
theorem resume_cases (now : Date) (patch : PendingPatch) (m : SessionLifecycleManager) :
    (PendingPatch.first patch ∧ ∃ call next, next ≠ .error ∧
      PendingPatch.first ⟨call, next⟩ = false ∧
      m.resume now patch = m.transition now call next none) ∨
    (¬PendingPatch.first patch ∧ m.resume now patch = m) := by
  obtain ⟨call, status⟩ := patch
  cases call <;> cases status
  case start.starting => exact .inl ⟨rfl, .start, .active, by decide, rfl, rfl⟩
  case stop.stopping => exact .inl ⟨rfl, .stop, .ended, by decide, rfl, rfl⟩
  all_goals exact .inr ⟨by decide, rfl⟩

theorem Single.settle {m next : SessionLifecycleManager} (h : m.Single) {now : Date} {i : Nat}
    {ok : Bool} (stepped : step m (.settle now i ok) = some next) :
    next.Single ∧ (m.KeepsTerminal next ↔ m.Undisturbed (.settle now i ok)) := by
  obtain ⟨patch, settles, rfl⟩ := Option.map_eq_some_iff.mp stepped
  obtain ⟨rest, alone⟩ := h.settled settles
  rcases resume_cases now patch { m with pending := m.pending.eraseIdx i } with
    ⟨isFirst, call, next, quiet, last, becomes⟩ | ⟨notFirst, same⟩
  · rw [becomes]
    have none := alone isFirst
    refine ⟨transition_single (by simp [none, last]) ?_, ?_⟩
    · rw [List.filter_eq_nil_iff] at none
      exact fun other hother otherFirst => absurd otherFirst (none other hother)
    · have undisturbed : m.Undisturbed (.settle now i ok) ↔ m.state ≠ .error := by
        simp [Undisturbed, settles, isFirst]
      rw [undisturbed]
      constructor
      · intro keeps error
        exact quiet ((keeps (.inr error)).trans error)
      · rintro noError (ended | error)
        · -- the state is that of the PATCH, which is no terminal one
          rcases h.stands patch (List.mem_of_getElem? settles) isFirst with stands | error
          · rcases first_iff.mp isFirst with rfl | rfl
            · cases ended.symm.trans stands
            · cases ended.symm.trans stands
          · exact absurd error noError
        · exact absurd error noError
  · rw [same]
    exact ⟨rest, fun _ _ other hother => by
      rw [settles, Option.mem_some_iff] at hother
      exact hother ▸ notFirst, fun _ _ => rfl⟩

theorem Single.step {m next : SessionLifecycleManager} (h : m.Single) {a : Action}
    (stepped : step m a = some next) :
    next.Single ∧ (m.KeepsTerminal next ↔ m.Undisturbed a) := by
  cases a with
  | start now =>
    rw [step_start, Option.some.injEq] at stepped
    subst stepped
    split
    next isIdle =>
      refine ⟨h.begin (by simp [isIdle]), fun _ => trivial, fun _ terminal => ?_⟩
      simp [Terminal, isIdle] at terminal
    · exact ⟨h, fun _ => trivial, fun _ _ => rfl⟩
  | stop now =>
    rw [step_stop, Option.some.injEq] at stepped
    subst stepped
    split
    next isActive =>
      refine ⟨h.begin (by simp [isActive]), fun _ => trivial, fun _ terminal => ?_⟩
      simp [Terminal, isActive] at terminal
    · exact ⟨h, fun _ => trivial, fun _ _ => rfl⟩
  | handleDisconnect now message =>
    unfold SessionLifecycleManager.step at stepped
    rw [Option.some.injEq] at stepped
    subst stepped
    refine ⟨h.handleDisconnect, fun _ => trivial, fun _ terminal => ?_⟩
    rw [SessionLifecycleManager.handleDisconnect,
      if_pos (show m.state = .ended ∨ m.state = .error from terminal)]
  | settle now i ok => exact h.settle stepped

/-- Terminal states last exactly as long as no disconnect comes between the two changes of
a `start()` or a `stop()`. -/
theorem keepsTerminal_iff_undisturbed (streamId apiUrl workerId : String)
    (actions : List Action) :
    AllSteps step (fun m _ next => m.KeepsTerminal next) (initial streamId apiUrl workerId)
        actions ↔
      AllSteps step (fun m a _ => m.Undisturbed a) (initial streamId apiUrl workerId) actions :=
  allSteps_iff (I := Single) (fun _ _ _ h hs => (h.step hs).2)
    (fun _ _ _ h _ hs => (h.step hs).1) (initial_single streamId apiUrl workerId)

/-- A connection lost while `start()` awaits its first PATCH. -/
theorem active_after_error : ¬∀ (streamId apiUrl workerId : String) (actions : List Action),
    AllSteps step (fun m _ next => m.KeepsTerminal next) (initial streamId apiUrl workerId)
      actions := by
  intro always
  have keeps := always "stream-1" "http://localhost:3001" "worker-1"
    [.start ⟨0⟩, .handleDisconnect ⟨1⟩ none, .settle ⟨2⟩ 0 true]
  have active := (((keeps _ rfl).2 _ rfl).2 _ rfl).1 (.inr rfl)
  cases active

end SessionLifecycleManager

end Processing
end XStreamRoll
