/-
`GracefulShutdown`: the hooks that run when the worker is told to stop.

The first `requestShutdown` arms a timer and runs the hooks one after the other; the
calls after it find the state changed and return.  What happens while a hook runs is up
to the hook: it ends whenever it likes, or never.  The timer sets the state to `done` and
calls `exit`, and the loop over the hooks does not look at that state.

`exit` ends the process in the worker.  A test passes its own, which returns, and then
everything goes on.  A step at which it may be called says whether it does.
-/
import XStreamRoll.Time
import XStreamRoll.Transition

namespace XStreamRoll
namespace Processing

open Transition

inductive ShutdownReason where
  | SIGINT
  | SIGTERM
  | uncaughtException
  | unhandledRejection
  | manual
  | test
deriving DecidableEq, Repr

inductive ShutdownState where
  | idle
  | shuttingDown
  | done
deriving DecidableEq, Repr

inductive ShutdownEvent (Hook : Type) where
  | started (hook : Hook) (reason : ShutdownReason)
  | finished (hook : Hook) (error : Bool) (time : Date)
  | exited (code : Nat)
deriving DecidableEq, Repr

structure GracefulShutdown (Hook : Type) where
  /-- the hooks registered during startup -/
  hooks : List Hook
  timeoutMs : Nat
  state : ShutdownState
  now : Date
  /-- the first call of `requestShutdown()` -/
  requested : Option (ShutdownReason × Date)
  /-- when the armed timer is due -/
  timer : Option Date
  running : Option Hook
  /-- the hooks that the loop has not come to -/
  remaining : List Hook
  hadError : Bool
  /-- what has happened, the latest last -/
  log : List (ShutdownEvent Hook)
  /-- false once a call of `exit` has ended the process -/
  alive : Bool

namespace GracefulShutdown

variable {Hook : Type}

def initial (hooks : List Hook) (timeoutMs : Nat) (now : Date) : GracefulShutdown Hook :=
  ⟨hooks, timeoutMs, .idle, now, none, none, none, [], false, [], true⟩

def exit (code : Nat) (returns : Bool) (s : GracefulShutdown Hook) : GracefulShutdown Hook :=
  { s with log := s.log ++ [.exited code], alive := returns }

/-- The loop goes on to the next hook, or is over. -/
def next (reason : ShutdownReason) (returns : Bool) (s : GracefulShutdown Hook) :
    GracefulShutdown Hook :=
  match s.remaining with
  | hook :: rest =>
    { s with running := some hook, remaining := rest, log := s.log ++ [.started hook reason] }
  | [] =>
    exit (if s.hadError then 1 else 0) returns
      { s with running := none, timer := none, state := .done }

def requestShutdown (reason : ShutdownReason) (returns : Bool) (s : GracefulShutdown Hook) :
    GracefulShutdown Hook :=
  if s.state = .idle then
    next reason returns { s with
      state := .shuttingDown, requested := some (reason, s.now),
      timer := some (s.now.plus (Date.timeoutDelay s.timeoutMs)), remaining := s.hooks }
  else s

/-- The hook that runs returns or throws. -/
def settle (error returns : Bool) (s : GracefulShutdown Hook) : Option (GracefulShutdown Hook) :=
  match s.requested, s.running with
  | some (reason, _), some hook =>
    some (next reason returns { s with
      hadError := s.hadError || error, log := s.log ++ [.finished hook error s.now] })
  | _, _ => none

/-- The callback of the timer. -/
def timeout (returns : Bool) (s : GracefulShutdown Hook) : Option (GracefulShutdown Hook) :=
  match s.timer with
  | some due =>
    if due ≤ s.now then some (exit 1 returns { s with timer := none, state := .done })
    else none
  | none => none

inductive Action where
  | requestShutdown (reason : ShutdownReason) (returns : Bool)
  | settle (error returns : Bool)
  | timeout (returns : Bool)
  | advance (ms : Nat)

def step (s : GracefulShutdown Hook) (a : Action) : Option (GracefulShutdown Hook) :=
  if s.alive then
    match a with
    | .requestShutdown reason returns => some (s.requestShutdown reason returns)
    | .settle error returns => s.settle error returns
    | .timeout returns => s.timeout returns
    | .advance ms => some { s with now := s.now.plus ms }
  else none

/-! ## What a shutdown should do -/

/-- The hooks that started. -/
def starts (log : List (ShutdownEvent Hook)) : List Hook :=
  log.filterMap fun
    | .started hook _ => some hook
    | _ => none

/-- The hooks that ended, whether with an error, and when. -/
def finishes (log : List (ShutdownEvent Hook)) : List (Hook × Bool × Date) :=
  log.filterMap fun
    | .finished hook error time => some (hook, error, time)
    | _ => none

/-- The codes `exit` was called with. -/
def exits (log : List (ShutdownEvent Hook)) : List Nat :=
  log.filterMap fun
    | .exited code => some code
    | _ => none

/-- Every hook has finished without an error before the deadline. -/
def AllFinished (s : GracefulShutdown Hook) : Prop :=
  (finishes s.log).map (·.1) = s.hooks ∧ ∀ f ∈ finishes s.log, f.2.1 = false ∧
    ∀ request ∈ s.requested, f.2.2 < request.2.plus s.timeoutMs

structure Orderly (s : GracefulShutdown Hook) : Prop where
  /-- Hooks start once each, in the order of their registration. -/
  order : starts s.log <+: s.hooks
  /-- `exit` has been called once the shutdown is over, and not before. -/
  once : (exits s.log).length = if s.state = .done then 1 else 0
  /-- Until then a hook runs, and the timer is there should it hang. -/
  coming : s.state = .shuttingDown → s.running.isSome ∧
    s.timer = s.requested.map fun request => request.2.plus (Date.timeoutDelay s.timeoutMs)
  code : ∀ code ∈ exits s.log, code = 0 ↔ s.AllFinished
  /-- No hook starts after `exit` has been called. -/
  last : ∀ before after code, s.log = before ++ .exited code :: after → starts after = []

/-- The hook ends while the shutdown is under way, and the last of hooks without an error
ends before the deadline. -/
def Punctual (s : GracefulShutdown Hook) : Action → Prop
  | .settle error _ =>
    s.state ≠ .done ∧ (s.remaining = [] → s.hadError = false → error = false →
      ∀ request ∈ s.requested, s.now < request.2.plus s.timeoutMs)
  | _ => True

section Log

variable (log log' : List (ShutdownEvent Hook)) (hook : Hook) (reason : ShutdownReason)
  (error : Bool) (time : Date) (code : Nat)

@[simp] theorem starts_append : starts (log ++ log') = starts log ++ starts log' :=
  List.filterMap_append

@[simp] theorem finishes_append : finishes (log ++ log') = finishes log ++ finishes log' :=
  List.filterMap_append

@[simp] theorem exits_append : exits (log ++ log') = exits log ++ exits log' :=
  List.filterMap_append

@[simp] theorem starts_started : starts [.started hook reason] = [hook] := rfl
@[simp] theorem starts_finished : starts [.finished hook error time] = [] := rfl
@[simp] theorem starts_exited : starts ([.exited code] : List (ShutdownEvent Hook)) = [] := rfl
@[simp] theorem finishes_started : finishes [.started hook reason] = [] := rfl
@[simp] theorem finishes_finished :
    finishes [.finished hook error time] = [(hook, error, time)] := rfl
@[simp] theorem finishes_exited : finishes ([.exited code] : List (ShutdownEvent Hook)) = [] := rfl
@[simp] theorem exits_started : exits [.started hook reason] = [] := rfl
@[simp] theorem exits_finished : exits [.finished hook error time] = [] := rfl
@[simp] theorem exits_exited : exits ([.exited code] : List (ShutdownEvent Hook)) = [code] := rfl

theorem exits_eq_nil_iff : exits log = [] ↔ ∀ code, .exited code ∉ log := by
  rw [exits, List.filterMap_eq_nil_iff]
  constructor
  · intro quiet code hcode
    cases quiet _ hcode
  · intro quiet event hevent
    cases event with
    | started hook reason => rfl
    | finished hook error time => rfl
    | exited code => exact absurd hevent (quiet code)

variable {log}

/-- Where no exit has been, nothing follows one. -/
theorem starts_after_of_quiet (quiet : exits log = []) {before after} {c : Nat}
    (split : log = before ++ .exited c :: after) : starts after = [] := by
  refine absurd ?_ ((exits_eq_nil_iff log).mp quiet c)
  rw [split]
  exact List.mem_append_right _ List.mem_cons_self

theorem starts_after_of_first (quiet : exits log = []) {before after} {c : Nat}
    (split : log ++ [.exited code] = before ++ .exited c :: after) : starts after = [] := by
  obtain rfl | ⟨earlier, event, rfl⟩ := after.eq_nil_or_concat
  · rfl
  · -- an exit before the last event would stand in `log`
    rw [List.concat_eq_append, ← List.cons_append, ← List.append_assoc] at split
    have inLog := (List.append_inj_left' split rfl)
    exact absurd (by rw [inLog]; exact List.mem_append_right _ List.mem_cons_self)
      ((exits_eq_nil_iff log).mp quiet c)

end Log

/-! ## The steps -/

/-- The shutdown is under way, and the loop is between two hooks. -/
structure Between (s : GracefulShutdown Hook) (reason : ShutdownReason) (since : Date) : Prop where
  requested : s.requested = some (reason, since)
  state : s.state = .shuttingDown
  timer : s.timer = some (since.plus (Date.timeoutDelay s.timeoutMs))
  whole : starts s.log ++ s.remaining = s.hooks
  ending : (finishes s.log).map (·.1) = starts s.log
  errors : s.hadError = false ↔ ∀ f ∈ finishes s.log, f.2.1 = false
  past : ∀ f ∈ finishes s.log, f.2.2 ≤ s.now
  quiet : exits s.log = []

/-- What holds as long as every hook is punctual. -/
structure Good (s : GracefulShutdown Hook) : Prop extends Orderly s where
  whole : s.state ≠ .idle → s.requested.isSome ∧ starts s.log ++ s.remaining = s.hooks
  idle : s.state = .idle → s.log = [] ∧ s.running = none ∧ s.timer = none ∧ s.hadError = false
  disarmed : s.state = .done → s.timer = none
  ending : (finishes s.log).map (·.1) ++ s.running.toList = starts s.log
  errors : s.hadError = false ↔ ∀ f ∈ finishes s.log, f.2.1 = false
  past : ∀ f ∈ finishes s.log, f.2.2 ≤ s.now

theorem initial_good (hooks : List Hook) (timeoutMs : Nat) (now : Date) :
    (initial hooks timeoutMs now).Good where
  order := List.nil_prefix
  once := rfl
  coming := by
    intro h
    cases h
  code := List.forall_mem_nil _
  last := fun _ _ _ => starts_after_of_quiet rfl
  whole := fun h => absurd rfl h
  idle := fun _ => ⟨rfl, rfl, rfl, rfl⟩
  disarmed := fun _ => rfl
  ending := rfl
  errors := ⟨fun _ => List.forall_mem_nil _, fun _ => rfl⟩
  past := List.forall_mem_nil _

/-- The loop between two hooks, when the last of hooks without an error was in time. -/
theorem Between.next {s : GracefulShutdown Hook} {reason : ShutdownReason} {since : Date}
    (h : s.Between reason since) (returns : Bool)
    (inTime : s.remaining = [] → s.hadError = false →
      ∀ f ∈ finishes s.log, f.2.2 < since.plus s.timeoutMs) :
    (s.next reason returns).Good := by
  unfold GracefulShutdown.next
  split
  next hook rest left =>
    have whole := h.whole
    rw [left] at whole
    refine ⟨⟨?_, ?_, ?_, ?_, ?_⟩, ?_, ?_, ?_, ?_, ?_, ?_⟩
    · exact ⟨rest, by simp [whole]⟩
    · simp [h.quiet, h.state]
    · simp [h.timer, h.requested]
    · simp [h.quiet]
    · exact fun _ _ _ => starts_after_of_quiet (by simp [h.quiet])
    · simp [h.requested, whole]
    · simp [h.state]
    · simp [h.state]
    · simp [h.ending]
    · simpa using h.errors
    · simpa using h.past
  next left =>
    have whole := h.whole
    rw [left, List.append_nil] at whole
    refine ⟨⟨?_, ?_, ?_, ?_, ?_⟩, ?_, ?_, ?_, ?_, ?_, ?_⟩
    · simp [GracefulShutdown.exit, whole]
    · simp [GracefulShutdown.exit, h.quiet]
    · simp [GracefulShutdown.exit]
    · intro code hcode
      simp only [GracefulShutdown.exit, exits_append, h.quiet, exits_exited, List.nil_append,
        List.mem_singleton] at hcode
      have all : AllFinished (GracefulShutdown.exit (if s.hadError then 1 else 0) returns
          { s with running := none, timer := none, state := .done }) ↔ s.hadError = false := by
        simp only [AllFinished, GracefulShutdown.exit, finishes_append, finishes_exited,
          List.append_nil, h.ending, whole, h.requested, Option.mem_some_iff, forall_eq',
          true_and]
        constructor
        · exact fun each => h.errors.mpr fun f hf => (each f hf).1
        · exact fun none f hf => ⟨h.errors.mp none f hf, inTime left none f hf⟩
      rw [all, hcode]
      cases s.hadError <;> simp
    · exact fun _ _ _ => starts_after_of_first _ h.quiet
    · simp [GracefulShutdown.exit, h.requested, whole, left]
    · simp [GracefulShutdown.exit]
    · simp [GracefulShutdown.exit]
    · simp [GracefulShutdown.exit, h.ending]
    · simpa [GracefulShutdown.exit] using h.errors
    · simpa [GracefulShutdown.exit] using h.past

/-- A hook that ends takes the loop between two hooks. -/
theorem Good.settled {s : GracefulShutdown Hook} (h : s.Good) (running : s.state = .shuttingDown)
    {reason : ShutdownReason} {since : Date} (requested : s.requested = some (reason, since))
    {hook : Hook} (runs : s.running = some hook) (error : Bool) :
    Between { s with
      hadError := s.hadError || error, log := s.log ++ [.finished hook error s.now] }
      reason since where
  requested := requested
  state := running
  timer := by
    have armed := (h.coming running).2
    rw [requested] at armed
    exact armed
  whole := by simpa using (h.whole (by simp [running])).2
  ending := by simpa [runs] using h.ending
  errors := by
    simp only [Bool.or_eq_false_iff, h.errors, finishes_append, finishes_finished,
      List.forall_mem_append, List.forall_mem_singleton]
  past := by
    simp only [finishes_append, finishes_finished, List.forall_mem_append,
      List.forall_mem_singleton]
    exact ⟨h.past, le_rfl⟩
  quiet := by
    have none := h.once
    rw [running, if_neg (by decide), List.length_eq_zero_iff] at none
    simp [none]

theorem Good.requestShutdown {s : GracefulShutdown Hook} (h : s.Good) (reason : ShutdownReason)
    (returns : Bool) : (s.requestShutdown reason returns).Good := by
  unfold GracefulShutdown.requestShutdown
  split
  next isIdle =>
    obtain ⟨noLog, idle, noTimer, noError⟩ := h.idle isIdle
    refine @Between.next Hook _ _ s.now ⟨rfl, rfl, rfl, ?_, ?_, ?_, ?_, ?_⟩ returns ?_
    · simp [noLog, starts]
    · simp [noLog, starts, finishes]
    · simp [noLog, finishes, noError]
    · simp [noLog, finishes]
    · simp [noLog, exits]
    · simp [noLog, finishes]
  · exact h

theorem Good.timeout {s t : GracefulShutdown Hook} (h : s.Good) {returns : Bool}
    (fired : s.timeout returns = some t) : t.Good := by
  unfold GracefulShutdown.timeout at fired
  split at fired
  next due armed =>
    split at fired
    next isDue =>
      rw [Option.some.injEq] at fired
      subst fired
      -- the timer is only armed while the shutdown is under way
      have running : s.state = .shuttingDown := by
        cases hstate : s.state with
        | idle => simp [(h.idle hstate).2.2.1] at armed
        | shuttingDown => rfl
        | done => simp [h.disarmed hstate] at armed
      have quiet : exits s.log = [] := by
        have none := h.once
        rwa [running, if_neg (by decide), List.length_eq_zero_iff] at none
      have whole := h.whole (by simp [running])
      refine ⟨⟨?_, ?_, ?_, ?_, ?_⟩, ?_, ?_, ?_, ?_, ?_, ?_⟩
      · simpa [GracefulShutdown.exit] using h.order
      · simp [GracefulShutdown.exit, quiet]
      · simp [GracefulShutdown.exit]
      · have unfinished : (finishes s.log).map (·.1) ≠ s.hooks := by
          intro all
          obtain ⟨hook, runs⟩ := Option.isSome_iff_exists.mp (h.coming running).1
          have ending := h.ending
          have lengths := congrArg List.length whole.2
          rw [← ending, all, runs] at lengths
          simp at lengths
        simpa [GracefulShutdown.exit, quiet, AllFinished] using
          fun all => absurd all unfinished
      · exact fun _ _ _ => starts_after_of_first _ quiet
      · simpa [GracefulShutdown.exit] using whole
      · simp [GracefulShutdown.exit]
      · simp [GracefulShutdown.exit]
      · simpa [GracefulShutdown.exit] using h.ending
      · simpa [GracefulShutdown.exit] using h.errors
      · simpa [GracefulShutdown.exit] using h.past
    · cases fired
  · cases fired

/-- A hook that ends once `exit` has been called starts the next one or calls `exit` again. -/
theorem not_orderly_of_done {s t : GracefulShutdown Hook} (h : s.Good) (isDone : s.state = .done)
    {error returns : Bool} (ended : s.settle error returns = some t) : ¬t.Orderly := by
  intro orderly
  have once := h.once
  rw [isDone, if_pos rfl] at once
  obtain ⟨code, hcode⟩ := List.length_eq_one_iff.mp once
  unfold settle at ended
  split at ended
  next reason since hook _ _ =>
    rw [Option.some.injEq] at ended
    unfold next at ended
    split at ended
    next after rest _ =>
      have called : .exited code ∈ s.log := by
        by_contra absent
        have quiet : exits s.log = [] := by
          rw [exits_eq_nil_iff]
          intro other hother
          have same : other ∈ exits s.log := List.mem_filterMap.mpr ⟨_, hother, rfl⟩
          rw [hcode, List.mem_singleton] at same
          exact absent (same ▸ hother)
        rw [quiet] at hcode
        cases hcode
      obtain ⟨before, behind, split⟩ := List.append_of_mem called
      subst ended
      have none := orderly.last before
        (behind ++ [.finished hook error s.now] ++ [.started after reason]) code (by simp [split])
      rw [starts_append, starts_started, List.append_eq_nil_iff] at none
      cases none.2
    next =>
      subst ended
      have twice := orderly.once
      simp only [GracefulShutdown.exit, exits_append, hcode, exits_finished, exits_exited,
        List.append_nil, List.length_append, List.length_singleton, if_true] at twice
      cases twice
  · cases ended

/-- The last hook ends after the deadline, before the callback of the timer has run. -/
theorem not_orderly_of_late {s t : GracefulShutdown Hook}
    (left : s.remaining = []) (noError : s.hadError = false) {request : ShutdownReason × Date}
    (requested : request ∈ s.requested) (late : ¬s.now < request.2.plus s.timeoutMs)
    {returns : Bool} (ended : s.settle false returns = some t) : ¬t.Orderly := by
  intro orderly
  unfold settle at ended
  split at ended
  next hook _ _ =>
    rw [Option.some.injEq] at ended
    simp only [next, left, noError] at ended
    subst ended
    have all := (orderly.code 0 (by simp [GracefulShutdown.exit, -List.append_assoc])).mp rfl
    have ending := all.2 (hook, false, s.now)
      (by simp [GracefulShutdown.exit, -List.append_assoc])
    exact late (ending.2 request requested)
  · cases ended

theorem Good.settle {s t : GracefulShutdown Hook} (h : s.Good) {error returns : Bool}
    (punctual : s.Punctual (.settle error returns)) (ended : s.settle error returns = some t) :
    t.Good := by
  obtain ⟨notDone, inTime⟩ := punctual
  unfold GracefulShutdown.settle at ended
  split at ended
  next reason since hook requested runs =>
    have running : s.state = .shuttingDown := by
      cases hstate : s.state with
      | idle => simp [(h.idle hstate).2.1] at runs
      | shuttingDown => rfl
      | done => exact absurd hstate notDone
    rw [Option.some.injEq] at ended
    subst ended
    refine (h.settled running requested runs error).next returns ?_
    intro left noError f hf
    rw [Bool.or_eq_false_iff] at noError
    -- the hooks before it ended earlier
    have last := inTime left noError.1 noError.2 (reason, since) requested
    exact lt_of_le_of_lt ((h.settled running requested runs error).past f hf) last
  · cases ended

theorem Good.step_iff {s t : GracefulShutdown Hook} (h : s.Good) {a : Action}
    (stepped : step s a = some t) : (t.Orderly ↔ s.Punctual a) ∧ (s.Punctual a → t.Good) := by
  have of_good : (s.Punctual a → t.Good) → (¬s.Punctual a → ¬t.Orderly) →
      (t.Orderly ↔ s.Punctual a) ∧ (s.Punctual a → t.Good) :=
    fun good bad => ⟨⟨fun orderly => by_contra fun late => bad late orderly,
      fun punctual => (good punctual).toOrderly⟩, good⟩
  unfold step at stepped
  split at stepped
  · cases a with
    | requestShutdown reason returns =>
      rw [Option.some.injEq] at stepped
      exact of_good (fun _ => stepped ▸ h.requestShutdown reason returns)
        fun late => absurd trivial late
    | settle error returns =>
      refine of_good ?_ ?_
      · exact fun punctual => h.settle punctual stepped
      · intro late
        by_cases isDone : s.state = .done
        · exact not_orderly_of_done h isDone stepped
        · simp only [Punctual, not_and, not_forall] at late
          obtain ⟨left, noError, quiet, request, requested, after⟩ := late isDone
          subst quiet
          exact not_orderly_of_late left noError requested after stepped
    | timeout returns => exact of_good (fun _ => h.timeout stepped) fun late => absurd trivial late
    | advance ms =>
      rw [Option.some.injEq] at stepped
      subst stepped
      refine of_good (fun _ => { h with past := fun f hf => (h.past f hf).trans ?_ })
        fun late => absurd trivial late
      show s.now.getTime ≤ s.now.getTime + ms
      omega
  · cases stepped

/-- Whatever the hooks do, the timer is enough for the exit. -/
theorem Good.exits_by_timer {s : GracefulShutdown Hook} (h : s.Good) (alive : s.alive)
    (running : s.state = .shuttingDown) (returns : Bool) :
    ∃ ms t, run step s [.advance ms, .timeout returns] = some t ∧ exits t.log = [1] := by
  obtain ⟨⟨reason, since⟩, requested⟩ :=
    Option.isSome_iff_exists.mp (h.whole (by simp [running])).1
  have armed := (h.coming running).2
  rw [requested, Option.map_some] at armed
  have quiet : exits s.log = [] := by
    have none := h.once
    rwa [running, if_neg (by decide), List.length_eq_zero_iff] at none
  let due := since.plus (Date.timeoutDelay s.timeoutMs)
  let ms := (due.getTime - s.now.getTime).toNat
  have isDue : due ≤ s.now.plus ms := by
    show due.getTime ≤ s.now.getTime + ms
    omega
  let later : GracefulShutdown Hook := { s with now := s.now.plus ms }
  let exited := exit 1 returns { later with timer := none, state := .done }
  have advanced : step s (.advance ms) = some later := if_pos alive
  have fired : step later (.timeout returns) = some exited := by
    unfold step
    rw [if_pos (show later.alive from alive)]
    simp only [GracefulShutdown.timeout, show later.timer = some due from armed]
    exact if_pos isDue
  refine ⟨ms, exited, run_cons_eq_some.mpr ⟨later, advanced, ?_⟩, ?_⟩
  · rw [run_singleton, fired]
  · simp [exited, later, GracefulShutdown.exit, quiet]

/-- A shutdown is orderly as long as no hook ends late, and no longer. -/
theorem orderly_iff_punctual (hooks : List Hook) (timeoutMs : Nat) (now : Date)
    (actions : List Action) :
    AllSteps step (fun _ _ t => t.Orderly) (initial hooks timeoutMs now) actions ↔
      AllSteps step (fun s a _ => s.Punctual a) (initial hooks timeoutMs now) actions :=
  allSteps_iff (I := Good) (fun _ _ _ h hs => (h.step_iff hs).1)
    (fun _ _ _ h orderly hs => (h.step_iff hs).2 ((h.step_iff hs).1.mp orderly))
    (initial_good hooks timeoutMs now)

/-- The first of two hooks hangs until the timer calls an `exit` that returns. -/
theorem starts_after_timeout : ¬∀ (hooks : List String) (timeoutMs : Nat) (now : Date)
    (actions : List Action),
    AllSteps step (fun _ _ t => t.Orderly) (initial hooks timeoutMs now) actions := by
  intro always
  have orderly := always ["drain sessions", "release locks"] 15000 ⟨0⟩
    [.requestShutdown .SIGTERM true, .advance 15000, .timeout true, .settle false true]
  have last := ((((orderly _ rfl).2 _ rfl).2 _ rfl).2 _ rfl).1.last
    [.started "drain sessions" .SIGTERM]
    [.finished "drain sessions" false ⟨15000⟩, .started "release locks" .SIGTERM] 1 rfl
  cases last

end GracefulShutdown

end Processing
end XStreamRoll
