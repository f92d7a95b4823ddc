/-
What the file of dead letters holds, over every run of the store.

The jobs stand in the order of their calls: first those that have settled, then at
most one that is under way, then those that wait.  While a job is under way nothing
else touches the file or the temporary file, so the records that it carries are still
the records of the file with its own change, and the rename puts exactly these there.
A job that fails has not touched the file.
-/
import Mathlib.Data.List.Induction
import XStreamRoll.Processing.DeadLetterStore

namespace XStreamRoll
namespace Processing

open Transition

variable {Data : Type}

/-- The call that has been fulfilled, with the date of its entry. -/
def Job.success (job : Job Data) : Option (Failure Data × Date) :=
  match job.stage with
  | .fulfilled now => some (job.failure, now)
  | _ => none

namespace FileDeadLetterStore

/-- The calls that were fulfilled, in order. -/
def successes (s : FileDeadLetterStore Data) : List (Failure Data × Date) :=
  s.jobs.filterMap Job.success

/-- The records in a file, none in one that does not exist or cannot be parsed. -/
def loaded : Option (Document Data) → Records Data
  | some (some records) => records
  | _ => ∅

/-- The file after the recorded failures are applied to it, one by one. -/
def replay (p : EventHash Data) (file : Option (Document Data))
    (recorded : List (Failure Data × Date)) : Option (Document Data) :=
  recorded.foldl (fun file x => some (some (change p x.2 x.1 (loaded file)))) file

theorem replay_append (p : EventHash Data) (file : Option (Document Data))
    (recorded : List (Failure Data × Date)) (x : Failure Data × Date) :
    replay p file (recorded ++ [x]) =
      some (some (change p x.2 x.1 (loaded (replay p file recorded)))) := by
  rw [replay, List.foldl_append]
  rfl

/-! ## The entry of a key -/

/-- The entry of a key after the failures that were recorded under it: the event as it was
first recorded, with the error, the attempts and the date of the last one. -/
def entryAfter (key : String) (old : Option (DeadLetterRecord Data))
    (recorded : List (Failure Data × Date)) : Option (DeadLetterRecord Data) :=
  match recorded.head?, recorded.getLast? with
  | some (first, date), some (last, now) =>
    let entry := old.getD ⟨key, first.event.streamId, first.event, first.error, first.attempts,
      date.toISOString⟩
    some { entry with
      error := last.error, attemptCount := last.attempts, timestamp := now.toISOString }
  | _, _ => old

theorem lookup_change_self (p : EventHash Data) (now : Date) (failure : Failure Data)
    (records : Records Data) :
    (change p now failure records).lookup (p.eventKey failure.event) =
      entryAfter (p.eventKey failure.event) (records.lookup (p.eventKey failure.event))
        [(failure, now)] := by
  rw [change]
  split
  · next existing hexisting =>
    rw [AList.lookup_insert, hexisting]
    rfl
  · next hnone =>
    rw [AList.lookup_insert, hnone]
    rfl

theorem lookup_change_ne {p : EventHash Data} {failure : Failure Data} {key : String}
    (h : p.eventKey failure.event ≠ key) (now : Date) (records : Records Data) :
    (change p now failure records).lookup key = records.lookup key := by
  rw [change]
  split
  · rw [AList.lookup_insert_ne h.symm]
  · rw [AList.lookup_insert_ne h.symm]

theorem entryAfter_append (key : String) (old : Option (DeadLetterRecord Data))
    (recorded : List (Failure Data × Date)) (x : Failure Data × Date) :
    entryAfter key (entryAfter key old recorded) [x] = entryAfter key old (recorded ++ [x]) := by
  cases recorded with
  | nil => rfl
  | cons first rest =>
    obtain ⟨last, hlast⟩ : ∃ last, (first :: rest).getLast? = some last :=
      ⟨_, List.getLast?_eq_some_getLast (List.cons_ne_nil first rest)⟩
    simp only [entryAfter, List.head?_cons, List.cons_append, hlast, List.getLast?_singleton,
      Option.getD_some]
    rw [← List.cons_append, List.getLast?_append, List.getLast?_singleton]
    rfl

/-- Each key has one entry, which the failures recorded under other keys leave alone. -/
theorem lookup_replay (p : EventHash Data) (file : Option (Document Data))
    (recorded : List (Failure Data × Date)) (key : String) :
    (loaded (replay p file recorded)).lookup key =
      entryAfter key ((loaded file).lookup key)
        (recorded.filter fun x => p.eventKey x.1.event = key) := by
  induction recorded using List.reverseRecOn with
  | nil => rfl
  | append_singleton recorded x ih =>
    rw [replay_append, List.filter_append]
    show (change p x.2 x.1 (loaded (replay p file recorded))).lookup key = _
    by_cases h : p.eventKey x.1.event = key
    · rw [List.filter_cons_of_pos (by simpa using h), List.filter_nil, ← entryAfter_append, ← ih]
      subst h
      exact lookup_change_self p x.2 x.1 _
    · rw [List.filter_cons_of_neg (by simpa using h), List.filter_nil, List.append_nil, ← ih]
      exact lookup_change_ne h x.2 _

theorem entryAfter_of_some {key : String} {old : DeadLetterRecord Data}
    (recorded : List (Failure Data × Date)) :
    ∃ entry, entryAfter key (some old) recorded = some entry ∧ entry.key = old.key ∧
      entry.event = old.event := by
  unfold entryAfter
  split
  · exact ⟨_, rfl, rfl, rfl⟩
  · exact ⟨old, rfl, rfl, rfl⟩

/-! ## The jobs -/

/-- What a job under way has in hand, against the two files. -/
def Carries (p : EventHash Data) (s : FileDeadLetterStore Data) (job : Job Data) : Prop :=
  match job.stage with
  | .changed now records | .writing now records =>
    records = change p now job.failure (loaded s.file)
  | .renaming now => s.temporary = some (some (change p now job.failure (loaded s.file)))
  | _ => False

/-- The jobs in order, and what the file holds of those that have settled. -/
structure Serial (p : EventHash Data) (file : Option (Document Data))
    (s : FileDeadLetterStore Data) (done : List (Job Data)) (active : Option (Job Data))
    (queue : List (Job Data)) : Prop where
  jobs : s.jobs = done ++ (active.toList ++ queue)
  settled : ∀ job ∈ done, job.stage.settled = true
  carries : ∀ job ∈ active, Carries p s job
  queued : ∀ job ∈ queue, job.stage = .waiting
  file_eq : s.file = replay p file (done.filterMap Job.success)

theorem modify_length {α : Type} (l : List α) (x : α) (m : List α) (f : α → α) :
    (l ++ x :: m).modify l.length f = l ++ f x :: m := by
  induction l with
  | nil => rfl
  | cons y l ih =>
    rw [List.cons_append, List.length_cons, List.modify_succ_cons, ih, List.cons_append]

variable {p : EventHash Data} {file : Option (Document Data)} {s s' : FileDeadLetterStore Data}
  {done queue : List (Job Data)} {active : Option (Job Data)}

theorem Serial.successes_eq (h : Serial p file s done active queue) :
    s.successes = done.filterMap Job.success := by
  have hactive : active.toList.filterMap Job.success = [] := by
    rw [List.filterMap_eq_nil_iff]
    intro job hjob
    have hc := h.carries job (Option.mem_toList.mp hjob)
    unfold Carries at hc
    unfold Job.success
    split at hc
    · next hstage => rw [hstage]
    · next hstage => rw [hstage]
    · next hstage => rw [hstage]
    · exact hc.elim
  have hqueue : queue.filterMap Job.success = [] := by
    rw [List.filterMap_eq_nil_iff]
    intro job hjob
    rw [Job.success, h.queued job hjob]
  rw [successes, h.jobs, List.filterMap_append, List.filterMap_append, hactive, hqueue,
    List.append_nil, List.append_nil]

/-- A job that has begun and has not settled is the one under way. -/
theorem Serial.is_active (h : Serial p file s done active queue) {i : Nat} {job : Job Data}
    (hjob : s.jobs[i]? = some job) (hbegun : job.stage ≠ .waiting)
    (hopen : job.stage.settled = false) : i = done.length ∧ active = some job := by
  rw [h.jobs] at hjob
  by_cases hdone : i < done.length
  · rw [List.getElem?_append_left hdone] at hjob
    rw [h.settled job (List.mem_of_getElem? hjob)] at hopen
    cases hopen
  · rw [List.getElem?_append_right (by omega)] at hjob
    cases active with
    | none => exact absurd (h.queued job (List.mem_of_getElem? hjob)) hbegun
    | some current =>
      cases hi : i - done.length with
      | zero =>
        rw [hi, Option.toList_some, List.cons_append, List.getElem?_cons_zero,
          Option.some.injEq] at hjob
        exact ⟨by omega, by rw [hjob]⟩
      | succ k =>
        rw [hi, Option.toList_some, List.cons_append, List.getElem?_cons_succ] at hjob
        exact absurd (h.queued job (List.mem_of_getElem? hjob)) hbegun

/-- A job begins only when none is under way, and it is the first that waits. -/
theorem Serial.may_begin (h : Serial p file s done active queue) {i : Nat} {job : Job Data}
    (hjob : s.jobs[i]? = some job) (hwaits : job.stage = .waiting)
    (hprevious : s.previousSettled i = true) :
    i = done.length ∧ active = none ∧ ∃ rest, queue = job :: rest := by
  have hbefore : ∀ k earlier, s.jobs[k]? = some earlier → earlier.stage.settled = true →
      k < done.length := by
    intro k earlier hk hsettled
    by_contra hge
    rw [h.jobs, List.getElem?_append_right (by omega)] at hk
    rcases List.mem_append.mp (List.mem_of_getElem? hk) with hactive | hqueue
    · have hc := h.carries earlier (Option.mem_toList.mp hactive)
      unfold Carries at hc
      revert hsettled hc
      cases earlier.stage <;> simp [JobStage.settled]
    · rw [h.queued earlier hqueue] at hsettled
      cases hsettled
  have hlate : done.length ≤ i := by
    by_contra hlt
    rw [h.jobs, List.getElem?_append_left (by omega)] at hjob
    have hsettled := h.settled job (List.mem_of_getElem? hjob)
    rw [hwaits] at hsettled
    cases hsettled
  have hi : i = done.length := by
    rw [previousSettled, Bool.or_eq_true, decide_eq_true_eq, Option.any_eq_true] at hprevious
    rcases hprevious with hzero | ⟨earlier, hearlier, hsettled⟩
    · omega
    · have := hbefore (i - 1) earlier hearlier hsettled
      omega
  subst hi
  rw [h.jobs, List.getElem?_append_right (Nat.le_refl _), Nat.sub_self] at hjob
  cases active with
  | some current =>
    rw [Option.toList_some, List.cons_append, List.getElem?_cons_zero, Option.some.injEq] at hjob
    have hc := h.carries current rfl
    rw [hjob, Carries, hwaits] at hc
    exact hc.elim
  | none =>
    cases queue with
    | nil => cases hjob
    | cons first rest =>
      rw [Option.toList_none, List.nil_append, List.getElem?_cons_zero, Option.some.injEq] at hjob
      exact ⟨rfl, rfl, rest, by rw [hjob]⟩

/-- The job that begins, or is under way, goes on. -/
theorem Serial.goes_on {job : Job Data} {t : FileDeadLetterStore Data} {stage : JobStage Data}
    (hjobs : s.jobs = done ++ job :: queue) (hsettled : ∀ job ∈ done, job.stage.settled = true)
    (hqueued : ∀ job ∈ queue, job.stage = .waiting)
    (hfile : s.file = replay p file (done.filterMap Job.success)) (ht : t.jobs = s.jobs)
    (htfile : t.file = s.file)
    (hcarries : Carries p (t.setStage done.length stage) { job with stage }) :
    Serial p file (t.setStage done.length stage) done (some { job with stage }) queue where
  jobs := by
    rw [setStage, ht, hjobs]
    exact modify_length ..
  settled := hsettled
  carries := by
    intro other hother
    rw [Option.mem_some_iff] at hother
    exact hother ▸ hcarries
  queued := hqueued
  file_eq := htfile.trans hfile

/-- It is rejected, and has left the file as it was. -/
theorem Serial.gives_up {job : Job Data} {t : FileDeadLetterStore Data}
    (hjobs : s.jobs = done ++ job :: queue) (hsettled : ∀ job ∈ done, job.stage.settled = true)
    (hqueued : ∀ job ∈ queue, job.stage = .waiting)
    (hfile : s.file = replay p file (done.filterMap Job.success)) (ht : t.jobs = s.jobs)
    (htfile : t.file = s.file) :
    Serial p file (t.setStage done.length .rejected) (done ++ [{ job with stage := .rejected }])
      none queue where
  jobs := by
    rw [setStage, ht, hjobs, List.append_assoc]
    exact modify_length ..
  settled := by
    intro other hother
    rcases List.mem_append.mp hother with hold | hnew
    · exact hsettled other hold
    · rw [List.mem_singleton.mp hnew]
      rfl
  carries := by
    intro other hother
    cases hother
  queued := hqueued
  file_eq := by
    have hsame : (done ++ [{ job with stage := .rejected }]).filterMap Job.success =
        done.filterMap Job.success := by
      rw [List.filterMap_append]
      exact List.append_nil _
    rw [hsame]
    exact htfile.trans hfile

/-! ## One step -/

/-- The jobs in order, with none settled since. -/
theorem Serial.keep {t : FileDeadLetterStore Data} {active' : Option (Job Data)}
    {queue' : List (Job Data)} (h : Serial p file t done active' queue') :
    ∃ more active' queue', Serial p file t (done ++ more) active' queue' :=
  ⟨[], active', queue', by rwa [List.append_nil]⟩

theorem Serial.after_read {now : Date} {i : Nat} {ok : Bool} (h : Serial p file s done active queue)
    (hs : s.read p now i ok = some s') :
    ∃ more active' queue', Serial p file s' (done ++ more) active' queue' := by
  simp only [FileDeadLetterStore.read] at hs
  split at hs
  · next failure hjob =>
    split at hs
    · next hprevious =>
      obtain ⟨rfl, rfl, rest, rfl⟩ := h.may_begin hjob rfl hprevious
      have hjobs : s.jobs = done ++ ⟨failure, .waiting⟩ :: rest := h.jobs
      have hrest : ∀ job ∈ rest, job.stage = .waiting :=
        fun job hin => h.queued job (List.mem_cons_of_mem _ hin)
      split at hs
      · next records hrecords =>
        split at hs
        · rw [Option.some.injEq] at hs
          subst hs
          apply Serial.keep
          apply Serial.goes_on hjobs h.settled hrest h.file_eq rfl rfl
          have hloaded : records = loaded s.file := by
            unfold readRecords at hrecords
            unfold loaded
            grind
          rw [hloaded]
          rfl
        · rw [Option.some.injEq] at hs
          subst hs
          exact ⟨_, _, _, Serial.gives_up hjobs h.settled hrest h.file_eq rfl rfl⟩
      · rw [Option.some.injEq] at hs
        subst hs
        exact ⟨_, _, _, Serial.gives_up hjobs h.settled hrest h.file_eq rfl rfl⟩
    · cases hs
  · cases hs

theorem Serial.after_rename {i : Nat} {ok : Bool} (h : Serial p file s done active queue)
    (hs : s.rename i ok = some s') :
    ∃ more active' queue', Serial p file s' (done ++ more) active' queue' := by
  simp only [FileDeadLetterStore.rename] at hs
  split at hs
  · next failure now hjob =>
    obtain ⟨rfl, rfl⟩ := h.is_active hjob (by simp) rfl
    have hjobs : s.jobs = done ++ ⟨failure, .renaming now⟩ :: queue := h.jobs
    have hcarries : s.temporary = some (some (change p now failure (loaded s.file))) :=
      h.carries _ rfl
    split at hs
    · next document htemporary =>
      rw [Option.some.injEq] at hs
      subst hs
      refine ⟨[⟨failure, .fulfilled now⟩], none, queue, ?_, ?_, ?_, h.queued, ?_⟩
      · rw [setStage, List.append_assoc]
        show s.jobs.modify done.length _ = _
        rw [hjobs]
        exact modify_length ..
      · intro job hin
        rcases List.mem_append.mp hin with hold | hnew
        · exact h.settled job hold
        · rw [List.mem_singleton.mp hnew]
          rfl
      · intro job hin
        cases hin
      · rw [hcarries, Option.some.injEq] at htemporary
        have hsuccesses : (done ++ [(⟨failure, .fulfilled now⟩ : Job Data)]).filterMap
            Job.success = done.filterMap Job.success ++ [(failure, now)] := by
          rw [List.filterMap_append]
          rfl
        rw [hsuccesses, replay_append, ← h.file_eq, htemporary]
        rfl
    · rw [Option.some.injEq] at hs
      subst hs
      exact ⟨_, _, _, Serial.gives_up hjobs h.settled h.queued h.file_eq rfl rfl⟩
  · cases hs

/-- Every operation leaves the jobs in order, and settles at most one more. -/
theorem step_serial {a : Action Data} (h : Serial p file s done active queue)
    (hs : step p s a = some s') :
    ∃ more active' queue', Serial p file s' (done ++ more) active' queue' := by
  cases a with
  | record failure =>
    rw [step, Option.some.injEq] at hs
    subst hs
    have hnext : Serial p file { s with jobs := s.jobs ++ [⟨failure, .waiting⟩] } done active
        (queue ++ [⟨failure, .waiting⟩]) := by
      refine ⟨?_, h.settled, h.carries, ?_, h.file_eq⟩
      · rw [h.jobs]
        simp only [List.append_assoc]
      · intro job hjob
        rcases List.mem_append.mp hjob with hold | hnew
        · exact h.queued job hold
        · rw [List.mem_singleton.mp hnew]
    exact hnext.keep
  | read now i ok => exact h.after_read hs
  | mkdir i ok =>
    simp only [step, mkdir] at hs
    split at hs
    · next failure now records hjob =>
      obtain ⟨rfl, rfl⟩ := h.is_active hjob (by simp) rfl
      have hjobs : s.jobs = done ++ ⟨failure, .changed now records⟩ :: queue := h.jobs
      split at hs
      · rw [Option.some.injEq] at hs
        subst hs
        apply Serial.keep
        exact Serial.goes_on hjobs h.settled h.queued h.file_eq rfl rfl (h.carries _ rfl)
      · rw [Option.some.injEq] at hs
        subst hs
        exact ⟨_, _, _, Serial.gives_up hjobs h.settled h.queued h.file_eq rfl rfl⟩
    · cases hs
  | writeFile i fate =>
    simp only [step, writeFile] at hs
    split at hs
    · next failure now records hjob =>
      obtain ⟨rfl, rfl⟩ := h.is_active hjob (by simp) rfl
      have hjobs : s.jobs = done ++ ⟨failure, .writing now records⟩ :: queue := h.jobs
      have hcarries : records = change p now failure (loaded s.file) := h.carries _ rfl
      split at hs
      · rw [Option.some.injEq] at hs
        subst hs
        apply Serial.keep
        refine Serial.goes_on (t := { s with temporary := some (some records) }) hjobs h.settled
          h.queued h.file_eq rfl rfl ?_
        rw [hcarries]
        rfl
      · rw [Option.some.injEq] at hs
        subst hs
        exact ⟨_, _, _, Serial.gives_up hjobs h.settled h.queued h.file_eq rfl rfl⟩
    · cases hs
  | rename i ok => exact h.after_rename hs

theorem run_serial {as : List (Action Data)} (h : Serial p file s done active queue)
    (hs : run (step p) s as = some s') :
    ∃ more active' queue', Serial p file s' (done ++ more) active' queue' := by
  induction as generalizing s done active queue with
  | nil =>
    rw [run_nil, Option.some.injEq] at hs
    exact ⟨[], active, queue, by rwa [List.append_nil, ← hs]⟩
  | cons a as ih =>
    obtain ⟨t, ht, hrest⟩ := run_cons_eq_some.mp hs
    obtain ⟨more, active', queue', hserial⟩ := step_serial h ht
    obtain ⟨later, active'', queue'', hlater⟩ := ih hserial hrest
    exact ⟨more ++ later, active'', queue'', by rwa [← List.append_assoc]⟩

theorem initial_serial (file temporary : Option (Document Data)) :
    Serial p file (initial file temporary) [] none [] where
  jobs := rfl
  settled := fun job hjob => by cases hjob
  carries := fun job hjob => by cases hjob
  queued := fun job hjob => by cases hjob
  file_eq := rfl

/-! ## Every run -/

/-- In whatever order the calls come and their file operations run and fail, the file is
what the fulfilled calls make of it, one after the other: each key has one entry, with the
event as it was first recorded and the error, attempts and date of the last call.  An
entry that is in the file stays there. -/
theorem file_holds_successes {temporary : Option (Document Data)} {as bs : List (Action Data)}
    (h : run (step p) (initial file temporary) as = some s)
    (hlater : run (step p) s bs = some s') :
    s.file = replay p file s.successes ∧
      (∀ key, (loaded s.file).lookup key = entryAfter key ((loaded file).lookup key)
        (s.successes.filter fun x => p.eventKey x.1.event = key)) ∧
      ∀ key entry, (loaded s.file).lookup key = some entry →
        ∃ entry', (loaded s'.file).lookup key = some entry' ∧ entry'.event = entry.event := by
  obtain ⟨done, active, queue, hserial⟩ := run_serial (initial_serial file temporary) h
  rw [List.nil_append] at hserial
  have hfile : s.file = replay p file s.successes := by
    rw [hserial.successes_eq]
    exact hserial.file_eq
  refine ⟨hfile, ?_, ?_⟩
  · intro key
    rw [hfile]
    exact lookup_replay p file s.successes key
  · intro key entry hentry
    obtain ⟨more, active', queue', hserial'⟩ := run_serial hserial hlater
    have hgrown : s'.file = replay p s.file (more.filterMap Job.success) := by
      rw [hserial'.file_eq, List.filterMap_append, replay, List.foldl_append, hserial.file_eq]
      rfl
    obtain ⟨entry', hentry', -, hevent⟩ := @entryAfter_of_some _ key entry
      ((more.filterMap Job.success).filter fun x => p.eventKey x.1.event = key)
    refine ⟨entry', ?_, hevent⟩
    rw [hgrown, lookup_replay, hentry]
    exact hentry'

def plainHash : EventHash Unit := ⟨fun _ => .object [], id⟩

/-- Three calls for one event at once.  The file cannot be written for the second. -/
def writeFails : List (Action Unit) :=
  let event : StreamEvent Unit := ⟨some "event-1", "stream-1", (), ⟨"", none⟩⟩
  [.record ⟨event, "first failure", 3⟩, .record ⟨event, "second failure", 4⟩,
    .record ⟨event, "third failure", 5⟩, .read ⟨0⟩ 0 true, .mkdir 0 true,
    .writeFile 0 (.ok ()), .rename 0 true, .read ⟨1⟩ 1 true, .mkdir 1 true,
    .writeFile 1 (.error none), .read ⟨2⟩ 2 true, .mkdir 2 true, .writeFile 2 (.ok ()),
    .rename 2 true]

theorem file_holds_successes_writeFails : ∃ s,
    run (step plainHash) (initial none none) writeFails = some s ∧
      s.successes.map (·.1.attempts) = [3, 5] ∧ s.file = replay plainHash none s.successes := by
  have hrun : (run (step plainHash) (initial none none) writeFails).map
      (fun s => s.successes.map (·.1.attempts)) = some [3, 5] := by decide
  obtain ⟨s, hs, hattempts⟩ := Option.map_eq_some_iff.mp hrun
  exact ⟨s, hs, hattempts, (file_holds_successes hs (run_nil s)).1⟩

end FileDeadLetterStore

end Processing
end XStreamRoll
