/-
`list()` among the calls of `record()`.

Both wait for the promise of the last `record()` before them.  `record()` catches its
rejection, so a failed write does not keep the next one from being made.  `list()`
does not: the error of another call is its own result, although the file holds what
was written before and could be read.

So `list()` gives every entry of the file when the last `record()` before it was not
rejected, and only then.
-/
import XStreamRoll.Processing.DeadLetterStore.Durable

namespace XStreamRoll
namespace Processing

open Transition

variable {Data : Type}

inductive ListStage (Data : Type) where
  /-- the promise of the last `record()` has not settled, or the file is being read -/
  | waiting
  | fulfilled (records : List (DeadLetterRecord Data))
  | rejected

/-- A call of `list()` that came after `behind` calls of `record()`. -/
structure ListCall (Data : Type) where
  behind : Nat
  stage : ListStage Data

/-- The store with the calls of `list()`. -/
structure ListedStore (Data : Type) where
  store : FileDeadLetterStore Data
  lists : List (ListCall Data)

def JobStage.isRejected : JobStage Data → Bool
  | .rejected => true
  | _ => false

/-- The promise that a call behind `i` calls of `record()` waits for was rejected. -/
def FileDeadLetterStore.previousRejected (i : Nat) (s : FileDeadLetterStore Data) : Bool :=
  i ≠ 0 && (s.jobs[i - 1]?).any fun job => job.stage.isRejected

/-- `Object.values(records).sort(…)`, of which only the order of equal timestamps depends on
the order of the keys. -/
def sortedValues (localeCompare : String → String → Int) (records : Records Data) :
    List (DeadLetterRecord Data) :=
  (records.entries.map (·.2)).mergeSort fun left right =>
    localeCompare left.timestamp right.timestamp ≤ 0

namespace ListedStore

def initial (file temporary : Option (Document Data)) : ListedStore Data :=
  ⟨.initial file temporary, []⟩

def settle (j : Nat) (stage : ListStage Data) (s : ListedStore Data) : ListedStore Data :=
  { s with lists := s.lists.modify j fun call => { call with stage } }

/-- `list()`, up to its `await`. -/
def list (s : ListedStore Data) : ListedStore Data :=
  { s with lists := s.lists ++ [⟨s.store.jobs.length, .waiting⟩] }

/-- What becomes of a `list()` once the promise it waits for has settled.  `ok` is false when
its `readFile` fails with something other than `ENOENT`. -/
def listResult (localeCompare : String → String → Int) (behind : Nat) (ok : Bool)
    (store : FileDeadLetterStore Data) : ListStage Data :=
  if store.previousRejected behind then .rejected
  else
    match store.readRecords with
    | some records =>
      if ok then .fulfilled (sortedValues localeCompare records) else .rejected
    | none => .rejected

/-- The rest of the `j`-th `list()`. -/
def finishList (localeCompare : String → String → Int) (j : Nat) (ok : Bool)
    (s : ListedStore Data) : Option (ListedStore Data) :=
  match s.lists[j]? with
  | some ⟨behind, .waiting⟩ =>
    if s.store.previousSettled behind then
      some (s.settle j (listResult localeCompare behind ok s.store))
    else none
  | _ => none

inductive Action (Data : Type) where
  | record (a : FileDeadLetterStore.Action Data)
  | list
  | finishList (j : Nat) (ok : Bool)

def step (p : EventHash Data) (localeCompare : String → String → Int) (s : ListedStore Data) :
    Action Data → Option (ListedStore Data)
  | .record a => (FileDeadLetterStore.step p s.store a).map fun store => { s with store := store }
  | .list => some s.list
  | .finishList j ok => s.finishList localeCompare j ok

end ListedStore

namespace FileDeadLetterStore

variable {p : EventHash Data} {file : Option (Document Data)} {s s' : FileDeadLetterStore Data}
  {done queue : List (Job Data)} {active : Option (Job Data)}

/-! ## A call of its own -/

/-- The call whose own file operation the action is, when that operation works. -/
def works (s : FileDeadLetterStore Data) : Action Data → Option Nat
  | .record _ => none
  | .read _ i ok => if ok ∧ s.readRecords.isSome then some i else none
  | .mkdir i ok | .rename i ok => if ok then some i else none
  | .writeFile i fate =>
    match fate with
    | .ok () => some i
    | .error _ => none

theorem getElem?_setStage {i : Nat} {job : Job Data} (h : s.jobs[i]? = some job)
    (stage : JobStage Data) : (s.setStage i stage).jobs[i]? = some { job with stage } := by
  rw [setStage, List.getElem?_modify_eq, h]
  rfl

/-- A call whose own operation works is not rejected by the step, whatever became of the
calls before it. -/
theorem Serial.not_rejected (h : Serial p file s done active queue) {a : Action Data}
    (hs : step p s a = some s') {i : Nat} (hi : s.works a = some i) :
    ∃ job, s'.jobs[i]? = some job ∧ job.stage.isRejected = false := by
  cases a with
  | record failure => cases hi
  | read now k ok =>
    simp only [step, read] at hs
    simp only [works] at hi
    split at hi
    · next hworks =>
      obtain ⟨rfl, hreads⟩ := hworks
      rw [Option.some.injEq] at hi
      subst hi
      obtain ⟨records, hrecords⟩ := Option.isSome_iff_exists.mp hreads
      split at hs
      · next failure hjob =>
        split at hs
        · rw [hrecords] at hs
          simp only [if_true, Option.some.injEq] at hs
          subst hs
          exact ⟨_, getElem?_setStage hjob _, rfl⟩
        · cases hs
      · cases hs
    · cases hi
  | mkdir k ok =>
    simp only [step, mkdir] at hs
    simp only [works] at hi
    split at hi
    · next hok =>
      subst hok
      rw [Option.some.injEq] at hi
      subst hi
      split at hs
      · next failure now records hjob =>
        simp only [if_true, Option.some.injEq] at hs
        subst hs
        exact ⟨_, getElem?_setStage hjob _, rfl⟩
      · cases hs
    · cases hi
  | writeFile k fate =>
    simp only [step, writeFile] at hs
    simp only [works] at hi
    cases fate with
    | error leftover => cases hi
    | ok =>
      simp only [Option.some.injEq] at hi
      subst hi
      split at hs
      · next failure now records hjob =>
        simp only [Option.some.injEq] at hs
        subst hs
        exact ⟨_, getElem?_setStage (s := { s with temporary := some (some records) }) hjob _, rfl⟩
      · cases hs
  | rename k ok =>
    simp only [step, rename] at hs
    simp only [works] at hi
    split at hi
    · next hok =>
      subst hok
      rw [Option.some.injEq] at hi
      subst hi
      split at hs
      · next failure now hjob =>
        -- nothing else has touched the temporary file since this call wrote it
        obtain ⟨rfl, rfl⟩ := h.is_active hjob (by simp) rfl
        have htemporary : s.temporary = some (some (change p now failure (loaded s.file))) :=
          h.carries _ rfl
        rw [htemporary] at hs
        simp only [Option.some.injEq] at hs
        subst hs
        exact ⟨_, getElem?_setStage (s := { s with
          file := some (some (change p now failure (loaded s.file))), temporary := none }) hjob _,
          rfl⟩
      · cases hs
    · cases hi

theorem Serial.previousSettled_done (h : Serial p file s done none queue) :
    s.previousSettled done.length = true := by
  rw [previousSettled, Bool.or_eq_true, decide_eq_true_eq]
  cases hlast : done.getLast? with
  | none =>
    rw [List.getLast?_eq_none_iff] at hlast
    exact .inl (by rw [hlast]; rfl)
  | some job =>
    right
    have hmem : job ∈ done := List.mem_of_getLast? hlast
    have hpos : 0 < done.length := List.length_pos_of_mem hmem
    rw [List.getLast?_eq_getElem?] at hlast
    rw [h.jobs, List.getElem?_append_left (by omega), hlast, Option.any_some]
    exact h.settled job hmem

/-- Every call that has not settled may still fail, one after the other, and leave the file
as it is. -/
theorem Serial.all_may_fail (h : Serial p file s done active queue) :
    ∃ bs t failed, run (step p) s bs = some t ∧ Serial p file t (done ++ failed) none [] ∧
      t.file = s.file ∧ t.jobs.length = s.jobs.length ∧ failed.filterMap Job.success = [] := by
  have hqueue : ∀ (queue : List (Job Data)) {s : FileDeadLetterStore Data} {done : List (Job Data)},
      Serial p file s done none queue →
      ∃ bs t failed, run (step p) s bs = some t ∧ Serial p file t (done ++ failed) none [] ∧
        t.file = s.file ∧ t.jobs.length = s.jobs.length ∧ failed.filterMap Job.success = [] := by
    intro queue
    induction queue with
    | nil =>
      intro s done h
      exact ⟨[], s, [], rfl, by rwa [List.append_nil], rfl, rfl, rfl⟩
    | cons job queue ih =>
      intro s done h
      have hjobs : s.jobs = done ++ job :: queue := h.jobs
      obtain ⟨failure, stage⟩ := job
      obtain rfl : stage = .waiting := h.queued _ List.mem_cons_self
      have hjob : s.jobs[done.length]? = some ⟨failure, .waiting⟩ := by
        rw [hjobs, List.getElem?_append_right (Nat.le_refl _), Nat.sub_self]
        rfl
      have hstep : step p s (.read ⟨0⟩ done.length false) =
          some (s.setStage done.length .rejected) := by
        simp only [step, read, hjob, h.previousSettled_done, if_true, Bool.false_eq_true, if_false]
        cases s.readRecords <;> rfl
      obtain ⟨bs, t, failed, hrun, hserial, hfile, hlength, hfailed⟩ := ih (Serial.gives_up hjobs
        h.settled (fun job hin => h.queued job (List.mem_cons_of_mem _ hin)) h.file_eq rfl rfl)
      refine ⟨_ :: bs, t, ⟨failure, .rejected⟩ :: failed, run_cons_eq_some.mpr ⟨_, hstep, hrun⟩,
        ?_, hfile, ?_, hfailed⟩
      · rwa [List.append_assoc] at hserial
      · rw [hlength, setStage, List.length_modify]
  cases active with
  | none => exact hqueue queue h
  | some job =>
    have hjobs : s.jobs = done ++ job :: queue := h.jobs
    have hjob : s.jobs[done.length]? = some job := by
      rw [hjobs, List.getElem?_append_right (Nat.le_refl _), Nat.sub_self]
      rfl
    obtain ⟨a, t, hstep, ht, htfile⟩ : ∃ a t, step p s a = some (setStage done.length .rejected t) ∧
        t.jobs = s.jobs ∧ t.file = s.file := by
      obtain ⟨failure, stage⟩ := job
      cases stage with
      | changed now records =>
        exact ⟨.mkdir done.length false, s, by simp [step, mkdir, hjob], rfl, rfl⟩
      | writing now records =>
        exact ⟨.writeFile done.length (.error none), { s with temporary := none },
          by simp [step, writeFile, hjob], rfl, rfl⟩
      | «renaming» now =>
        exact ⟨.rename done.length false, s, by simp [step, rename, hjob], rfl, rfl⟩
      | waiting => exact absurd (h.carries _ rfl) (fun hc => hc)
      | fulfilled now => exact absurd (h.carries _ rfl) (fun hc => hc)
      | rejected => exact absurd (h.carries _ rfl) (fun hc => hc)
    obtain ⟨bs, u, failed, hrun, hserial, hfile, hlength, hfailed⟩ := hqueue queue
      (Serial.gives_up hjobs h.settled h.queued h.file_eq ht htfile)
    refine ⟨a :: bs, u, { job with stage := .rejected } :: failed,
      run_cons_eq_some.mpr ⟨_, hstep, hrun⟩, ?_, hfile.trans htfile, ?_, hfailed⟩
    · rwa [List.append_assoc] at hserial
    · rw [hlength, setStage, List.length_modify, ht]

/-- The four operations of one call, when they work. -/
def recorded (now : Date) (i : Nat) : List (Action Data) :=
  [.read now i true, .mkdir i true, .writeFile i (.ok ()), .rename i true]

theorem setStage_last {l : List (Job Data)} {job : Job Data} (h : s.jobs = l ++ [job])
    (stage : JobStage Data) : (s.setStage l.length stage).jobs = l ++ [{ job with stage }] := by
  rw [setStage, h]
  exact modify_length ..

theorem getElem?_last {l : List (Job Data)} {job : Job Data} (h : s.jobs = l ++ [job]) :
    s.jobs[l.length]? = some job := by
  rw [h, List.getElem?_concat_length]

/-- The last call, when the one before it has settled. -/
theorem run_recorded {l : List (Job Data)} {failure : Failure Data}
    (h : s.jobs = l ++ [⟨failure, .waiting⟩]) (hprevious : s.previousSettled l.length = true)
    (hreads : s.readRecords.isSome) (p : EventHash Data) (now : Date) :
    ∃ t, run (step p) s (recorded now l.length) = some t ∧
      t.jobs = l ++ [⟨failure, .fulfilled now⟩] := by
  obtain ⟨records, hrecords⟩ := Option.isSome_iff_exists.mp hreads
  let changed := s.setStage l.length (.changed now (change p now failure records))
  have hchanged : changed.jobs = l ++ [⟨failure, .changed now _⟩] := setStage_last h _
  have hread : step p s (.read now l.length true) = some changed := by
    simp only [step, read, getElem?_last h, hprevious, hrecords, if_true]
    rfl
  let made := changed.setStage l.length (.writing now (change p now failure records))
  have hmade : made.jobs = l ++ [⟨failure, .writing now _⟩] := setStage_last hchanged _
  have hmkdir : step p changed (.mkdir l.length true) = some made := by
    simp only [step, mkdir, getElem?_last hchanged, if_true]
    rfl
  let written := { made with temporary := some (some (change p now failure records)) }.setStage
    l.length (.renaming now)
  have hwritten : written.jobs = l ++ [⟨failure, .renaming now⟩] :=
    setStage_last (s := { made with temporary := _ }) hmade _
  have hwrite : step p made (.writeFile l.length (.ok ())) = some written := by
    simp only [step, writeFile, getElem?_last hmade]
    rfl
  let renamed := { written with
    file := some (some (change p now failure records)), temporary := none }.setStage l.length
    (.fulfilled now)
  have hrenamed : renamed.jobs = l ++ [⟨failure, .fulfilled now⟩] :=
    setStage_last (s := { written with file := _, temporary := none }) hwritten _
  have hrename : step p written (.rename l.length true) = some renamed := by
    simp only [step, rename, getElem?_last hwritten]
    rfl
  refine ⟨renamed, ?_, hrenamed⟩
  rw [recorded, run_cons_eq_some]
  refine ⟨changed, hread, run_cons_eq_some.mpr ⟨made, hmkdir, run_cons_eq_some.mpr ?_⟩⟩
  exact ⟨written, hwrite, by rw [run_singleton, hrename]⟩

/-- The next `record()` is fulfilled when its own operations work, even if every call before
it that has not settled fails. -/
theorem Serial.next_record_fulfilled (h : Serial p file s done active queue)
    (hreads : s.readRecords.isSome) (failure : Failure Data) (now : Date) :
    ∃ bs t, run (step p) s (bs ++ .record failure :: recorded now s.jobs.length) = some t ∧
      t.jobs[s.jobs.length]? = some ⟨failure, .fulfilled now⟩ ∧
      t.successes = s.successes ++ [(failure, now)] := by
  obtain ⟨bs, t, failed, hrun, hserial, hfile, hlength, hfailed⟩ := h.all_may_fail
  have hjobs : t.jobs = done ++ failed := by
    rw [hserial.jobs]
    exact List.append_nil _
  let called : FileDeadLetterStore Data := { t with jobs := t.jobs ++ [⟨failure, .waiting⟩] }
  have hcalled : called.jobs = (done ++ failed) ++ [⟨failure, .waiting⟩] := by
    show t.jobs ++ [_] = _
    rw [hjobs]
  have hprevious : called.previousSettled (done ++ failed).length = true := by
    have hbefore := hserial.previousSettled_done
    rw [previousSettled, Bool.or_eq_true, decide_eq_true_eq] at hbefore ⊢
    rcases hbefore with hzero | hsettled
    · exact .inl hzero
    · right
      rw [Option.any_eq_true] at hsettled
      obtain ⟨job, hjob, hsettled⟩ := hsettled
      rw [Heap.getElem?_alloc_of_some hjob, Option.any_some, hsettled]
  have hreads' : called.readRecords.isSome := by
    show (readRecords t).isSome
    unfold readRecords at hreads ⊢
    rwa [hfile]
  obtain ⟨u, hu, hujobs⟩ := run_recorded hcalled hprevious hreads' p now
  rw [← hjobs, hlength] at hu
  refine ⟨bs, u, run_append_eq_some.mpr ⟨t, hrun, run_cons_eq_some.mpr ⟨called, rfl, hu⟩⟩, ?_, ?_⟩
  · rw [← hlength, hjobs]
    exact getElem?_last hujobs
  · rw [successes, hujobs, List.filterMap_append, List.filterMap_append, hfailed, List.append_nil,
      h.successes_eq]
    rfl

end FileDeadLetterStore

namespace ListedStore

open FileDeadLetterStore (Serial replay loaded works)

variable {p : EventHash Data} {localeCompare : String → String → Int}
  {file temporary : Option (Document Data)} {s s' : ListedStore Data}

/-! ## Every run -/

/-- The records that the file holds of the calls that were fulfilled, and of the file that
the store found. -/
def durable (p : EventHash Data) (file : Option (Document Data)) (s : ListedStore Data) :
    List (DeadLetterRecord Data) :=
  (loaded (replay p file s.store.successes)).entries.map (·.2)

/-- A `list()` that can read the file resolves with every record that was written, and a
`record()` whose own operations work is not rejected. -/
def Unpoisoned (p : EventHash Data) (file : Option (Document Data)) (s : ListedStore Data) :
    Action Data → ListedStore Data → Prop
  | .finishList j ok, s' => ok = true → s.store.readRecords.isSome →
    ∃ behind records, s'.lists[j]? = some ⟨behind, .fulfilled records⟩ ∧
      records.Perm (s.durable p file)
  | .record a, s' => ∀ i, s.store.works a = some i →
    ∃ job, s'.store.jobs[i]? = some job ∧ job.stage.isRejected = false
  | .list, _ => True

/-- A `list()` that can read the file does not wait for a `record()` that was rejected. -/
def BehindUnrejected (s : ListedStore Data) : Action Data → Prop
  | .finishList j ok => ok = true → s.store.readRecords.isSome →
    ∀ call ∈ s.lists[j]?, s.store.previousRejected call.behind = false
  | _ => True

instance (s : ListedStore Data) : (a : Action Data) → Decidable (s.BehindUnrejected a)
  | .finishList _ _ => inferInstanceAs (Decidable (_ → _ → _))
  | .record _ | .list => isTrue trivial

/-- The file holds what the fulfilled calls wrote. -/
def Ordered (p : EventHash Data) (file : Option (Document Data)) (s : ListedStore Data) : Prop :=
  ∃ done active queue, Serial p file s.store done active queue

theorem finishList_eq_some {j : Nat} {ok : Bool} (h : s.finishList localeCompare j ok = some s') :
    ∃ behind, s.lists[j]? = some ⟨behind, .waiting⟩ ∧
      s' = s.settle j (listResult localeCompare behind ok s.store) := by
  unfold finishList at h
  split at h
  · next behind hcall =>
    split at h
    · exact ⟨behind, hcall, (Option.some.inj h).symm⟩
    · cases h
  · cases h

theorem Ordered.step {a : Action Data} (h : s.Ordered p file)
    (hs : step p localeCompare s a = some s') : s'.Ordered p file := by
  obtain ⟨done, active, queue, hserial⟩ := h
  cases a with
  | record a =>
    obtain ⟨store, hstore, rfl⟩ := Option.map_eq_some_iff.mp hs
    obtain ⟨more, active', queue', hserial'⟩ := FileDeadLetterStore.step_serial hserial hstore
    exact ⟨_, _, _, hserial'⟩
  | list =>
    rw [ListedStore.step, Option.some.injEq] at hs
    subst hs
    exact ⟨_, _, _, hserial⟩
  | finishList j ok =>
    obtain ⟨behind, -, rfl⟩ := finishList_eq_some hs
    exact ⟨_, _, _, hserial⟩

theorem Ordered.records_eq (h : s.Ordered p file) {records : Records Data}
    (hrecords : s.store.readRecords = some records) :
    records.entries.map (·.2) = s.durable p file := by
  obtain ⟨done, active, queue, hserial⟩ := h
  rw [durable, hserial.successes_eq, ← hserial.file_eq]
  congr 2
  unfold FileDeadLetterStore.readRecords at hrecords
  unfold loaded
  grind

theorem sortedValues_perm (records : Records Data) :
    (sortedValues localeCompare records).Perm (records.entries.map (·.2)) :=
  List.mergeSort_perm ..

/-- A step is as it should be exactly when it is not a `list()` behind a `record()` that was
rejected. -/
theorem unpoisoned_iff {a : Action Data} (h : s.Ordered p file)
    (hs : step p localeCompare s a = some s') :
    s.Unpoisoned p file a s' ↔ s.BehindUnrejected a := by
  cases a with
  | list => exact Iff.rfl
  | record a =>
    obtain ⟨done, active, queue, hserial⟩ := h
    obtain ⟨store, hstore, rfl⟩ := Option.map_eq_some_iff.mp hs
    exact iff_of_true (fun i hi => hserial.not_rejected hstore hi) trivial
  | finishList j ok =>
    obtain ⟨behind, hcall, rfl⟩ := finishList_eq_some hs
    have hsettled : (s.settle j (listResult localeCompare behind ok s.store)).lists[j]? =
        some ⟨behind, listResult localeCompare behind ok s.store⟩ := by
      rw [settle, List.getElem?_modify_eq, hcall]
      rfl
    constructor
    · intro hresolves hok hreads call hlisted
      obtain ⟨_, records, hrecords, -⟩ := hresolves hok hreads
      rw [hcall, Option.mem_some_iff] at hlisted
      subst hlisted
      rw [hsettled, Option.some.injEq, ListCall.mk.injEq] at hrecords
      by_contra hrejected
      rw [Bool.not_eq_false] at hrejected
      rw [listResult, if_pos hrejected] at hrecords
      cases hrecords.2
    · intro hunrejected hok hreads
      obtain ⟨records, hrecords⟩ := Option.isSome_iff_exists.mp hreads
      have hfulfilled : listResult localeCompare behind ok s.store =
          .fulfilled (sortedValues localeCompare records) := by
        have hprevious := hunrejected hok hreads _ hcall
        rw [listResult, hprevious, hrecords, hok]
        rfl
      refine ⟨behind, sortedValues localeCompare records, ?_, ?_⟩
      · rw [hsettled, hfulfilled]
      · rw [← h.records_eq hrecords]
        exact sortedValues_perm records

theorem initial_ordered (p : EventHash Data) (file temporary : Option (Document Data)) :
    (initial file temporary).Ordered p file :=
  ⟨_, _, _, FileDeadLetterStore.initial_serial file temporary⟩

theorem run_unpoisoned_iff (p : EventHash Data) (localeCompare : String → String → Int)
    (file temporary : Option (Document Data)) (as : List (Action Data)) :
    AllSteps (step p localeCompare) (Unpoisoned p file) (initial file temporary) as ↔
      AllSteps (step p localeCompare) (fun s a _ => s.BehindUnrejected a)
        (initial file temporary) as :=
  allSteps_iff (I := Ordered p file) (fun _ _ _ h hs => unpoisoned_iff h hs)
    (fun _ _ _ h _ hs => h.step hs) (initial_ordered p file temporary)

/-- In every run, whatever fails: each `list()` that can read the file resolves with all
records that were durably written if and only if none of them waits for a `record()` that was
rejected.  A `record()` is in any case fulfilled when its own operations work, even if all
calls before it fail. -/
theorem failed_write_contained_iff (p : EventHash Data) (localeCompare : String → String → Int)
    (file temporary : Option (Document Data)) (as : List (Action Data)) :
    (AllSteps (step p localeCompare) (Unpoisoned p file) (initial file temporary) as ↔
      AllSteps (step p localeCompare) (fun s a _ => s.BehindUnrejected a)
        (initial file temporary) as) ∧
      ∀ s, run (step p localeCompare) (initial file temporary) as = some s →
        s.store.readRecords.isSome → ∀ (failure : Failure Data) (now : Date), ∃ bs t,
          run (FileDeadLetterStore.step p) s.store (bs ++ .record failure ::
            FileDeadLetterStore.recorded now s.store.jobs.length) = some t ∧
          t.jobs[s.store.jobs.length]? = some ⟨failure, .fulfilled now⟩ ∧
          t.successes = s.store.successes ++ [(failure, now)] := by
  refine ⟨run_unpoisoned_iff p localeCompare file temporary as, ?_⟩
  intro s hrun hreads failure now
  obtain ⟨done, active, queue, hserial⟩ : s.Ordered p file :=
    run_invariant (I := Ordered p file) (fun _ _ _ h hs => h.step hs)
      (initial_ordered p file temporary) hrun
  exact hserial.next_record_fulfilled hreads failure now

/-- The `i`-th call of `record()`, which does or does not get its directory. -/
def attempt (i : Nat) (ok : Bool) : List (Action Unit) :=
  [.record (.record ⟨⟨some "event-1", "stream-1", (), ⟨"", none⟩⟩, "failed", 3⟩),
    .record (.read ⟨0⟩ i true), .record (.mkdir i ok)] ++
    if ok then [.record (.writeFile i (.ok ())), .record (.rename i true)] else []

/-- Two calls, and `list()` after them. -/
def listedAfter (first second : Bool) : List (Action Unit) :=
  attempt 0 first ++ attempt 1 second ++ [.list, .finishList 0 true]

theorem failed_write_contained_firstFails :
    AllSteps (step FileDeadLetterStore.plainHash fun _ _ => 0)
      (Unpoisoned FileDeadLetterStore.plainHash none) (initial none none)
      (listedAfter false true) :=
  (failed_write_contained_iff FileDeadLetterStore.plainHash (fun _ _ => 0) none none
    (listedAfter false true)).1.mpr (by decide +kernel)

/-- Behind the call that failed `list()` rejects, although the file is there and holds what the
first call wrote. -/
theorem failed_write_reaches_list :
    ¬∀ as : List (Action Unit), AllSteps (step FileDeadLetterStore.plainHash fun _ _ => 0)
      (Unpoisoned FileDeadLetterStore.plainHash none) (initial none none) as := by
  intro h
  have hbehind := (run_unpoisoned_iff _ _ _ _ (listedAfter true false)).mp (h _)
  exact absurd hbehind (by decide +kernel)

end ListedStore

end Processing
end XStreamRoll
