/-
Overlapping calls of `StreamsService.update` on one database.

A call is cut where it waits for the database: the SELECT of `findById`, the UPDATE, and
the answer to the UPDATE, after which the side effects go out.  The calls of all API
instances are one list, and creations and deletions of streams come in between.  A
statement may be rejected, and the answer to an UPDATE that was executed may be lost.

`persisted` and `effects` are logs, tagged with the call's place in the list: no step
reads them.
-/
import XStreamRoll.Api.Streams.Pages
import XStreamRoll.Api.Streams.Repositories
import XStreamRoll.Transition

namespace XStreamRoll
namespace Api

open Transition

/-- Where a call stands. -/
inductive UpdateStage where
  /-- `findById` was asked. -/
  | reading
  /-- The stream that `findById` gave passed the check, and the UPDATE was asked. -/
  | writing (stream : Stream)
  /-- The UPDATE was executed; its answer is on the way. -/
  | written (stream updated : Stream)
  | over (answer : Except StreamsException Stream)

structure UpdateCall where
  id : Int
  changes : StreamUpdateChanges
  stage : UpdateStage

structure StatusChange where
  streamId : Int
  before : StreamStatus
  after : StreamStatus
deriving DecidableEq, Repr

structure Updates where
  db : StreamsDatabase
  calls : List UpdateCall
  persisted : List (Nat × StatusChange)
  effects : List (Nat × SideEffect)

namespace Updates

inductive Action where
  | call (id : Int) (changes : StreamUpdateChanges)
  /-- the answer to `findById`, and the check -/
  | read (i : Nat)
  | write (i : Nat) (now : Date)
  /-- the answer to the UPDATE, and the side effects -/
  | settle (i : Nat) (now : Date)
  /-- a statement rejects without being executed -/
  | reject (i : Nat)
  /-- the answer to an executed UPDATE is lost -/
  | lose (i : Nat)
  | create (now : Date) (params : StreamCreateParams)
  | delete (id : Int)

/-- The call goes on to another stage. -/
def goes (i : Nat) (call : UpdateCall) (stage : UpdateStage) (s : Updates) : Updates :=
  { s with calls := s.calls.set i { call with stage := stage } }

/-- What becomes of a call when the row it asked for is there. -/
def afterRead (pg : Postgres) (call : UpdateCall) (db : StreamsDatabase) : UpdateStage :=
  match StreamsService.findById (StreamsDbRepository.repository pg) call.id db with
  | .error e => .over (.error e)
  | .ok stream =>
    match StreamsService.validateChanges stream call.changes with
    | .error e => .over (.error e)
    | .ok () => .writing stream

/-- The change of the stream's status between two states of the database, if any. -/
def changeOf (id : Int) (db db' : StreamsDatabase) : List StatusChange :=
  match db.streams.find id, db'.streams.find id with
  | some row, some row' =>
    if row.status = row'.status then [] else [⟨id, row.status, row'.status⟩]
  | _, _ => []

def afterWrite (i : Nat) (now : Date) (call : UpdateCall) (stream : Stream) (s : Updates) :
    Updates :=
  match StreamsDbRepository.update now call.id (StreamsService.trimChanges call.changes) s.db with
  | (.error e, db) => { s.goes i call (.over (.error e)) with db := db }
  | (.ok updated, db) =>
    { s.goes i call (.written stream updated) with
      db := db
      persisted := s.persisted ++ (changeOf call.id s.db db).map (i, ·) }

def step (pg : Postgres) (s : Updates) : Action → Option Updates
  | .call id changes => some { s with calls := s.calls ++ [⟨id, changes, .reading⟩] }
  | .read i =>
    match s.calls[i]? with
    | some call =>
      match call.stage with
      | .reading => some (s.goes i call (afterRead pg call s.db))
      | _ => none
    | none => none
  | .write i now =>
    match s.calls[i]? with
    | some call =>
      match call.stage with
      | .writing stream => some (s.afterWrite i now call stream)
      | _ => none
    | none => none
  | .settle i now =>
    match s.calls[i]? with
    | some call =>
      match call.stage with
      | .written stream updated =>
        some { s.goes i call (.over (.ok updated)) with
          effects := s.effects ++
            (StreamsService.sideEffectsOf now call.changes stream updated).map (i, ·) }
      | _ => none
    | none => none
  | .reject i =>
    match s.calls[i]? with
    | some call =>
      match call.stage with
      | .reading => some (s.goes i call (.over (.error databaseUnavailable)))
      | .writing _ => some (s.goes i call (.over (.error databaseUnavailable)))
      | _ => none
    | none => none
  | .lose i =>
    match s.calls[i]? with
    | some call =>
      match call.stage with
      | .written _ _ => some (s.goes i call (.over (.error databaseUnavailable)))
      | _ => none
    | none => none
  | .create now params => some { s with db := (StreamsDbRepository.create pg now params s.db).2 }
  | .delete id => some { s with db := (StreamsDbRepository.delete id s.db).2 }

/-- The steps, one rule for each action. -/
inductive Moves (pg : Postgres) (s : Updates) : Action → Updates → Prop where
  | call (id : Int) (changes : StreamUpdateChanges) :
    Moves pg s (.call id changes) { s with calls := s.calls ++ [⟨id, changes, .reading⟩] }
  | read {i : Nat} {call : UpdateCall} (hcall : s.calls[i]? = some call)
    (hstage : call.stage = .reading) :
    Moves pg s (.read i) (s.goes i call (afterRead pg call s.db))
  | write {i : Nat} {call : UpdateCall} {stream : Stream} (now : Date)
    (hcall : s.calls[i]? = some call) (hstage : call.stage = .writing stream) :
    Moves pg s (.write i now) (s.afterWrite i now call stream)
  | settle {i : Nat} {call : UpdateCall} {stream updated : Stream} (now : Date)
    (hcall : s.calls[i]? = some call) (hstage : call.stage = .written stream updated) :
    Moves pg s (.settle i now) { s.goes i call (.over (.ok updated)) with
      effects := s.effects ++
        (StreamsService.sideEffectsOf now call.changes stream updated).map (i, ·) }
  | reject {i : Nat} {call : UpdateCall} (hcall : s.calls[i]? = some call)
    (hstage : call.stage = .reading ∨ ∃ stream, call.stage = .writing stream) :
    Moves pg s (.reject i) (s.goes i call (.over (.error databaseUnavailable)))
  | lose {i : Nat} {call : UpdateCall} {stream updated : Stream}
    (hcall : s.calls[i]? = some call) (hstage : call.stage = .written stream updated) :
    Moves pg s (.lose i) (s.goes i call (.over (.error databaseUnavailable)))
  | create (now : Date) (params : StreamCreateParams) :
    Moves pg s (.create now params)
      { s with db := (StreamsDbRepository.create pg now params s.db).2 }
  | delete (id : Int) :
    Moves pg s (.delete id) { s with db := (StreamsDbRepository.delete id s.db).2 }

theorem moves_of_step {pg : Postgres} {s t : Updates} {a : Action} (h : s.step pg a = some t) :
    Moves pg s a t := by
  unfold step at h
  split at h
  · cases h
    exact .call ..
  · split at h
    · next call hcall =>
      split at h
      · next hstage =>
        cases h
        exact .read hcall hstage
      · cases h
    · cases h
  · split at h
    · next call hcall =>
      split at h
      · next hstage =>
        cases h
        exact .write _ hcall hstage
      · cases h
    · cases h
  · split at h
    · next call hcall =>
      split at h
      · next hstage =>
        cases h
        exact .settle _ hcall hstage
      · cases h
    · cases h
  · split at h
    · next call hcall =>
      split at h
      · next hstage =>
        cases h
        exact .reject hcall (.inl hstage)
      · next hstage =>
        cases h
        exact .reject hcall (.inr ⟨_, hstage⟩)
      · cases h
    · cases h
  · split at h
    · next call hcall =>
      split at h
      · next hstage =>
        cases h
        exact .lose hcall hstage
      · cases h
    · cases h
  · cases h
    exact .create ..
  · cases h
    exact .delete ..

/-! ## What is to hold -/

/-- The call has executed its UPDATE, and will emit the events of the status. -/
def owes (id : Int) (status : StreamStatus) (call : UpdateCall) : Bool :=
  match call.stage with
  | .written stream _ =>
    decide (call.id = id ∧ call.changes.status = some status ∧ status ≠ stream.status)
  | _ => false

def owed (i : Nat) (id : Int) (status : StreamStatus) (s : Updates) : Nat :=
  ((s.calls[i]?).any (owes id status)).toNat

/-- The change to that status that the call persisted. -/
def changeBy (i : Nat) (id : Int) (status : StreamStatus) (entry : Nat × StatusChange) : Bool :=
  decide (entry.1 = i ∧ entry.2.streamId = id ∧ entry.2.after = status)

/-- The webhook event of the status that the call emitted for the stream. -/
def webhookBy (i : Nat) (id : Int) (status : StreamStatus) (entry : Nat × SideEffect) : Bool :=
  match entry.2 with
  | .webhook streamId event payload => decide (entry.1 = i ∧ streamId = id ∧
      event = statusEvent status ∧ payload.streamId = id)
  | .socket _ _ _ => false

/-- The socket event of the status that the call emitted for the stream. -/
def socketBy (i : Nat) (id : Int) (status : StreamStatus) (entry : Nat × SideEffect) : Bool :=
  match entry.2 with
  | .webhook _ _ _ => false
  | .socket event payload _ => decide (entry.1 = i ∧ event = statusEvent status ∧
      payload.streamId = id)

/-- The statuses in the database moved along the status machine only, and every call has
emitted, or is about to emit, one webhook event and one socket event for the change that
it persisted, and none without a change. -/
structure Faithful (s : Updates) : Prop where
  allowed : ∀ entry ∈ s.persisted, entry.2.after ∈ allowedTransitions entry.2.before
  webhooks : ∀ i id status, s.persisted.countP (changeBy i id status) =
    s.effects.countP (webhookBy i id status) + s.owed i id status
  sockets : ∀ i id status, s.persisted.countP (changeBy i id status) =
    s.effects.countP (socketBy i id status) + s.owed i id status

/-- Before the first call. -/
def Fresh (s : Updates) : Prop := s.calls = [] ∧ s.persisted = [] ∧ s.effects = []

/-- An UPDATE that sets a status, and whose values Postgres takes, finds the row in a status
from which the machine allows it; and the answer to one is not lost. -/
def WritesAllowed (s : Updates) : Action → Prop
  | .write i _ => ∀ call ∈ s.calls[i]?,
      StreamsDbRepository.takes call.id (StreamsService.trimChanges call.changes) = true →
      ∀ status ∈ call.changes.status, ∀ row ∈ s.db.streams.find call.id,
        status ∈ allowedTransitions row.status
  | .lose i => ∀ call ∈ s.calls[i]?, call.changes.status = none
  | _ => True

end Updates

/-! ## What the repository writes -/

namespace StreamsTable

theorem find_map (id : Int) (table : StreamsTable) {f : StreamRow → StreamRow}
    (hf : ∀ row, (f row).id = row.id) :
    (table.rows.map f).find? (fun row => row.id = id) = (table.find id).map f := by
  rw [List.find?_map]
  have hsame : ((fun row : StreamRow => decide (row.id = id)) ∘ f) =
      fun row => decide (row.id = id) := by
    funext row
    simp only [Function.comp_apply, hf]
  rw [hsame, find]

theorem find_set (now : Timestamptz) (id : Int) (changes : StreamUpdateChanges)
    (table : StreamsTable) (other : Int) :
    (table.set now id changes).find other =
      (table.find other).map fun row => if row.id = id then changed now changes row else row :=
  find_map other table fun row => by split <;> rfl

theorem find_set_self (now : Timestamptz) {id : Int} (changes : StreamUpdateChanges)
    {table : StreamsTable} {row : StreamRow} (h : table.find id = some row) :
    (table.set now id changes).find id = some (changed now changes row) := by
  obtain ⟨-, hid⟩ := find_eq_some_iff.mp h
  rw [find_set, h, Option.map_some, if_pos hid]

end StreamsTable

namespace StreamsDbRepository

/-- An update that goes through found its row, and left on it what it set. -/
theorem update_ok {now : Date} {id : Int} {changes : StreamUpdateChanges}
    {db db' : StreamsDatabase} {updated : Stream}
    (h : update now id changes db = (.ok updated, db')) :
    updated.id = id ∧ ∃ row row', db.streams.find id = some row ∧
      db'.streams.find id = some row' ∧ row'.status = changes.status.getD row.status ∧
      (db' = db ∨ db' = db.setStream now.toTimestamptz id changes) := by
  unfold update at h
  split at h
  · next hempty =>
    have hstatus : changes.status = none := by
      simp only [StreamUpdateChanges.isEmpty, Bool.and_eq_true, Option.isNone_iff_eq_none] at hempty
      exact hempty.1.2
    split at h
    · cases h
    · cases h
    · next stream hfind =>
      simp only [Prod.mk.injEq, Except.ok.injEq] at h
      obtain ⟨rfl, rfl⟩ := h
      unfold findById at hfind
      split at hfind
      · rw [Except.ok.injEq] at hfind
        obtain ⟨row, hrow, rfl⟩ := Option.map_eq_some_iff.mp hfind
        refine ⟨(StreamsTable.find_eq_some_iff.mp hrow).2, row, row, hrow, hrow, ?_, .inl rfl⟩
        rw [hstatus]
        rfl
      · cases hfind
  · split at h
    · split at h
      · cases h
      · next row hrow =>
        split at h
        · simp only [Prod.mk.injEq, Except.ok.injEq] at h
          obtain ⟨rfl, rfl⟩ := h
          exact ⟨(StreamsTable.find_eq_some_iff.mp hrow).2, row, _, hrow,
            StreamsTable.find_set_self _ changes hrow, rfl, .inr rfl⟩
        · cases h
    · cases h

/-- An update that sets something goes through when Postgres takes its values. -/
theorem update_of_takes (now : Date) {id : Int} {changes : StreamUpdateChanges}
    {db : StreamsDatabase} {row : StreamRow} (hne : changes.isEmpty = false)
    (htakes : takes id changes = true) (hrow : db.streams.find id = some row) :
    update now id changes db =
      (.ok (StreamsTable.changed now.toTimestamptz changes row).rowToStream,
        db.setStream now.toTimestamptz id changes) := by
  obtain ⟨haccepts, hfits⟩ := Bool.and_eq_true_iff.mp htakes
  unfold update
  rw [if_neg (by rw [hne]; exact Bool.false_ne_true), if_pos haccepts, hrow]
  exact if_pos hfits

theorem takes_of_update_ok {now : Date} {id : Int} {changes : StreamUpdateChanges}
    {db db' : StreamsDatabase} {updated : Stream} (hne : changes.isEmpty = false)
    (h : update now id changes db = (.ok updated, db')) : takes id changes = true := by
  unfold update at h
  rw [if_neg (by rw [hne]; exact Bool.false_ne_true)] at h
  split at h
  · next haccepts =>
    split at h
    · cases h
    · split at h
      · next hfits => exact Bool.and_eq_true_iff.mpr ⟨haccepts, hfits⟩
      · cases h
  · cases h

/-- Creating a stream leaves the rows that are there. -/
theorem create_rows (pg : Postgres) (now : Date) (params : StreamCreateParams)
    (db : StreamsDatabase) {row : StreamRow} (h : row ∈ db.streams.rows) :
    row ∈ (create pg now params db).2.streams.rows := by
  unfold create
  split
  · split
    · exact List.mem_append_left _ h
    · exact h
  · exact h

/-- Deleting a stream adds no row. -/
theorem delete_rows {id : Int} {db : StreamsDatabase} {row : StreamRow}
    (h : row ∈ (delete id db).2.streams.rows) : row ∈ db.streams.rows := by
  unfold delete at h
  split at h
  · split at h
    · exact h
    · split at h
      · exact (List.mem_filter.mp h).1
      · exact h
  · exact h

/-- A refused update leaves the database as it was. -/
theorem update_error {now : Date} {id : Int} {changes : StreamUpdateChanges}
    {db db' : StreamsDatabase} {e : StreamsException}
    (h : update now id changes db = (.error e, db')) : db' = db := by
  unfold update at h
  split at h
  · split at h <;> cases h <;> rfl
  · split at h
    · split at h
      · cases h
        rfl
      · split at h <;> cases h
        rfl
    · cases h
      rfl

end StreamsDbRepository

/-! ## One step -/

namespace UpdateCall

/-- A call past the check asked for a status that the stream it read may go to. -/
def Checked (call : UpdateCall) : Prop :=
  match call.stage with
  | .writing stream => StreamsService.validateChanges stream call.changes = .ok ()
  | .written stream updated =>
    StreamsService.validateChanges stream call.changes = .ok () ∧ updated.id = call.id
  | _ => True

end UpdateCall

/-- No status may go to itself. -/
theorem not_mem_allowedTransitions (status : StreamStatus) :
    status ∉ allowedTransitions status := by
  cases status <;> decide

theorem ne_of_validateChanges {stream : Stream} {changes : StreamUpdateChanges}
    {status : StreamStatus} (h : StreamsService.validateChanges stream changes = .ok ())
    (hstatus : changes.status = some status) : status ≠ stream.status := by
  rintro rfl
  exact not_mem_allowedTransitions _ (StreamsService.validateChanges_ok_iff.mp h _ hstatus)

namespace Updates

variable {pg : Postgres} {s t : Updates}

theorem goes_calls_self {i : Nat} {call : UpdateCall} (h : s.calls[i]? = some call)
    (stage : UpdateStage) :
    (s.goes i call stage).calls[i]? = some { call with stage := stage } := by
  have hlt := (List.getElem?_eq_some_iff.mp h).1
  rw [goes, List.getElem?_set_self hlt]

theorem goes_calls_ne {i j : Nat} (h : i ≠ j) (call : UpdateCall) (stage : UpdateStage) :
    (s.goes i call stage).calls[j]? = s.calls[j]? := by
  rw [goes, List.getElem?_set_ne h]

theorem owed_eq {i : Nat} {call : UpdateCall} (h : s.calls[i]? = some call) (id : Int)
    (status : StreamStatus) : s.owed i id status = (owes id status call).toNat := by
  rw [owed, h, Option.any_some]

/-- Only the call that moves owes something else. -/
theorem owed_of_goes {i j : Nat} {call : UpdateCall} {stage : UpdateStage}
    (hcalls : t.calls = (s.goes i call stage).calls) (h : i ≠ j) (id : Int)
    (status : StreamStatus) : t.owed j id status = s.owed j id status := by
  rw [owed, owed, hcalls, goes_calls_ne h]

/-- A step that leaves the logs alone, and what every call owes, keeps what is to hold. -/
theorem faithful_of_same (h : s.Faithful) (hpersisted : t.persisted = s.persisted)
    (heffects : t.effects = s.effects)
    (howed : ∀ i id status, t.owed i id status = s.owed i id status) : t.Faithful := by
  refine ⟨hpersisted ▸ h.allowed, ?_, ?_⟩
  · intro i id status
    rw [hpersisted, heffects, howed]
    exact h.webhooks i id status
  · intro i id status
    rw [hpersisted, heffects, howed]
    exact h.sockets i id status

/-- A call that owes nothing moves to a stage where it owes nothing. -/
theorem owed_quiet {i : Nat} {call : UpdateCall} {stage : UpdateStage}
    (h : s.calls[i]? = some call) (hcalls : t.calls = (s.goes i call stage).calls)
    (hbefore : ∀ id status, owes id status call = false)
    (hafter : ∀ id status, owes id status { call with stage := stage } = false) (j : Nat)
    (id : Int) (status : StreamStatus) : t.owed j id status = s.owed j id status := by
  by_cases hij : i = j
  · subst hij
    rw [owed_eq h, hbefore, owed, hcalls, goes_calls_self h, Option.any_some, hafter]
  · exact owed_of_goes hcalls hij id status

/-- A call that goes from owing nothing to owing nothing keeps what is to hold. -/
theorem faithful_quiet {i : Nat} {call : UpdateCall} {stage : UpdateStage} (h : s.Faithful)
    (hcall : s.calls[i]? = some call) (hcalls : t.calls = (s.goes i call stage).calls)
    (hpersisted : t.persisted = s.persisted) (heffects : t.effects = s.effects)
    (hbefore : ∀ id status, owes id status call = false)
    (hafter : ∀ id status, owes id status { call with stage := stage } = false) : t.Faithful :=
  faithful_of_same h hpersisted heffects (owed_quiet hcall hcalls hbefore hafter)

/-- The status of the row that a call changed, and what its UPDATE persisted. -/
theorem changeOf_eq {id : Int} {db db' : StreamsDatabase} {row row' : StreamRow}
    (h : db.streams.find id = some row) (h' : db'.streams.find id = some row') :
    changeOf id db db' =
      if row.status = row'.status then [] else [⟨id, row.status, row'.status⟩] := by
  rw [changeOf, h, h']

/-- What the events of a call add to the counts. -/
theorem countP_sideEffects (now : Date) {changes : StreamUpdateChanges} {stream updated : Stream}
    {i j : Nat} {id : Int} {status : StreamStatus} {p : Nat → Int → StreamStatus →
      Nat × SideEffect → Bool} (hp : p = webhookBy ∨ p = socketBy) :
    ((StreamsService.sideEffectsOf now changes stream updated).map (i, ·)).countP (p j id status) =
      if i = j ∧ updated.id = id ∧ changes.status = some status ∧ status ≠ stream.status then 1
      else 0 := by
  unfold StreamsService.sideEffectsOf
  cases hstatus : changes.status with
  | none => simp
  | some next =>
    by_cases hsame : next = stream.status
    · have hnone : ¬(i = j ∧ updated.id = id ∧ some next = some status ∧ status ≠ stream.status) := by
        rintro ⟨-, -, heq, hne⟩
        exact hne ((Option.some.inj heq).symm.trans hsame)
      rw [if_neg hnone]
      simp [hsame]
    · simp only [ne_eq, hsame, not_false_eq_true, if_true, dispatchStatusSideEffects,
        List.map_cons, List.map_nil, List.countP_cons, List.countP_nil]
      by_cases hall : i = j ∧ updated.id = id ∧ next = status
      · obtain ⟨rfl, rfl, rfl⟩ := hall
        rcases hp with rfl | rfl <;> simp [webhookBy, socketBy, hsame]
      · have hnone : ¬(i = j ∧ updated.id = id ∧ some next = some status ∧
            ¬status = stream.status) := by
          rintro ⟨hij, hid, heq, -⟩
          exact hall ⟨hij, hid, Option.some.inj heq⟩
        have hmiss : ¬(i = j ∧ updated.id = id ∧ statusEvent next = statusEvent status) := by
          rintro ⟨hij, hid, heq⟩
          exact hall ⟨hij, hid, statusEvent_injective heq⟩
        rw [if_neg hnone]
        rcases hp with rfl | rfl
        · have hzero : ¬(i = j ∧ updated.id = id ∧ statusEvent next = statusEvent status ∧
              updated.id = id) := fun h => hmiss ⟨h.1, h.2.1, h.2.2.1⟩
          simp [webhookBy, hzero]
        · have hzero : ¬(i = j ∧ statusEvent next = statusEvent status ∧ updated.id = id) :=
            fun h => hmiss ⟨h.1, h.2.2, h.2.1⟩
          simp [socketBy, hzero]

/-- When the answer to its UPDATE comes, a call emits what it owes. -/
theorem faithful_settle {i : Nat} {now : Date} {call : UpdateCall} {stream updated : Stream}
    (h : s.Faithful) (hcall : s.calls[i]? = some call) (hcheck : call.Checked)
    (hstage : call.stage = .written stream updated) :
    Faithful { s.goes i call (.over (.ok updated)) with
      effects := s.effects ++
        (StreamsService.sideEffectsOf now call.changes stream updated).map (i, ·) } := by
  rw [UpdateCall.Checked, hstage] at hcheck
  -- What the call emits is what it owed, and then it owes nothing.
  have hcount : ∀ (p : Nat → Int → StreamStatus → Nat × SideEffect → Bool),
      p = webhookBy ∨ p = socketBy → ∀ j id status,
      (s.effects ++ (StreamsService.sideEffectsOf now call.changes stream updated).map
        (i, ·)).countP (p j id status) +
        (s.goes i call (.over (.ok updated))).owed j id status =
      s.effects.countP (p j id status) + s.owed j id status := by
    intro p hp j id status
    rw [List.countP_append, countP_sideEffects now hp, hcheck.2]
    by_cases hij : i = j
    · subst hij
      rw [owed_eq hcall, owed, goes_calls_self hcall, Option.any_some, owes, owes, hstage]
      by_cases howes : call.id = id ∧ call.changes.status = some status ∧ status ≠ stream.status
      · simp [howes]
      · simp [howes]
    · rw [owed_of_goes rfl hij]
      simp [hij]
  refine ⟨h.allowed, ?_, ?_⟩
  · intro j id status
    exact (h.webhooks j id status).trans (hcount webhookBy (.inl rfl) j id status).symm
  · intro j id status
    exact (h.sockets j id status).trans (hcount socketBy (.inr rfl) j id status).symm

/-- The answer of a call that owes an event must not be lost. -/
theorem faithful_lose_iff {i : Nat} {call : UpdateCall} {stream updated : Stream}
    {e : StreamsException} (h : s.Faithful) (hcall : s.calls[i]? = some call)
    (hcheck : call.Checked) (hstage : call.stage = .written stream updated) :
    (s.goes i call (.over (.error e))).Faithful ↔ call.changes.status = none := by
  rw [UpdateCall.Checked, hstage] at hcheck
  constructor
  · intro ht
    by_contra hne
    obtain ⟨status, hstatus⟩ := Option.ne_none_iff_exists'.mp hne
    have hstale := ne_of_validateChanges hcheck.1 hstatus
    have hbefore := h.webhooks i call.id status
    have hafter := ht.webhooks i call.id status
    rw [owed, goes_calls_self hcall] at hafter
    rw [owed_eq hcall, owes, hstage] at hbefore
    simp only [hstatus, hstale, ne_eq, not_false_eq_true, and_self, decide_true, Bool.toNat_true]
      at hbefore
    change s.persisted.countP _ = s.effects.countP _ + 0 at hafter
    omega
  · intro hnone
    exact faithful_quiet h hcall rfl rfl rfl (fun id status => by simp [owes, hstage, hnone])
      fun id status => rfl

/-- What a change adds to the counts. -/
theorem countP_change (i j : Nat) (change : StatusChange) (id : Int) (status : StreamStatus) :
    [(i, change)].countP (changeBy j id status) =
      if i = j ∧ change.streamId = id ∧ change.after = status then 1 else 0 := by
  simp [changeBy, List.countP_cons]

/-- After an UPDATE that set a status, all is as it should be when the row was in one from
which the machine allows it, and only then. -/
theorem faithful_write_iff {i : Nat} {call : UpdateCall} {stream updated : Stream}
    {db : StreamsDatabase} {status : StreamStatus} {row row' : StreamRow} (h : s.Faithful)
    (hcall : s.calls[i]? = some call) (hcheck : call.Checked)
    (hstage : call.stage = .writing stream) (hstatus : call.changes.status = some status)
    (hrow : s.db.streams.find call.id = some row) (hrow' : db.streams.find call.id = some row')
    (hset : row'.status = status) :
    Faithful { s.goes i call (.written stream updated) with
      db := db
      persisted := s.persisted ++ (changeOf call.id s.db db).map (i, ·) } ↔
    status ∈ allowedTransitions row.status := by
  rw [UpdateCall.Checked, hstage] at hcheck
  have hstale := ne_of_validateChanges hcheck hstatus
  -- What every call owes once this one has written.
  have howed : ∀ j id next, (s.goes i call (.written stream updated)).owed j id next =
      s.owed j id next + if i = j ∧ call.id = id ∧ status = next then 1 else 0 := by
    intro j id next
    by_cases hij : i = j
    · subst hij
      rw [owed_eq hcall, owed, goes_calls_self hcall, Option.any_some, owes, owes, hstage]
      by_cases hsame : call.id = id ∧ status = next
      · obtain ⟨rfl, rfl⟩ := hsame
        simp [hstatus, hstale]
      · have hnot : ¬(call.id = id ∧ some status = some next ∧ next ≠ stream.status) := by
          rintro ⟨hid, heq, -⟩
          exact hsame ⟨hid, Option.some.inj heq⟩
        simp only [hstatus, hnot, hsame, true_and, decide_false, if_false, Bool.toNat_false]
    · rw [owed_of_goes rfl hij]
      simp [hij]
  rw [changeOf_eq hrow hrow', hset]
  constructor
  · intro ht
    by_contra hbad
    by_cases hunchanged : row.status = status
    · -- The status stays, and yet the call will emit its event.
      have hafter := ht.webhooks i call.id status
      have hbefore := h.webhooks i call.id status
      change _ = _ + (s.goes i call (.written stream updated)).owed i call.id status at hafter
      rw [howed] at hafter
      simp only [hunchanged, if_true, List.map_nil, List.append_nil, and_self, goes] at hafter
      omega
    · have hentry := ht.allowed (i, ⟨call.id, row.status, status⟩) (by simp [hunchanged])
      exact hbad hentry
  · intro hallowed
    have hchanged : row.status ≠ status := by
      rintro rfl
      exact not_mem_allowedTransitions _ hallowed
    rw [if_neg hchanged]
    refine ⟨?_, ?_, ?_⟩
    · intro entry hentry
      rcases List.mem_append.mp hentry with hold | hnew
      · exact h.allowed entry hold
      · rw [List.map_singleton, List.mem_singleton] at hnew
        rw [hnew]
        exact hallowed
    · intro j id next
      have hbefore := h.webhooks j id next
      show (s.persisted ++ _).countP _ = _ + (s.goes i call (.written stream updated)).owed j id next
      rw [List.countP_append, List.map_singleton, countP_change, howed, hbefore]
      exact Nat.add_assoc _ _ _
    · intro j id next
      have hbefore := h.sockets j id next
      show (s.persisted ++ _).countP _ = _ + (s.goes i call (.written stream updated)).owed j id next
      rw [List.countP_append, List.map_singleton, countP_change, howed, hbefore]
      exact Nat.add_assoc _ _ _

/-! ## Every step and every run -/

/-- Every call past the check asked for a status that the machine allows. -/
def Checked (s : Updates) : Prop := ∀ call ∈ s.calls, call.Checked

theorem checked_of_goes {i : Nat} {call : UpdateCall} {stage : UpdateStage} (h : s.Checked)
    (hcalls : t.calls = (s.goes i call stage).calls)
    (hcheck : UpdateCall.Checked { call with stage := stage }) : t.Checked := by
  rw [Checked, hcalls]
  exact forall_mem_set h hcheck

theorem afterRead_checked (call : UpdateCall) (db : StreamsDatabase) :
    UpdateCall.Checked { call with stage := afterRead pg call db } := by
  unfold afterRead
  split
  · trivial
  · split
    · trivial
    · next hvalid => exact hvalid

theorem owes_afterRead (call : UpdateCall) (db : StreamsDatabase) (id : Int)
    (status : StreamStatus) :
    owes id status { call with stage := afterRead pg call db } = false := by
  unfold afterRead
  split
  · rfl
  · split <;> rfl

theorem step_checked {a : Action} (h : s.Checked) (hs : s.step pg a = some t) : t.Checked := by
  cases moves_of_step hs with
  | call id changes =>
    intro call hcall
    rcases List.mem_append.mp hcall with hold | hnew
    · exact h call hold
    · rw [List.mem_singleton.mp hnew]
      trivial
  | read hcall hstage => exact checked_of_goes h rfl (afterRead_checked _ _)
  | @write i call stream now hcall hstage =>
    have hcheck := h call (List.mem_of_getElem? hcall)
    rw [UpdateCall.Checked, hstage] at hcheck
    unfold afterWrite
    split
    · exact checked_of_goes h rfl trivial
    · next updated db hupdate =>
      exact checked_of_goes h rfl ⟨hcheck, (StreamsDbRepository.update_ok hupdate).1⟩
  | settle now hcall hstage => exact checked_of_goes h rfl trivial
  | reject hcall hstage => exact checked_of_goes h rfl trivial
  | lose hcall hstage => exact checked_of_goes h rfl trivial
  | create now params => exact h
  | delete id => exact h

/-- A step keeps what is to hold exactly when it does not write a status that the machine
forbids, and loses no answer that an event waits for. -/
theorem step_faithful_iff {a : Action} (h : s.Faithful) (hchecked : s.Checked)
    (hs : s.step pg a = some t) : t.Faithful ↔ s.WritesAllowed a := by
  cases moves_of_step hs with
  | call id changes =>
    refine iff_of_true (faithful_of_same h rfl rfl ?_) trivial
    intro i id' status
    unfold owed
    rcases lt_trichotomy i s.calls.length with hlt | rfl | hgt
    · rw [List.getElem?_append_left hlt]
    · rw [List.getElem?_concat_length, List.getElem?_eq_none (le_refl _)]
      rfl
    · rw [List.getElem?_eq_none (by simp; omega), List.getElem?_eq_none (by omega)]
  | read hcall hstage =>
    exact iff_of_true (faithful_quiet h hcall rfl rfl rfl (fun _ _ => by rw [owes, hstage])
      (owes_afterRead _ _)) trivial
  | @write i call stream now hcall hstage =>
    have hcheck := hchecked call (List.mem_of_getElem? hcall)
    have howes : ∀ id status, owes id status call = false := fun _ _ => by rw [owes, hstage]
    cases hstatus : call.changes.status with
    | none =>
      -- Without a status the row keeps its own, and no event is due.
      refine iff_of_true ?_ (by simp [WritesAllowed, hcall, hstatus])
      unfold afterWrite
      split
      · exact faithful_quiet h hcall rfl rfl rfl howes fun _ _ => rfl
      · next updated db hupdate =>
        obtain ⟨-, row, row', hrow, hrow', hset, -⟩ := StreamsDbRepository.update_ok hupdate
        have hsame : row.status = row'.status := by
          rw [hset, StreamsService.trimChanges, hstatus]
          rfl
        refine faithful_quiet h hcall rfl ?_ rfl howes fun _ _ => by simp [owes, hstatus]
        rw [changeOf_eq hrow hrow', if_pos hsame]
        exact List.append_nil _
    | some status =>
      have hne : (StreamsService.trimChanges call.changes).isEmpty = false := by
        simp [StreamUpdateChanges.isEmpty, StreamsService.trimChanges, hstatus]
      have hallowed : s.WritesAllowed (.write i now) ↔
          (StreamsDbRepository.takes call.id (StreamsService.trimChanges call.changes) = true →
            ∀ row ∈ s.db.streams.find call.id, status ∈ allowedTransitions row.status) := by
        simp [WritesAllowed, hcall, hstatus]
      rw [hallowed]
      unfold afterWrite
      split
      · next e db hupdate =>
        refine iff_of_true (faithful_quiet h hcall rfl rfl rfl howes fun _ _ => rfl) ?_
        intro htakes row hrow
        rw [StreamsDbRepository.update_of_takes now hne htakes hrow] at hupdate
        cases hupdate
      · next updated db hupdate =>
        have htakes := StreamsDbRepository.takes_of_update_ok hne hupdate
        obtain ⟨-, row, row', hrow, hrow', hset, -⟩ := StreamsDbRepository.update_ok hupdate
        have hset' : row'.status = status := by
          rw [hset, StreamsService.trimChanges, hstatus]
          rfl
        rw [faithful_write_iff h hcall hcheck hstage hstatus hrow hrow' hset']
        simp [htakes, hrow]
  | @settle i call stream updated now hcall hstage =>
    exact iff_of_true (faithful_settle h hcall (hchecked call (List.mem_of_getElem? hcall)) hstage)
      trivial
  | @reject i call hcall hstage =>
    refine iff_of_true (faithful_quiet h hcall rfl rfl rfl ?_ fun _ _ => rfl) trivial
    intro id status
    rcases hstage with hstage | ⟨stream, hstage⟩
    · rw [owes, hstage]
    · rw [owes, hstage]
  | @lose i call stream updated hcall hstage =>
    rw [faithful_lose_iff h hcall (hchecked call (List.mem_of_getElem? hcall)) hstage]
    simp [WritesAllowed, hcall]
  | create now params => exact iff_of_true (faithful_of_same h rfl rfl fun _ _ _ => rfl) trivial
  | delete id => exact iff_of_true (faithful_of_same h rfl rfl fun _ _ _ => rfl) trivial

theorem fresh_faithful (h : s.Fresh) : s.Faithful := by
  obtain ⟨hcalls, hpersisted, heffects⟩ := h
  refine ⟨?_, ?_, ?_⟩
  · intro entry hentry
    rw [hpersisted] at hentry
    cases hentry
  · intro i id status
    simp [hpersisted, heffects, owed, hcalls]
  · intro i id status
    simp [hpersisted, heffects, owed, hcalls]

theorem fresh_checked (h : s.Fresh) : s.Checked := by
  intro call hcall
  rw [h.1] at hcall
  cases hcall

/-- In a run of overlapping calls every state is as it should be exactly when every UPDATE
that sets a status finds its row in one from which the machine allows it, and no answer to
one is lost. -/
theorem updates_faithful_iff {as : List Action} (h : s.Fresh) :
    AllSteps (step pg) (fun _ _ t => t.Faithful) s as ↔
      AllSteps (step pg) (fun s a _ => s.WritesAllowed a) s as := by
  apply allSteps_iff (I := fun s => s.Faithful ∧ s.Checked)
  · exact fun s a t hs hst => step_faithful_iff hs.1 hs.2 hst
  · exact fun s a t hs ht hst => ⟨ht, step_checked hs.2 hst⟩
  · exact ⟨fresh_faithful h, fresh_checked h⟩

/-! ## The log and the condition -/

/-- Every change of a status in the database is in the log. -/
theorem step_persisted {a : Action} (hs : s.step pg a = some t) {id : Int} {row row' : StreamRow}
    (hrow : s.db.streams.find id = some row) (hrow' : t.db.streams.find id = some row')
    (hne : row.status ≠ row'.status) :
    ∃ i, (i, ⟨id, row.status, row'.status⟩) ∈ t.persisted := by
  obtain ⟨hmem, hid⟩ := StreamsTable.find_eq_some_iff.mp hrow
  obtain ⟨hmem', hid'⟩ := StreamsTable.find_eq_some_iff.mp hrow'
  -- A step that keeps the row keeps its status.
  have hkept : t.db.streams.find id = s.db.streams.find id →
      ∃ i, (i, ⟨id, row.status, row'.status⟩) ∈ t.persisted := by
    intro hsame
    rw [hsame, hrow, Option.some.injEq] at hrow'
    exact absurd (congrArg StreamRow.status hrow') hne
  cases moves_of_step hs with
  | call id' changes => exact hkept rfl
  | read hcall hstage => exact hkept rfl
  | settle now hcall hstage => exact hkept rfl
  | reject hcall hstage => exact hkept rfl
  | lose hcall hstage => exact hkept rfl
  | create now params =>
    have hstill := StreamsDbRepository.create_rows pg now params s.db hmem
    rw [StreamsTable.eq_of_id _ hmem' hstill (hid'.trans hid.symm)] at hne
    exact absurd rfl hne
  | delete id' =>
    have hbefore := StreamsDbRepository.delete_rows hmem'
    rw [s.db.streams.eq_of_id hbefore hmem (hid'.trans hid.symm)] at hne
    exact absurd rfl hne
  | @write i call stream now hcall hstage =>
    unfold afterWrite at hrow' ⊢
    split
    · next e db hupdate =>
      simp only [hupdate] at hrow'
      rw [StreamsDbRepository.update_error hupdate, hrow, Option.some.injEq] at hrow'
      exact absurd (congrArg StreamRow.status hrow') hne
    · next updated db hupdate =>
      simp only [hupdate] at hrow'
      obtain ⟨-, old, new, hold, hnew, -, hdb⟩ := StreamsDbRepository.update_ok hupdate
      by_cases hsame : call.id = id
      · rw [hsame] at hold hnew ⊢
        rw [changeOf_eq hrow hrow', if_neg hne]
        exact ⟨i, by simp⟩
      · rcases hdb with rfl | rfl
        · rw [hrow, Option.some.injEq] at hrow'
          exact absurd (congrArg StreamRow.status hrow') hne
        · rw [StreamsDatabase.setStream, StreamsTable.find_set, hrow, Option.map_some,
            if_neg (by rw [hid]; exact fun h => hsame h.symm), Option.some.injEq] at hrow'
          exact absurd (congrArg StreamRow.status hrow') hne

/-- A call whose stream still has the status that the call read writes what it may. -/
theorem writesAllowed_of_unchanged {i : Nat} {now : Date} (h : s.Checked)
    (hsame : ∀ call ∈ s.calls[i]?, ∀ stream, call.stage = .writing stream →
      ∀ row ∈ s.db.streams.find call.id, row.status = stream.status)
    (hs : s.step pg (.write i now) = some t) : s.WritesAllowed (.write i now) := by
  cases moves_of_step hs with
  | @write i call stream now hcall hstage =>
    have hcheck := h call (List.mem_of_getElem? hcall)
    rw [UpdateCall.Checked, hstage] at hcheck
    intro other hother _ status hstatus row hrow
    rw [hcall, Option.mem_some_iff] at hother
    subst hother
    rw [hsame call hcall stream hstage row hrow]
    exact StreamsService.validateChanges_ok_iff.mp hcheck status hstatus

/-! ## A call that nothing interrupts -/

/-- The four steps of a call at one instant. -/
def alone (n : Nat) (now : Date) (id : Int) (changes : StreamUpdateChanges) : List Action :=
  [.call id changes, .read n, .write n now, .settle n now]

/-- A call that nothing interrupts does what `StreamsService.update` does; a refusal ends it
early. -/
theorem run_alone (pg : Postgres) (s : Updates) (now : Date) (id : Int)
    (changes : StreamUpdateChanges) :
    ∃ as t, as <+: alone s.calls.length now id changes ∧ run (step pg) s as = some t ∧
      t.db = (StreamsService.update (StreamsDbRepository.repository pg) now id changes s.db).2 ∧
      (∃ call, t.calls[s.calls.length]? = some call ∧ call.stage = .over
        ((StreamsService.update (StreamsDbRepository.repository pg) now id changes s.db).1.map
          Prod.fst)) ∧
      ∀ updated effects,
        (StreamsService.update (StreamsDbRepository.repository pg) now id changes s.db).1 =
          .ok (updated, effects) →
        t.effects = s.effects ++ effects.map (s.calls.length, ·) := by
  let n := s.calls.length
  let asked : UpdateCall := ⟨id, changes, .reading⟩
  let s₁ : Updates := { s with calls := s.calls ++ [asked] }
  have hcall : s.step pg (.call id changes) = some s₁ := rfl
  have hasked : s₁.calls[n]? = some asked := List.getElem?_concat_length
  have hread : s₁.step pg (.read n) = some (s₁.goes n asked (afterRead pg asked s.db)) := by
    unfold step
    simp only [hasked, asked]
    rfl
  have hstart : ∀ {t}, s₁.goes n asked (afterRead pg asked s.db) = t →
      run (step pg) s [.call id changes, .read n] = some t := by
    rintro t rfl
    exact run_cons_eq_some.mpr ⟨s₁, hcall, run_cons_eq_some.mpr ⟨_, hread, rfl⟩⟩
  unfold StreamsService.update
  cases hfind : StreamsService.findById (StreamsDbRepository.repository pg) id s.db with
  | error e =>
    have hafter : afterRead pg asked s.db = .over (.error e) := by
      simp only [afterRead, asked, hfind]
    refine ⟨_, s₁.goes n asked (.over (.error e)), ⟨[.write n now, .settle n now], rfl⟩,
      hstart (by rw [hafter]), rfl, ⟨_, goes_calls_self hasked _, rfl⟩, ?_⟩
    intro updated effects h
    cases h
  | ok stream =>
    cases hvalid : StreamsService.validateChanges stream changes with
    | error e =>
      have hafter : afterRead pg asked s.db = .over (.error e) := by
        simp only [afterRead, asked, hfind, hvalid]
      simp only [hvalid]
      refine ⟨_, s₁.goes n asked (.over (.error e)), ⟨[.write n now, .settle n now], rfl⟩,
        hstart (by rw [hafter]), rfl, ⟨_, goes_calls_self hasked _, rfl⟩, ?_⟩
      intro updated effects h
      cases h
    | ok checked =>
      have hafter : afterRead pg asked s.db = .writing stream := by
        simp only [afterRead, asked, hfind, hvalid]
      let s₂ := s₁.goes n asked (.writing stream)
      let checkedCall : UpdateCall := { asked with stage := .writing stream }
      have hchecked : s₂.calls[n]? = some checkedCall := goes_calls_self hasked _
      have hwrite : s₂.step pg (.write n now) = some (s₂.afterWrite n now checkedCall stream) := by
        unfold step
        simp only [hchecked, checkedCall]
      have hwritten : ∀ {t}, s₂.afterWrite n now checkedCall stream = t →
          run (step pg) s [.call id changes, .read n, .write n now] = some t := by
        rintro t rfl
        show run (step pg) s ([Action.call id changes, Action.read n] ++ [Action.write n now]) = _
        rw [run_append, hstart (by rw [hafter]), Option.bind_some]
        exact run_cons_eq_some.mpr ⟨_, hwrite, rfl⟩
      have hrepository : (StreamsDbRepository.repository pg).update now id
          (StreamsService.trimChanges changes) s.db =
          StreamsDbRepository.update now id (StreamsService.trimChanges changes) s.db := rfl
      simp only [hvalid, hrepository]
      cases hupdate : StreamsDbRepository.update now id (StreamsService.trimChanges changes)
          s.db with
      | mk result db =>
        have hdb : StreamsDbRepository.update now checkedCall.id
            (StreamsService.trimChanges checkedCall.changes) s₂.db = (result, db) := hupdate
        cases result with
        | error e =>
          refine ⟨_, { s₂.goes n checkedCall (.over (.error e)) with db := db },
            ⟨[.settle n now], rfl⟩, hwritten (by rw [afterWrite, hdb]), rfl,
            ⟨_, goes_calls_self hchecked _, rfl⟩, ?_⟩
          intro updated effects h
          cases h
        | ok updated =>
          let s₃ : Updates := { s₂.goes n checkedCall (.written stream updated) with
            db := db
            persisted := s₂.persisted ++ (changeOf checkedCall.id s₂.db db).map (n, ·) }
          let writtenCall : UpdateCall := { checkedCall with stage := .written stream updated }
          have hwrittenCall : s₃.calls[n]? = some writtenCall := goes_calls_self hchecked _
          let s₄ : Updates := { s₃.goes n writtenCall (.over (.ok updated)) with
            effects := s₃.effects ++
              (StreamsService.sideEffectsOf now changes stream updated).map (n, ·) }
          have hsettle : s₃.step pg (.settle n now) = some s₄ := by
            unfold step
            simp only [hwrittenCall, writtenCall]
            rfl
          refine ⟨alone n now id changes, s₄, List.prefix_rfl, ?_, rfl,
            ⟨_, goes_calls_self hwrittenCall _, rfl⟩, ?_⟩
          · show run (step pg) s ([Action.call id changes, Action.read n, Action.write n now] ++
              [Action.settle n now]) = _
            rw [run_append, hwritten (by rw [afterWrite, hdb]), Option.bind_some]
            exact run_cons_eq_some.mpr ⟨_, hsettle, rfl⟩
          · intro updated' effects h
            simp only [Except.ok.injEq, Prod.mk.injEq] at h
            obtain ⟨rfl, rfl⟩ := h
            rfl

/-! ## Two calls on one stream -/

instance : ∀ (s : Updates) (a : Action), Decidable (s.WritesAllowed a)
  | s, .write i _ => inferInstanceAs (Decidable (∀ call ∈ s.calls[i]?,
      StreamsDbRepository.takes call.id (StreamsService.trimChanges call.changes) = true →
      ∀ status ∈ call.changes.status, ∀ row ∈ s.db.streams.find call.id,
        status ∈ allowedTransitions row.status))
  | s, .lose i => inferInstanceAs (Decidable (∀ call ∈ s.calls[i]?, call.changes.status = none))
  | _, .call _ _ => isTrue trivial
  | _, .read _ => isTrue trivial
  | _, .settle _ _ => isTrue trivial
  | _, .reject _ => isTrue trivial
  | _, .create _ _ => isTrue trivial
  | _, .delete _ => isTrue trivial

/-- Two inactive streams, and no call yet. -/
def idle : Updates := ⟨twoStreams ⟨1000⟩, [], [], []⟩

def toStatus (status : StreamStatus) : StreamUpdateChanges := ⟨none, none, some status, none⟩

/-- Stream 1 is started, and then stopped. -/
def startedAndStopped : List Action :=
  alone 0 ⟨1⟩ 1 (toStatus .active) ++ alone 1 ⟨2⟩ 1 (toStatus .inactive)

theorem updates_faithful_iff_startedAndStopped :
    (run (step plainPostgres) idle startedAndStopped).isSome = true ∧
      AllSteps (step plainPostgres) (fun _ _ t => t.Faithful) idle startedAndStopped :=
  ⟨by decide +kernel, (updates_faithful_iff ⟨rfl, rfl, rfl⟩).mpr (by decide +kernel)⟩

/-- Both calls find stream 1 inactive.  One sets it to `error`, and then the other to
`active`. -/
def overtaken : List Action :=
  [.call 1 (toStatus .error), .call 1 (toStatus .active), .read 0, .read 1, .write 0 ⟨1⟩,
    .write 1 ⟨2⟩]

/-- The database goes from `error` to `active`, which the status machine forbids. -/
theorem updates_error_to_active :
    ¬∀ (pg : Postgres) (s t : Updates) (as : List Action), s.Fresh →
      run (step pg) s as = some t → t.Faithful := by
  intro h
  have hlog : (run (step plainPostgres) idle overtaken).map (fun t => t.persisted) =
      some [(0, ⟨1, .inactive, .error⟩), (1, ⟨1, .error, .active⟩)] := by decide +kernel
  obtain ⟨t, ht, hpersisted⟩ := Option.map_eq_some_iff.mp hlog
  have hallowed := (h plainPostgres idle t overtaken ⟨rfl, rfl, rfl⟩ ht).allowed
    (1, ⟨1, .error, .active⟩) (by rw [hpersisted]; simp)
  exact absurd hallowed (by decide)

end Updates

end Api
end XStreamRoll
