/-
Whose streams a request sees, and whose it touches.

Between the query of the guard and the statement of the handler the stream can go away, but no
other comes under its id: a key is not given out again and `user_id` is never written.  A row is
therefore inserted, changed and deleted by requests of its own user only.

The analytics in the cache may be old.  They are what two queries made of the events of the
stream, and whoever is shown them owned the stream when the guard asked.  The cache serves them
for a minute if it is in memory, and for a thousand minutes if it is in Redis.
-/
import Mathlib
import XStreamRoll.Table
import XStreamRoll.Transition.Past
import XStreamRoll.Api.Streams.Controller
import XStreamRoll.Api.Streams.Pages

namespace XStreamRoll
namespace Api

open Transition

/-! ## The streams as a table -/

namespace StreamsTable

def toTable (table : StreamsTable) : IntTable StreamRow StreamRow.id :=
  ⟨table.rows, table.nextId, table.primaryKey, fun row hrow => (table.serial row hrow).2⟩

theorem changed_id (now : Timestamptz) (changes : StreamUpdateChanges) (row : StreamRow) :
    (changed now changes row).id = row.id := rfl

theorem toTable_insert (table : StreamsTable) (now : Timestamptz) (params : StreamCreateParams)
    (h : table.nextId ≤ 2147483647) : (table.insert now params h).toTable =
      table.toTable.insert (fun id => { table.created now params with id }) (fun _ => rfl) := rfl

theorem toTable_set (table : StreamsTable) (now : Timestamptz) (id : Int)
    (changes : StreamUpdateChanges) : (table.set now id changes).toTable =
      table.toTable.modify (fun row => row.id = id) (changed now changes)
        (changed_id now changes) := by
  apply Table.ext
  · simp [toTable, set, Table.modify]
  · rfl

theorem toTable_erase (table : StreamsTable) (id : Int) :
    (table.erase id).toTable = table.toTable.delete fun row => row.id = id := by
  apply Table.ext
  · simp [toTable, erase, Table.delete]
  · rfl

end StreamsTable

namespace StreamsDatabase

/-- What no statement changes about the streams. -/
def Evolves (db db' : StreamsDatabase) : Prop :=
  db.streams.toTable.Evolves StreamRow.userId db'.streams.toTable

/-- The stream is the user's, as long as there is one. -/
def Owns (db : StreamsDatabase) (userId id : Int) : Prop :=
  db.streams.toTable.Knows StreamRow.userId userId id

/-- The rows of the user. -/
def streamsOf (userId : Int) (db : StreamsDatabase) : List StreamRow :=
  db.streams.rows.filter fun row => row.userId = userId

end StreamsDatabase

/-! ## The statements -/

namespace StreamsDbRepository

variable {db : StreamsDatabase}

theorem create_evolves (pg : Postgres) (now : Date) (params : StreamCreateParams)
    (db : StreamsDatabase) : db.Evolves (create pg now params db).2 := by
  unfold create
  split
  · next h =>
    split
    · show Table.Evolves _ _ (db.streams.insert now.toTimestamptz params h.2).toTable
      rw [StreamsTable.toTable_insert]
      exact Table.evolves_insert fun _ => rfl
    · have unchanged : db.Evolves db := .refl _
      exact ⟨Int.le_add_one (le_refl db.streams.nextId), unchanged.rows⟩
  · exact .refl _

/-- What an UPDATE comes to. -/
theorem update_eq (now : Date) (id : Int) (changes : StreamUpdateChanges) (db : StreamsDatabase) :
    (update now id changes db).2 = db ∨
      (update now id changes db).2 = db.setStream now.toTimestamptz id changes := by
  unfold update
  dsimp only
  split
  · split <;> exact .inl rfl
  · split
    · split
      · exact .inl rfl
      · split
        · exact .inr rfl
        · exact .inl rfl
    · exact .inl rfl

theorem update_evolves (now : Date) (id : Int) (changes : StreamUpdateChanges)
    (db : StreamsDatabase) : db.Evolves (update now id changes db).2 := by
  rcases update_eq now id changes db with heq | heq
  · rw [heq]
    exact .refl _
  · rw [heq]
    show Table.Evolves _ _ (db.streams.set now.toTimestamptz id changes).toTable
    rw [StreamsTable.toTable_set]
    exact Table.evolves_modify (StreamsTable.changed_id _ changes) fun _ => rfl

theorem delete_eq (id : Int) (db : StreamsDatabase) :
    (delete id db).2 = db ∨ ∃ h, (delete id db).2 = db.eraseStream id h := by
  unfold delete
  split
  · split
    · exact .inl rfl
    · split
      · next h => exact .inr ⟨h, rfl⟩
      · exact .inl rfl
  · exact .inl rfl

theorem delete_evolves (id : Int) (db : StreamsDatabase) : db.Evolves (delete id db).2 := by
  rcases delete_eq id db with heq | ⟨h, heq⟩
  · rw [heq]
    exact .refl _
  · rw [heq]
    show Table.Evolves _ _ (db.streams.erase id).toTable
    rw [StreamsTable.toTable_erase]
    exact Table.evolves_delete

/-- `stream_data` is another table. -/
theorem ingestEvent_streams (pg : Postgres) (now : Date) (dto : IngestStreamEventDto)
    (db : StreamsDatabase) :
    (StreamsService.ingestEvent (repository pg) now dto db).2.streams = db.streams := by
  unfold StreamsService.ingestEvent
  split
  · split
    · rfl
    · show (insertPendingEvent pg now _ _ db).2.streams = db.streams
      unfold insertPendingEvent
      split
      · split
        · rfl
        · split <;> rfl
      · rfl
  · rfl

/-- The row that `update` returns is the one of the id. -/
theorem update_userId {now : Date} {id : Int} {changes : StreamUpdateChanges} {updated : Stream}
    (h : (update now id changes db).1 = .ok updated) :
    ∃ row, db.streams.find id = some row ∧ updated.userId = row.userId := by
  unfold update at h
  dsimp only at h
  split at h
  · split at h
    · cases h
    · cases h
    · next stream hfind =>
      cases h
      unfold findById at hfind
      split at hfind
      · rw [Except.ok.injEq] at hfind
        obtain ⟨row, hrow, rfl⟩ := Option.map_eq_some_iff.mp hfind
        exact ⟨row, hrow, rfl⟩
      · cases hfind
  · split at h
    · split at h
      · cases h
      · next row hrow =>
        split at h
        · cases h
          exact ⟨row, hrow, rfl⟩
        · cases h
    · cases h

theorem create_userId {pg : Postgres} {now : Date} {params : StreamCreateParams} {stream : Stream}
    (h : (create pg now params db).1 = .ok stream) : stream.userId = params.userId := by
  unfold create at h
  split at h
  · split at h
    · cases h
      rfl
    · cases h
  · cases h

end StreamsDbRepository

namespace StreamsController

variable {pg : Postgres} {numbers : PathNumbers} {setup : Setup} {s t : StreamsController}

/-! ## What no step changes -/

theorem executed_evolves (pg : Postgres) (setup : Setup) (s : StreamsController) (await : Await) :
    s.db.Evolves (s.executed pg setup await).db := by
  cases await with
  | insert params => exact StreamsDbRepository.create_evolves pg s.now params s.db
  | update id changes => exact StreamsDbRepository.update_evolves s.now id _ s.db
  | delete id =>
    show s.db.Evolves (s.erased id).2
    unfold erased
    split
    · exact .refl _
    · exact StreamsDbRepository.delete_evolves id s.db
  | _ => exact .refl _

theorem executed_now (pg : Postgres) (setup : Setup) (s : StreamsController) (await : Await) :
    (s.executed pg setup await).now = s.now := by
  cases await <;> rfl

theorem executed_calls (pg : Postgres) (setup : Setup) (s : StreamsController) (await : Await) :
    (s.executed pg setup await).calls = s.calls := by
  cases await <;> rfl

theorem executed_answers (pg : Postgres) (setup : Setup) (s : StreamsController) (await : Await) :
    (s.executed pg setup await).answers = s.answers := by
  cases await <;> rfl

@[simp] theorem settle_db (i : Nat) (userId : Int) (s : StreamsController) (outcome : Outcome) :
    (s.settle i userId outcome).db = s.db := by
  cases outcome <;> rfl

@[simp] theorem settle_now (i : Nat) (userId : Int) (s : StreamsController) (outcome : Outcome) :
    (s.settle i userId outcome).now = s.now := by
  cases outcome <;> rfl

@[simp] theorem settle_cache (i : Nat) (userId : Int) (s : StreamsController) (outcome : Outcome) :
    (s.settle i userId outcome).cache = s.cache := by
  cases outcome <;> rfl

/-- The request whose turn it is, by its place. -/
def Action.turn : Action → Option Nat
  | .resume i | .reject i _ => some i
  | _ => none

/-- A turn executes the statement or does not, and answers what it returns or a failure. -/
theorem turn_eq {a : Action} {i : Nat} (hturn : a.turn = some i)
    (hs : step pg numbers setup s a = some t) :
    ∃ call outcome u, s.calls[i]? = some call ∧ t = u.settle i call.userId outcome ∧
      (u = s.executed pg setup call.await ∨ u = s) ∧
      (a = .resume i ∧ outcome = s.outcome pg setup call.userId call.await ∨
        outcome = throws databaseUnavailable) := by
  cases a with
  | advance | record | ingest | evict | request => cases hturn
  | resume j =>
    cases hturn
    obtain ⟨call, hcall, rfl⟩ := Option.map_eq_some_iff.mp hs
    exact ⟨call, _, _, hcall, rfl, .inl rfl, .inl ⟨rfl, rfl⟩⟩
  | reject j executed =>
    cases hturn
    obtain ⟨call, hcall, rfl⟩ := Option.map_eq_some_iff.mp hs
    refine ⟨call, _, _, hcall, rfl, ?_, .inr rfl⟩
    cases executed with
    | true => exact .inl rfl
    | false => exact .inr rfl

/-- What is no turn leaves the streams and the answers alone, but for an id that is no number. -/
theorem other_eq {a : Action} (hturn : a.turn = none) (hs : step pg numbers setup s a = some t) :
    t.db.streams = s.db.streams := by
  cases a with
  | advance | evict =>
    cases hs
    rfl
  | record event =>
    rw [step] at hs
    split at hs
    · cases hs
      rfl
    · cases hs
  | ingest dto =>
    cases hs
    exact StreamsDbRepository.ingestEvent_streams pg s.now dto s.db
  | request userId request =>
    cases hs
    unfold begin
    split <;> rfl
  | resume | reject => cases hturn

theorem step_evolves {a : Action} (hs : step pg numbers setup s a = some t) :
    s.db.Evolves t.db := by
  cases hturn : a.turn with
  | none =>
    show Table.Evolves _ s.db.streams.toTable t.db.streams.toTable
    rw [other_eq hturn hs]
    exact .refl _
  | some i =>
    obtain ⟨call, outcome, u, -, rfl, rfl | rfl, -⟩ := turn_eq hturn hs
    · rw [settle_db]
      exact executed_evolves pg setup s call.await
    · rw [settle_db]
      exact .refl _

/-! ## What a request knows -/

/-- The stream that the handler is about. -/
def Await.streamId? : Await → Option Int
  | .insert _ | .owns _ _ _ => none
  | .findById id | .findUpdate id _ | .findAnalytics id | .findEvents id | .update id _
  | .delete id | .cached id | .stats id | .series id _ => some id
  | .store m => some m.streamId

structure Knows (numbers : PathNumbers) (db : StreamsDatabase) (userId : Int) (await : Await) :
    Prop where
  insert : ∀ params, await = .insert params → params.userId = userId
  path : ∀ streamId path route, await = .owns streamId path route →
    numbers.ofText path = some streamId
  owned : ∀ id ∈ await.streamId?, db.Owns userId id

theorem Knows.evolve {userId : Int} {await : Await} {db db' : StreamsDatabase}
    (h : Knows numbers db userId await) (evolves : db.Evolves db') :
    Knows numbers db' userId await :=
  ⟨h.insert, h.path, fun id hid => (h.owned id hid).evolve evolves⟩

theorem found_eq (pg : Postgres) (id : Int) (next : Stream → Outcome) (s : StreamsController) :
    (∃ e, s.found pg id next = throws e) ∨
      ∃ row, s.db.streams.find id = some row ∧ s.found pg id next = next row.rowToStream := by
  unfold found
  split
  · next e _ => exact .inl ⟨e, rfl⟩
  · next stream hfind =>
    unfold StreamsService.findById at hfind
    split at hfind
    · cases hfind
    · cases hfind
    · next same hrepo =>
      cases hfind
      change StreamsDbRepository.findById id s.db.streams = .ok (some stream) at hrepo
      unfold StreamsDbRepository.findById at hrepo
      split at hrepo
      · rw [Except.ok.injEq] at hrepo
        obtain ⟨row, hrow, rfl⟩ := Option.map_eq_some_iff.mp hrepo
        exact .inr ⟨row, hrow, rfl⟩
      · cases hrepo

theorem throws_ne {e : StreamsException} {next : Await} : throws e ≠ .waits next := by
  intro h
  cases h

/-- The query of the guard about the stream finds it to be the user's. -/
def Passes (s : StreamsController) (userId id : Int) (await : Await) : Prop :=
  (∃ path route, await = .owns id path route) ∧
    ∃ row, s.db.streams.find id = some row ∧ row.userId = userId

/-- The stream that the request goes on about is the one before, or the guard has found it to be
the user's. -/
theorem outcome_waits {userId : Int} {await next : Await} (known : Knows numbers s.db userId await)
    (h : s.outcome pg setup userId await = .waits next) :
    ∃ id, next.streamId? = some id ∧ (await.streamId? = some id ∨ s.Passes userId id await) := by
  have again : ∀ {id : Int} {after : Stream → Outcome}, s.found pg id after = .waits next →
      (∀ stream, after stream = .waits next → next.streamId? = some id) →
      next.streamId? = some id := by
    intro id after hfound hnext
    rcases found_eq pg id after s with ⟨e, heq⟩ | ⟨row, -, heq⟩
    · rw [heq] at hfound
      exact absurd hfound throws_ne
    · exact hnext row.rowToStream (heq ▸ hfound)
  cases await with
  | insert params =>
    rw [outcome] at h
    split at h <;> cases h
  | owns streamId path route =>
    have hpath := known.path streamId path route rfl
    rw [outcome] at h
    split at h
    · next hfits =>
      split at h
      · next howns =>
        obtain ⟨row, hrow, huser⟩ := Option.any_eq_true _ _ |>.mp howns
        unfold Route.handle at h
        split at h
        · cases h
        · next id hid =>
          have same : id = streamId := numbers.ofText_digits path id streamId hid hpath hfits
          subst same
          refine ⟨id, ?_, .inr ⟨⟨path, route, rfl⟩, row, hrow, of_decide_eq_true huser⟩⟩
          cases route <;> cases h <;> rfl
      · cases h
    · cases h
  | findById id => exact ⟨id, again h (fun _ hnext => nomatch hnext), .inl rfl⟩
  | findUpdate id changes =>
    refine ⟨id, again h fun stream hnext => ?_, .inl rfl⟩
    split at hnext
    · cases hnext
    · cases hnext
      rfl
  | findAnalytics id =>
    refine ⟨id, again h fun stream hnext => ?_, .inl rfl⟩
    cases hnext
    rfl
  | findEvents id => exact ⟨id, again h (fun _ hnext => nomatch hnext), .inl rfl⟩
  | update id changes =>
    rw [outcome] at h
    split at h <;> cases h
  | delete id =>
    rw [outcome] at h
    split at h <;> cases h
  | cached id =>
    rw [outcome] at h
    split at h
    · cases h
    · cases h
      exact ⟨id, rfl, .inl rfl⟩
  | stats id | series id first =>
    cases h
    exact ⟨id, rfl, .inl rfl⟩
  | store m => cases h

/-- Nobody waits for an INSERT or for the guard behind a turn. -/
theorem streamId?_none {await : Await} {id : Int} (h : await.streamId? = some id) :
    (∀ params, await ≠ .insert params) ∧ ∀ streamId path route, await ≠ .owns streamId path route := by
  constructor
  · rintro params rfl
    cases h
  · rintro streamId path route rfl
    cases h

theorem outcome_knows {userId : Int} {await next : Await} (known : Knows numbers s.db userId await)
    (h : s.outcome pg setup userId await = .waits next) : Knows numbers s.db userId next := by
  obtain ⟨id, hid, before⟩ := outcome_waits known h
  obtain ⟨noInsert, noGuard⟩ := streamId?_none hid
  refine ⟨fun params heq => absurd heq (noInsert params),
    fun streamId path route heq => absurd heq (noGuard streamId path route), ?_⟩
  intro other hother
  rw [hid, Option.mem_some_iff] at hother
  subst hother
  rcases before with same | ⟨-, row, hrow, rfl⟩
  · exact known.owned id same
  · exact Table.Knows.of_find hrow

theorem start_knows {userId : Int} {request : Request} {next : Await}
    (h : request.start numbers userId = .waits next) (db : StreamsDatabase) :
    Knows numbers db userId next := by
  cases request with
  | create body =>
    cases h
    refine ⟨?_, (fun _ _ _ heq => nomatch heq), (fun _ hid => nomatch hid)⟩
    rintro params heq
    cases heq
    rfl
  | onStream path route =>
    rw [Request.start] at h
    split at h
    · cases h
    · next streamId hnumber =>
      cases h
      refine ⟨(fun _ heq => nomatch heq), ?_, (fun _ hid => nomatch hid)⟩
      rintro streamId' path' route' heq
      cases heq
      exact (Option.filter_eq_some_iff.mp hnumber).1

/-- Every request knows what it needs to. -/
def Sound (numbers : PathNumbers) (s : StreamsController) : Prop :=
  ∀ call ∈ s.calls, Knows numbers s.db call.userId call.await

theorem Sound.step {a : Action} (h : s.Sound numbers) (hs : step pg numbers setup s a = some t) :
    t.Sound numbers := by
  have evolves := step_evolves hs
  have earlier : ∀ call ∈ s.calls, Knows numbers t.db call.userId call.await :=
    fun call hcall => (h call hcall).evolve evolves
  cases hturn : a.turn with
  | none =>
    cases a with
    | advance | evict =>
      cases hs
      exact earlier
    | record event =>
      rw [StreamsController.step] at hs
      split at hs
      · cases hs
        exact earlier
      · cases hs
    | ingest dto =>
      cases hs
      exact earlier
    | request userId request =>
      cases hs
      cases hstart : request.start numbers userId with
      | waits await =>
        rw [hstart] at earlier
        intro call hcall
        rcases List.mem_append.mp hcall with hold | hnew
        · exact earlier call hold
        · rw [List.mem_singleton.mp hnew]
          exact start_knows hstart _
      | answers answer =>
        rw [hstart] at earlier
        exact earlier
    | resume | reject => cases hturn
  | some i =>
    obtain ⟨call, outcome, u, hcall, rfl, hu, hout⟩ := turn_eq hturn hs
    have same : u.calls = s.calls := by
      rcases hu with rfl | rfl
      · exact executed_calls pg setup s call.await
      · rfl
    rw [settle_db] at evolves earlier
    intro other hother
    cases outcome with
    | waits next =>
      rcases hout with ⟨-, hout⟩ | hout
      · rcases List.mem_or_eq_of_mem_set (hother : other ∈ u.calls.set _ _) with hold | rfl
        · rw [same] at hold
          exact earlier other hold
        · have known := h call (List.mem_of_getElem? hcall)
          exact (outcome_knows known hout.symm).evolve evolves
      · cases hout
    | answers answer =>
      have hold := List.mem_of_mem_eraseIdx (hother : other ∈ u.calls.eraseIdx _)
      rw [same] at hold
      exact earlier other hold

/-! ## What a statement writes and what an answer shows -/

/-- The statement of a request leaves alone what is somebody else's. -/
theorem executed_streamsOf {userId v : Int} {await : Await}
    (known : Knows numbers s.db userId await) (hne : v ≠ userId) :
    (s.executed pg setup await).db.streamsOf v = s.db.streamsOf v := by
  have apart : ∀ {id : Int}, await.streamId? = some id → ∀ row ∈ s.db.streams.rows,
      decide (row.id = id) = true → row.userId ≠ v := by
    intro id hid row hrow hrowid heq
    have owner : row.userId = userId := (known.owned id hid).2 row
      (Table.find_eq_some_iff.mpr ⟨hrow, of_decide_eq_true hrowid⟩)
    exact hne (heq.symm.trans owner)
  cases await with
  | insert params =>
    have huser : params.userId = userId := known.insert params rfl
    show (StreamsDbRepository.create pg s.now params s.db).2.streamsOf v = _
    unfold StreamsDbRepository.create
    split
    · split
      · next h _ =>
        show (s.db.streams.insert _ params h.2).toTable.rows.filter _ = _
        rw [StreamsTable.toTable_insert]
        refine Table.filter_insert _ ?_
        show decide (params.userId = v) = false
        rw [huser]
        exact decide_eq_false hne.symm
      · rfl
    · rfl
  | update id changes =>
    rcases StreamsDbRepository.update_eq s.now id (StreamsService.trimChanges changes) s.db with
      heq | heq
    · exact congrArg (StreamsDatabase.streamsOf v) heq
    · refine (congrArg (StreamsDatabase.streamsOf v) heq).trans ?_
      show (s.db.streams.set _ id _).toTable.rows.filter _ = _
      rw [StreamsTable.toTable_set]
      refine Table.filter_modify (StreamsTable.changed_id _ _) fun row hrow hid => ?_
      have other := apart rfl row hrow hid
      exact ⟨decide_eq_false other, decide_eq_false other⟩
  | delete id =>
    show (s.erased id).2.streamsOf v = _
    unfold erased
    split
    · rfl
    · rcases StreamsDbRepository.delete_eq id s.db with heq | ⟨h, heq⟩
      · rw [heq]
      · rw [heq]
        show (s.db.streams.erase id).toTable.rows.filter _ = _
        rw [StreamsTable.toTable_erase]
        exact Table.filter_delete fun row hrow hid => decide_eq_false (apart rfl row hrow hid)
  | _ => rfl

/-- A stream that is shown is the user's. -/
def Answer.Concerns (userId : Int) (answer : Answer) : Prop :=
  ∀ shown, answer = .stream shown → shown.userId = userId.repr

theorem throws_concerns {userId : Int} {e : StreamsException} {answer : Answer}
    (h : throws e = .answers answer) : answer.Concerns userId := by
  cases h
  exact fun _ heq => nomatch heq

theorem outcome_concerns {userId : Int} {await : Await} {answer : Answer}
    (known : Knows numbers s.db userId await)
    (h : s.outcome pg setup userId await = .answers answer) : answer.Concerns userId := by
  have again : ∀ {id : Int} {after : Stream → Outcome}, s.found pg id after = .answers answer →
      (∀ row, s.db.streams.find id = some row → after row.rowToStream = .answers answer →
        answer.Concerns userId) → answer.Concerns userId := by
    intro id after hfound hnext
    rcases found_eq pg id after s with ⟨e, heq⟩ | ⟨row, hrow, heq⟩
    · exact throws_concerns (heq.symm.trans hfound)
    · exact hnext row hrow (heq.symm.trans hfound)
  cases await with
  | insert params =>
    rw [outcome] at h
    split at h
    · exact throws_concerns h
    · next stream hcreate =>
      cases h
      intro shown heq
      cases heq
      show stream.userId.repr = userId.repr
      rw [StreamsDbRepository.create_userId hcreate, known.insert params rfl]
  | owns streamId path route =>
    rw [outcome] at h
    split at h
    · split at h
      · unfold Route.handle at h
        split at h
        · cases h
          exact fun _ heq => nomatch heq
        · cases route <;> cases h
      · cases h
        exact fun _ heq => nomatch heq
    · exact throws_concerns h
  | findById id =>
    refine again h fun row hrow hnext => ?_
    cases hnext
    intro shown heq
    cases heq
    exact congrArg Int.repr ((known.owned id rfl).2 row hrow)
  | findUpdate id changes =>
    refine again h fun row _ hnext => ?_
    split at hnext
    · exact throws_concerns hnext
    · cases hnext
  | findAnalytics id => exact again h fun _ _ hnext => nomatch hnext
  | findEvents id => exact again h fun _ _ hnext => throws_concerns hnext
  | update id changes =>
    rw [outcome] at h
    split at h
    · exact throws_concerns h
    · next updated hupdate =>
      cases h
      intro shown heq
      cases heq
      obtain ⟨row, hrow, huser⟩ := StreamsDbRepository.update_userId hupdate
      exact congrArg Int.repr (huser.trans ((known.owned id rfl).2 row hrow))
  | delete id =>
    rw [outcome] at h
    split at h
    · exact throws_concerns h
    · exact throws_concerns h
    · cases h
      exact fun _ heq => nomatch heq
  | cached id =>
    rw [outcome] at h
    split at h
    · cases h
      exact fun _ heq => nomatch heq
    · cases h
  | stats id | series id first => cases h
  | store m =>
    cases h
    exact fun _ heq => nomatch heq

/-! ## Runs -/

/-- A step leaves alone the streams of everybody but the user whose turn it is, and shows nobody
a stream of somebody else's. -/
structure Isolated (s : StreamsController) (a : Action) (t : StreamsController) : Prop where
  untouched : ∀ v, (∀ i call, a.turn = some i → s.calls[i]? = some call → v ≠ call.userId) →
    t.db.streamsOf v = s.db.streamsOf v
  unseen : ∀ sent, t.answers = s.answers ++ [sent] → sent.answer.Concerns sent.userId

theorem start_concerns {userId : Int} {request : Request} {answer : Answer}
    (h : request.start numbers userId = .answers answer) : answer.Concerns userId := by
  cases request with
  | create body => cases h
  | onStream path route =>
    rw [Request.start] at h
    split at h
    · cases h
      exact fun _ heq => nomatch heq
    · cases h

/-- What is new among the answers is what the outcome says. -/
theorem answers_concat {userId : Int} {outcome : Outcome} {u t : StreamsController} {sent : Sent}
    (settled : (∃ i, t = u.settle i userId outcome) ∨ t = u.begin userId outcome)
    (h : t.answers = u.answers ++ [sent]) :
    sent.userId = userId ∧ outcome = .answers sent.answer := by
  cases outcome with
  | waits next =>
    have same : u.answers = u.answers ++ [sent] := by
      rcases settled with ⟨i, rfl⟩ | rfl <;> exact h
    simp at same
  | answers answer =>
    have same : u.answers ++ [⟨userId, answer, u.now⟩] = u.answers ++ [sent] := by
      rcases settled with ⟨i, rfl⟩ | rfl <;> exact h
    rw [List.append_cancel_left_eq, List.cons.injEq] at same
    rw [← same.1]
    exact ⟨rfl, rfl⟩

theorem Sound.isolated {a : Action} (h : s.Sound numbers)
    (hs : StreamsController.step pg numbers setup s a = some t) : Isolated s a t := by
  cases hturn : a.turn with
  | none =>
    have same : ∀ v, t.db.streamsOf v = s.db.streamsOf v := fun v =>
      congrArg (fun table : StreamsTable => table.rows.filter _) (other_eq hturn hs)
    refine ⟨fun v _ => same v, fun sent heq => ?_⟩
    cases a with
    | advance | ingest | evict =>
      cases hs
      simp at heq
    | record event =>
      rw [StreamsController.step] at hs
      split at hs
      · cases hs
        simp at heq
      · cases hs
    | request userId request =>
      cases hs
      obtain ⟨rfl, hanswers⟩ := answers_concat (.inr rfl) heq
      exact start_concerns hanswers
    | resume | reject => cases hturn
  | some i =>
    obtain ⟨call, outcome, u, hcall, rfl, hu, hout⟩ := turn_eq hturn hs
    have known := h call (List.mem_of_getElem? hcall)
    constructor
    · intro v hne
      rw [settle_db]
      rcases hu with rfl | rfl
      · exact executed_streamsOf known (hne i call hturn hcall)
      · rfl
    · intro sent heq
      have same : u.answers = s.answers := by
        rcases hu with rfl | rfl
        · exact executed_answers pg setup s call.await
        · rfl
      rw [← same] at heq
      obtain ⟨huser, hanswers⟩ := answers_concat (.inl ⟨i, rfl⟩) heq
      rw [huser]
      rcases hout with ⟨-, rfl⟩ | rfl
      · exact outcome_concerns known hanswers
      · exact throws_concerns hanswers

/-- However the requests interleave, each keeps to the streams of its user. -/
theorem requests_keep_to_owners {start : StreamsController} (idle : start.calls = [])
    (as : List Action) : AllSteps (step pg numbers setup) Isolated start as := by
  have sound : start.Sound numbers := by
    rw [Sound, idle]
    exact List.forall_mem_nil _
  exact allSteps_of_invariant (fun _ _ _ h hs => ⟨h.step hs, h.isolated hs⟩) sound

/-- Numbers in paths, of digits only. -/
def digitNumbers : PathNumbers where
  ofText := parseIntPipe
  ofText_repr n _ := parseIntPipe_repr n
  ofText_digits text n id hpipe hnumber _ := by
    rw [hpipe] at hnumber
    exact Option.some_inj.mp hnumber

def inMemory : Setup := ⟨.memory, StreamsDbRepository.exactDoubles⟩

/-- Two streams of user 1, and no requests. -/
def idle : StreamsController where
  now := ⟨1000⟩
  db := twoStreams ⟨0⟩
  events := [⟨1, 1, some "ERROR", some 12, ⟨0⟩⟩]
  cache := .empty
  calls := []
  answers := []

/-- User 8, with a stream as well, asks for the deletion of a stream that user 1 asks for the
analytics of, twice. -/
def visits : List Action :=
  [.request 8 (.create ⟨"radio", none, none⟩), .resume 0, .request 1 (.onStream "1" .getAnalytics),
    .request 8 (.onStream "1" .delete), .request 1 (.onStream "2" .delete), .resume 0, .resume 1,
    .resume 1, .resume 1, .resume 0, .resume 0, .resume 0, .resume 0, .advance 5, .resume 0,
    .request 1 (.onStream "1" .getAnalytics), .advance 50, .resume 0, .resume 0]

theorem requests_keep_to_owners_visits :
    AllSteps (step plainPostgres digitNumbers inMemory) Isolated idle visits ∧
      (run (step plainPostgres digitNumbers inMemory) idle visits).isSome = true :=
  ⟨requests_keep_to_owners rfl visits, by decide +kernel⟩

/-! ## Where the analytics come from -/

theorem analyticsKey_injective : Function.Injective analyticsKey := by
  intro a b h
  have hlist := congrArg String.toList h
  rw [analyticsKey, analyticsKey, String.toList_append, String.toList_append, String.toList_append,
    String.toList_append, List.append_cancel_right_eq] at hlist
  exact Int.repr_injective (String.toList_inj.mp (List.append_cancel_left hlist))

/-- The outcome is a turn of `getAnalytics` behind its first query, or its answer. -/
def Outcome.OfAnalytics : Outcome → Prop
  | .waits (.series _ _) | .waits (.store _) | .answers (.analytics _) => True
  | _ => False

theorem found_not_analytics {id : Int} {after : Stream → Outcome}
    (h : ∀ stream, ¬(after stream).OfAnalytics) : ¬(s.found pg id after).OfAnalytics := by
  rcases found_eq pg id after s with ⟨e, heq⟩ | ⟨row, -, heq⟩
  · rw [heq]
    exact not_false
  · rw [heq]
    exact h row.rowToStream

theorem outcome_analytics {userId : Int} {await : Await}
    (h : (s.outcome pg setup userId await).OfAnalytics) :
    (∃ id dto, await = .cached id ∧ s.cache.get s.now (analyticsKey id) = some dto ∧
      s.outcome pg setup userId await = .answers (.analytics dto)) ∨
    (∃ id, await = .stats id ∧ s.outcome pg setup userId await = .waits (.series id s.snapshot)) ∨
    (∃ id first, await = .series id first ∧
      s.outcome pg setup userId await = .waits (.store (s.measurement id first))) ∨
    ∃ m, await = .store m ∧ s.outcome pg setup userId await =
      .answers (.analytics (m.dto setup.doubles pg.folding)) := by
  cases await with
  | insert params =>
    rw [outcome] at h
    split at h <;> exact absurd h not_false
  | owns streamId path route =>
    rw [outcome] at h
    split at h
    · split at h
      · unfold Route.handle at h
        split at h
        · exact absurd h not_false
        · cases route <;> exact absurd h not_false
      · exact absurd h not_false
    · exact absurd h not_false
  | findById id => exact absurd h (found_not_analytics fun _ => not_false)
  | findUpdate id changes =>
    refine absurd h (found_not_analytics fun stream => ?_)
    split <;> exact not_false
  | findAnalytics id => exact absurd h (found_not_analytics fun _ => not_false)
  | findEvents id => exact absurd h (found_not_analytics fun _ => not_false)
  | update id changes =>
    rw [outcome] at h
    split at h <;> exact absurd h not_false
  | delete id =>
    rw [outcome] at h
    split at h <;> exact absurd h not_false
  | cached id =>
    rw [outcome] at h ⊢
    split at h
    · next dto hget => exact .inl ⟨id, dto, rfl, hget, rfl⟩
    · exact absurd h not_false
  | stats id => exact .inr (.inl ⟨id, rfl, rfl⟩)
  | series id first => exact .inr (.inr (.inl ⟨id, first, rfl, rfl⟩))
  | store m => exact .inr (.inr (.inr ⟨m, rfl, rfl⟩))

theorem executed_cache {await : Await} {id : Int} {entry : TtlEntry StreamAnalyticsDto Date}
    (h : (s.executed pg setup await).cache.entries (analyticsKey id) = some entry) :
    s.cache.entries (analyticsKey id) = some entry ∨
      ∃ m, await = .store m ∧ m.streamId = id ∧
        entry = ⟨m.dto setup.doubles pg.folding, some (s.now.plus setup.lifetimeMs)⟩ := by
  cases await with
  | store m =>
    change Function.update s.cache.entries (analyticsKey m.streamId) _ (analyticsKey id) = _ at h
    by_cases hid : id = m.streamId
    · subst hid
      rw [Function.update_self, Option.some.injEq] at h
      exact .inr ⟨m, rfl, rfl, h.symm⟩
    · rw [Function.update_of_ne (analyticsKey_injective.ne hid)] at h
      exact .inl h
  | _ => exact .inl h

theorem step_now {a : Action} (hs : step pg numbers setup s a = some t) : s.now ≤ t.now := by
  cases hturn : a.turn with
  | none =>
    cases a with
    | advance ms =>
      cases hs
      exact Int.le_add_of_nonneg_right (Int.natCast_nonneg ms)
    | record event =>
      rw [step] at hs
      split at hs
      · cases hs
        exact le_refl _
      · cases hs
    | ingest | evict =>
      cases hs
      exact le_refl _
    | request userId request =>
      cases hs
      unfold begin
      split <;> exact le_refl _
    | resume | reject => cases hturn
  | some i =>
    obtain ⟨call, outcome, u, -, rfl, rfl | rfl, -⟩ := turn_eq hturn hs
    · rw [settle_now, executed_now]
    · rw [settle_now]

section

variable (pg : Postgres) (numbers : PathNumbers) (setup : Setup) (start : StreamsController)

/-- The two queries of the measurement were made. -/
structure Taken (as : List Action) (m : Measurement) : Prop where
  first : Once (step pg numbers setup) (fun r => m.first = r.snapshot) start as
  second : Once (step pg numbers setup) (fun r => m = r.measurement m.streamId m.first) start as

/-- The guard of a request of the user asked about the stream, and found it to be the user's. -/
def Guarded (as : List Action) (userId id : Int) : Prop :=
  OnceAt (step pg numbers setup) (fun r a => ∃ i await, a = .resume i ∧
    r.calls[i]? = some ⟨userId, await⟩ ∧ r.Passes userId id await) start as

/-- What a request has behind it. -/
structure Backed (as : List Action) (now : Date) (userId : Int) (await : Await) : Prop where
  guarded : ∀ id ∈ await.streamId?, Guarded pg numbers setup start as userId id
  first : ∀ id first, await = .series id first →
    Once (step pg numbers setup) (fun r => first = r.snapshot) start as
  taken : ∀ m, await = .store m → Taken pg numbers setup start as m ∧ m.generatedAt ≤ now

/-- The analytics are those of a measurement that is in the cache since `storedAt`. -/
structure Shows (as : List Action) (dto : StreamAnalyticsDto) (m : Measurement)
    (storedAt now : Date) : Prop where
  taken : Taken pg numbers setup start as m
  dto : dto = m.dto setup.doubles pg.folding
  generated : m.generatedAt ≤ storedAt
  stored : storedAt ≤ now

/-- What the cache and the answers have behind them. -/
structure Traced (as : List Action) (s : StreamsController) : Prop where
  calls : ∀ call ∈ s.calls, Backed pg numbers setup start as s.now call.userId call.await
  cache : ∀ id entry, s.cache.entries (analyticsKey id) = some entry →
    ∃ m storedAt, m.streamId = id ∧ entry.last = some (storedAt.plus setup.lifetimeMs) ∧
      Shows pg numbers setup start as entry.value m storedAt s.now
  answers : ∀ sent ∈ s.answers, ∀ dto, sent.answer = .analytics dto →
    ∃ m storedAt, Guarded pg numbers setup start as sent.userId m.streamId ∧
      sent.sentAt ≤ storedAt.plus setup.lifetimeMs ∧
      Shows pg numbers setup start as dto m storedAt sent.sentAt

end

variable {start : StreamsController} {as : List Action}

theorem Taken.append {m : Measurement} (h : Taken pg numbers setup start as m) (bs : List Action) :
    Taken pg numbers setup start (as ++ bs) m :=
  ⟨h.first.append bs, h.second.append bs⟩

theorem Shows.later {dto : StreamAnalyticsDto} {m : Measurement} {storedAt now now' : Date}
    (h : Shows pg numbers setup start as dto m storedAt now) (bs : List Action) (hle : now ≤ now') :
    Shows pg numbers setup start (as ++ bs) dto m storedAt now' :=
  ⟨h.taken.append bs, h.dto, h.generated, le_trans h.stored hle⟩

theorem Backed.later {userId : Int} {await : Await} {now now' : Date}
    (h : Backed pg numbers setup start as now userId await) (bs : List Action) (hle : now ≤ now') :
    Backed pg numbers setup start (as ++ bs) now' userId await where
  guarded id hid := (h.guarded id hid).append bs
  first id first heq := (h.first id first heq).append bs
  taken m heq := ⟨(h.taken m heq).1.append bs, le_trans (h.taken m heq).2 hle⟩

/-- What is there stays backed while the run goes on. -/
theorem Traced.later (h : Traced pg numbers setup start as s) (a : Action) (hle : s.now ≤ t.now) :
    Traced pg numbers setup start (as ++ [a]) { s with now := t.now } where
  calls call hcall := (h.calls call hcall).later [a] hle
  cache id entry hentry := by
    obtain ⟨m, storedAt, hid, hlast, shows⟩ := h.cache id entry hentry
    exact ⟨m, storedAt, hid, hlast, shows.later [a] hle⟩
  answers sent hsent dto hdto := by
    obtain ⟨m, storedAt, guarded, hle', shows⟩ := h.answers sent hsent dto hdto
    exact ⟨m, storedAt, guarded.append [a], hle', shows.later [a] (le_refl _)⟩

theorem start_backed {userId : Int} {request : Request} {next : Await} {now : Date}
    (h : request.start numbers userId = .waits next) :
    Backed pg numbers setup start as now userId next := by
  cases request with
  | create body =>
    cases h
    exact ⟨(fun _ hid => nomatch hid), (fun _ _ heq => nomatch heq), (fun _ heq => nomatch heq)⟩
  | onStream path route =>
    rw [Request.start] at h
    split at h
    · cases h
    · cases h
      exact ⟨(fun _ hid => nomatch hid), (fun _ _ heq => nomatch heq), (fun _ heq => nomatch heq)⟩

/-- What a turn waits for next is backed, if what it waited for was. -/
theorem outcome_backed {userId : Int} {await next : Await} {i : Nat}
    (hrun : run (step pg numbers setup) start as = some s)
    (hcall : s.calls[i]? = some ⟨userId, await⟩) (known : Knows numbers s.db userId await)
    (backed : Backed pg numbers setup start as s.now userId await)
    (h : s.outcome pg setup userId await = .waits next) :
    Backed pg numbers setup start (as ++ [.resume i]) s.now userId next where
  guarded := by
    intro other hother
    obtain ⟨id, hid, before⟩ := outcome_waits known h
    rw [hid, Option.mem_some_iff] at hother
    subst hother
    rcases before with same | passes
    · exact (backed.guarded id same).append _
    · exact .last hrun ⟨i, await, rfl, hcall, passes⟩
  first := by
    rintro id first rfl
    have ofAnalytics : (s.outcome pg setup userId await).OfAnalytics := by
      rw [h]
      exact trivial
    rcases outcome_analytics ofAnalytics with ⟨_, _, _, _, heq⟩ | ⟨_, _, heq⟩ | ⟨_, _, _, heq⟩ |
      ⟨_, _, heq⟩
    all_goals rw [h] at heq; cases heq
    refine Once.append ?_ _
    exact .now hrun rfl
  taken := by
    rintro m rfl
    have ofAnalytics : (s.outcome pg setup userId await).OfAnalytics := by
      rw [h]
      exact trivial
    rcases outcome_analytics ofAnalytics with ⟨_, _, _, _, heq⟩ | ⟨_, _, heq⟩ |
      ⟨id, first, hawait, heq⟩ | ⟨_, _, heq⟩
    all_goals rw [h] at heq; cases heq
    refine ⟨⟨(backed.first id first hawait).append _, Once.append ?_ _⟩, le_refl _⟩
    exact .now hrun rfl

/-- What a turn is answered is backed. -/
theorem outcome_shows {userId : Int} {await : Await} {dto : StreamAnalyticsDto}
    (traced : Traced pg numbers setup start as s)
    (backed : Backed pg numbers setup start as s.now userId await)
    (h : s.outcome pg setup userId await = .answers (.analytics dto)) :
    ∃ m storedAt, Guarded pg numbers setup start as userId m.streamId ∧
      s.now ≤ storedAt.plus setup.lifetimeMs ∧
      Shows pg numbers setup start as dto m storedAt s.now := by
  have ofAnalytics : (s.outcome pg setup userId await).OfAnalytics := by
    rw [h]
    exact trivial
  rcases outcome_analytics ofAnalytics with ⟨id, dto', hawait, hget, heq⟩ | ⟨_, _, heq⟩ |
    ⟨_, _, _, heq⟩ | ⟨m, hawait, heq⟩
  all_goals rw [h] at heq; cases heq
  · subst hawait
    obtain ⟨entry, hentry, hserved⟩ := Option.bind_eq_some_iff.mp hget
    obtain ⟨m, storedAt, hid, hlast, shows⟩ := traced.cache id entry hentry
    split at hserved
    · next inTime =>
      cases hserved
      refine ⟨m, storedAt, ?_, inTime _ hlast, shows⟩
      rw [hid]
      exact backed.guarded id rfl
    · cases hserved
  · subst hawait
    obtain ⟨taken, hgenerated⟩ := backed.taken m rfl
    exact ⟨m, s.now, backed.guarded m.streamId rfl,
      Int.le_add_of_nonneg_right (Int.natCast_nonneg _), taken, rfl, hgenerated, le_refl _⟩

theorem Traced.step {a : Action} (hrun : run (step pg numbers setup) start as = some s)
    (sound : s.Sound numbers) (h : Traced pg numbers setup start as s)
    (hs : StreamsController.step pg numbers setup s a = some t) :
    Traced pg numbers setup start (as ++ [a]) t := by
  have later := h.later a (step_now hs)
  cases hturn : a.turn with
  | none =>
    cases a with
    | advance | ingest =>
      cases hs
      exact ⟨later.calls, later.cache, later.answers⟩
    | record event =>
      rw [StreamsController.step] at hs
      split at hs
      · cases hs
        exact ⟨later.calls, later.cache, later.answers⟩
      · cases hs
    | evict key =>
      cases hs
      refine ⟨later.calls, fun id entry hentry => ?_, later.answers⟩
      by_cases same : analyticsKey id = key
      · rw [← same] at hentry
        simp at hentry
      · exact later.cache id entry ((Function.update_of_ne same _ _).symm.trans hentry)
    | request userId request =>
      cases hs
      cases hstart : request.start numbers userId with
      | waits await =>
        rw [hstart] at later
        refine ⟨fun call hcall => ?_, later.cache, later.answers⟩
        rcases List.mem_append.mp hcall with hold | hnew
        · exact later.calls call hold
        · rw [List.mem_singleton.mp hnew]
          exact start_backed hstart
      | answers answer =>
        rw [hstart] at later
        refine ⟨later.calls, later.cache, fun sent hsent dto hdto => ?_⟩
        rcases List.mem_append.mp hsent with hold | hnew
        · exact later.answers sent hold dto hdto
        · rw [List.mem_singleton.mp hnew] at hdto
          change answer = .analytics dto at hdto
          subst hdto
          -- A request is answered at once only when it is refused.
          cases request with
          | create body => cases hstart
          | onStream path route =>
            rw [Request.start] at hstart
            split at hstart <;> cases hstart
    | resume | reject => cases hturn
  | some i =>
    obtain ⟨call, outcome, u, hcall, rfl, hu, hout⟩ := turn_eq hturn hs
    have hmem := List.mem_of_getElem? hcall
    have backed := h.calls call hmem
    have known := sound call hmem
    have hnow : u.now = s.now := by
      rcases hu with rfl | rfl
      · exact executed_now pg setup s call.await
      · rfl
    have calls : u.calls = s.calls := by
      rcases hu with rfl | rfl
      · exact executed_calls pg setup s call.await
      · rfl
    have answers : u.answers = s.answers := by
      rcases hu with rfl | rfl
      · exact executed_answers pg setup s call.await
      · rfl
    rw [settle_now, hnow] at later
    refine ⟨?_, ?_, ?_⟩
    · intro other hother
      rw [settle_now, hnow]
      cases outcome with
      | waits next =>
        rcases List.mem_or_eq_of_mem_set (hother : other ∈ u.calls.set _ _) with hold | rfl
        · exact later.calls other (calls ▸ hold)
        · rcases hout with ⟨rfl, hwaits⟩ | hthrows
          · exact outcome_backed hrun hcall known backed hwaits.symm
          · cases hthrows
      | answers answer =>
        exact later.calls other
          (calls ▸ List.mem_of_mem_eraseIdx (hother : other ∈ u.calls.eraseIdx _))
    · intro id entry hentry
      rw [settle_now, hnow]
      rw [settle_cache] at hentry
      rcases hu with rfl | rfl
      · rcases executed_cache hentry with hold | ⟨m, hawait, rfl, rfl⟩
        · exact later.cache id entry hold
        · obtain ⟨taken, hgenerated⟩ := backed.taken m hawait
          exact ⟨m, s.now, rfl, rfl, taken.append [a], rfl, hgenerated, le_refl _⟩
      · exact later.cache id entry hentry
    · intro sent hsent dto hdto
      cases outcome with
      | waits next => exact later.answers sent (answers ▸ hsent) dto hdto
      | answers answer =>
        rcases List.mem_append.mp (hsent : sent ∈ u.answers ++ _) with hold | hnew
        · exact later.answers sent (answers ▸ hold) dto hdto
        · rw [List.mem_singleton.mp hnew] at hdto ⊢
          change answer = .analytics dto at hdto
          subst hdto
          rcases hout with ⟨-, hanswers⟩ | hthrows
          · obtain ⟨m, storedAt, guarded, hle, shows⟩ := outcome_shows h backed hanswers.symm
            rw [hnow]
            exact ⟨m, storedAt, guarded.append [a], hle, shows.later [a] (le_refl _)⟩
          · cases hthrows

/-- Whoever is sent analytics has been found to own the stream, by the guard of a request.  The
numbers are those of two queries that were made, they are sent as long as the cache serves what
is put in and no later, and they fit together. -/
theorem analytics_measured (fresh : start.Fresh)
    (hrun : run (step pg numbers setup) start as = some s) :
    ∀ sent ∈ s.answers, ∀ dto, sent.answer = .analytics dto →
      dto.Consistent ∧ ∃ m storedAt, Guarded pg numbers setup start as sent.userId m.streamId ∧
        sent.sentAt ≤ storedAt.plus setup.lifetimeMs ∧
        Shows pg numbers setup start as dto m storedAt sent.sentAt := by
  obtain ⟨noCache, noCalls, noAnswers⟩ := fresh
  have sound : ∀ {as t}, run (step pg numbers setup) start as = some t → t.Sound numbers := by
    refine fun h => run_invariant (fun _ _ _ h hs => Sound.step h hs) ?_ h
    rw [Sound, noCalls]
    exact List.forall_mem_nil _
  have initial : Traced pg numbers setup start [] start := by
    refine ⟨?_, ?_, ?_⟩
    · rw [noCalls]
      exact List.forall_mem_nil _
    · rw [noCache]
      exact fun _ _ hentry => nomatch hentry
    · rw [noAnswers]
      exact List.forall_mem_nil _
  have traced : Traced pg numbers setup start as s :=
    run_history initial (fun _ _ _ _ hr h hs => h.step hr (sound hr) hs) hrun
  intro sent hsent dto hdto
  obtain ⟨m, storedAt, guarded, hle, shows⟩ := traced.answers sent hsent dto hdto
  refine ⟨?_, m, storedAt, guarded, hle, shows⟩
  rw [shows.dto]
  exact StreamsDbRepository.analytics_consistent setup.doubles pg.folding _ _ m.streamId _ _
    m.generatedAt

theorem analytics_measured_visits : ∃ s sent dto, ∃ (m : Measurement) (storedAt : Date),
    run (step plainPostgres digitNumbers inMemory) idle visits = some s ∧ sent ∈ s.answers ∧
      sent.answer = .analytics dto ∧ dto.Consistent ∧
      Guarded plainPostgres digitNumbers inMemory idle visits sent.userId m.streamId ∧
      sent.sentAt ≤ storedAt.plus 60000 := by
  have hcheck : (run (step plainPostgres digitNumbers inMemory) idle visits).any (fun s =>
      s.answers.any fun sent =>
        match sent.answer with
        | .analytics _ => true
        | _ => false) = true := by decide +kernel
  obtain ⟨s, hs, some⟩ := Option.any_eq_true _ _ |>.mp hcheck
  obtain ⟨sent, hsent, hanswer⟩ := List.any_eq_true.mp some
  split at hanswer
  · next dto hdto =>
    obtain ⟨consistent, m, storedAt, guarded, served, -⟩ :=
      analytics_measured ⟨rfl, rfl, rfl⟩ hs sent hsent dto hdto
    exact ⟨s, sent, dto, m, storedAt, hs, hsent, hdto, consistent, guarded, served⟩
  · cases hanswer

end StreamsController

end Api
end XStreamRoll
