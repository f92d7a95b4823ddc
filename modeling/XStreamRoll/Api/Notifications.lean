/-
The retention sweep of notifications: `deleteExpiredBatch` of the in-memory
`NotificationsRepository` and of `NotificationsDbRepository` over Postgres, and
`NotificationsService.sweepExpired` over either of them.

The map is iterated while entries are deleted from it.  The statement deletes the rows that a
subselect with a limit and no order has found, so any expired rows may be among them.  It may
also fail, before it is executed or after.

Nothing else comes between the batches of a sweep, and the clock stands still.
-/
import XStreamRoll.Batches
import XStreamRoll.Time

namespace XStreamRoll
namespace Api

open Batches

inductive NotificationsException where
  | serviceUnavailable
  deriving DecidableEq, Repr

structure Notification (Payload : Type) where
  id : Int
  userId : Int
  type : String
  payload : Payload
  readAt : Option Date
  createdAt : Date
  expiresAt : Date

structure NotificationRow (Payload : Type) where
  id : Int
  userId : Int
  type : String
  payload : Payload
  readAt : Option Timestamptz
  createdAt : Option Timestamptz
  expiresAt : Timestamptz

/-- What `NotificationsService` calls in a sweep, over a store `σ`.  The first number is that of
the batch. -/
structure NotificationsStore (σ : Type) where
  deleteExpiredBatch : Nat → Nat → σ → Except NotificationsException Nat × σ

variable {Payload σ : Type}

/-! ## In memory -/

/-- The map holds its values in the order in which the keys came. -/
structure NotificationsRepository (Payload : Type) where
  byId : List (Notification Payload)
  keys : (byId.map Notification.id).Nodup

namespace NotificationsRepository

def expired (now : Date) (notification : Notification Payload) : Bool :=
  notification.expiresAt.getTime < now.getTime

def delete (id : Int) (store : NotificationsRepository Payload) :
    NotificationsRepository Payload where
  byId := store.byId.filter fun notification => notification.id ≠ id
  keys := (List.filter_sublist.map _).nodup store.keys

/-- The loop of `deleteExpiredBatch`, over the values that it has not come to. -/
def deleteExpired (now : Date) (limit : Nat) :
    List (Notification Payload) → Nat → NotificationsRepository Payload →
      Nat × NotificationsRepository Payload
  | [], deleted, store => (deleted, store)
  | notification :: values, deleted, store =>
    if deleted ≥ limit then (deleted, store)
    else if expired now notification then
      deleteExpired now limit values (deleted + 1) (store.delete notification.id)
    else deleteExpired now limit values deleted store

def deleteExpiredBatch (now : Date) (limit : Nat) (store : NotificationsRepository Payload) :
    Nat × NotificationsRepository Payload :=
  deleteExpired now limit store.byId 0 store

/-- The map, behind the method. -/
def repository (now : Date) : NotificationsStore (NotificationsRepository Payload) where
  deleteExpiredBatch _ limit store :=
    let (deleted, after) := store.deleteExpiredBatch now limit
    (.ok deleted, after)

end NotificationsRepository

/-! ## In the database -/

structure NotificationsTable (Payload : Type) where
  rows : List (NotificationRow Payload)
  primaryKey : (rows.map NotificationRow.id).Nodup

/-- The order in which a scan finds rows. -/
structure Scan (Payload : Type) where
  order : List (NotificationRow Payload) → List (NotificationRow Payload)
  perm : ∀ rows, (order rows).Perm rows

/-- What becomes of a statement. -/
inductive BatchAnswer (Payload : Type) where
  | answered (scan : Scan Payload)
  /-- executed, and the answer does not come -/
  | lost (scan : Scan Payload)
  | failed

def BatchAnswer.comes : BatchAnswer Payload → Bool
  | .answered _ => true
  | .lost _ | .failed => false

namespace NotificationsDbRepository

/-- `expires_at < NOW()` -/
def expired (now : Timestamptz) (row : NotificationRow Payload) : Bool :=
  row.expiresAt.micros < now.micros

/-- The subselect. -/
def selected (scan : Scan Payload) (now : Timestamptz) (limit : Nat)
    (table : NotificationsTable Payload) : List Int :=
  ((scan.order (table.rows.filter (expired now))).take limit).map NotificationRow.id

def without (ids : List Int) (table : NotificationsTable Payload) : NotificationsTable Payload where
  rows := table.rows.filter fun row => row.id ∉ ids
  primaryKey := (List.filter_sublist.map _).nodup table.primaryKey

def rowCount (ids : List Int) (table : NotificationsTable Payload) : Nat :=
  table.rows.countP fun row => row.id ∈ ids

def deleteExpiredBatch (now : Timestamptz) (answer : BatchAnswer Payload) (limit : Nat)
    (table : NotificationsTable Payload) :
    Except NotificationsException Nat × NotificationsTable Payload :=
  match answer with
  | .answered scan =>
    let ids := selected scan now limit table
    (.ok (rowCount ids table), without ids table)
  | .lost scan => (.error .serviceUnavailable, without (selected scan now limit table) table)
  | .failed => (.error .serviceUnavailable, table)

/-- The table, behind the method. -/
def repository (now : Timestamptz) (answers : Nat → BatchAnswer Payload) :
    NotificationsStore (NotificationsTable Payload) where
  deleteExpiredBatch i limit table := deleteExpiredBatch now (answers i) limit table

end NotificationsDbRepository

/-! ## `NotificationsService` -/

def expirySweepBatchSize : Nat := 500

/-- How a sweep has ended. -/
structure ExpirySweep (σ : Type) where
  result : Except NotificationsException Unit
  logged : List String
  store : σ

namespace NotificationsService

/-- `if (totalDeleted > 0)` -/
def report (totalDeleted : Nat) : List String :=
  if totalDeleted > 0 then ["Swept " ++ toString totalDeleted ++ " expired notification(s)"] else []

def sweepExpired (notifications : NotificationsStore σ) (fuel : Nat) (s : σ) :
    Option (ExpirySweep σ) :=
  (drain (fun i => notifications.deleteExpiredBatch i expirySweepBatchSize) expirySweepBatchSize
    fuel 0 0 s).map fun
    | (.ok totalDeleted, after) => ⟨.ok (), report totalDeleted, after⟩
    | (.error e, after) => ⟨.error e, [], after⟩

/-! ## One batch -/

/-- The value that the loop has come to is deleted. -/
theorem delete_byId {notification : Notification Payload}
    {kept values : List (Notification Payload)} {store : NotificationsRepository Payload}
    (hstore : store.byId = kept ++ notification :: values) :
    (store.delete notification.id).byId = kept ++ values := by
  have hkeys := store.keys
  rw [hstore, List.map_append, List.map_cons, List.nodup_middle, List.nodup_cons,
    ← List.map_append] at hkeys
  have hothers : ∀ other ∈ kept ++ values, decide (other.id ≠ notification.id) = true :=
    fun other hmem => decide_eq_true fun hsame => hkeys.1 (hsame ▸ List.mem_map_of_mem hmem)
  show store.byId.filter (fun other => other.id ≠ notification.id) = _
  rw [hstore, List.filter_append, List.filter_cons_of_neg (by simp), ← List.filter_append]
  exact List.filter_eq_self.mpr hothers

/-- The loop deletes as many expired values as it may. -/
theorem deleteExpired_takes (now : Date) (limit deleted : Nat)
    (kept values : List (Notification Payload)) (store : NotificationsRepository Payload)
    (hstore : store.byId = kept ++ values) :
    ∃ n after, (NotificationsRepository.deleteExpired now limit values deleted store).1 =
        deleted + n ∧
      (NotificationsRepository.deleteExpired now limit values deleted store).2.byId =
        kept ++ after ∧
      Takes (NotificationsRepository.expired now) (limit - deleted) values after n := by
  induction values generalizing deleted kept store with
  | nil => exact ⟨0, [], rfl, hstore, .nil _ _⟩
  | cons notification values ih =>
    rw [NotificationsRepository.deleteExpired]
    split
    · next hfull =>
      rw [Nat.sub_eq_zero_of_le hfull]
      exact ⟨0, notification :: values, rfl, hstore, .none _ _⟩
    · next hroom =>
      split
      · next hexpired =>
        obtain ⟨n, after, hcount, hafter, htakes⟩ :=
          ih (deleted + 1) kept (store.delete notification.id) (delete_byId hstore)
        refine ⟨n + 1, after, by rw [hcount]; omega, hafter, ?_⟩
        have hlimit : limit - deleted = limit - (deleted + 1) + 1 := by omega
        rw [hlimit]
        exact htakes.cons_of_pos hexpired
      · next hfresh =>
        obtain ⟨n, after, hcount, hafter, htakes⟩ :=
          ih deleted (kept ++ [notification]) store (by rw [hstore, List.append_assoc]; rfl)
        refine ⟨n, notification :: after, hcount, ?_, htakes.cons_of_neg hfresh⟩
        rw [hafter, List.append_assoc]
        rfl

theorem deleteExpiredBatch_takes (now : Date) (limit : Nat)
    (store : NotificationsRepository Payload) :
    Takes (NotificationsRepository.expired now) limit store.byId
      (store.deleteExpiredBatch now limit).2.byId (store.deleteExpiredBatch now limit).1 := by
  obtain ⟨n, after, hcount, hafter, htakes⟩ :=
    deleteExpired_takes now limit 0 [] store.byId store rfl
  rw [NotificationsRepository.deleteExpiredBatch, hcount, hafter, Nat.zero_add]
  exact htakes

theorem selected_takes (scan : Scan Payload) (now : Timestamptz) (limit : Nat)
    (table : NotificationsTable Payload) :
    let ids := NotificationsDbRepository.selected scan now limit table
    Takes (NotificationsDbRepository.expired now) limit table.rows
      (NotificationsDbRepository.without ids table).rows
      (NotificationsDbRepository.rowCount ids table) :=
  .of_keys table.primaryKey (scan.perm _) limit

theorem selected_spares (scan : Scan Payload) (now : Timestamptz) (limit : Nat)
    (table : NotificationsTable Payload) :
    Spares (NotificationsDbRepository.expired now) table.rows
      (NotificationsDbRepository.without
        (NotificationsDbRepository.selected scan now limit table) table).rows :=
  (selected_takes scan now limit table).toSpares

theorem memory_batch (now : Date) (i : Nat) (store : NotificationsRepository Payload) :
    Comes (NotificationsRepository.expired now) expirySweepBatchSize False
      NotificationsRepository.byId store
      ((NotificationsRepository.repository now).deleteExpiredBatch i expirySweepBatchSize store) :=
  deleteExpiredBatch_takes now expirySweepBatchSize store

theorem database_batch (now : Timestamptz) (answers : Nat → BatchAnswer Payload) (i : Nat)
    (table : NotificationsTable Payload) :
    Comes (NotificationsDbRepository.expired now) expirySweepBatchSize ((answers i).comes = false)
      NotificationsTable.rows table
      ((NotificationsDbRepository.repository now answers).deleteExpiredBatch i
        expirySweepBatchSize table) := by
  show Comes _ _ _ _ table
    (NotificationsDbRepository.deleteExpiredBatch now (answers i) expirySweepBatchSize table)
  cases answers i with
  | answered scan => exact selected_takes scan now expirySweepBatchSize table
  | lost scan => exact ⟨selected_spares scan now expirySweepBatchSize table, rfl⟩
  | failed => exact ⟨.refl _ _, rfl⟩

/-! ## The sweep -/

/-- The expired notifications are gone, the others are as they were, and the number is logged
unless there were none. -/
structure Sweeps {α : Type} (rows : σ → List α) (expired : α → Bool) (s : σ)
    (sweep : ExpirySweep σ) : Prop where
  result : sweep.result = .ok ()
  left : rows sweep.store = (rows s).filter fun a => !expired a
  logged : sweep.logged = report ((rows s).countP expired)

/-- The sweep ends with an error, and nothing is gone that has not expired. -/
structure Breaks {α : Type} (rows : σ → List α) (expired : α → Bool) (s : σ)
    (sweep : ExpirySweep σ) : Prop where
  result : sweep.result = .error .serviceUnavailable
  spares : Spares expired (rows s) (rows sweep.store)
  logged : sweep.logged = []

/-- The sweep ends, whatever the store is. -/
theorem sweepExpired_ends {α : Type} {rows : σ → List α} {expired : α → Bool}
    {notifications : NotificationsStore σ} {fails : Nat → Prop}
    (hbatch : ∀ i s, Comes expired expirySweepBatchSize (fails i) rows s
      (notifications.deleteExpiredBatch i expirySweepBatchSize s)) (s : σ) :
    ∃ sweep, (∀ fuel, (rows s).countP expired / expirySweepBatchSize < fuel →
        sweepExpired notifications fuel s = some sweep) ∧
      (Sweeps rows expired s sweep ∨ Breaks rows expired s sweep ∧ ∃ i, fails i) := by
  have hsize : 0 < expirySweepBatchSize := by decide
  obtain ⟨⟨result, after⟩, hruns, hends⟩ := drain_ends hsize hbatch 0 0 s
  cases result with
  | ok totalDeleted =>
    refine ⟨⟨.ok (), report totalDeleted, after⟩, fun fuel hfuel => ?_, .inl ⟨rfl, hends.2, ?_⟩⟩
    · rw [sweepExpired, hruns fuel hfuel]
      rfl
    · rw [hends.1, Nat.zero_add]
  | error e =>
    refine ⟨⟨.error e, [], after⟩, fun fuel hfuel => ?_, .inr ⟨⟨rfl, hends.1, rfl⟩, hends.2⟩⟩
    rw [sweepExpired, hruns fuel hfuel]
    rfl

/-- A sweep of the map, and one of the table unless a statement fails, ends with all that has
expired gone, whichever rows the batches pick. -/
theorem sweepExpired_exact (now : Date) (store : NotificationsRepository Payload)
    (NOW : Timestamptz) (table : NotificationsTable Payload) (answers : Nat → BatchAnswer Payload) :
    (∃ sweep,
      (∀ fuel, store.byId.countP (NotificationsRepository.expired now) / 500 < fuel →
        sweepExpired (NotificationsRepository.repository now) fuel store = some sweep) ∧
      Sweeps NotificationsRepository.byId (NotificationsRepository.expired now) store sweep) ∧
    ∃ sweep,
      (∀ fuel, table.rows.countP (NotificationsDbRepository.expired NOW) / 500 < fuel →
        sweepExpired (NotificationsDbRepository.repository NOW answers) fuel table = some sweep) ∧
      (Sweeps NotificationsTable.rows (NotificationsDbRepository.expired NOW) table sweep ∨
        Breaks NotificationsTable.rows (NotificationsDbRepository.expired NOW) table sweep ∧
          ∃ i, (answers i).comes = false) := by
  constructor
  · obtain ⟨sweep, hruns, hends⟩ := sweepExpired_ends (memory_batch now) store
    exact ⟨sweep, hruns, hends.resolve_right fun hbreaks => hbreaks.2.elim fun _ hfalse => hfalse⟩
  · exact sweepExpired_ends (database_batch NOW answers) table

/-- The scan that finds the last rows first. -/
def backwards : Scan Unit := ⟨List.reverse, List.reverse_perm⟩

/-- When the notification `i` expires, in milliseconds. -/
def expiry (i : Nat) : Nat := if i < 501 then 10 else 20

theorem nodup_ids (n : Nat) : ((List.range n).map Int.ofNat).Nodup :=
  List.nodup_range.map fun _ _ => Int.ofNat.inj

/-- Notifications of which 501 expire at 10, and the last at 20. -/
def crowd : NotificationsRepository Unit where
  byId := (List.range 502).map fun i => ⟨.ofNat i, 7, "invite", (), none, ⟨0⟩, ⟨expiry i⟩⟩
  keys := by
    rw [List.map_map]
    exact nodup_ids 502

def crowdTable : NotificationsTable Unit where
  rows := (List.range 502).map fun i => ⟨.ofNat i, 7, "invite", (), none, none, ⟨1000 * expiry i⟩⟩
  primaryKey := by
    rw [List.map_map]
    exact nodup_ids 502

/-- At 15, a full batch and one of a single notification leave the last one. -/
theorem sweepExpired_exact_crowd :
    (∃ sweep, sweepExpired (NotificationsRepository.repository ⟨15⟩) 2 crowd = some sweep ∧
      sweep.store.byId.map Notification.id = [501] ∧
      sweep.logged = ["Swept 501 expired notification(s)"]) ∧
    ∃ sweep, sweepExpired (NotificationsDbRepository.repository ⟨15000⟩ fun _ => .answered backwards)
        2 crowdTable = some sweep ∧
      sweep.store.rows.map NotificationRow.id = [501] ∧
      sweep.logged = ["Swept 501 expired notification(s)"] := by
  obtain ⟨⟨sweep, hruns, hsweeps⟩, inTable, hrunsTable, hends⟩ :=
    sweepExpired_exact ⟨15⟩ crowd ⟨15000⟩ crowdTable fun _ => .answered backwards
  have hcount : crowd.byId.countP (NotificationsRepository.expired ⟨15⟩) = 501 := by
    decide +kernel
  have hcountTable : crowdTable.rows.countP (NotificationsDbRepository.expired ⟨15000⟩) = 501 := by
    decide +kernel
  have hsweepsTable := hends.resolve_right fun hbreaks => hbreaks.2.elim fun _ hlost => by cases hlost
  refine ⟨⟨sweep, hruns 2 (by rw [hcount]; decide), ?_, ?_⟩,
    inTable, hrunsTable 2 (by rw [hcountTable]; decide), ?_, ?_⟩
  · rw [hsweeps.left]
    decide +kernel
  · rw [hsweeps.logged, hcount]
    rfl
  · rw [hsweepsTable.left]
    decide +kernel
  · rw [hsweepsTable.logged, hcountTable]
    rfl

end NotificationsService

end Api
end XStreamRoll
