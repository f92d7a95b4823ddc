/-
`NotificationsService` over `NotificationsRepository` and over `NotificationsDbRepository`.

Both repositories are tables under a counter: the one of notifications, the other of rows.
What the service sees of a row is the notification that `rowToNotification` makes of it, so
the database is the other repository seen through that function.  A `Date` has nothing finer
than milliseconds, and the two order and expire what they have in different units.  Besides,
the database refuses what a column does not take, of which the map knows nothing.  They do
the same where no two calls share a millisecond, no sweep shares one with an expiry, and
nothing is refused.

Each call of the service is one statement, except for the listing, which is two, and the
sweep, which is many.  The calls come one after the other here.  The rows of a SELECT may
come in any order that its ORDER BY allows.  The time zone of a session is one without
daylight saving, where thirty days are as many times 24 hours.
-/
import Mathlib.Data.Int.SuccPred
import Mathlib.Order.WithBot
import XStreamRoll.OffsetPaging
import XStreamRoll.Table
import XStreamRoll.Transition.Images
import XStreamRoll.Api.Notifications
import XStreamRoll.Api.Streams.Repositories

namespace XStreamRoll
namespace Api

open Transition

variable {Payload : Type}

/-- `NOTIFICATION_RETENTION_MS`, and `INTERVAL '30 days'`. -/
def notificationRetentionMs : Nat := 30 * 24 * 60 * 60 * 1000

/-! ## In memory -/

abbrev NotificationMap (Payload : Type) := IntTable (Notification Payload) Notification.id

namespace Notification

def new (now : Date) (userId : Int) (type : String) (payload : Payload) (id : Int) :
    Notification Payload :=
  ⟨id, userId, type, payload, none, now, now.plus notificationRetentionMs⟩

theorem new_id (now : Date) (userId : Int) (type : String) (payload : Payload) (id : Int) :
    (new now userId type payload id).id = id := rfl

/-- `if (!notification.readAt) notification.readAt = new Date()`. -/
def read (now : Date) (notification : Notification Payload) : Notification Payload :=
  { notification with readAt := notification.readAt.or (some now) }

theorem read_id (now : Date) (notification : Notification Payload) :
    (notification.read now).id = notification.id := rfl

def unreadBy (userId : Int) (notification : Notification Payload) : Bool :=
  notification.userId = userId && notification.readAt.isNone

end Notification

namespace NotificationMap

def create (now : Date) (userId : Int) (type : String) (payload : Payload)
    (map : NotificationMap Payload) : NotificationMap Payload :=
  Table.insert (Notification.new now userId type payload)
    (Notification.new_id now userId type payload) map

/-- The user's unread notifications, newest first. -/
def unread (userId : Int) (map : NotificationMap Payload) : List (Notification Payload) :=
  (map.rows.filter (Notification.unreadBy userId)).insertionSort fun a b =>
    b.createdAt ≤ a.createdAt

def markRead (now : Date) (userId id : Int) (map : NotificationMap Payload) :
    Option (Notification Payload) × NotificationMap Payload :=
  match map.find id with
  | none => (none, map)
  | some notification =>
    if notification.userId ≠ userId then (none, map)
    else (some (notification.read now),
      Table.modify (fun other => other.id = id) (Notification.read now) (Notification.read_id now)
        map)

def markAllRead (now : Date) (userId : Int) (map : NotificationMap Payload) :
    Nat × NotificationMap Payload :=
  (map.rows.countP (Notification.unreadBy userId),
    Table.modify (Notification.unreadBy userId) (Notification.read now) (Notification.read_id now)
      map)

def deleteById (userId id : Int) (map : NotificationMap Payload) :
    Bool × NotificationMap Payload :=
  match map.find id with
  | none => (false, map)
  | some notification =>
    if notification.userId ≠ userId then (false, map)
    else (true, Table.delete (fun other => other.id = id) map)

/-- What `deleteExpiredBatch` works on. -/
def toRepository (map : NotificationMap Payload) : NotificationsRepository Payload :=
  ⟨map.rows, map.primaryKey⟩

end NotificationMap

/-! ## In the database -/

/-- The rows as they were inserted. -/
def Scan.inOrder : Scan Payload := ⟨id, fun _ => List.Perm.refl _⟩

abbrev NotificationRows (Payload : Type) := IntTable (NotificationRow Payload) NotificationRow.id

namespace NotificationRow

/-- `created_at` is nullable, but no INSERT leaves it out. -/
def rowToNotification (row : NotificationRow Payload) : Notification Payload where
  id := row.id
  userId := row.userId
  type := row.type
  payload := row.payload
  readAt := row.readAt.map Timestamptz.toDate
  createdAt := (row.createdAt.getD ⟨0⟩).toDate
  expiresAt := row.expiresAt.toDate

theorem rowToNotification_id (row : NotificationRow Payload) : row.rowToNotification.id = row.id :=
  rfl

def new (NOW : Timestamptz) (userId : Int) (type : String) (payload : Payload) (id : Int) :
    NotificationRow Payload :=
  ⟨id, userId, type, payload, none, some NOW, ⟨NOW.micros + 1000 * notificationRetentionMs⟩⟩

theorem new_id (NOW : Timestamptz) (userId : Int) (type : String) (payload : Payload) (id : Int) :
    (new NOW userId type payload id).id = id := rfl

/-- `read_at = COALESCE(read_at, CURRENT_TIMESTAMP)`. -/
def read (CURRENT_TIMESTAMP : Timestamptz) (row : NotificationRow Payload) :
    NotificationRow Payload :=
  { row with readAt := row.readAt.or (some CURRENT_TIMESTAMP) }

theorem read_id (CURRENT_TIMESTAMP : Timestamptz) (row : NotificationRow Payload) :
    (row.read CURRENT_TIMESTAMP).id = row.id := rfl

/-- `read_at = CURRENT_TIMESTAMP`. -/
def readNow (CURRENT_TIMESTAMP : Timestamptz) (row : NotificationRow Payload) :
    NotificationRow Payload :=
  { row with readAt := some CURRENT_TIMESTAMP }

theorem readNow_id (CURRENT_TIMESTAMP : Timestamptz) (row : NotificationRow Payload) :
    (row.readNow CURRENT_TIMESTAMP).id = row.id := rfl

/-- `user_id = $1 AND read_at IS NULL`. -/
def unreadBy (userId : Int) (row : NotificationRow Payload) : Bool :=
  row.userId = userId && row.readAt.isNone

/-- `id = $1 AND user_id = $2`. -/
def ownedBy (userId id : Int) (row : NotificationRow Payload) : Bool :=
  row.id = id && row.userId = userId

/-- The key of `ORDER BY created_at DESC`, where a missing date comes first. -/
def age (row : NotificationRow Payload) : WithTop Timestamptz := row.createdAt

end NotificationRow

namespace NotificationRows

def create (NOW : Timestamptz) (userId : Int) (type : String) (payload : Payload)
    (table : NotificationRows Payload) : NotificationRows Payload :=
  Table.insert (NotificationRow.new NOW userId type payload)
    (NotificationRow.new_id NOW userId type payload) table

/-- The INSERT, when its row is refused. -/
def skip (table : NotificationRows Payload) : NotificationRows Payload := Table.skip table

/-- `… ORDER BY created_at DESC`, of rows as a scan finds them. -/
def unread (scan : Scan Payload) (userId : Int) (table : NotificationRows Payload) :
    List (NotificationRow Payload) :=
  (scan.order (table.rows.filter (NotificationRow.unreadBy userId))).insertionSort fun a b =>
    b.age ≤ a.age

def markRead (CURRENT_TIMESTAMP : Timestamptz) (userId id : Int)
    (table : NotificationRows Payload) :
    Option (NotificationRow Payload) × NotificationRows Payload :=
  let updated := Table.modify (NotificationRow.ownedBy userId id)
    (NotificationRow.read CURRENT_TIMESTAMP) (NotificationRow.read_id CURRENT_TIMESTAMP) table
  (updated.rows.find? (NotificationRow.ownedBy userId id), updated)

def markAllRead (CURRENT_TIMESTAMP : Timestamptz) (userId : Int)
    (table : NotificationRows Payload) : Nat × NotificationRows Payload :=
  (table.rows.countP (NotificationRow.unreadBy userId),
    Table.modify (NotificationRow.unreadBy userId) (NotificationRow.readNow CURRENT_TIMESTAMP)
      (NotificationRow.readNow_id CURRENT_TIMESTAMP) table)

/-- `(rowCount ?? 0) > 0`. -/
def deleteById (userId id : Int) (table : NotificationRows Payload) :
    Bool × NotificationRows Payload :=
  (0 < table.rows.countP (NotificationRow.ownedBy userId id),
    Table.delete (NotificationRow.ownedBy userId id) table)

/-- The other repository, of which this is the database. -/
def toMap (table : NotificationRows Payload) : NotificationMap Payload :=
  Table.image NotificationRow.rowToNotification NotificationRow.rowToNotification_id table

def toTable (table : NotificationRows Payload) : NotificationsTable Payload :=
  ⟨table.rows, table.primaryKey⟩

end NotificationRows

/-! ## The service -/

inductive NotificationsCall (Payload : Type) where
  | create (userId : Int) (type : String) (payload : Payload)
  | listUnread (userId : Int) (page limit : Nat)
  | markRead (userId id : Int)
  | markAllRead (userId : Int)
  | delete (userId id : Int)
  | sweepExpired
deriving DecidableEq, Repr

/-- What `emitNotification` sends to the room of the user. -/
structure NotificationCreatedPayload (Payload : Type) where
  id : Int
  userId : Int
  type : String
  payload : Payload
  createdAt : String
deriving DecidableEq, Repr

inductive NotificationsAnswer (Payload : Type) where
  | created (notification : Notification Payload) (pushed : NotificationCreatedPayload Payload)
  | listed (data : List (Notification Payload)) (page limit total unreadCount : Nat)
  | read (notification : Notification Payload)
  | allRead (updated : Nat)
  | deleted
  | swept (logged : List String)
  | notFound (message : String)
  | serviceUnavailable (message : String)

namespace NotificationsService

def pushed (notification : Notification Payload) : NotificationCreatedPayload Payload where
  id := notification.id
  userId := notification.userId
  type := notification.type
  payload := notification.payload
  createdAt := notification.createdAt.toISOString

def page {α : Type} (page limit : Nat) (data : List α) : List α :=
  (data.drop ((page - 1) * limit)).take limit

def notFound (id : Int) : NotificationsAnswer Payload :=
  .notFound ("notification " ++ toString id ++ " not found")

/-- What `markRead` of the service makes of the repository's answer. -/
def readAnswer (id : Int) : Option (Notification Payload) → NotificationsAnswer Payload
  | none => notFound id
  | some notification => .read notification

def deleteAnswer (id : Int) (removed : Bool) : NotificationsAnswer Payload :=
  if removed then .deleted else notFound id

def serveMap (now : Date) (map : NotificationMap Payload) :
    NotificationsCall Payload → NotificationsAnswer Payload × NotificationMap Payload
  | .create userId type payload =>
    let notification := Notification.new now userId type payload map.nextId
    (.created notification (pushed notification), map.create now userId type payload)
  | .listUnread userId index limit =>
    let unread := map.unread userId
    (.listed (page index limit unread) index limit unread.length unread.length, map)
  | .markRead userId id =>
    let (found, map) := map.markRead now userId id
    (readAnswer id found, map)
  | .markAllRead userId =>
    let (updated, map) := map.markAllRead now userId
    (.allRead updated, map)
  | .delete userId id =>
    let (removed, map) := map.deleteById userId id
    (deleteAnswer id removed, map)
  | .sweepExpired =>
    (.swept (report (map.rows.countP (NotificationsRepository.expired now))),
      Table.delete (NotificationsRepository.expired now) map)

def serveRows (NOW : Timestamptz) (scan : Scan Payload) (table : NotificationRows Payload) :
    NotificationsCall Payload → NotificationsAnswer Payload × NotificationRows Payload
  | .create userId type payload =>
    let notification :=
      (NotificationRow.new NOW userId type payload table.nextId).rowToNotification
    (.created notification (pushed notification), table.create NOW userId type payload)
  | .listUnread userId index limit =>
    let total := table.rows.countP (NotificationRow.unreadBy userId)
    (.listed ((page index limit (table.unread scan userId)).map NotificationRow.rowToNotification)
      index limit total total, table)
  | .markRead userId id =>
    let (found, table) := table.markRead NOW userId id
    (readAnswer id (found.map NotificationRow.rowToNotification), table)
  | .markAllRead userId =>
    let (updated, table) := table.markAllRead NOW userId
    (.allRead updated, table)
  | .delete userId id =>
    let (removed, table) := table.deleteById userId id
    (deleteAnswer id removed, table)
  | .sweepExpired =>
    (.swept (report (table.rows.countP (NotificationsDbRepository.expired NOW))),
      Table.delete (NotificationsDbRepository.expired NOW) table)

/-! ## What Postgres refuses -/

end NotificationsService

/-- What the database has beside its notifications, and what it does to values. -/
structure NotificationsPlatform (Payload : Type) where
  /-- the ids of `users` -/
  users : Int → Bool
  /-- What a JSONB column gives back, or `none` for a value that it does not take. -/
  jsonb : Payload → Option Payload

namespace NotificationsService

def unavailable : NotificationsAnswer Payload := .serviceUnavailable handleDbError

/-- The values of the statements are taken where their placeholders are. -/
def accepted : NotificationsCall Payload → Bool
  | .create userId type _ => (Param.number userId).accepted && (Param.text type).accepted
  | .listUnread userId index limit =>
    (Param.number userId).accepted && (fitsBigint limit && fitsBigint ((index - 1) * limit))
  | .markRead userId id => (Param.number id).accepted && (Param.number userId).accepted
  | .markAllRead userId => (Param.number userId).accepted
  | .delete userId id => (Param.number id).accepted && (Param.number userId).accepted
  | .sweepExpired => true

/-- An INSERT that gets as far as its row takes its id, also when the row is refused. -/
def insertRow (pg : NotificationsPlatform Payload) (NOW : Timestamptz) (scan : Scan Payload)
    (userId : Int) (type : String) (payload : Payload) (table : NotificationRows Payload) :
    NotificationsAnswer Payload × NotificationRows Payload :=
  match pg.jsonb payload with
  | none => (unavailable, table)
  | some stored =>
    if table.nextId ≤ 2147483647 then
      if pg.users userId && fitsVarchar 100 type then
        serveRows NOW scan table (.create userId type stored)
      else (unavailable, table.skip)
    else (unavailable, table)

/-- A call of the service over the database. -/
def serveDatabase (pg : NotificationsPlatform Payload) (NOW : Timestamptz) (scan : Scan Payload)
    (table : NotificationRows Payload) (call : NotificationsCall Payload) :
    NotificationsAnswer Payload × NotificationRows Payload :=
  if accepted call = true then
    match call with
    | .create userId type payload => insertRow pg NOW scan userId type payload table
    | _ => serveRows NOW scan table call
  else (unavailable, table)

/-- Postgres refuses nothing of the call, and gives the payload back as it was. -/
def Taken (pg : NotificationsPlatform Payload) (table : NotificationRows Payload) :
    NotificationsCall Payload → Prop
  | .create userId type payload =>
    accepted (.create userId type payload) = true ∧ pg.jsonb payload = some payload ∧
      table.nextId ≤ 2147483647 ∧ pg.users userId = true ∧ fitsVarchar 100 type = true
  | call => accepted call = true

instance [DecidableEq Payload] (pg : NotificationsPlatform Payload)
    (table : NotificationRows Payload) : DecidablePred (Taken pg table)
  | .create _ _ _ => inferInstanceAs (Decidable (_ ∧ _))
  | .listUnread _ _ _ | .markRead _ _ | .markAllRead _ | .delete _ _ | .sweepExpired =>
    inferInstanceAs (Decidable (_ = true))

theorem serveDatabase_taken {pg : NotificationsPlatform Payload} {NOW : Timestamptz}
    {scan : Scan Payload} {table : NotificationRows Payload} {call : NotificationsCall Payload}
    (h : Taken pg table call) :
    serveDatabase pg NOW scan table call = serveRows NOW scan table call := by
  unfold serveDatabase
  cases call with
  | create userId type payload =>
    obtain ⟨haccepted, hjsonb, hnext, huser, hfits⟩ := h
    rw [if_pos haccepted]
    dsimp only
    rw [insertRow, hjsonb]
    dsimp only
    rw [if_pos hnext, huser, hfits, Bool.and_self, if_pos rfl]
  | listUnread userId index limit => exact if_pos h
  | markRead userId id => exact if_pos h
  | markAllRead userId => exact if_pos h
  | delete userId id => exact if_pos h
  | sweepExpired => exact if_pos h

theorem serveRows_ne_unavailable (NOW : Timestamptz) (scan : Scan Payload)
    (table : NotificationRows Payload) (call : NotificationsCall Payload) :
    (serveRows NOW scan table call).1 ≠ unavailable := by
  cases call with
  | markRead userId id =>
    show readAnswer id _ ≠ unavailable
    unfold readAnswer
    split
    · nofun
    · nofun
  | delete userId id =>
    show deleteAnswer id _ ≠ unavailable
    unfold deleteAnswer
    split
    · nofun
    · nofun
  | _ => nofun

/-- A refused call leaves the rows as they were.  It may have spent an id. -/
theorem serveDatabase_refused {pg : NotificationsPlatform Payload} {NOW : Timestamptz}
    {scan : Scan Payload} {table : NotificationRows Payload} {call : NotificationsCall Payload}
    (h : (serveDatabase pg NOW scan table call).1 = unavailable) :
    (serveDatabase pg NOW scan table call).2.rows = table.rows := by
  have served := @serveRows_ne_unavailable Payload
  unfold serveDatabase at h ⊢
  split at h
  · next haccepted =>
    rw [if_pos haccepted]
    cases call with
    | create userId type payload =>
      dsimp only at h ⊢
      unfold insertRow at h ⊢
      split
      · rfl
      · next stored hjsonb =>
        rw [hjsonb] at h
        dsimp only at h
        split
        · next hnext =>
          rw [if_pos hnext] at h
          split
          · next htaken =>
            rw [if_pos htaken] at h
            exact absurd h (served _ _ _ _)
          · rfl
        · rfl
    | _ => exact absurd h (served _ _ _ _)
  · next hrefused => rw [if_neg hrefused]

/-! ## The sweep -/

/-- The batches of a sweep come to one DELETE. -/
theorem sweepExpired_map (now : Date) (map : NotificationMap Payload) :
    ∃ sweep, (∀ fuel, map.rows.countP (NotificationsRepository.expired now) / 500 < fuel →
        sweepExpired (NotificationsRepository.repository now) fuel map.toRepository = some sweep) ∧
      sweep.logged = report (map.rows.countP (NotificationsRepository.expired now)) ∧
      sweep.store.byId = (Table.delete (NotificationsRepository.expired now) map).rows := by
  obtain ⟨sweep, hruns, hends⟩ := sweepExpired_ends (memory_batch now) map.toRepository
  have ends := hends.resolve_right fun hbreaks => hbreaks.2.elim fun _ hfalse => hfalse
  exact ⟨sweep, hruns, ends.logged, ends.left⟩

theorem sweepExpired_rows (NOW : Timestamptz) (scans : Nat → Scan Payload)
    (table : NotificationRows Payload) :
    ∃ sweep, (∀ fuel, table.rows.countP (NotificationsDbRepository.expired NOW) / 500 < fuel →
        sweepExpired (NotificationsDbRepository.repository NOW fun i => .answered (scans i)) fuel
          table.toTable = some sweep) ∧
      sweep.logged = report (table.rows.countP (NotificationsDbRepository.expired NOW)) ∧
      sweep.store.rows = (Table.delete (NotificationsDbRepository.expired NOW) table).rows := by
  obtain ⟨sweep, hruns, hends⟩ :=
    sweepExpired_ends (database_batch NOW fun i => .answered (scans i)) table.toTable
  have ends := hends.resolve_right fun ⟨_, i, lost⟩ => Bool.noConfusion lost
  exact ⟨sweep, hruns, ends.logged, ends.left⟩

/-! ## One call -/

/-- The rows are dated, no two of them in the same millisecond, and none after `now`. -/
structure Faithful (now : Date) (table : NotificationRows Payload) : Prop where
  dated : ∀ row ∈ table.rows, ∃ t : Timestamptz, row.createdAt = some t ∧ t.toDate ≤ now
  distinct : (table.rows.map fun row => row.rowToNotification.createdAt).Nodup

/-- A sweep does not come in the millisecond in which a row expires. -/
def Apart (NOW : Timestamptz) (table : NotificationRows Payload) :
    NotificationsCall Payload → Bool
  | .sweepExpired => table.rows.all fun row => row.expiresAt.toDate ≠ NOW.toDate
  | _ => true

variable {now : Date} {NOW : Timestamptz} {table : NotificationRows Payload}

theorem Faithful.createdAt_le (h : Faithful now table) {row : NotificationRow Payload}
    (hrow : row ∈ table.rows) : row.rowToNotification.createdAt ≤ now := by
  obtain ⟨t, hrowt, ht⟩ := h.dated row hrow
  rw [NotificationRow.rowToNotification, hrowt, Option.getD_some]
  exact ht

theorem rowToNotification_new (NOW : Timestamptz) (userId : Int) (type : String)
    (payload : Payload) (id : Int) :
    (NotificationRow.new NOW userId type payload id).rowToNotification =
      Notification.new NOW.toDate userId type payload id := by
  have expires : Timestamptz.toDate ⟨NOW.micros + 1000 * notificationRetentionMs⟩ =
      NOW.toDate.plus notificationRetentionMs := by
    simp only [Timestamptz.toDate, Date.plus, Date.mk.injEq]
    omega
  rw [NotificationRow.rowToNotification, NotificationRow.new, Notification.new, Option.getD_some,
    expires]
  rfl

theorem rowToNotification_read (NOW : Timestamptz) (row : NotificationRow Payload) :
    row.rowToNotification.read NOW.toDate = (row.read NOW).rowToNotification := by
  unfold Notification.read NotificationRow.read NotificationRow.rowToNotification
  cases row.readAt with
  | none => simp
  | some d => simp

theorem rowToNotification_readNow {row : NotificationRow Payload} (unread : row.readAt = none) :
    row.rowToNotification.read NOW.toDate = (row.readNow NOW).rowToNotification := by
  rw [rowToNotification_read, NotificationRow.read, NotificationRow.readNow, unread]
  rfl

theorem unreadBy_rowToNotification (userId : Int) (row : NotificationRow Payload) :
    Notification.unreadBy userId row.rowToNotification = NotificationRow.unreadBy userId row := by
  rw [Notification.unreadBy, NotificationRow.unreadBy, NotificationRow.rowToNotification,
    Option.isNone_map]

theorem expired_rowToNotification (apart : Apart NOW table .sweepExpired = true) :
    ∀ row ∈ table.rows, NotificationsRepository.expired NOW.toDate row.rowToNotification =
      NotificationsDbRepository.expired NOW row := by
  intro row hrow
  have other := of_decide_eq_true (List.all_eq_true.mp apart row hrow)
  rw [NotificationsRepository.expired, NotificationsDbRepository.expired,
    NotificationRow.rowToNotification, decide_eq_decide]
  simp only [Timestamptz.toDate, ne_eq, Date.mk.injEq] at other ⊢
  omega

/-- The order of the rows leaves no choice, when no two have the same date. -/
theorem unread_toMap (h : Faithful now table) (scan : Scan Payload) (userId : Int) :
    table.toMap.unread userId =
      (table.unread scan userId).map NotificationRow.rowToNotification := by
  let mine := table.rows.filter (NotificationRow.unreadBy userId)
  have rows : table.toMap.rows.filter (Notification.unreadBy userId) =
      mine.map NotificationRow.rowToNotification := by
    show List.filter _ (List.map _ _) = _
    rw [List.filter_map]
    congr 2
    funext row
    exact unreadBy_rowToNotification userId row
  have perm : (table.unread scan userId).Perm mine :=
    (List.perm_insertionSort _ _).trans (scan.perm mine)
  have sorted : ((table.unread scan userId).map NotificationRow.rowToNotification).Pairwise
      fun a b => b.createdAt ≤ a.createdAt := by
    have : Std.Total fun a b : NotificationRow Payload => b.age ≤ a.age :=
      ⟨fun a b => le_total b.age a.age⟩
    have : IsTrans (NotificationRow Payload) fun a b => b.age ≤ a.age :=
      ⟨fun a b c hab hbc => le_trans hbc hab⟩
    rw [List.pairwise_map]
    refine (List.pairwise_insertionSort _ _).imp_of_mem ?_
    intro a b ha hb older
    have inTable : ∀ row ∈ table.unread scan userId, row ∈ table.rows :=
      fun row hrow => List.mem_of_mem_filter (perm.subset hrow)
    obtain ⟨t, ht, -⟩ := h.dated a (inTable a ha)
    obtain ⟨u, hu, -⟩ := h.dated b (inTable b hb)
    rw [NotificationRow.age, NotificationRow.age, ht, hu] at older
    have le : u ≤ t := WithTop.coe_le_coe.mp older
    simp only [NotificationRow.rowToNotification, ht, hu, Option.getD_some]
    rw [Timestamptz.le_iff] at le
    rw [Date.le_iff]
    simp only [Timestamptz.toDate]
    omega
  have keys : ((mine.map NotificationRow.rowToNotification).map Notification.createdAt).Nodup := by
    rw [List.map_map]
    exact h.distinct.sublist (List.filter_sublist.map _)
  rw [NotificationMap.unread, rows]
  exact OffsetPaging.Ordered.unique (OffsetPaging.ordered_insertionSort _) ⟨perm.map _, sorted⟩ keys

theorem map_page {α β : Type} (f : α → β) (index limit : Nat) (data : List α) :
    page index limit (data.map f) = (page index limit data).map f := by
  rw [page, page, List.map_take, List.map_drop]

theorem length_unread (userId : Int) (table : NotificationRows Payload) :
    (table.toMap.unread userId).length = table.rows.countP (NotificationRow.unreadBy userId) := by
  rw [NotificationMap.unread, List.length_insertionSort, ← List.countP_eq_length_filter]
  show List.countP _ (List.map _ _) = _
  rw [List.countP_map]
  congr 1
  funext row
  exact unreadBy_rowToNotification userId row

/-- The row that `WHERE id = $1 AND user_id = $2` picks, if any. -/
theorem find_owned (userId id : Int) (table : NotificationRows Payload) :
    table.rows.find? (NotificationRow.ownedBy userId id) =
      (table.find id).filter fun row => row.userId = userId :=
  Table.find?_and

/-- The row of the id is the user's, or the statement applies to none. -/
theorem owned_cases (userId id : Int) (table : NotificationRows Payload) :
    (∃ row, table.find id = some row ∧ row.userId = userId ∧
        ∀ other ∈ table.rows, NotificationRow.ownedBy userId id other = decide (other.id = id)) ∨
      (∀ row, table.find id = some row → row.userId ≠ userId) ∧
        ∀ other ∈ table.rows, NotificationRow.ownedBy userId id other = false := by
  by_cases owned : ∃ row, table.find id = some row ∧ row.userId = userId
  · obtain ⟨row, hfind, huser⟩ := owned
    refine .inl ⟨row, hfind, huser, ?_⟩
    intro other hother
    by_cases hid : other.id = id
    · have same : other = row := by
        obtain ⟨hrow, hkey⟩ := Table.find_eq_some_iff.mp hfind
        exact Table.eq_of_key hother hrow (hid.trans hkey.symm)
      rw [NotificationRow.ownedBy, same, huser, decide_eq_true rfl, Bool.and_true]
    · rw [NotificationRow.ownedBy, decide_eq_false hid, Bool.false_and]
  · refine .inr ⟨fun row hfind huser => owned ⟨row, hfind, huser⟩, ?_⟩
    intro other hother
    rw [NotificationRow.ownedBy, Bool.and_eq_false_imp, decide_eq_true_eq, decide_eq_false_iff_not]
    exact fun hid huser => owned ⟨other, Table.find_eq_some_iff.mpr ⟨hother, hid⟩, huser⟩

theorem find_toMap (id : Int) (table : NotificationRows Payload) :
    table.toMap.find id = (table.find id).map NotificationRow.rowToNotification :=
  Table.find_image

theorem markRead_toMap (NOW : Timestamptz) (userId id : Int) (table : NotificationRows Payload) :
    table.toMap.markRead NOW.toDate userId id =
      ((table.markRead NOW userId id).1.map NotificationRow.rowToNotification,
        (table.markRead NOW userId id).2.toMap) := by
  rw [NotificationMap.markRead, NotificationRows.markRead, find_toMap]
  rcases owned_cases userId id table with ⟨row, hfind, huser, owned⟩ | ⟨other, unowned⟩
  · have updated : ((Table.modify (NotificationRow.ownedBy userId id)
        (NotificationRow.read NOW) (NotificationRow.read_id NOW)
        table).find id) = some (row.read NOW) := by
      have hrow := Table.find_eq_some_iff.mp hfind
      rw [Table.find_modify, hfind, Option.map_some, owned row hrow.1, hrow.2,
        if_pos (decide_eq_true rfl)]
    dsimp only
    rw [find_owned, updated, Option.filter_some, hfind, Option.map_some]
    have keeps : (row.read NOW).userId = userId := huser
    have mine : row.rowToNotification.userId = userId := huser
    dsimp only
    rw [if_pos (decide_eq_true keeps), if_neg (not_not.mpr mine), Option.map_some,
      rowToNotification_read]
    refine Prod.ext rfl ?_
    exact Table.image_modify (NotificationRow.read_id _) (Notification.read_id _)
      (fun row hrow => (owned row hrow).symm) fun row _ => rowToNotification_read NOW row
  · dsimp only
    rw [Table.modify_none (NotificationRow.read_id NOW) unowned, find_owned]
    cases hfind : table.find id with
    | none => rfl
    | some row =>
      have apart : row.userId ≠ userId := other row hfind
      have foreign : row.rowToNotification.userId ≠ userId := apart
      rw [Option.map_some, Option.filter_some, if_neg (by simpa using apart)]
      dsimp only
      rw [if_pos foreign]
      rfl

theorem deleteById_toMap (userId id : Int) (table : NotificationRows Payload) :
    table.toMap.deleteById userId id =
      ((table.deleteById userId id).1, (table.deleteById userId id).2.toMap) := by
  rw [NotificationMap.deleteById, NotificationRows.deleteById, find_toMap]
  rcases owned_cases userId id table with ⟨row, hfind, huser, owned⟩ | ⟨other, unowned⟩
  · have hrow := Table.find_eq_some_iff.mp hfind
    have counted : 0 < table.rows.countP (NotificationRow.ownedBy userId id) := by
      rw [List.countP_pos_iff]
      refine ⟨row, hrow.1, ?_⟩
      rw [owned row hrow.1, hrow.2, decide_eq_true rfl]
    have mine : row.rowToNotification.userId = userId := huser
    dsimp only
    rw [hfind, Option.map_some, decide_eq_true counted]
    dsimp only
    rw [if_neg (not_not.mpr mine)]
    refine Prod.ext rfl ?_
    exact Table.image_delete fun row hrow => (owned row hrow).symm
  · have uncounted : ¬0 < table.rows.countP (NotificationRow.ownedBy userId id) := by
      rw [List.countP_pos_iff]
      rintro ⟨row, hrow, owned⟩
      rw [unowned row hrow] at owned
      cases owned
    dsimp only
    rw [Table.delete_none unowned, decide_eq_false uncounted]
    cases hfind : table.find id with
    | none => rfl
    | some row =>
      have foreign : row.rowToNotification.userId ≠ userId := other row hfind
      rw [Option.map_some]
      dsimp only
      rw [if_pos foreign]

theorem serve_toMap (h : Faithful now table) (scan : Scan Payload)
    (call : NotificationsCall Payload) (apart : Apart NOW table call = true) :
    serveMap NOW.toDate table.toMap call =
      ((serveRows NOW scan table call).1, (serveRows NOW scan table call).2.toMap) := by
  cases call with
  | create userId type payload =>
    have created := rowToNotification_new NOW userId type payload table.nextId
    rw [serveMap, serveRows]
    dsimp only
    rw [created]
    refine Prod.ext rfl ?_
    exact Table.image_insert (NotificationRow.new_id _ _ _ _) (Notification.new_id _ _ _ _)
      fun id => (rowToNotification_new NOW userId type payload id).symm
  | listUnread userId index limit =>
    rw [serveMap, serveRows]
    dsimp only
    rw [length_unread, unread_toMap h scan, map_page]
  | markRead userId id =>
    rw [serveMap, serveRows, markRead_toMap]
  | markAllRead userId =>
    have counted : table.toMap.rows.countP (Notification.unreadBy userId) =
        table.rows.countP (NotificationRow.unreadBy userId) := by
      show List.countP _ (List.map _ _) = _
      rw [List.countP_map]
      congr 1
      funext row
      exact unreadBy_rowToNotification userId row
    rw [serveMap, serveRows, NotificationMap.markAllRead, NotificationRows.markAllRead, counted]
    refine Prod.ext rfl ?_
    refine Table.image_modify (NotificationRow.readNow_id _) (Notification.read_id _)
      (fun row _ => unreadBy_rowToNotification userId row) ?_
    intro row unread
    rw [NotificationRow.unreadBy, Bool.and_eq_true, Option.isNone_iff_eq_none] at unread
    exact rowToNotification_readNow unread.2
  | delete userId id =>
    rw [serveMap, serveRows, deleteById_toMap]
  | sweepExpired =>
    have counted : table.toMap.rows.countP (NotificationsRepository.expired NOW.toDate) =
        table.rows.countP (NotificationsDbRepository.expired NOW) := by
      show List.countP _ (List.map _ _) = _
      rw [List.countP_map]
      exact List.countP_congr fun row hrow => by
        rw [Function.comp_apply, expired_rowToNotification apart row hrow]
    rw [serveMap, serveRows, counted]
    refine Prod.ext rfl ?_
    exact Table.image_delete (expired_rowToNotification apart)

/-! ## Runs -/

theorem Faithful.mono {later : Date} (h : Faithful now table) (hle : now ≤ later) :
    Faithful later table where
  dated := by
    intro row hrow
    obtain ⟨t, hrowt, ht⟩ := h.dated row hrow
    exact ⟨t, hrowt, le_trans ht hle⟩
  distinct := h.distinct

theorem Faithful.modify (h : Faithful now table) {p : NotificationRow Payload → Bool}
    {f : NotificationRow Payload → NotificationRow Payload} (hf : ∀ row, (f row).id = row.id)
    (created : ∀ row, (f row).createdAt = row.createdAt) :
    Faithful now (Table.modify p f hf table) := by
  constructor
  · intro row hrow
    rcases Table.mem_modify.mp hrow with ⟨hold, -⟩ | ⟨old, hold, -, rfl⟩
    · exact h.dated row hold
    · rw [created]
      exact h.dated old hold
  · have same : ((Table.modify p f hf table).rows.map
        fun row => row.rowToNotification.createdAt) =
        table.rows.map fun row => row.rowToNotification.createdAt := by
      rw [Table.modify, List.map_map]
      apply List.map_congr_left
      intro row _
      rw [Function.comp_apply]
      split
      · rw [NotificationRow.rowToNotification, NotificationRow.rowToNotification, created]
      · rfl
    rw [same]
    exact h.distinct

theorem Faithful.delete (h : Faithful now table) (p : NotificationRow Payload → Bool) :
    Faithful now (Table.delete p table) where
  dated := fun row hrow => h.dated row (Table.mem_delete.mp hrow).1
  distinct := h.distinct.sublist (List.filter_sublist.map _)

/-- A row of a later millisecond is not of the same millisecond as another. -/
theorem Faithful.create (h : Faithful now table) (hlt : now < NOW.toDate) (userId : Int)
    (type : String) (payload : Payload) :
    Faithful NOW.toDate (table.create NOW userId type payload) := by
  have earlier := h.mono (le_of_lt hlt)
  constructor
  · intro row hrow
    rcases (Table.mem_insert (NotificationRow.new_id _ _ _ _)).mp hrow with hold | rfl
    · exact earlier.dated row hold
    · exact ⟨NOW, rfl, le_refl _⟩
  · apply nodup_concat h.distinct
    intro row hrow same
    have before := h.createdAt_le hrow
    rw [same, rowToNotification_new] at before
    exact absurd before (not_le_of_gt hlt)

theorem Faithful.serve (h : Faithful now table) (hlt : now < NOW.toDate) (scan : Scan Payload)
    (call : NotificationsCall Payload) :
    Faithful NOW.toDate (serveRows NOW scan table call).2 := by
  have earlier := h.mono (le_of_lt hlt)
  cases call with
  | create userId type payload => exact h.create hlt userId type payload
  | listUnread userId index limit => exact earlier
  | markRead userId id =>
    exact earlier.modify (NotificationRow.read_id _) fun _ => rfl
  | markAllRead userId =>
    exact earlier.modify (NotificationRow.readNow_id _) fun _ => rfl
  | delete userId id => exact earlier.delete _
  | sweepExpired => exact earlier.delete _

/-- A service with its repository, at the millisecond of its last call. -/
structure Inbox (σ Payload : Type) where
  now : Date
  store : σ
  answers : List (NotificationsAnswer Payload)

/-- A call of the service. -/
def stepMap (s : Inbox (NotificationMap Payload) Payload)
    (a : Date × NotificationsCall Payload) : Option (Inbox (NotificationMap Payload) Payload) :=
  if s.now ≤ a.1 then
    let (answer, store) := serveMap a.1 s.store a.2
    some ⟨a.1, store, s.answers ++ [answer]⟩
  else none

/-- The same over the database, which orders rows as it likes. -/
def stepRows (pg : NotificationsPlatform Payload) (s : Inbox (NotificationRows Payload) Payload)
    (a : Timestamptz × NotificationsCall Payload × Scan Payload) :
    Option (Inbox (NotificationRows Payload) Payload) :=
  if s.now ≤ a.1.toDate then
    let (answer, store) := serveDatabase pg a.1 a.2.2 s.store a.2.1
    some ⟨a.1.toDate, store, s.answers ++ [answer]⟩
  else none

/-- The call comes in a millisecond of its own, a sweep in none in which a row expires, and
nothing of it is refused. -/
def Undisturbed (pg : NotificationsPlatform Payload) (s : Inbox (NotificationRows Payload) Payload)
    (a : Timestamptz × NotificationsCall Payload × Scan Payload)
    (_ : Inbox (NotificationRows Payload) Payload) : Prop :=
  s.now < a.1.toDate ∧ Apart a.1 s.store a.2.1 = true ∧ Taken pg s.store a.2.1

instance [DecidableEq Payload] (pg : NotificationsPlatform Payload)
    (s t : Inbox (NotificationRows Payload) Payload)
    (a : Timestamptz × NotificationsCall Payload × Scan Payload) :
    Decidable (Undisturbed pg s a t) :=
  inferInstanceAs (Decidable (_ ∧ _ ∧ _))

/-- The call without what the database does on its own. -/
def toCall (a : Timestamptz × NotificationsCall Payload × Scan Payload) :
    Date × NotificationsCall Payload := (a.1.toDate, a.2.1)

/-- The one inbox is the other, seen through `rowToNotification`. -/
structure Seen (s : Inbox (NotificationRows Payload) Payload)
    (s' : Inbox (NotificationMap Payload) Payload) : Prop where
  now : s'.now = s.now
  store : s'.store = s.store.toMap
  answers : s'.answers = s.answers
  faithful : Faithful s.now s.store

theorem step_seen {pg : NotificationsPlatform Payload}
    {s t : Inbox (NotificationRows Payload) Payload} {s' : Inbox (NotificationMap Payload) Payload}
    {a : Timestamptz × NotificationsCall Payload × Scan Payload} (h : Seen s s')
    (undisturbed : Undisturbed pg s a t) (hs : stepRows pg s a = some t) :
    ∃ t', stepMap s' (toCall a) = some t' ∧ Seen t t' := by
  obtain ⟨later, apart, taken⟩ := undisturbed
  have served := serve_toMap h.faithful a.2.2 a.2.1 apart
  rw [stepRows, if_pos (le_of_lt later), serveDatabase_taken taken] at hs
  cases hs
  refine ⟨⟨a.1.toDate, (serveMap a.1.toDate s'.store a.2.1).2,
    s'.answers ++ [(serveMap a.1.toDate s'.store a.2.1).1]⟩, ?_, ?_⟩
  · rw [stepMap, h.now]
    exact if_pos (le_of_lt later)
  · rw [h.store, served, h.answers]
    exact ⟨rfl, rfl, rfl, h.faithful.serve later a.2.2 a.2.1⟩

/-- Whatever the calls, one after the other and none of them disturbed, the database answers
like the map and ends with the same notifications. -/
theorem inboxes_agree {pg : NotificationsPlatform Payload}
    {start s : Inbox (NotificationRows Payload) Payload}
    (faithful : Faithful start.now start.store)
    {as : List (Timestamptz × NotificationsCall Payload × Scan Payload)}
    (undisturbed : AllSteps (stepRows pg) (Undisturbed pg) start as)
    (hrun : run (stepRows pg) start as = some s) :
    ∃ s', run stepMap ⟨start.now, start.store.toMap, start.answers⟩ (as.map toCall) = some s' ∧
      s'.answers = s.answers ∧ s'.store = s.store.toMap := by
  obtain ⟨s', hs', seen⟩ := undisturbed.simulates (fun _ _ _ _ h hu hs => step_seen h hu hs)
    (⟨rfl, rfl, rfl, faithful⟩ : Seen start ⟨start.now, start.store.toMap, start.answers⟩) hrun
  exact ⟨s', hs', seen.answers, seen.store⟩

/-- A database with the users 1 and 2. -/
def twoUsers : NotificationsPlatform String := ⟨fun id => id = 1 || id = 2, some⟩

/-- Two notifications of user 1, of which one is read, and a foreign one that is not. -/
def visit : List (Timestamptz × NotificationsCall String × Scan String) :=
  [(⟨1500⟩, .create 1 "mention" "a", .inOrder), (⟨2700⟩, .create 1 "mention" "b", .inOrder),
    (⟨3100⟩, .create 2 "mention" "c", .inOrder), (⟨4000⟩, .markRead 1 1, .inOrder),
    (⟨5900⟩, .markRead 1 3, .inOrder),
    (⟨6001⟩, .listUnread 1 1 20, ⟨List.reverse, List.reverse_perm⟩),
    (⟨9000⟩, .sweepExpired, .inOrder)]

theorem inboxes_agree_visit :
    ∃ s s', run (stepRows twoUsers) ⟨⟨0⟩, Table.empty 1, []⟩ visit = some s ∧
      run stepMap ⟨⟨0⟩, NotificationRows.toMap (Table.empty 1), []⟩ (visit.map toCall) = some s' ∧
      s.answers.length = 7 ∧ s'.answers = s.answers ∧ s'.store = s.store.toMap := by
  have served : ∃ s, run (stepRows twoUsers) ⟨⟨0⟩, Table.empty 1, []⟩ visit = some s ∧
      s.answers.length = 7 := ⟨_, rfl, rfl⟩
  obtain ⟨s, hrun, length⟩ := served
  have faithful : Faithful ⟨0⟩ (Table.empty 1 : NotificationRows String) :=
    ⟨List.forall_mem_nil _, List.nodup_nil⟩
  have undisturbed : AllSteps (stepRows twoUsers) (Undisturbed twoUsers) ⟨⟨0⟩, Table.empty 1, []⟩
      visit := by decide +kernel
  obtain ⟨s', hrun', answers, store⟩ := inboxes_agree faithful undisturbed hrun
  exact ⟨s, s', hrun, hrun', length, answers, store⟩

end NotificationsService

end Api
end XStreamRoll
