/-
What becomes of a notification.

A row keeps what it says.  It is read once, by its own user, and it goes when its user
deletes it or when a sweep finds it expired.  Its id is not given out again, so a
notification that has gone stays gone.  No call of another user makes a difference.
-/
import XStreamRoll.Api.Notifications.Pushes

namespace XStreamRoll
namespace Api
namespace Pushes

open Transition

variable {Payload : Type} {pg : Postgres} {numbers : TextNumbers}
  {passed : Option StreamIdField → Option StreamIdField} {s t : Pushes Payload}
  {a : Action Payload}

/-- The action marks the row as read, if it is there and unread. -/
def Action.Reads (NOW : Timestamptz) (row : NotificationRow Payload) : Action Payload → Prop
  | .call CURRENT_TIMESTAMP _ (.markRead userId id) =>
    CURRENT_TIMESTAMP = NOW ∧ userId = row.userId ∧ id = row.id
  | .call CURRENT_TIMESTAMP _ (.markAllRead userId) =>
    CURRENT_TIMESTAMP = NOW ∧ userId = row.userId
  | _ => False

/-- The action may remove the row.  A sweep takes 500 of the expired rows at a time. -/
def Action.Removes (row : NotificationRow Payload) : Action Payload → Prop
  | .call _ _ (.delete userId id) => userId = row.userId ∧ id = row.id
  | .sweep NOW _ => row.expiresAt < NOW
  | _ => False

/-- What one step makes of a row. -/
inductive Outcome (a : Action Payload) (row : NotificationRow Payload) :
    Option (NotificationRow Payload) → Prop where
  | kept : Outcome a row (some row)
  | read {NOW : Timestamptz} (unread : row.readAt = none) (reads : a.Reads NOW row) :
    Outcome a row (some { row with readAt := some NOW })
  | removed (removes : a.Removes row) : Outcome a row none

theorem outcome_of_step (hs : s.step pg numbers passed a = some t) {row : NotificationRow Payload}
    (hrow : s.table.find row.id = some row) : Outcome a row (t.table.find row.id) := by
  cases moves_of_step hs with
  | gateway h => exact hrow ▸ .kept
  | create userId type payload => exact hrow ▸ .kept
  | insert NOW hcreation =>
    have old : row.id ≠ s.table.nextId := by
      obtain ⟨hmem, -⟩ := Table.find_eq_some_iff.mp hrow
      exact ne_of_lt (s.table.sequence row hmem)
    rw [NotificationRows.create, Table.find_insert, if_neg old, hrow]
    exact .kept
  | fail spent hcreation =>
    cases spent with
    | false => exact hrow ▸ .kept
    | true =>
      have same : s.table.skip.find row.id = s.table.find row.id := rfl
      exact same.symm ▸ hrow ▸ .kept
  | emit hcreation => exact hrow ▸ .kept
  | markRead NOW scan userId id =>
    rw [NotificationRows.markRead, Table.find_modify, hrow, Option.map_some]
    split
    · next owned =>
      rw [NotificationRow.ownedBy, Bool.and_eq_true, decide_eq_true_eq, decide_eq_true_eq] at owned
      unfold NotificationRow.read
      cases hread : row.readAt with
      | none => exact .read hread ⟨rfl, owned.2.symm, owned.1.symm⟩
      | some d =>
        rw [Option.some_or, ← hread]
        exact .kept
    · exact .kept
  | markAllRead NOW scan userId =>
    rw [NotificationRows.markAllRead, Table.find_modify, hrow, Option.map_some]
    split
    · next unread =>
      rw [NotificationRow.unreadBy, Bool.and_eq_true, decide_eq_true_eq,
        Option.isNone_iff_eq_none] at unread
      exact .read unread.2 ⟨rfl, unread.1.symm⟩
    · exact .kept
  | delete NOW scan userId id =>
    rw [NotificationRows.deleteById, Table.find_delete, hrow, Option.filter_some]
    split
    · exact .kept
    · next owned =>
      rw [Bool.not_eq_true', Bool.not_eq_false, NotificationRow.ownedBy, Bool.and_eq_true,
        decide_eq_true_eq, decide_eq_true_eq] at owned
      exact .removed ⟨owned.2.symm, owned.1.symm⟩
  | sweep NOW scan =>
    rw [NotificationRows.deleteExpiredBatch, Table.find_delete, hrow, Option.filter_some]
    split
    · exact .kept
    · next taken =>
      rw [Bool.not_eq_true', Bool.not_eq_false, decide_eq_true_eq] at taken
      obtain ⟨other, hother, hid⟩ := List.mem_map.mp taken
      have hexpired := (scan.perm _).subset (List.mem_of_mem_take hother)
      obtain ⟨hmem, expired⟩ := List.mem_filter.mp hexpired
      have same : other = row :=
        Table.eq_of_key hmem (Table.find_eq_some_iff.mp hrow).1 hid
      have past : other.expiresAt < NOW := of_decide_eq_true expired
      exact .removed (same ▸ past)

/-- An id that has been given out, and of which there is no row. -/
def Gone (id : Int) (s : Pushes Payload) : Prop :=
  id < s.table.nextId ∧ s.table.find id = none

theorem step_gone {id : Int} (h : s.Gone id) (hs : s.step pg numbers passed a = some t) :
    t.Gone id := by
  have evolves := evolves_of_step hs
  refine ⟨lt_of_lt_of_le h.1 evolves.nextId, ?_⟩
  cases hfind : t.table.find id with
  | none => rfl
  | some row =>
    obtain ⟨old, hold, -⟩ := evolves.rows id h.1 row hfind
    rw [h.2] at hold
    cases hold

/-- In every run a row keeps all it says but for the date at which it was read.  That date is
set once, by its own user.  If the row has gone, its user has deleted it, or a sweep has come
after its expiry. -/
theorem history {as : List (Action Payload)} (hrun : run (step pg numbers passed) s as = some t)
    {row : NotificationRow Payload} (hrow : s.table.find row.id = some row) :
    (∃ readAt, t.table.find row.id = some { row with readAt := readAt } ∧
        (readAt = row.readAt ∨
          row.readAt = none ∧ ∃ NOW, readAt = some NOW ∧ ∃ a ∈ as, a.Reads NOW row)) ∨
      t.table.find row.id = none ∧ ∃ a ∈ as, a.Removes row := by
  induction as generalizing s row with
  | nil =>
    rw [run_nil, Option.some.injEq] at hrun
    exact .inl ⟨row.readAt, hrun ▸ hrow, .inl rfl⟩
  | cons a as ih =>
    obtain ⟨r, hr, hrt⟩ := run_cons_eq_some.mp hrun
    have outcome := outcome_of_step hr hrow
    cases hfind : r.table.find row.id with
    | none =>
      rw [hfind] at outcome
      cases outcome with
      | removed removes =>
        have given : row.id < r.table.nextId :=
          lt_of_lt_of_le (s.table.sequence row (Table.find_eq_some_iff.mp hrow).1)
            (evolves_of_step hr).nextId
        have gone : t.Gone row.id :=
          run_invariant (fun _ _ _ h hs => step_gone h hs) ⟨given, hfind⟩ hrt
        exact .inr ⟨gone.2, a, List.mem_cons_self, removes⟩
    | some later =>
      rw [hfind] at outcome
      cases outcome with
      | kept =>
        rcases ih hrt hfind with ⟨readAt, hend, hread⟩ | ⟨hend, b, hb, removes⟩
        · refine .inl ⟨readAt, hend, ?_⟩
          rcases hread with same | ⟨unread, NOW, hnow, b, hb, reads⟩
          · exact .inl same
          · exact .inr ⟨unread, NOW, hnow, b, List.mem_cons_of_mem a hb, reads⟩
        · exact .inr ⟨hend, b, List.mem_cons_of_mem a hb, removes⟩
      | @read NOW unread reads =>
        let later : NotificationRow Payload := { row with readAt := some NOW }
        have found : r.table.find later.id = some later := hfind
        rcases ih hrt found with ⟨readAt, hend, hread⟩ | ⟨hend, b, hb, removes⟩
        · refine .inl ⟨readAt, hend, .inr ⟨unread, NOW, ?_, a, List.mem_cons_self, reads⟩⟩
          rcases hread with same | ⟨again, -⟩
          · exact same
          · cases again
        · exact .inr ⟨hend, b, List.mem_cons_of_mem a hb, removes⟩

/-- User 7 has a notification. -/
def mentioned : Pushes String :=
  { silent with table := NotificationRows.create ⟨1500⟩ 7 "mention" "a" (Table.empty 1) }

/-- The user reads it twice, user 8 tries to delete it, and a sweep comes before it expires. -/
def readTwice : List (Action String) :=
  [.call ⟨2000⟩ .inOrder (.markRead 7 1), .call ⟨3000⟩ .inOrder (.delete 8 1),
    .call ⟨4000⟩ .inOrder (.markRead 7 1), .sweep ⟨5000⟩ .inOrder]

theorem history_readTwice :
    ∃ t row, mentioned.table.find 1 = some row ∧
      run plainStep mentioned readTwice = some t ∧
      ((∃ readAt, t.table.find row.id = some { row with readAt := readAt } ∧
          (readAt = row.readAt ∨ row.readAt = none ∧ ∃ NOW, readAt = some NOW ∧
            ∃ a ∈ readTwice, a.Reads NOW row)) ∨
        t.table.find row.id = none ∧ ∃ a ∈ readTwice, a.Removes row) := by
  have ends : ∃ t row, mentioned.table.find 1 = some row ∧ row.id = 1 ∧
      run plainStep mentioned readTwice = some t :=
    ⟨_, _, rfl, rfl, rfl⟩
  obtain ⟨t, row, hrow, hid, hrun⟩ := ends
  exact ⟨t, row, hrow, hrun, history hrun (hid ▸ hrow)⟩

end Pushes
end Api
end XStreamRoll
