/-
`StreamsDbRepository.getPendingEvents`: one page of `stream_data`, oldest first.

The page starts after a keyset cursor over `(timestamp, id)`, and a full page
comes with the cursor of the next.  The cursor is made from the event the client
gets, so its timestamp went through a `Date` and `toISOString`.  How Postgres
reads that text back is a parameter.
-/
import Mathlib.Data.List.Sort
import Mathlib.Data.Prod.Lex
import Std.Data.String.ToInt
import XStreamRoll.Json
import XStreamRoll.Keyset
import XStreamRoll.Time

namespace XStreamRoll
namespace Api

variable {Data : Type}

structure StreamDataRow (Data : Type) where
  id : Int
  streamId : Int
  data : Data
  timestamp : Timestamptz
deriving DecidableEq, Repr

/-- The pair that rows are ordered by. -/
def StreamDataRow.key (r : StreamDataRow Data) : Timestamptz ×ₗ Int :=
  toLex (r.timestamp, r.id)

/-- The table `stream_data`. -/
structure StreamData (Data : Type) where
  rows : List (StreamDataRow Data)
  primaryKey : (rows.map StreamDataRow.id).Nodup

structure PendingStreamEvent (Data : Type) where
  id : String
  streamId : String
  data : Data
  timestamp : String
deriving DecidableEq, Repr

def StreamDataRow.toPendingEvent (r : StreamDataRow Data) : PendingStreamEvent Data where
  id := r.id.repr
  streamId := r.streamId.repr
  data := r.data
  timestamp := r.timestamp.toDate.toISOString

/-! ## The cursor -/

structure Cursor where
  timestamp : String
  id : Int
deriving DecidableEq, Repr

namespace Cursor

/-- `{"timestamp":"…","id":…}`, which is `JSON.stringify` of a cursor whose timestamp needs no
escapes. -/
def stringify (c : Cursor) : String :=
  Json.inBraces ("\"timestamp\":\"" ++ c.timestamp ++ "\",\"id\":" ++ c.id.repr)

/-- `JSON.parse` of a text that `stringify` wrote. -/
def parse (text : String) : Option Cursor :=
  (text.toList.dropPrefix? ('{' :: "\"timestamp\":\"".toList)).bind fun cs =>
    ((cs.dropWhile (· ≠ '"')).dropPrefix? "\",\"id\":".toList).bind fun digits =>
      if digits.getLast? = some '}' then
        (String.ofList digits.dropLast).toInt?.map fun id =>
          ⟨String.ofList (cs.takeWhile (· ≠ '"')), id⟩
      else none

theorem parse_stringify {c : Cursor} (h : '"' ∉ c.timestamp.toList) :
    parse c.stringify = some c := by
  have htext : c.stringify.toList = ('{' :: "\"timestamp\":\"".toList) ++
      (c.timestamp.toList ++ ("\",\"id\":".toList ++ (c.id.repr.toList ++ ['}']))) := by
    -- Over variables: a rewrite would try every literal as an append.
    have hfour : ∀ a b d e : String, (Json.inBraces (a ++ b ++ d ++ e)).toList =
        ('{' :: a.toList) ++ (b.toList ++ (d.toList ++ (e.toList ++ ['}']))) := by
      intro a b d e
      simp only [Json.toList_inBraces, String.toList_append, List.append_assoc, List.cons_append]
    exact hfour _ _ _ _
  have hplain : ∀ x ∈ c.timestamp.toList, decide (x ≠ '"') = true := by
    intro x hx
    apply decide_eq_true
    rintro rfl
    exact h hx
  have hstop : ∀ rest : List Char, (c.timestamp.toList ++ ("\",\"id\":".toList ++ rest)).dropWhile
      (· ≠ '"') = "\",\"id\":".toList ++ rest := by
    intro rest
    rw [List.dropWhile_append_of_pos hplain]
    rfl
  have htake : ∀ rest : List Char, (c.timestamp.toList ++ ("\",\"id\":".toList ++ rest)).takeWhile
      (· ≠ '"') = c.timestamp.toList := by
    intro rest
    rw [List.takeWhile_append_of_pos hplain]
    exact List.append_nil _
  rw [parse, htext, List.dropPrefix?_append_of_beq _ (beq_self_eq_true _), Option.bind_some,
    hstop, htake, List.dropPrefix?_append_of_beq _ (beq_self_eq_true _), Option.bind_some,
    List.getLast?_concat, if_pos rfl, List.dropLast_concat, String.ofList_toList,
    String.ofList_toList, Int.toInt?_repr]
  rfl

end Cursor

/-! ## The query -/

namespace StreamData

/-- `ORDER BY timestamp ASC, id ASC` over the whole table. -/
def ordered (table : StreamData Data) : List (StreamDataRow Data) :=
  table.rows.insertionSort fun a b => a.key ≤ b.key

/-- `SELECT … WHERE (timestamp, id) > (…) ORDER BY timestamp ASC, id ASC LIMIT …`. -/
def select (table : StreamData Data) (after : Option (Timestamptz ×ₗ Int)) (limit : Nat) :
    List (StreamDataRow Data) :=
  ((Keyset.after StreamDataRow.key table.rows after).insertionSort
    fun a b => a.key ≤ b.key).take limit

end StreamData

/-- What every database error of the repository becomes. -/
def handleDbError : String := "Database is unavailable. Please try again later."

/-- `cursor ? JSON.parse(cursor) : null`, and Postgres reading the timestamp.  An
outer `none` is an error. -/
def readCursor (readTimestamptz : String → Option Timestamptz) :
    Option String → Option (Option (Timestamptz ×ₗ Int))
  | none => some none
  | some cursor =>
    if cursor = "" then some none
    else (Cursor.parse cursor).bind fun parsed =>
      (readTimestamptz parsed.timestamp).map fun timestamp => some (toLex (timestamp, parsed.id))

/-- The rows that the query finds.  The object `{}`, which the worker sends after a plain array,
has neither a timestamp nor an id, and no row compares with NULL.  An outer `none` is an
error. -/
def selectPending (readTimestamptz : String → Option Timestamptz) (table : StreamData Data)
    (limit : Nat) (cursor : Option String) : Option (List (StreamDataRow Data)) :=
  if cursor = some "{}" then some []
  else (readCursor readTimestamptz cursor).map fun after => table.select after limit

/-- `Number(id)` of a text.  An id is never `NaN`. -/
def number (id : String) : Int := id.toInt?.getD 0

def getPendingEvents (readTimestamptz : String → Option Timestamptz) (table : StreamData Data)
    (limit : Nat) (cursor : Option String) :
    Except String (List (PendingStreamEvent Data) × Option String) :=
  match selectPending readTimestamptz table limit cursor with
  | none => .error handleDbError
  | some rows =>
    let data := rows.map StreamDataRow.toPendingEvent
    if data.length < limit then .ok (data, none)
    else
      match data.getLast? with
      | none => .error handleDbError
      | some last => .ok (data, some (Cursor.stringify ⟨last.timestamp, number last.id⟩))

/-- `GET /streams/pending`: a page has between 1 and 1000 events. -/
def getPending (readTimestamptz : String → Option Timestamptz) (table : StreamData Data)
    (limit : Nat) (cursor : Option String) :
    Except String (List (PendingStreamEvent Data) × Option String) :=
  getPendingEvents readTimestamptz table (min (max 1 limit) 1000) cursor

/-- Call `getPendingEvents` and follow `nextCursor` until it is null, at most `fuel`
times. -/
def collect (readTimestamptz : String → Option Timestamptz) (table : StreamData Data)
    (limit : Nat) : Nat → Option String →
    Option (Except String (List (PendingStreamEvent Data)))
  | 0, _ => none
  | fuel + 1, cursor =>
    match getPendingEvents readTimestamptz table limit cursor with
    | .error message => some (.error message)
    | .ok (data, none) => some (.ok data)
    | .ok (data, some next) =>
      (collect readTimestamptz table limit fuel (some next)).map (Except.map (data ++ ·))

/-! ## The query is a keyset page -/

namespace StreamData

variable (table : StreamData Data)

theorem ordered_perm : table.ordered.Perm table.rows := List.perm_insertionSort _ _

theorem key_injOn {a b : StreamDataRow Data} (ha : a ∈ table.rows) (hb : b ∈ table.rows)
    (h : a.id = b.id) : a = b :=
  List.inj_on_of_nodup_map table.primaryKey ha hb h

/-- Rows have distinct ids, so the order is strict. -/
theorem ordered_sorted : table.ordered.Pairwise fun a b => a.key < b.key := by
  have hle : table.ordered.Pairwise fun a b => a.key ≤ b.key :=
    List.pairwise_insertionSort (fun a b : StreamDataRow Data => a.key ≤ b.key) table.rows
  have hids : (table.ordered.map StreamDataRow.id).Nodup :=
    (table.ordered_perm.map StreamDataRow.id).nodup_iff.mpr table.primaryKey
  have hne : table.ordered.Pairwise fun a b => a.id ≠ b.id := List.pairwise_map.mp hids
  refine (hle.and hne).imp ?_
  rintro a b ⟨hab, hid⟩
  apply lt_of_le_of_ne hab
  intro hkey
  exact hid (congrArg Prod.snd (toLex.injective hkey))

theorem select_eq (after : Option (Timestamptz ×ₗ Int)) (limit : Nat) :
    table.select after limit = Keyset.page StreamDataRow.key limit table.ordered after := by
  rw [select, Keyset.page]
  congr 1
  cases after with
  | none => rfl
  | some c =>
    let rest : StreamData Data :=
      ⟨table.rows.filter fun r => decide (c < r.key),
        (List.filter_sublist.map _).nodup table.primaryKey⟩
    have hperm : rest.ordered.Perm (table.ordered.filter fun r => decide (c < r.key)) :=
      rest.ordered_perm.trans (table.ordered_perm.filter _).symm
    exact hperm.eq_of_pairwise (fun a b _ _ hab hba => absurd hba (not_lt_of_gt hab))
      rest.ordered_sorted (table.ordered_sorted.filter _)

end StreamData

/-! ## Following the cursor -/

/-- The cursor that Postgres gets after a page that ends with this row. -/
def nextKey (readTimestamptz : String → Option Timestamptz) (r : StreamDataRow Data) :
    Option (Timestamptz ×ₗ Int) :=
  (readTimestamptz r.timestamp.toDate.toISOString).map fun timestamp => toLex (timestamp, r.id)

variable {readTimestamptz : String → Option Timestamptz} {table : StreamData Data} {limit : Nat}

theorem readCursor_stringify {text : String} (id : Int) (h : '"' ∉ text.toList) :
    readCursor readTimestamptz (some (Cursor.stringify ⟨text, id⟩)) =
      (readTimestamptz text).map fun timestamp => some (toLex (timestamp, id)) := by
  have hparse : Cursor.parse (Cursor.stringify ⟨text, id⟩) = some ⟨text, id⟩ :=
    Cursor.parse_stringify h
  have hne : Cursor.stringify ⟨text, id⟩ ≠ "" := by
    intro hempty
    have hnone : Cursor.parse "" = none := by decide +kernel
    rw [hempty, hnone] at hparse
    cases hparse
  rw [readCursor, if_neg hne, hparse, Option.bind_some]

/-- The cursor that a page which ends with this row comes with. -/
def cursorOf (r : StreamDataRow Data) : String :=
  Cursor.stringify ⟨r.toPendingEvent.timestamp, number r.toPendingEvent.id⟩

/-- An id survives `String` and `Number`. -/
theorem cursorOf_eq (r : StreamDataRow Data) :
    cursorOf r = Cursor.stringify ⟨r.timestamp.toDate.toISOString, r.id⟩ := by
  have hid : number r.id.repr = r.id := by
    rw [number, Int.toInt?_repr]
    rfl
  show Cursor.stringify ⟨r.timestamp.toDate.toISOString, number r.id.repr⟩ = _
  rw [hid]

theorem readCursor_cursorOf (r : StreamDataRow Data) :
    readCursor readTimestamptz (some (cursorOf r)) = (nextKey readTimestamptz r).map some := by
  rw [cursorOf_eq, readCursor_stringify r.id (Date.quote_not_mem_toISOString r.timestamp.toDate),
    nextKey, Option.map_map]
  rfl

theorem selectPending_eq {cursor : Option String} {c : Option (Timestamptz ×ₗ Int)}
    (hc : readCursor readTimestamptz cursor = some c) :
    selectPending readTimestamptz table limit cursor = some (table.select c limit) := by
  have hne : cursor ≠ some "{}" := by
    rintro rfl
    have hnone : Cursor.parse "{}" = none := by decide +kernel
    rw [readCursor, if_neg (by decide), hnone] at hc
    cases hc
  rw [selectPending, if_neg hne, hc, Option.map_some]

theorem cursorOf_ne_empty (r : StreamDataRow Data) : some (cursorOf r) ≠ some "{}" := by
  intro h
  have hparse := Cursor.parse_stringify (c := ⟨r.timestamp.toDate.toISOString, r.id⟩)
    (Date.quote_not_mem_toISOString r.timestamp.toDate)
  have hnone : Cursor.parse "{}" = none := by decide +kernel
  rw [← cursorOf_eq, Option.some.inj h, hnone] at hparse
  cases hparse

theorem getPendingEvents_eq {cursor : Option String} {c : Option (Timestamptz ×ₗ Int)}
    (hc : readCursor readTimestamptz cursor = some c) :
    getPendingEvents readTimestamptz table limit cursor =
      (let rows := Keyset.page StreamDataRow.key limit table.ordered c
      if rows.length < limit then .ok (rows.map StreamDataRow.toPendingEvent, none)
      else match rows.getLast? with
        | none => .error handleDbError
        | some r => .ok (rows.map StreamDataRow.toPendingEvent, some (cursorOf r))) := by
  unfold getPendingEvents
  rw [selectPending_eq hc]
  simp only [StreamData.select_eq, List.length_map, List.getLast?_map]
  split
  · rfl
  · cases (Keyset.page StreamDataRow.key limit table.ordered c).getLast? <;> rfl

theorem collect_unreadable {r : StreamDataRow Data}
    (hc : readCursor readTimestamptz (some (cursorOf r)) = none) (fuel : Nat)
    (events : List (PendingStreamEvent Data)) :
    collect readTimestamptz table limit fuel (some (cursorOf r)) ≠ some (.ok events) := by
  cases fuel with
  | zero =>
    intro h
    cases h
  | succ fuel =>
    rw [collect, getPendingEvents, selectPending, if_neg (cursorOf_ne_empty r), hc]
    intro h
    cases h

/-- Following the cursor is walking the pages. -/
theorem collect_ok_iff {fuel : Nat} {cursor : Option String} {c : Option (Timestamptz ×ₗ Int)}
    {events : List (PendingStreamEvent Data)} (hc : readCursor readTimestamptz cursor = some c) :
    collect readTimestamptz table limit fuel cursor = some (.ok events) ↔
      ∃ rows, Keyset.walk StreamDataRow.key (nextKey readTimestamptz) limit table.ordered fuel c =
        some (some rows) ∧ rows.map StreamDataRow.toPendingEvent = events := by
  induction fuel generalizing cursor c events with
  | zero => simp [collect, Keyset.walk]
  | succ fuel ih =>
    rw [collect, getPendingEvents_eq hc, Keyset.walk]
    simp only
    let rows := Keyset.page StreamDataRow.key limit table.ordered c
    by_cases hshort : rows.length < limit
    · simp only [rows] at hshort
      simp [hshort]
    · simp only [rows] at hshort
      simp only [hshort, if_false]
      cases hlast : (Keyset.page StreamDataRow.key limit table.ordered c).getLast? with
      | none => simp
      | some r =>
        have hread : readCursor readTimestamptz (some (cursorOf r)) = _ := readCursor_cursorOf r
        simp only
        cases hnext : nextKey readTimestamptz r with
        | none =>
          rw [hnext] at hread
          have hnever : ∀ tail,
              collect readTimestamptz table limit fuel (some (cursorOf r)) ≠ some (.ok tail) :=
            collect_unreadable hread fuel
          constructor
          · intro h
            obtain ⟨result, hresult, hmap⟩ := Option.map_eq_some_iff.mp h
            cases result with
            | error message => cases hmap
            | ok tail => exact absurd hresult (hnever tail)
          · rintro ⟨rows', h, -⟩
            cases h
        | some c' =>
          rw [hnext] at hread
          constructor
          · intro h
            obtain ⟨result, hresult, hmap⟩ := Option.map_eq_some_iff.mp h
            cases result with
            | error message => cases hmap
            | ok tail =>
              obtain ⟨rest, hrest, rfl⟩ := (ih hread).mp hresult
              refine ⟨Keyset.page StreamDataRow.key limit table.ordered c ++ rest, ?_, ?_⟩
              · simp only [hrest, Option.map_some]
              · rw [List.map_append]
                exact Except.ok.inj hmap
          · rintro ⟨all, h, rfl⟩
            obtain ⟨result, hresult, hmap⟩ := Option.map_eq_some_iff.mp h
            obtain ⟨rest, rfl, rfl⟩ := Option.map_eq_some_iff.mp hmap
            have hcollect := (ih hread).mpr ⟨rest, hresult, rfl⟩
            rw [hcollect, List.map_append]
            rfl

/-- Postgres reads the ISO text of a row's timestamp, if at all, as the instant that
the text denotes. -/
def ReadsIsoTexts (readTimestamptz : String → Option Timestamptz) (table : StreamData Data) :
    Prop :=
  ∀ r ∈ table.rows, ∀ timestamp,
    readTimestamptz r.timestamp.toDate.toISOString = some timestamp →
      timestamp = r.timestamp.toDate.toTimestamptz

/-- The row's timestamp comes back from a cursor unchanged. -/
def Recoverable (readTimestamptz : String → Option Timestamptz) (r : StreamDataRow Data) : Prop :=
  r.timestamp.micros % 1000 = 0 ∧ (readTimestamptz r.timestamp.toDate.toISOString).isSome = true

theorem nextKey_le {r : StreamDataRow Data} (hread : ReadsIsoTexts readTimestamptz table)
    (hr : r ∈ table.rows) {c : Timestamptz ×ₗ Int} (h : nextKey readTimestamptz r = some c) :
    c ≤ r.key := by
  obtain ⟨t, ht, rfl⟩ := Option.map_eq_some_iff.mp h
  rw [hread r hr t ht, StreamDataRow.key, Prod.Lex.toLex_le_toLex]
  rcases lt_or_eq_of_le r.timestamp.toDate_toTimestamptz_le with hlt | heq
  · exact .inl hlt
  · exact .inr ⟨heq, le_refl _⟩

theorem nextKey_eq_key_iff {r : StreamDataRow Data} (hread : ReadsIsoTexts readTimestamptz table)
    (hr : r ∈ table.rows) :
    nextKey readTimestamptz r = some r.key ↔ Recoverable readTimestamptz r := by
  rw [Recoverable, ← Timestamptz.toDate_toTimestamptz_eq_iff, nextKey, StreamDataRow.key]
  constructor
  · intro h
    obtain ⟨t, ht, hkey⟩ := Option.map_eq_some_iff.mp h
    have hsame : t = r.timestamp := congrArg Prod.fst (toLex.injective hkey)
    refine ⟨?_, by rw [ht]; rfl⟩
    rw [← hread r hr t ht, hsame]
  · rintro ⟨hexact, hsome⟩
    obtain ⟨t, ht⟩ := Option.isSome_iff_exists.mp hsome
    rw [ht, Option.map_some, hread r hr t ht, hexact]

/-- Rows of a table can be told apart by their events. -/
theorem map_toPendingEvent_inj {rows rows' : List (StreamDataRow Data)}
    (h : rows ⊆ table.rows) (h' : rows' ⊆ table.rows)
    (hmap : rows.map StreamDataRow.toPendingEvent = rows'.map StreamDataRow.toPendingEvent) :
    rows = rows' := by
  induction rows generalizing rows' with
  | nil => exact (List.map_eq_nil_iff.mp hmap.symm).symm
  | cons r rows ih =>
    cases rows' with
    | nil => cases hmap
    | cons r' rows' =>
      rw [List.map_cons, List.map_cons, List.cons.injEq] at hmap
      have hid : r.id.repr = r'.id.repr := congrArg PendingStreamEvent.id hmap.1
      have hhead := table.key_injOn (h List.mem_cons_self) (h' List.mem_cons_self)
        (Int.repr_injective hid)
      rw [hhead, ih (List.subset_of_cons_subset h) (List.subset_of_cons_subset h') hmap.2]

/-- Following the cursor from the first page returns every row once and in order
exactly when each row that ends a full page is recoverable from its cursor. -/
theorem collect_complete_iff (hread : ReadsIsoTexts readTimestamptz table) (hpos : 0 < limit) :
    (∃ fuel, collect readTimestamptz table limit fuel none =
      some (.ok (table.ordered.map StreamDataRow.toPendingEvent))) ↔
      ∀ i r, table.ordered[(i + 1) * limit - 1]? = some r → Recoverable readTimestamptz r := by
  have hmem : ∀ r ∈ table.ordered, r ∈ table.rows := fun r hr => table.ordered_perm.subset hr
  have hwalk : (∃ fuel, collect readTimestamptz table limit fuel none =
      some (.ok (table.ordered.map StreamDataRow.toPendingEvent))) ↔
      ∃ fuel, Keyset.walk StreamDataRow.key (nextKey readTimestamptz) limit table.ordered fuel
        none = some (some table.ordered) := by
    apply exists_congr
    intro fuel
    rw [collect_ok_iff (c := none) rfl]
    constructor
    · rintro ⟨rows, hrows, hmap⟩
      have hsub := fun r hr => hmem r (Keyset.walk_subset hrows hr)
      rw [hrows, map_toPendingEvent_inj hsub (fun r hr => hmem r hr) hmap]
    · exact fun h => ⟨table.ordered, h, rfl⟩
  rw [hwalk, Keyset.walk_eq_iff table.ordered_sorted hpos
    (fun r hr c hc => nextKey_le hread (hmem r hr) hc)]
  apply forall_congr'
  intro i
  apply forall_congr'
  intro r
  apply imp_congr_right
  intro hr
  exact nextKey_eq_key_iff hread (hmem r (List.mem_of_getElem? hr))

/-! ## One page -/

/-- A page holds the rows that the query finds. -/
theorem getPendingEvents_ok {cursor : Option String}
    {page : List (PendingStreamEvent Data) × Option String}
    (h : getPendingEvents readTimestamptz table limit cursor = .ok page) :
    ∃ rows, selectPending readTimestamptz table limit cursor = some rows ∧
      page.1 = rows.map StreamDataRow.toPendingEvent := by
  unfold getPendingEvents at h
  split at h
  · cases h
  · next rows hrows =>
    refine ⟨rows, hrows, ?_⟩
    simp only at h
    split at h
    · rw [Except.ok.injEq] at h
      rw [← h]
    · split at h
      · cases h
      · rw [Except.ok.injEq] at h
        rw [← h]

theorem select_sublist (table : StreamData Data) (after : Option (Timestamptz ×ₗ Int))
    (limit : Nat) : (table.select after limit).Sublist table.ordered := by
  rw [StreamData.select_eq, Keyset.page]
  apply (List.take_sublist _ _).trans
  cases after with
  | none => exact List.Sublist.refl _
  | some c => exact List.filter_sublist

theorem selectPending_sublist {cursor : Option String} {rows : List (StreamDataRow Data)}
    (h : selectPending readTimestamptz table limit cursor = some rows) :
    rows.Sublist table.ordered := by
  unfold selectPending at h
  split at h
  · cases h
    exact List.nil_sublist _
  · obtain ⟨after, -, rfl⟩ := Option.map_eq_some_iff.mp h
    exact select_sublist table after limit

/-- The events of a page have different ids. -/
theorem getPendingEvents_ids {cursor : Option String}
    {page : List (PendingStreamEvent Data) × Option String}
    (h : getPendingEvents readTimestamptz table limit cursor = .ok page) :
    (page.1.map PendingStreamEvent.id).Nodup := by
  obtain ⟨rows, hrows, hpage⟩ := getPendingEvents_ok h
  have hids : (table.ordered.map StreamDataRow.id).Nodup :=
    (table.ordered_perm.map StreamDataRow.id).nodup_iff.mpr table.primaryKey
  have htexts := (((selectPending_sublist hrows).map StreamDataRow.id).nodup hids).map
    (fun _ _ heq => Int.repr_injective heq : Function.Injective Int.repr)
  rw [List.map_map] at htexts
  rw [hpage, List.map_map]
  exact htexts

/-- The page after the cursor of a row, or the first page.  What the table has before
the page comes no later than that row. -/
theorem getPendingEvents_page {row : Option (StreamDataRow Data)}
    (hread : ReadsIsoTexts readTimestamptz table) (hrow : ∀ x ∈ row, x ∈ table.rows)
    {page : List (PendingStreamEvent Data) × Option String}
    (h : getPendingEvents readTimestamptz table limit (row.map cursorOf) = .ok page) :
    ∃ pre rows post, table.ordered = pre ++ rows ++ post ∧
      page.1 = rows.map StreamDataRow.toPendingEvent ∧
      (∀ r ∈ pre, ∃ x ∈ row, r.key ≤ x.key) ∧ rows = (rows ++ post).take limit ∧
      (∀ cursor, page.2 = some cursor → ∃ x, rows.getLast? = some x ∧ cursor = cursorOf x) ∧
      (page.2 = none ↔ rows.length < limit) := by
  have hafter : ∃ after, readCursor readTimestamptz (row.map cursorOf) = some after := by
    obtain ⟨rows, hrows, -⟩ := getPendingEvents_ok h
    have hne : row.map cursorOf ≠ some "{}" := by
      cases row with
      | none => exact fun heq => by cases heq
      | some x => exact cursorOf_ne_empty x
    rw [selectPending, if_neg hne] at hrows
    obtain ⟨after, hafter, -⟩ := Option.map_eq_some_iff.mp hrows
    exact ⟨after, hafter⟩
  obtain ⟨after, hafter⟩ := hafter
  rw [getPendingEvents_eq hafter] at h
  -- Where the page starts.
  have hsplit : ∃ pre, table.ordered = pre ++ Keyset.after StreamDataRow.key table.ordered after ∧
      ∀ r ∈ pre, ∃ x ∈ row, r.key ≤ x.key := by
    cases row with
    | none =>
      have hnone : after = none := (Option.some.inj hafter).symm
      subst hnone
      exact ⟨[], rfl, fun r hr => by cases hr⟩
    | some x =>
      have hcursor : readCursor readTimestamptz (some (cursorOf x)) = _ := readCursor_cursorOf x
      rw [Option.map_some, hcursor] at hafter
      obtain ⟨c, hc, rfl⟩ := Option.map_eq_some_iff.mp hafter
      obtain ⟨pre, hpre, hle⟩ := Keyset.after_suffix table.ordered_sorted c
      refine ⟨pre, hpre, ?_⟩
      intro r hr
      exact ⟨x, rfl, (hle r hr).trans (nextKey_le hread (hrow x rfl) hc)⟩
  obtain ⟨pre, hpre, hle⟩ := hsplit
  let rest := Keyset.after StreamDataRow.key table.ordered after
  have hrows : Keyset.page StreamDataRow.key limit table.ordered after = rest.take limit := rfl
  refine ⟨pre, rest.take limit, rest.drop limit, ?_, ?_, hle, ?_, ?_, ?_⟩
  · rw [List.append_assoc, List.take_append_drop]
    exact hpre
  · simp only [hrows] at h
    split at h
    · rw [Except.ok.injEq] at h
      rw [← h]
    · split at h
      · cases h
      · rw [Except.ok.injEq] at h
        rw [← h]
  · rw [List.take_append_drop]
  · intro cursor hcursor
    simp only [hrows] at h
    split at h
    · rw [Except.ok.injEq] at h
      rw [← h] at hcursor
      cases hcursor
    · split at h
      · cases h
      · next x hx =>
        rw [Except.ok.injEq] at h
        rw [← h, Option.some.injEq] at hcursor
        exact ⟨x, hx, hcursor.symm⟩
  · simp only [hrows] at h
    split at h
    · next hshort =>
      rw [Except.ok.injEq] at h
      rw [← h]
      exact ⟨fun _ => hshort, fun _ => rfl⟩
    · next hfull =>
      split at h
      · cases h
      · rw [Except.ok.injEq] at h
        rw [← h]
        constructor
        · intro hc
          cases hc
        · intro hc
          exact absurd hc hfull

/-- The cursor of a row that comes back from it unchanged leads to exactly the rows after
it. -/
theorem getPendingEvents_exact {pre post : List (StreamDataRow Data)} (hpos : 0 < limit)
    (hread : ReadsIsoTexts readTimestamptz table) (htable : table.ordered = pre ++ post)
    (hexact : ∀ r ∈ pre, Recoverable readTimestamptz r) :
    getPendingEvents readTimestamptz table limit (pre.getLast?.map cursorOf) =
      .ok ((post.take limit).map StreamDataRow.toPendingEvent,
        if (post.take limit).length < limit then none
        else (post.take limit).getLast?.map cursorOf) := by
  have hafter : ∃ after, readCursor readTimestamptz (pre.getLast?.map cursorOf) = some after ∧
      Keyset.after StreamDataRow.key table.ordered after = post := by
    rcases List.eq_nil_or_concat pre with rfl | ⟨front, x, rfl⟩
    · exact ⟨none, rfl, htable⟩
    · have hx : x ∈ table.rows := by
        apply table.ordered_perm.subset
        rw [htable]
        simp
      refine ⟨some x.key, ?_, Keyset.after_key table.ordered_sorted
        (?_ : table.ordered = front ++ x :: post)⟩
      · have hkey := (nextKey_eq_key_iff hread hx).mpr (hexact x (by simp))
        rw [List.concat_eq_append, List.getLast?_concat, Option.map_some, readCursor_cursorOf, hkey]
        rfl
      · rw [htable]
        simp
  obtain ⟨after, hcursor, hrest⟩ := hafter
  rw [getPendingEvents_eq hcursor]
  simp only [Keyset.page, hrest]
  split
  · rfl
  · next hfull =>
    cases hlast : (post.take limit).getLast? with
    | none =>
      rw [List.getLast?_eq_none_iff] at hlast
      rw [hlast] at hfull
      exact absurd hpos hfull
    | some x => rfl

/-! ## A row between two milliseconds -/

/-- Postgres on the first two milliseconds of 1970. -/
def readEpoch (text : String) : Option Timestamptz :=
  if text = "1970-01-01T00:00:00.000Z" then some ⟨0⟩
  else if text = "1970-01-01T00:00:00.001Z" then some ⟨1000⟩
  else none

/-- Two rows on whole milliseconds. -/
def onMillis : StreamData Unit := ⟨[⟨1, 1, (), ⟨1000⟩⟩, ⟨2, 1, (), ⟨0⟩⟩], by decide +kernel⟩

theorem onMillis_read : ReadsIsoTexts readEpoch onMillis := by
  intro r hr timestamp ht
  rcases List.mem_cons.mp hr with rfl | hr
  · have hread : readEpoch (Timestamptz.toDate ⟨1000⟩).toISOString = some ⟨1000⟩ := by
      decide +kernel
    exact Option.some.inj (ht.symm.trans hread)
  · rw [List.mem_singleton] at hr
    subst hr
    have hread : readEpoch (Timestamptz.toDate ⟨0⟩).toISOString = some ⟨0⟩ := by decide +kernel
    exact Option.some.inj (ht.symm.trans hread)

theorem collect_complete_iff_onMillis : ∃ fuel, collect readEpoch onMillis 1 fuel none =
    some (.ok [⟨"2", "1", (), "1970-01-01T00:00:00.000Z"⟩,
      ⟨"1", "1", (), "1970-01-01T00:00:00.001Z"⟩]) := by
  have hall : ∀ r ∈ onMillis.ordered, r.timestamp.micros % 1000 = 0 ∧
      (readEpoch r.timestamp.toDate.toISOString).isSome = true := by decide +kernel
  have hevents : onMillis.ordered.map StreamDataRow.toPendingEvent =
      [⟨"2", "1", (), "1970-01-01T00:00:00.000Z"⟩,
        ⟨"1", "1", (), "1970-01-01T00:00:00.001Z"⟩] := by decide +kernel
  rw [← hevents]
  exact (collect_complete_iff onMillis_read (by decide)).mpr
    fun i r hr => hall r (List.mem_of_getElem? hr)

/-- One row half a millisecond after the epoch. -/
def offMillis : StreamData Unit := ⟨[⟨1, 1, (), ⟨500⟩⟩], by decide +kernel⟩

theorem offMillis_read : ReadsIsoTexts readEpoch offMillis := by
  intro r hr timestamp ht
  rw [offMillis, List.mem_singleton] at hr
  subst hr
  have hread : readEpoch (Timestamptz.toDate ⟨500⟩).toISOString = some ⟨0⟩ := by decide +kernel
  exact Option.some.inj (ht.symm.trans hread)

/-- In pages of one row the walk fetches that row for ever. -/
theorem collect_offMillis (fuel : Nat) : collect readEpoch offMillis 1 fuel none = none := by
  let row : StreamDataRow Unit := ⟨1, 1, (), ⟨500⟩⟩
  have hnext : nextKey readEpoch row = some (toLex (⟨0⟩, 1)) := by decide +kernel
  have hread : readCursor readEpoch (some (cursorOf row)) = some (some (toLex (⟨0⟩, 1))) := by
    rw [readCursor_cursorOf, hnext]
    rfl
  -- With or without the cursor, the page is the row.
  have hpage : ∀ c ∈ [none, some (toLex ((⟨0⟩ : Timestamptz), (1 : Int)))],
      Keyset.page StreamDataRow.key 1 offMillis.ordered c = [row] := by decide +kernel
  have hfetch : ∀ cursor c, readCursor readEpoch cursor = some c →
      c ∈ [none, some (toLex ((⟨0⟩ : Timestamptz), (1 : Int)))] →
        getPendingEvents readEpoch offMillis 1 cursor =
          .ok ([row.toPendingEvent], some (cursorOf row)) := by
    intro cursor c hc hmem
    rw [getPendingEvents_eq hc, hpage c hmem]
    rfl
  have hloop : ∀ cursor c, readCursor readEpoch cursor = some c →
      c ∈ [none, some (toLex ((⟨0⟩ : Timestamptz), (1 : Int)))] →
        collect readEpoch offMillis 1 fuel cursor = none := by
    induction fuel with
    | zero => exact fun _ _ _ _ => rfl
    | succ fuel ih =>
      intro cursor c hc hmem
      rw [collect, hfetch cursor c hc hmem]
      simp only [ih _ _ hread (by simp), Option.map_none]
  exact hloop none none rfl (by simp)

theorem collect_incomplete :
    ¬∀ (readTimestamptz : String → Option Timestamptz) (table : StreamData Unit) (limit : Nat),
      ReadsIsoTexts readTimestamptz table → 0 < limit →
      ∃ fuel, collect readTimestamptz table limit fuel none =
        some (.ok (table.ordered.map StreamDataRow.toPendingEvent)) := by
  intro h
  obtain ⟨fuel, hfuel⟩ := h readEpoch offMillis 1 offMillis_read (by decide)
  rw [collect_offMillis] at hfuel
  cases hfuel

end Api
end XStreamRoll
