/-
What one poll cycle covers.

The API serves at most 1000 events a page, whatever the batch size asks for, and
gives a cursor with every full page.  The loop takes a page that is shorter than
its own batch size for the last one.  The two agree up to a batch size of 1000,
and then a cycle hands every row of the table to the filter and the registry.
With a larger batch size the loop stops after the first page.
-/
import XStreamRoll.Processing.Worker.Order

namespace XStreamRoll
namespace Processing

open Transition

variable {Data : Type}

namespace Worker

/-- How many events the API serves at a time. -/
def pageLimit (pollBatchSize : Nat) : Nat := min (max 1 pollBatchSize) 1000

theorem pageLimit_pos (pollBatchSize : Nat) : 0 < pageLimit pollBatchSize := by
  unfold pageLimit
  omega

/-- The cursor that the API gives with a page. -/
def cursorAfter (limit : Nat) (rows : List (Api.StreamDataRow Data)) : Option String :=
  if rows.length < limit then none else rows.getLast?.map Api.cursorOf

/-- The rows that a cycle hands to the filter. -/
def covered (pollBatchSize : Nat) (table : Api.StreamData Data) :
    List (Api.StreamDataRow Data) :=
  if pollBatchSize ≤ 1000 then table.ordered else table.ordered.take 1000

/-- Where a cycle stands that started with the events `before` and has met no failure. -/
inductive Cycling (platform : Platform Data) (table : Api.StreamData Data) (pollBatchSize : Nat)
    (before : List (StreamEvent Data)) :
    List (StreamEvent Data) → Option (PollFrame Data) → Prop where
  | requested (pre post : List (Api.StreamDataRow Data)) : table.ordered = pre ++ post →
      (1000 < pollBatchSize → pre = []) →
      Cycling platform table pollBatchSize before (before ++ pre.map (eventOf platform))
        (some (.requested (pre.getLast?.map Api.cursorOf)))
  | responded (pre rows post : List (Api.StreamDataRow Data)) :
      table.ordered = pre ++ (rows ++ post) → (1000 < pollBatchSize → pre = []) →
      rows = (rows ++ post).take (pageLimit pollBatchSize) →
      Cycling platform table pollBatchSize before (before ++ pre.map (eventOf platform))
        (some (.responded (.ok (.paginated (rows.map Api.StreamDataRow.toPendingEvent)
          (cursorAfter (pageLimit pollBatchSize) rows)))))
  | routing (pre done rest post : List (Api.StreamDataRow Data)) :
      table.ordered = pre ++ (done ++ rest ++ post) → (1000 < pollBatchSize → pre = []) →
      done ++ rest = (done ++ rest ++ post).take (pageLimit pollBatchSize) →
      Cycling platform table pollBatchSize before (before ++ (pre ++ done).map (eventOf platform))
        (some (.routing (rest.map (eventOf platform)) ((done ++ rest).map (eventOf platform))
          (cursorAfter (pageLimit pollBatchSize) (done ++ rest))))
  | finished : Cycling platform table pollBatchSize before
      (before ++ (covered pollBatchSize table).map (eventOf platform)) none

/-- Postgres reads every timestamp of the table back from its ISO text. -/
def ReadsBack (readTimestamptz : String → Option Timestamptz) (table : Api.StreamData Data) :
    Prop :=
  ∀ r ∈ table.rows, readTimestamptz r.timestamp.toDate.toISOString =
    some r.timestamp.toDate.toTimestamptz

/-- Every timestamp of the table is a whole millisecond. -/
def WholeMillis (table : Api.StreamData Data) : Prop :=
  ∀ r ∈ table.rows, r.timestamp.micros % 1000 = 0

section Cycle

variable {platform : Platform Data} {table : Api.StreamData Data} {pollBatchSize : Nat}
  {before seen : List (StreamEvent Data)}

theorem Cycling.serve (hread : ReadsBack platform.readTimestamptz table)
    (hmillis : WholeMillis table) {cursor : Option String}
    (h : Cycling platform table pollBatchSize before seen (some (.requested cursor))) :
    Cycling platform table pollBatchSize before seen (some (.responded
      ((Api.getPending platform.readTimestamptz table pollBatchSize cursor).map fun page =>
        .paginated page.1 page.2))) := by
  cases h with
  | requested pre post htable hfirst =>
    have hiso : Api.ReadsIsoTexts platform.readTimestamptz table := by
      intro r hr timestamp ht
      rw [hread r hr, Option.some.injEq] at ht
      exact ht.symm
    have hexact : ∀ r ∈ pre, Api.Recoverable platform.readTimestamptz r := by
      intro r hr
      have hin : r ∈ table.rows := table.ordered_perm.subset (by rw [htable]; simp [hr])
      exact ⟨hmillis r hin, by rw [hread r hin]; rfl⟩
    have hpage := Api.getPendingEvents_exact (pageLimit_pos pollBatchSize) hiso htable hexact
    rw [Api.getPending]
    show Cycling _ _ _ _ _ (some (.responded (Except.map _
      (Api.getPendingEvents _ _ (pageLimit pollBatchSize) _))))
    rw [hpage]
    refine .responded pre (post.take (pageLimit pollBatchSize))
      (post.drop (pageLimit pollBatchSize)) ?_ hfirst ?_
    · rw [List.take_append_drop, htable]
    · rw [List.take_append_drop]

theorem Cycling.receive {response : PendingResponse Data}
    (h : Cycling platform table pollBatchSize before seen (some (.responded (.ok response)))) :
    Cycling platform table pollBatchSize before seen (some (.routing
      ((response.read pollBatchSize).1.map (.ofPending platform))
      ((response.read pollBatchSize).1.map (.ofPending platform))
      (response.read pollBatchSize).2)) := by
  cases h with
  | responded pre rows post htable hfirst hrows =>
    have hnext := @Cycling.routing _ platform table pollBatchSize before pre [] rows post
      htable hfirst hrows
    rw [List.append_nil] at hnext
    show Cycling _ _ _ _ _ (some (.routing
      ((rows.map Api.StreamDataRow.toPendingEvent).map (StreamEvent.ofPending platform))
      ((rows.map Api.StreamDataRow.toPendingEvent).map (StreamEvent.ofPending platform)) _))
    rw [List.map_map]
    exact hnext

theorem Cycling.next {event : StreamEvent Data} {remaining events : List (StreamEvent Data)}
    {nextCursor : Option String} (h : Cycling platform table pollBatchSize before seen
      (some (.routing (event :: remaining) events nextCursor))) :
    Cycling platform table pollBatchSize before (seen ++ [event])
      (some (.routing remaining events nextCursor)) := by
  generalize hframe : PollFrame.routing (event :: remaining) events nextCursor = frame at h
  cases h with
  | requested | responded => cases hframe
  | routing pre done rest post htable hfirst hrows =>
    rw [PollFrame.routing.injEq] at hframe
    obtain ⟨hrest, rfl, rfl⟩ := hframe
    cases rest with
    | nil => cases hrest
    | cons r rest =>
      rw [List.map_cons, List.cons.injEq] at hrest
      obtain ⟨rfl, rfl⟩ := hrest
      have hsplit : done ++ r :: rest = (done ++ [r]) ++ rest := by simp
      rw [hsplit] at htable hrows ⊢
      have hnext := @Cycling.routing _ platform table pollBatchSize before pre (done ++ [r]) rest
        post htable hfirst hrows
      rw [← List.append_assoc, List.map_append, ← List.append_assoc] at hnext
      exact hnext

/-- At the end of a page, the loop stops at the end of what it covers, or goes on to the next
page. -/
theorem Cycling.turn {events : List (StreamEvent Data)} {nextCursor : Option String}
    (h : Cycling platform table pollBatchSize before seen
      (some (.routing [] events nextCursor))) :
    if nextCursor = none ∨ events.length < pollBatchSize then
      Cycling platform table pollBatchSize before seen none
    else events ≠ [] ∧
      Cycling platform table pollBatchSize before seen (some (.requested nextCursor)) := by
  generalize hframe : PollFrame.routing [] events nextCursor = frame at h
  cases h with
  | requested | responded => cases hframe
  | routing pre rows rest post htable hfirst hrows =>
    rw [PollFrame.routing.injEq, eq_comm, List.map_eq_nil_iff] at hframe
    obtain ⟨rfl, rfl, rfl⟩ := hframe
    rw [List.append_nil] at htable hrows ⊢
    have hpos := pageLimit_pos pollBatchSize
    have hlimit : rows.length = min (pageLimit pollBatchSize) (rows ++ post).length := by
      conv_lhs => rw [hrows]
      exact List.length_take
    rw [List.length_append] at hlimit
    by_cases hsmall : pollBatchSize ≤ 1000
    · -- The two rules agree: a page is short for both, or for neither.
      have hbatch : pollBatchSize ≤ pageLimit pollBatchSize := by
        unfold pageLimit
        omega
      by_cases hshort : rows.length < pageLimit pollBatchSize
      · have hpost : post = [] := by
          apply List.eq_nil_of_length_eq_zero
          omega
        have hall : covered pollBatchSize table = pre ++ rows := by
          rw [covered, if_pos hsmall, htable, hpost, List.append_nil]
        rw [if_pos (.inl (if_pos hshort)), ← hall]
        exact .finished
      · obtain ⟨x, hx⟩ := Option.ne_none_iff_exists'.mp
          (show rows.getLast? ≠ none from fun hnone => by
            rw [List.getLast?_eq_none_iff] at hnone
            rw [hnone] at hshort
            exact hshort hpos)
        have hlast : (pre ++ rows).getLast? = rows.getLast? := by
          rw [List.getLast?_append, hx]
          rfl
        have hcursor : cursorAfter (pageLimit pollBatchSize) rows =
            (pre ++ rows).getLast?.map Api.cursorOf := by
          rw [cursorAfter, if_neg hshort, hlast]
        rw [if_neg, hcursor]
        · refine ⟨?_, .requested (pre ++ rows) post (by rw [htable, List.append_assoc]) ?_⟩
          · intro hnil
            rw [List.map_eq_nil_iff] at hnil
            rw [hnil] at hshort
            exact hshort hpos
          · intro hlarge
            omega
        · rw [List.length_map, hcursor, hlast, hx, not_or]
          exact ⟨Option.some_ne_none _, by omega⟩
    · -- A page is never as long as the batch size.
      have hlarge : 1000 < pollBatchSize := by omega
      have hthousand : pageLimit pollBatchSize = 1000 := by
        unfold pageLimit
        omega
      have hall : covered pollBatchSize table = pre ++ rows := by
        rw [covered, if_neg hsmall, htable, hfirst hlarge, List.nil_append, List.nil_append]
        rw [hthousand] at hrows
        exact hrows.symm
      rw [if_pos, ← hall]
      · exact .finished
      · rw [List.length_map]
        exact .inr (by omega)

end Cycle

/-! ## A cycle from beginning to end -/

/-- The steps of the poll loop itself. -/
def inLoop : Action Data → Bool
  | .serve | .receive | .routeNext _ | .turnPage => true
  | _ => false

/-- The cycle goes on: no request fails, the table stays as it is, the worker is not shut
down, and its queues stay below the high watermark. -/
def Undisturbed (w : Worker Data) : Action Data → Prop
  | .pollOnce | .failRequest _ | .insert _ | .shutdown => False
  | _ => ¬w.AtHighWatermark

instance (w : Worker Data) (a : Action Data) : Decidable (w.Undisturbed a) := by
  cases a <;> unfold Undisturbed <;> infer_instance

structure InCycle (platform : Platform Data) (table : Api.StreamData Data)
    (settings : WorkerSettings) (before : List (StreamEvent Data)) (w : Worker Data) : Prop where
  table_eq : w.table = table
  settings_eq : w.settings = settings
  running : w.shuttingDown = false
  cycling : Cycling platform table settings.pollBatchSize before w.seen w.poll

/-- The number of loop steps that are still to come, at most. -/
def due (table : Api.StreamData Data) (before : List (StreamEvent Data)) (w : Worker Data) : Nat :=
  let left := before.length + table.rows.length - w.seen.length
  match w.poll with
  | none => 0
  | some (.requested _) => 4 * left + 3
  | some (.responded _) => 4 * left + 2
  | some (.routing remaining events _) =>
    if remaining.length = events.length then 4 * left + 1 else 4 * left + 4

section Cycle

variable {platform : Platform Data} {table : Api.StreamData Data} {settings : WorkerSettings}
  {before : List (StreamEvent Data)} {w w' : Worker Data} {a : Action Data}

theorem InCycle.step (hread : ReadsBack platform.readTimestamptz table)
    (hmillis : WholeMillis table) (h : w.InCycle platform table settings before)
    (ha : w.Undisturbed a) (hs : w.step platform a = some w') :
    w'.InCycle platform table settings before ∧
      due table before w' + (inLoop a).toNat ≤ due table before w := by
  have hcycling := h.cycling
  cases a with
  | pollOnce | failRequest | insert | shutdown => exact ha.elim
  | serve =>
    simp only [Worker.step, serve] at hs
    split at hs
    · next cursor hpoll =>
      rw [Option.some.injEq] at hs
      subst hs
      rw [hpoll] at hcycling
      refine ⟨⟨h.table_eq, h.settings_eq, h.running, ?_⟩, ?_⟩
      · rw [h.table_eq, h.settings_eq]
        exact hcycling.serve hread hmillis
      · simp only [due, hpoll, inLoop, Bool.toNat_true]
        omega
    · cases hs
  | receive =>
    simp only [Worker.step, receive] at hs
    split at hs
    · next message hpoll =>
      rw [hpoll] at hcycling
      generalize w.seen = seen at hcycling
      cases hcycling
    · next response hpoll =>
      rw [Option.some.injEq] at hs
      subst hs
      rw [hpoll] at hcycling
      refine ⟨⟨h.table_eq, h.settings_eq, h.running, ?_⟩, ?_⟩
      · rw [h.settings_eq]
        exact hcycling.receive
      · simp only [due, hpoll, inLoop, Bool.toNat_true, if_true]
        omega
    · cases hs
  | routeNext now =>
    obtain ⟨event, remaining, events, nextCursor, hpoll, -, hpoll', hseen', htable', hsettings',
      -, hshut', -⟩ := routeNext_cases hs
    rw [hpoll] at hcycling
    have hnext := hcycling.next
    refine ⟨⟨htable'.trans h.table_eq, hsettings'.trans h.settings_eq, hshut'.trans h.running, ?_⟩,
      ?_⟩
    · rw [hpoll', hseen']
      exact hnext
    · have hleft : w.seen.length + 1 ≤ before.length + table.rows.length := by
        generalize hframe : some (PollFrame.routing remaining events nextCursor) = frame at hnext
        generalize hseen : w.seen ++ [event] = seen' at hnext
        cases hnext with
        | requested | responded | finished => cases hframe
        | routing pre done rest post htable =>
          have hlength := congrArg List.length hseen
          have hrows := table.ordered_perm.length_eq
          rw [htable] at hrows
          simp only [List.length_append, List.length_map, List.length_singleton] at hlength hrows
          omega
      simp only [due, hpoll, hpoll', hseen', inLoop, Bool.toNat_true, List.length_append,
        List.length_singleton]
      split <;> split <;> omega
  | turnPage =>
    simp only [Worker.step, turnPage] at hs
    split at hs
    · next events nextCursor hpoll hroutes =>
      rw [hpoll] at hcycling
      have hturn := hcycling.turn
      have hroom : ¬w.AtHighWatermark := ha
      simp only [hroom, or_false, h.running, Bool.false_eq_true, if_false, h.settings_eq] at hs
      split at hs
      · next hstop =>
        rw [if_pos hstop] at hturn
        rw [Option.some.injEq] at hs
        subst hs
        refine ⟨⟨h.table_eq, rfl, rfl, hturn⟩, ?_⟩
        simp only [due, hpoll, inLoop, Bool.toNat_true]
        split <;> omega
      · next hmore =>
        rw [if_neg hmore] at hturn
        rw [Option.some.injEq] at hs
        subst hs
        refine ⟨⟨h.table_eq, rfl, rfl, hturn.2⟩, ?_⟩
        have hne : ¬([] : List (StreamEvent Data)).length = events.length := by
          intro hlength
          exact hturn.1 (List.eq_nil_of_length_eq_zero hlength.symm)
        simp only [due, hpoll, inLoop, Bool.toNat_true, if_neg hne]
        omega
    · cases hs
  | registry b =>
    simp only [Worker.step] at hs
    split at hs
    · obtain ⟨r, -, rfl⟩ := Option.map_eq_some_iff.mp hs
      exact ⟨⟨h.table_eq, h.settings_eq, h.running, h.cycling⟩, Nat.le_refl _⟩
    · cases hs
  | filterChange change =>
    simp only [Worker.step, Option.some.injEq] at hs
    subst hs
    exact ⟨⟨h.table_eq, h.settings_eq, h.running, h.cycling⟩, Nat.le_refl _⟩
  | drainAll now =>
    simp only [Worker.step] at hs
    split at hs
    · rw [Option.some.injEq] at hs
      subst hs
      exact ⟨⟨h.table_eq, h.settings_eq, h.running, h.cycling⟩, Nat.le_refl _⟩
    · cases hs

end Cycle

/-- The rows that a cycle covers are all of them unless the batch size and the table are both
above 1000. -/
theorem covered_all_iff {platform : Platform Data} {table : Api.StreamData Data}
    {pollBatchSize : Nat} :
    (∀ r ∈ table.rows, eventOf platform r ∈ (covered pollBatchSize table).map (eventOf platform)) ↔
      pollBatchSize ≤ 1000 ∨ table.rows.length ≤ 1000 := by
  have hlength := table.ordered_perm.length_eq
  constructor
  · intro h
    by_contra hlarge
    rw [not_or, Nat.not_le, Nat.not_le, ← hlength] at hlarge
    have hbound : 1000 < table.ordered.length := hlarge.2
    let x := table.ordered[1000]
    have hsplit : table.ordered = table.ordered.take 1000 ++ x :: table.ordered.drop 1001 := by
      rw [List.getElem_cons_drop, List.take_append_drop]
    have hx : x ∈ table.rows := table.ordered_perm.subset (List.getElem_mem hbound)
    have hin := h x hx
    rw [covered, if_neg (Nat.not_le.mpr hlarge.1), List.mem_map] at hin
    obtain ⟨y, hy, heq⟩ := hin
    have hsame : y = x := by
      apply table.key_injOn (table.ordered_perm.subset (List.mem_of_mem_take hy)) hx
      exact eventOf_id_inj (congrArg StreamEvent.id heq)
    have hsorted := table.ordered_sorted
    rw [hsplit, List.pairwise_append] at hsorted
    have hlt := hsorted.2.2 y hy x List.mem_cons_self
    rw [hsame] at hlt
    exact lt_irrefl _ hlt
  · intro h r hr
    apply List.mem_map_of_mem
    have hin := table.ordered_perm.mem_iff.mpr hr
    unfold covered
    split
    · exact hin
    · next hlarge =>
      rw [List.take_of_length_le (by omega)]
      exact hin

/-- A cycle takes boundedly many steps of the loop, and when it is over it has handed the rows
that it covers to the filter. -/
theorem cycle_covers {platform : Platform Data} {w w' : Worker Data} {as : List (Action Data)}
    (hread : ReadsBack platform.readTimestamptz w.table) (hmillis : WholeMillis w.table)
    (hroom : ¬w.AtHighWatermark)
    (hcycle : AllSteps (step platform) (fun w a _ => w.Undisturbed a) w.pollOnce as)
    (hrun : run (step platform) w (.pollOnce :: as) = some w') :
    as.countP inLoop ≤ 4 * w.table.rows.length + 3 ∧
      (w'.poll = none → w'.seen.drop w.seen.length =
        (covered w.settings.pollBatchSize w.table).map (eventOf platform)) := by
  obtain ⟨started, hstart, hrest⟩ := run_cons_eq_some.mp hrun
  simp only [step] at hstart
  split at hstart
  · next hidle =>
    rw [Option.some.injEq] at hstart
    have hstarted : w.pollOnce = { w with poll := some (.requested none) } := if_neg hroom
    have hfirst : w.pollOnce.InCycle platform w.table w.settings w.seen := by
      rw [hstarted]
      refine ⟨rfl, rfl, hidle.2, ?_⟩
      have hbegin := @Cycling.requested _ platform w.table w.settings.pollBatchSize w.seen []
        w.table.ordered rfl (fun _ => rfl)
      rw [List.map_nil, List.append_nil] at hbegin
      exact hbegin
    rw [← hstart] at hrest
    constructor
    · have hcost := hcycle.cost (fun _ _ _ h ha hs => (h.step hread hmillis ha hs).1)
        (fun _ _ _ h ha hs => (h.step hread hmillis ha hs).2) hfirst hrest
      have hdue : due w.table w.seen w.pollOnce = 4 * w.table.rows.length + 3 := by
        simp [due, hstarted]
      omega
    · intro hend
      have hlast := hcycle.invariant (fun _ _ _ h ha hs => (h.step hread hmillis ha hs).1) hfirst
        hrest
      have hcycling := hlast.cycling
      rw [hend] at hcycling
      generalize w'.seen = seen at hcycling
      cases hcycling with
      | finished => exact List.drop_left
  · cases hstart

/-- A cycle hands every row to the filter exactly when the batch size or the table stays within
1000. -/
theorem cycle_complete_iff {platform : Platform Data} {w w' : Worker Data}
    {as : List (Action Data)} (hread : ReadsBack platform.readTimestamptz w.table)
    (hmillis : WholeMillis w.table) (hroom : ¬w.AtHighWatermark)
    (hcycle : AllSteps (step platform) (fun w a _ => w.Undisturbed a) w.pollOnce as)
    (hrun : run (step platform) w (.pollOnce :: as) = some w') :
    as.countP inLoop ≤ 4 * w.table.rows.length + 3 ∧
      (w'.poll = none →
        ((∀ r ∈ w.table.rows, eventOf platform r ∈ w'.seen.drop w.seen.length) ↔
          w.settings.pollBatchSize ≤ 1000 ∨ w.table.rows.length ≤ 1000)) := by
  obtain ⟨hbound, hhanded⟩ := cycle_covers hread hmillis hroom hcycle hrun
  refine ⟨hbound, ?_⟩
  intro hend
  rw [hhanded hend]
  exact covered_all_iff

/-! ## A batch size above 1000 -/

/-- Postgres on the first minute of 1970: what follows the point are milliseconds. -/
def readFirstMinute (text : String) : Option Timestamptz :=
  (text.toList.dropPrefix? "1970-01-01T00:00:".toList).map fun rest =>
    ⟨1000 * (1000 * Nat.ofDigitChars 10 (rest.takeWhile (· ≠ '.')) 0 +
      Nat.ofDigitChars 10 ((rest.dropWhile (· ≠ '.')).drop 1).dropLast 0 : Nat)⟩

theorem readFirstMinute_toISOString {ms : Nat} (h : ms < 60000) :
    readFirstMinute (Date.toISOString ⟨ms⟩) = some (Date.toTimestamptz ⟨ms⟩) := by
  have hdays : (ms : Int) / 86400000 = 0 := by omega
  have hrest : ((ms : Int) % 86400000).toNat = ms := by omega
  have hhours : ms / 3600000 = 0 := by omega
  have hminutes : ms / 60000 % 60 = 0 := by omega
  have hdate : Date.civilFromDays 0 = (1970, 1, 1) := by decide +kernel
  have htext : (Date.toISOString ⟨ms⟩).toList = "1970-01-01T00:00:".toList ++
      ((Date.pad 2 (ms / 1000 % 60)).toList ++
        ('.' :: ((Date.pad 3 (ms % 1000)).toList ++ ['Z']))) := by
    have hfront : (Date.isoYear 1970 ++ "-" ++ Date.pad 2 1 ++ "-" ++ Date.pad 2 1 ++ "T" ++
        Date.pad 2 0 ++ ":" ++ Date.pad 2 0 ++ ":").toList = "1970-01-01T00:00:".toList := by
      decide +kernel
    have hdot : ".".toList = ['.'] := rfl
    have hzulu : "Z".toList = ['Z'] := rfl
    rw [← hfront, Date.toISOString_eq]
    simp only [hdays, hrest, hhours, hminutes, hdate, String.toList_append,
      List.append_assoc, hdot, hzulu, List.cons_append, List.nil_append]
  have hplain : ∀ c ∈ (Date.pad 2 (ms / 1000 % 60)).toList, decide (c ≠ '.') = true := by
    intro c hc
    apply decide_eq_true
    rintro rfl
    cases Date.isDigit_of_mem_pad hc
  rw [readFirstMinute, htext, List.dropPrefix?_append_of_beq _ (beq_self_eq_true _),
    Option.map_some, List.takeWhile_append_of_pos hplain, List.dropWhile_append_of_pos hplain]
  have htake : ∀ rest : List Char, ('.' :: rest).takeWhile (· ≠ '.') = [] := fun _ => rfl
  have hdrop : ∀ rest : List Char, ('.' :: rest).dropWhile (· ≠ '.') = '.' :: rest := fun _ => rfl
  rw [htake, hdrop, List.append_nil, List.drop_succ_cons, List.drop_zero, List.dropLast_concat,
    Date.ofDigitChars_pad, Date.ofDigitChars_pad]
  simp only [Date.toTimestamptz, Option.some.injEq, Timestamptz.mk.injEq]
  omega

/-- Rows of one stream, a millisecond apart. -/
def manyRows (n : Nat) : Api.StreamData Unit where
  rows := (List.range n).map fun i : Nat => ⟨(i : Int), 7, (), ⟨1000 * (i : Int)⟩⟩
  primaryKey := by
    rw [List.map_map]
    exact List.nodup_range.map fun _ _ h => Int.ofNat.inj h

/-- Every event of the stream is of a blocked type. -/
def blockedPlatform : Platform Unit where
  readTimestamptz := readFirstMinute
  parseDate _ := none
  typeOf _ := some "tick"

theorem manyRows_readsBack {n : Nat} (h : n ≤ 60000) :
    ReadsBack blockedPlatform.readTimestamptz (manyRows n) := by
  intro r hr
  obtain ⟨i, hi, rfl⟩ := List.mem_map.mp hr
  have hdate : Timestamptz.toDate ⟨1000 * (i : Int)⟩ = ⟨(i : Int)⟩ :=
    Date.toTimestamptz_toDate ⟨i⟩
  have hlt := List.mem_range.mp hi
  have hread := readFirstMinute_toISOString (show i < 60000 by omega)
  simp only [blockedPlatform, hdate]
  exact hread

theorem manyRows_wholeMillis (n : Nat) : WholeMillis (manyRows n) := by
  intro r hr
  obtain ⟨i, -, rfl⟩ := List.mem_map.mp hr
  show 1000 * (i : Int) % 1000 = 0
  omega

/-- A worker over these rows that blocks them all. -/
def blockingWorker (pollBatchSize n : Nat) : Worker Unit :=
  initial ⟨pollBatchSize, 1000⟩ ⟨AList.singleton "7" ["tick"]⟩
    (.initial "w" ⟨1, 30000, none, some 10, none, true⟩ 10000) (manyRows n)

/-- One page of so many events, and the end of the cycle. -/
def onePage (n : Nat) : List (Action Unit) :=
  [.serve, .receive] ++ List.replicate n (.routeNext ⟨0⟩) ++ [.turnPage]

theorem cycle_complete_iff_onePage : ∃ w',
    run (step blockedPlatform) (blockingWorker 10 3) (.pollOnce :: onePage 3) = some w' ∧
      w'.poll = none ∧ ∀ r ∈ (manyRows 3).rows, eventOf blockedPlatform r ∈ w'.seen := by
  have hcycle : AllSteps (step blockedPlatform) (fun w a _ => w.Undisturbed a)
      (blockingWorker 10 3).pollOnce (onePage 3) := by decide +kernel
  have hrun : (run (step blockedPlatform) (blockingWorker 10 3) (.pollOnce :: onePage 3)).map
      (fun w' => w'.poll.isNone) = some true := by decide +kernel
  obtain ⟨w', hw', hend⟩ := Option.map_eq_some_iff.mp hrun
  have hover := Option.isNone_iff_eq_none.mp hend
  have hall := (cycle_complete_iff (manyRows_readsBack (by decide)) (manyRows_wholeMillis 3)
    (by decide) hcycle hw').2 hover
  exact ⟨w', hw', hover, hall.mpr (.inl (by decide))⟩

/-- The loop runs through events that the filter blocks. -/
theorem routeNext_blocked {platform : Platform Unit} {w : Worker Unit}
    {remaining events : List (StreamEvent Unit)} {nextCursor : Option String}
    (hpoll : w.poll = some (.routing remaining events nextCursor)) (hroutes : w.registry.routes = [])
    (hroom : ¬w.AtHighWatermark)
    (hblocked : ∀ e ∈ remaining, w.filter.allow platform e = false) :
    let as := List.replicate remaining.length (Action.routeNext ⟨0⟩)
    let w' := { w with
      poll := some (.routing [] events nextCursor), seen := w.seen ++ remaining }
    run (step platform) w as = some w' ∧
      AllSteps (step platform) (fun w a _ => w.Undisturbed a) w as := by
  induction remaining generalizing w with
  | nil =>
    simp only [List.length_nil, List.replicate_zero, run_nil, Option.some.injEq, List.append_nil]
    exact ⟨by rw [← hpoll], trivial⟩
  | cons event remaining ih =>
    let popped : Worker Unit := { w with
      poll := some (.routing remaining events nextCursor), seen := w.seen ++ [event] }
    have hstep : step platform w (.routeNext ⟨0⟩) = some popped := by
      simp only [step, routeNext, hpoll, hroutes, hblocked event List.mem_cons_self, if_true, ite_self]
      rfl
    obtain ⟨hrun, hall⟩ := ih (w := popped) rfl hroutes hroom
      (fun e he => hblocked e (List.mem_cons_of_mem _ he))
    constructor
    · rw [List.length_cons, List.replicate_succ]
      refine run_cons_eq_some.mpr ⟨popped, hstep, ?_⟩
      rw [hrun]
      simp [popped]
    · rw [List.length_cons, List.replicate_succ]
      exact (allSteps_cons_iff hstep).mpr ⟨hroom, hall⟩

theorem manyRows_blocked (pollBatchSize n m : Nat) :
    ∀ r ∈ (manyRows n).rows,
      (blockingWorker pollBatchSize m).filter.allow blockedPlatform (eventOf blockedPlatform r) =
        false := by
  intro r hr
  obtain ⟨i, -, rfl⟩ := List.mem_map.mp hr
  have hstream : (eventOf blockedPlatform
      (⟨(i : Int), 7, (), ⟨1000 * (i : Int)⟩⟩ : Api.StreamDataRow Unit)).streamId = "7" := by
    show Int.repr 7 = "7"
    decide
  rw [EventFilter.allow, hstream]
  rfl

/-- The first cycle of such a worker with a batch size above 1000, from its request to the end of
its only page. -/
theorem onePage_ends {pollBatchSize n : Nat} (hlarge : 1000 < pollBatchSize) (hn : n ≤ 60000) :
    ∃ as w', run (step blockedPlatform) (blockingWorker pollBatchSize n) (.pollOnce :: as) =
        some w' ∧
      w'.poll = none ∧
      AllSteps (step blockedPlatform) (fun w a _ => w.Undisturbed a)
        (blockingWorker pollBatchSize n).pollOnce as := by
  let limit := pageLimit pollBatchSize
  let rows := (manyRows n).ordered.take limit
  let events := rows.map (eventOf blockedPlatform)
  let between : Option (PollFrame Unit) → List (StreamEvent Unit) → Worker Unit := fun poll seen =>
    { blockingWorker pollBatchSize n with poll := poll, seen := seen }
  have hroom : ∀ poll seen, ¬(between poll seen).AtHighWatermark := by
    intro poll seen
    show ¬(1000 ≤ 0)
    decide
  have hpage : Api.getPending blockedPlatform.readTimestamptz (manyRows n) pollBatchSize none =
      .ok (rows.map Api.StreamDataRow.toPendingEvent, cursorAfter limit rows) := by
    have hiso : Api.ReadsIsoTexts blockedPlatform.readTimestamptz (manyRows n) := by
      intro r hr timestamp ht
      rw [manyRows_readsBack hn r hr, Option.some.injEq] at ht
      exact ht.symm
    exact Api.getPendingEvents_exact (pageLimit_pos pollBatchSize) hiso
      (List.nil_append (manyRows n).ordered).symm (fun r hr => by cases hr)
  let page : PollFrame Unit := .responded
    (.ok (.paginated (rows.map Api.StreamDataRow.toPendingEvent) (cursorAfter limit rows)))
  have hstart : (blockingWorker pollBatchSize n).pollOnce = between (some (.requested none)) [] :=
    if_neg (hroom none [])
  have hbegin : step blockedPlatform (blockingWorker pollBatchSize n) .pollOnce =
      some (between (some (.requested none)) []) := by
    rw [← hstart]
    rfl
  have hserve : step blockedPlatform (between (some (.requested none)) []) .serve =
      some (between (some page) []) := by
    have hresponse : PollFrame.responded ((Api.getPending blockedPlatform.readTimestamptz
        (manyRows n) pollBatchSize none).map fun page => .paginated page.1 page.2) = page := by
      rw [hpage]
      rfl
    exact congrArg (fun frame => some (between (some frame) [])) hresponse
  have hreceive : step blockedPlatform (between (some page) []) .receive =
      some (between (some (.routing events events (cursorAfter limit rows))) []) := by
    have hevents : (rows.map Api.StreamDataRow.toPendingEvent).map
        (StreamEvent.ofPending blockedPlatform) = events := List.map_map
    rw [← hevents]
    rfl
  have hblocked : ∀ e ∈ events, (between none []).filter.allow blockedPlatform e = false := by
    intro e he
    obtain ⟨r, hr, rfl⟩ := List.mem_map.mp he
    exact manyRows_blocked pollBatchSize n n r
      ((manyRows n).ordered_perm.subset (List.mem_of_mem_take hr))
  obtain ⟨hloop, hcalm⟩ := routeNext_blocked
    (w := between (some (.routing events events (cursorAfter limit rows))) []) rfl rfl
    (hroom _ _) hblocked
  have hturn : step blockedPlatform
      (between (some (.routing [] events (cursorAfter limit rows))) events) .turnPage =
        some (between none events) := by
    have hshort : events.length < pollBatchSize := by
      have hlimit : limit ≤ 1000 := Nat.min_le_right ..
      have hrows : rows.length ≤ limit := List.length_take_le ..
      rw [List.length_map]
      omega
    exact if_pos (.inr (.inl hshort))
  refine ⟨onePage events.length, between none events, ?_, rfl, ?_⟩
  · refine run_cons_eq_some.mpr ⟨_, hbegin, ?_⟩
    refine run_cons_eq_some.mpr ⟨_, hserve, ?_⟩
    refine run_cons_eq_some.mpr ⟨_, hreceive, ?_⟩
    refine run_append_eq_some.mpr ⟨_, hloop, ?_⟩
    rw [run_singleton]
    exact hturn
  · rw [hstart]
    refine (allSteps_cons_iff hserve).mpr ⟨hroom _ _, ?_⟩
    refine (allSteps_cons_iff hreceive).mpr ⟨hroom _ _, ?_⟩
    refine AllSteps.append hcalm hloop ?_
    exact (allSteps_cons_iff hturn).mpr ⟨hroom _ _, trivial⟩

/-- With a batch size of 1001 and as many rows, the cycle ends without the last row. -/
theorem last_row_uncovered :
    ¬∀ (platform : Platform Unit) (w w' : Worker Unit) (as : List (Action Unit)),
      ReadsBack platform.readTimestamptz w.table → WholeMillis w.table →
      (w.table.rows.map fun r => r.timestamp).Nodup → ¬w.AtHighWatermark →
      AllSteps (step platform) (fun w a _ => w.Undisturbed a) w.pollOnce as →
      run (step platform) w (.pollOnce :: as) = some w' → w'.poll = none →
      ∀ r ∈ w.table.rows, eventOf platform r ∈ w'.seen.drop w.seen.length := by
  intro h
  obtain ⟨as, w', hrun, hend, hcycle⟩ := onePage_ends (show 1000 < 1001 by decide)
    (show 1001 ≤ 60000 by decide)
  have hread := manyRows_readsBack (show 1001 ≤ 60000 by decide)
  have hmillis := manyRows_wholeMillis 1001
  have hroom : ¬(blockingWorker 1001 1001).AtHighWatermark := by
    show ¬(1000 ≤ 0)
    decide
  have hdistinct : ((manyRows 1001).rows.map fun r => r.timestamp).Nodup := by
    rw [manyRows, List.map_map]
    apply List.nodup_range.map
    intro i j hij
    have hmicros : 1000 * (i : Int) = 1000 * (j : Int) := congrArg Timestamptz.micros hij
    omega
  have hall := h blockedPlatform (blockingWorker 1001 1001) w' as hread hmillis hdistinct hroom
    hcycle hrun hend
  have hcovered := (cycle_covers (w := blockingWorker 1001 1001) hread hmillis hroom hcycle
    hrun).2 hend
  rw [hcovered] at hall
  have hrows : (manyRows 1001).rows.length = 1001 := by
    rw [manyRows, List.length_map, List.length_range]
  rcases covered_all_iff.mp hall with hbatch | hlength
  · have hle : 1001 ≤ 1000 := hbatch
    omega
  · have hle : (manyRows 1001).rows.length ≤ 1000 := hlength
    omega

end Worker

end Processing
end XStreamRoll
