/-
An iterator that starts anywhere, its ceiling, and its cursor.

The ceiling is compared with the number of the page and not with how many pages were
fetched.  The cursor is the page that comes next, and the items of the page at hand that
were not consumed yet are before it.
-/
import XStreamRoll.Sdk.Pagination

namespace XStreamRoll
namespace Sdk
namespace PaginatedIterator

variable {T ε : Type} {fetcher : PaginatedFetcher T ε} {it it' : PaginatedIterator T}
  {items out : List T} {skipped : Nat}

/-! ## The ceiling -/

/-- From page `start`, with `total` pages in all. -/
def ceilingOnFetches (maxPages start total : Nat) : Nat :=
  min maxPages (max 1 (total - start + 1))

/-- The fetches of an iterator that starts at a page, against that ceiling. -/
theorem fetches_eq_ceiling_iff {page maxPages total : Nat} (hpage : 1 ≤ page)
    (hmax : 1 ≤ maxPages) :
    (if page - 1 < maxPages then max 1 (min total maxPages - (page - 1)) else 0) =
        ceilingOnFetches maxPages page total ↔
      page ≤ maxPages ∧ (page = 1 ∨ total ≤ maxPages) := by
  unfold ceilingOnFetches
  by_cases hbelow : page - 1 < maxPages
  · rw [if_pos hbelow]
    omega
  · rw [if_neg hbelow]
    omega

/-- A server that honours the parameters has the iterator end.  It fetches as many pages as its
ceiling allows, or as there are, exactly when it starts at page 1, or starts below the ceiling
and the list ends there too. -/
theorem fetches_ceiling_iff (options : PaginateAllOptions) (items : List T)
    (fetcher : PaginatedFetcher T ε) (hserves : Serves items fetcher) (fuel : Nat)
    (hfuel : items.length < fuel) :
    ∃ ended yielded,
      (new T options).toArray fetcher (fun _ => false) fuel [] = (ended, some (.ok yielded)) ∧
      (ended.fetches = ceilingOnFetches (new T options).maxPages (new T options).page
          (OffsetPaging.pages (new T options).limit items.length) ↔
        (new T options).page ≤ (new T options).maxPages ∧
          ((new T options).page = 1 ∨
            OffsetPaging.pages (new T options).limit items.length ≤ (new T options).maxPages)) := by
  have hpage : 1 ≤ (new T options).page := clampOption_pos options.startPage 1
  have hmax := (new T options).maxPages_pos
  have hreading : ReadingFrom ((new T options).page - 1) items (new T options) [] :=
    readingFrom_new (by omega) items
  have hsegment : (segment items ((new T options).page - 1) (new T options)).length ≤
      items.length := by
    rw [segment, List.length_drop, List.length_take]
    omega
  have hroom : (segment items ((new T options).page - 1) (new T options)).length <
      fuel + ([] : List T).length := by
    rw [List.length_nil]
    omega
  obtain ⟨ended, hended, hfetches⟩ := hreading.toArray hserves hroom
  refine ⟨ended, _, hended, ?_⟩
  rw [hfetches, fetchCount]
  exact fetches_eq_ceiling_iff hpage hmax

/-- The list ends at the ceiling, and all the pages from the second on are fetched. -/
theorem fetches_ceiling_threePages :
    Serves [4, 5, 6, 7, 8] (serveList (ε := Empty) [4, 5, 6, 7, 8]) ∧ 5 < 6 ∧
      ∃ ended yielded,
        (new Nat { limit := some 2, startPage := some 2, maxPages := some 3 }).toArray
          (serveList (ε := Empty) [4, 5, 6, 7, 8]) (fun _ => false) 6 [] =
            (ended, some (.ok yielded)) ∧
        (ended.fetches = ceilingOnFetches 3 2 3 ↔ 2 ≤ 3 ∧ (2 = 1 ∨ 3 ≤ 3)) :=
  ⟨serves_serveList _, by decide,
    fetches_ceiling_iff { limit := some 2, startPage := some 2, maxPages := some 3 }
      [4, 5, 6, 7, 8] (serveList _) (serves_serveList _) 6 (by decide)⟩

/-- Two pages are allowed and there, and one is fetched. -/
theorem fetches_short_of_ceiling :
    ((new Nat { limit := some 2, startPage := some 2, maxPages := some 2 }).toArray
      (serveList (ε := Empty) [4, 5, 6, 7, 8]) (fun _ => false) 6 []).1.fetches = 1 ∧
    ceilingOnFetches 2 2 (OffsetPaging.pages 2 [4, 5, 6, 7, 8].length) = 2 := by
  decide

/-! ## The cursor -/

def cursor (it : PaginatedIterator T) : Option Nat :=
  if it.exhausted then none
  else if it.offset < it.currentPage.length then some it.page
  else some it.page

/-- A `for await` loop that breaks after `count` items, or runs out of them. -/
def consume (fetcher : PaginatedFetcher T ε) :
    Nat → PaginatedIterator T → List T → PaginatedIterator T × List T
  | 0, it, out => (it, out)
  | count + 1, it, out =>
    match it.next fetcher false with
    | (it, .item item) => consume fetcher count it (out ++ [item])
    | (it, .done) => (it, out)
    | (it, .thrown _) => (it, out)

/-- What a new iterator yields from the cursor. -/
def resume (fetcher : PaginatedFetcher T ε) (options : PaginateAllOptions) (fuel : Nat)
    (it : PaginatedIterator T) : Option (Except ε (List T)) :=
  match it.cursor with
  | none => some (.ok [])
  | some page =>
    ((new T { options with startPage := some page }).toArray fetcher (fun _ => false) fuel []).2

/-- Reading on, with no page fetched before its first item was asked for. -/
structure Paused (skipped : Nat) (items : List T) (it : PaginatedIterator T) (out : List T) :
    Prop where
  reading : ReadingFrom skipped items it out
  asked : it.fetches = 0 ∨ (it.fetches - 1) * it.limit < out.length

theorem cursor_of_running (h : it.exhausted = false) : it.cursor = some it.page := by
  rw [cursor, h, if_neg Bool.false_ne_true, ite_self]

/-- The iterator pauses after so many items if there are as many, and is exhausted otherwise. -/
theorem Paused.consume (hserves : Serves items fetcher) (h : Paused skipped items it out)
    (count : Nat) :
    (Paused skipped items (it.consume fetcher count out).1 (it.consume fetcher count out).2 ∧
        (it.consume fetcher count out).1.maxPages = it.maxPages ∧
        (it.consume fetcher count out).1.limit = it.limit ∧
        (it.consume fetcher count out).2.length = out.length + count) ∨
      ((it.consume fetcher count out).1.exhausted = true ∧
        (it.consume fetcher count out).2 = segment items skipped it ∧
        (segment items skipped it).length < out.length + count) := by
  induction count generalizing it out with
  | zero => exact .inl ⟨h, rfl, rfl, rfl⟩
  | succ count ih =>
    rcases h.reading.next hserves with ⟨it', item, hnext, hreading, hmax, hlimit, hfetches⟩ |
      ⟨hall, it', hnext, hexhausted, -⟩
    · have hlength : (out ++ [item]).length = out.length + 1 := by
        rw [List.length_append, List.length_singleton]
      have hasked : it'.fetches = 0 ∨ (it'.fetches - 1) * it'.limit < (out ++ [item]).length := by
        rw [hlimit, hlength]
        rcases hfetches with heq | ⟨heq, hout, hmore⟩
        · rw [heq]
          exact h.asked.imp_right Nat.lt_succ_of_lt
        · -- A page is fetched when the one before is used up.
          have hfull := congrArg List.length hout
          rw [List.length_take, List.length_drop] at hfull
          have hinside := hmore.1
          rw [Nat.add_mul] at hinside
          rw [heq, Nat.add_sub_cancel]
          omega
      have hrest := ih ⟨hreading, hasked⟩
      rw [ReadingFrom.segment_congr hmax hlimit, hlength, Nat.add_assoc, Nat.add_comm 1, hmax,
        hlimit] at hrest
      rw [PaginatedIterator.consume, hnext]
      exact hrest
    · rw [PaginatedIterator.consume, hnext]
      refine .inr ⟨hexhausted, hall, ?_⟩
      rw [← hall]
      omega

/-- What was consumed and what comes from the next page on are in the list in this order. -/
theorem Paused.sublist (h : Paused skipped items it out) :
    (out ++ segment items (skipped + it.fetches) it).Sublist items := by
  obtain ⟨rest, -, hout⟩ := h.reading.position
  have hsegment : (segment items (skipped + it.fetches) it).Sublist
      ((items.drop (skipped * it.limit)).drop (it.fetches * it.limit)) := by
    rw [segment, List.drop_drop, ← Nat.add_mul]
    exact (List.take_sublist _ items).drop _
  have hfront : out.Sublist ((items.drop (skipped * it.limit)).take (it.fetches * it.limit)) := by
    rw [← hout]
    exact List.sublist_append_left out rest
  have hboth := hfront.append hsegment
  rw [List.take_append_drop] at hboth
  exact hboth.trans (List.drop_sublist _ items)

/-- A part of a list has all of it when it is as long. -/
theorem subperm_iff_length_le {l part : List T} (h : part.Sublist l) :
    l.Subperm part ↔ l.length ≤ part.length := by
  constructor
  · exact List.Subperm.length_le
  · intro hle
    rw [h.eq_of_length_le hle]

/-- The items were all consumed or begin a page, and the ceiling is above them. -/
def AtBoundary (options : PaginateAllOptions) (items : List T) (count : Nat) : Prop :=
  items = [] ∨
    (new T options).page = 1 ∧ items.length ≤ (new T options).maxPages * (new T options).limit ∧
      (count % (new T options).limit = 0 ∨ items.length ≤ count)

theorem length_segment (items : List T) (skipped : Nat) (it : PaginatedIterator T) :
    (segment items skipped it).length =
      min (it.maxPages * it.limit) items.length - skipped * it.limit := by
  rw [segment, List.length_drop, List.length_take]

theorem skipped_mul_eq_zero_iff (skipped : Nat) (it : PaginatedIterator T) :
    skipped * it.limit = 0 ↔ skipped = 0 := by
  have hpos := it.limit_pos
  rw [Nat.mul_eq_zero, or_iff_left (by omega)]

/-- The pages that were fetched are used up where the count is a multiple of the limit. -/
theorem Paused.mod_eq_zero_iff (h : Paused skipped items it out) :
    out.length % it.limit = 0 ↔ out.length = it.fetches * it.limit := by
  have hpos := it.limit_pos
  obtain ⟨rest, -, hout⟩ := h.reading.position
  have hle := congrArg List.length hout
  rw [List.length_append, List.length_take] at hle
  constructor
  · intro hmod
    obtain ⟨pages, hpages⟩ := Nat.dvd_of_mod_eq_zero hmod
    rw [Nat.mul_comm] at hpages
    rcases h.asked with hzero | hasked
    · rw [hzero] at hle ⊢
      omega
    · have hbelow : it.fetches - 1 < pages := by
        rw [hpages] at hasked
        exact Nat.lt_of_mul_lt_mul_right hasked
      have hmul := Nat.mul_le_mul_right it.limit (show it.fetches ≤ pages by omega)
      omega
  · intro heq
    rw [heq, Nat.mul_mod_left]

/-- How much of the list there is before the break and from the cursor on. -/
theorem Paused.length_le_iff (h : Paused skipped items it out) :
    items.length ≤ (out ++ segment items (skipped + it.fetches) it).length ↔
      items = [] ∨ skipped = 0 ∧ items.length ≤ it.maxPages * it.limit ∧
        (out.length % it.limit = 0 ∨ items.length ≤ out.length) := by
  have hinside := h.reading.length_le
  obtain ⟨rest, -, hout⟩ := h.reading.position
  have hle := congrArg List.length hout
  rw [List.length_append, List.length_take] at hle
  rw [length_segment] at hinside
  rw [h.mod_eq_zero_iff, ← List.length_eq_zero_iff, ← skipped_mul_eq_zero_iff skipped it,
    List.length_append, length_segment, Nat.add_mul]
  omega

/-- Whatever is consumed before the loop breaks, and yielded after it resumes from the cursor, has
every item of the list exactly when the break is at the end of a page or of the list. -/
theorem resume_complete_iff (options : PaginateAllOptions) (items : List T)
    (fetcher : PaginatedFetcher T ε) (hserves : Serves items fetcher) (count fuel : Nat)
    (hfuel : items.length < fuel) :
    ∃ rest,
      ((new T options).consume fetcher count []).1.resume fetcher options fuel = some (.ok rest) ∧
      (items.Subperm (((new T options).consume fetcher count []).2 ++ rest) ↔
        AtBoundary options items count) ∧
      (items.Nodup → (items ⊆ ((new T options).consume fetcher count []).2 ++ rest ↔
        AtBoundary options items count)) := by
  have hpage : 1 ≤ (new T options).page := clampOption_pos options.startPage 1
  have hnew : Paused ((new T options).page - 1) items (new T options) [] :=
    ⟨readingFrom_new (by omega) items, .inl rfl⟩
  have hfirst : (new T options).page - 1 = 0 ↔ (new T options).page = 1 := by omega
  obtain ⟨rest, hresume, hsublist, hlength⟩ : ∃ rest,
      ((new T options).consume fetcher count []).1.resume fetcher options fuel = some (.ok rest) ∧
      (((new T options).consume fetcher count []).2 ++ rest).Sublist items ∧
      (items.length ≤ (((new T options).consume fetcher count []).2 ++ rest).length ↔
        AtBoundary options items count) := by
    rcases hnew.consume hserves count with ⟨hpaused, hmax, hlimit, hcount⟩ | ⟨hexhausted, hall, hlt⟩
    · generalize hconsumed : (new T options).consume fetcher count [] = consumed at *
      obtain ⟨it, out⟩ := consumed
      dsimp only at hpaused hmax hlimit hcount ⊢
      -- The second iterator starts behind the pages that were fetched.
      have hresumed : (new T { options with startPage := some it.page }).page =
          (new T options).page - 1 + it.fetches + 1 := by
        have heq := hpaused.reading.page_eq
        show (max 1 ((some (it.page : Int)).getD 1)).toNat = _
        rw [Option.getD_some]
        omega
      have hsegment : segment items ((new T options).page - 1 + it.fetches)
          (new T { options with startPage := some it.page }) =
            segment items ((new T options).page - 1 + it.fetches) it :=
        ReadingFrom.segment_congr hmax.symm hlimit.symm
      have hroom : (segment items ((new T options).page - 1 + it.fetches)
          (new T { options with startPage := some it.page })).length <
            fuel + ([] : List T).length := by
        rw [length_segment, List.length_nil]
        omega
      obtain ⟨ended, hended, -⟩ := (readingFrom_new hresumed items).toArray hserves hroom
      refine ⟨segment items ((new T options).page - 1 + it.fetches) it, ?_, hpaused.sublist, ?_⟩
      · rw [resume, cursor_of_running hpaused.reading.running]
        dsimp only
        rw [hended, hsegment]
      · rw [hpaused.length_le_iff, hfirst, hmax, hlimit, hcount, List.length_nil, Nat.zero_add]
        rfl
    · refine ⟨[], ?_, ?_, ?_⟩
      · rw [resume, cursor, if_pos hexhausted]
      · rw [hall, List.append_nil, segment]
        exact (List.drop_sublist _ _).trans (List.take_sublist _ items)
      · rw [hall, List.append_nil, AtBoundary, ← hfirst,
          ← skipped_mul_eq_zero_iff _ (new T options), ← List.length_eq_zero_iff]
        rw [length_segment, List.length_nil] at hlt
        rw [length_segment]
        omega
  refine ⟨rest, hresume, (subperm_iff_length_le hsublist).trans hlength, fun hnodup => ?_⟩
  rw [← hlength, ← subperm_iff_length_le hsublist]
  exact ⟨fun hsubset => List.subperm_of_subset hnodup hsubset, List.Subperm.subset⟩

/-- Two pages of two items. -/
def fourItems : PaginatedFetcher Nat Empty := serveList [5, 6, 7, 8]

/-- A break at the end of the first page loses nothing. -/
theorem resume_complete_page :
    Serves [5, 6, 7, 8] fourItems ∧ 4 < 5 ∧
      AtBoundary (T := Nat) { limit := some 2 } [5, 6, 7, 8] 2 ∧
      ∃ rest, ((new Nat { limit := some 2 }).consume fourItems 2 []).1.resume fourItems
          { limit := some 2 } 5 = some (.ok rest) ∧
        ([5, 6, 7, 8].Subperm (((new Nat { limit := some 2 }).consume fourItems 2 []).2 ++ rest) ↔
          AtBoundary (T := Nat) { limit := some 2 } [5, 6, 7, 8] 2) := by
  refine ⟨serves_serveList _, by decide, .inr (by decide), ?_⟩
  obtain ⟨rest, hresume, hiff, -⟩ := resume_complete_iff { limit := some 2 } [5, 6, 7, 8]
    fourItems (serves_serveList _) 2 5 (by decide)
  exact ⟨rest, hresume, hiff⟩

/-- A break inside the first page loses the rest of it. -/
theorem resume_loses_buffered :
    ((new Nat { limit := some 2 }).consume fourItems 1 []).2 = [5] ∧
    ((new Nat { limit := some 2 }).consume fourItems 1 []).1.resume fourItems
      { limit := some 2 } 5 = some (.ok [7, 8]) ∧
    ¬[5, 6, 7, 8] ⊆ [5] ++ [7, 8] := by
  refine ⟨rfl, rfl, ?_⟩
  decide

end PaginatedIterator
end Sdk
end XStreamRoll
