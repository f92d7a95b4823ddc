/-
The SDK's iterator over a paginated endpoint.

`next` serves the page at hand item by item and fetches another page when it is used up.
The iterator stops at the total that the last response named, at an empty page, or at
its ceiling on the pages.  The server is a function of the number of the call and of the
parameters, so it may answer each call as it likes.

Page numbers and limits are exact here, which the source's are below `2 ^ 53`.
-/
import XStreamRoll.OffsetPaging

namespace XStreamRoll
namespace Sdk

/-- What `>=` compares a number with.  A fraction compares with integers as the next integer
does, and a value that is no number as `NaN`. -/
inductive Total
  | number (n : Int)
  | nan
  deriving DecidableEq

/-- `n >= total` -/
def Total.reachedBy (n : Int) : Total → Bool
  | .number total => decide (n ≥ total)
  | .nan => false

structure PageParams where
  page : Nat
  limit : Nat
  deriving DecidableEq

/-- The envelope.  An item that is `undefined` is `none`. -/
structure PaginatedResponse (T : Type) where
  data : Option (List (Option T))
  total : Option Total

/-- The answer to each call, which a transport error may take the place of. -/
abbrev PaginatedFetcher (T ε : Type) := Nat → PageParams → Except ε (PaginatedResponse T)

structure PaginateAllOptions where
  limit : Option Int := none
  startPage : Option Int := none
  maxPages : Option Int := none

structure PaginatedIterator (T : Type) where
  limit : Nat
  limit_pos : 1 ≤ limit
  maxPages : Nat
  maxPages_pos : 1 ≤ maxPages
  page : Nat
  /-- The index inside the current page. -/
  offset : Nat := 0
  currentPage : List (Option T) := []
  exhausted : Bool := false
  total : Option Total := none
  /-- How often the fetcher was called, which the source does not store. -/
  fetches : Nat := 0

inductive IteratorResult (T ε : Type)
  | item (value : T)
  | done
  | thrown (error : ε)

/-- `Math.max(1, option ?? default)` -/
def clampOption (option : Option Int) (default : Int) : Nat := (max 1 (option.getD default)).toNat

theorem clampOption_pos (option : Option Int) (default : Int) : 1 ≤ clampOption option default := by
  rw [clampOption]
  omega

namespace PaginatedIterator

variable {T ε : Type}

/-- The constructor. -/
def new (T : Type) (options : PaginateAllOptions) : PaginatedIterator T where
  limit := clampOption options.limit 50
  limit_pos := clampOption_pos options.limit 50
  maxPages := clampOption options.maxPages 1000
  maxPages_pos := clampOption_pos options.maxPages 1000
  page := clampOption options.startPage 1

/-- The iterator after a response. -/
def receive (it : PaginatedIterator T) (response : PaginatedResponse T) : PaginatedIterator T :=
  let currentPage := response.data.getD []
  { it with
    currentPage
    total := some (response.total.getD (.number currentPage.length))
    page := it.page + 1
    offset := 0
    fetches := it.fetches + 1 }

/-- The body of the loop in `next`, with the result when it returns one.  A body that returns
none leaves a page with an item, which ends the loop. -/
def turnPage (fetcher : PaginatedFetcher T ε) (it : PaginatedIterator T) :
    PaginatedIterator T × Option (IteratorResult T ε) :=
  if it.exhausted then (it, some .done)
  else if it.total.any (Total.reachedBy (((it.page : Int) - 1) * it.limit)) then
    ({ it with exhausted := true }, some .done)
  else if it.page > it.maxPages then ({ it with exhausted := true }, some .done)
  else
    match fetcher it.fetches ⟨it.page, it.limit⟩ with
    | .error error => ({ it with fetches := it.fetches + 1 }, some (.thrown error))
    | .ok response =>
      let it := it.receive response
      if it.currentPage.length = 0 then ({ it with exhausted := true }, some .done) else (it, none)

/-- What `next` does after the loop.  An item that is `undefined` ends the iteration. -/
def takeItem (it : PaginatedIterator T) : PaginatedIterator T × IteratorResult T ε :=
  ({ it with offset := it.offset + 1 },
    match it.currentPage[it.offset]? with
    | some (some item) => .item item
    | _ => .done)

/-- One call, during which the signal is `aborted` or not. -/
def next (fetcher : PaginatedFetcher T ε) (aborted : Bool) (it : PaginatedIterator T) :
    PaginatedIterator T × IteratorResult T ε :=
  if aborted then ({ it with exhausted := true }, .done)
  else if it.offset ≥ it.currentPage.length then
    match it.turnPage fetcher with
    | (it, some result) => (it, result)
    | (it, none) => it.takeItem
  else it.takeItem

/-- The `for await` loop, which calls `next` at most `fuel` times.  `aborted` is the signal at
each call, and the result `none` stands for a loop that has not ended. -/
def toArray (fetcher : PaginatedFetcher T ε) (aborted : Nat → Bool) :
    Nat → PaginatedIterator T → List T → PaginatedIterator T × Option (Except ε (List T))
  | 0, it, _ => (it, none)
  | fuel + 1, it, out =>
    match it.next fetcher (aborted out.length) with
    | (it, .item item) => toArray fetcher aborted fuel it (out ++ [item])
    | (it, .done) => (it, some (.ok out))
    | (it, .thrown error) => (it, some (.error error))

variable {fetcher : PaginatedFetcher T ε} {aborted : Nat → Bool} {it it' : PaginatedIterator T}

theorem toArray_item {fuel : Nat} {out : List T} {item : T}
    (h : it.next fetcher (aborted out.length) = (it', .item item)) :
    it.toArray fetcher aborted (fuel + 1) out =
      it'.toArray fetcher aborted fuel (out ++ [item]) := by
  rw [toArray, h]

/-! ## Any server -/

/-- An iterator from page 1 that has fetched no page above its ceiling. -/
structure Within (it : PaginatedIterator T) : Prop where
  fetches_eq : it.fetches + 1 = it.page
  page_le : it.page ≤ it.maxPages + 1

theorem within_new {options : PaginateAllOptions} (hstart : (new T options).page = 1) :
    (new T options).Within where
  fetches_eq := hstart.symm
  page_le := by
    rw [hstart]
    exact Nat.le_add_left 1 _

/-- A body of the loop that returns makes at most the fetch that the ceiling allows, and one that
does not goes one page on. -/
theorem turnPage_within (h : it.Within) (fetcher : PaginatedFetcher T ε) :
    (it.turnPage fetcher).1.maxPages = it.maxPages ∧
      match (it.turnPage fetcher).2 with
      | none => (it.turnPage fetcher).1.Within ∧ it.page < (it.turnPage fetcher).1.page
      | some result => (it.turnPage fetcher).1.fetches ≤ it.maxPages ∧
          ∀ item, result ≠ .item item := by
  obtain ⟨hfetches, hpage⟩ := h
  have hbound : it.fetches ≤ it.maxPages := by omega
  rw [turnPage]
  split
  · exact ⟨rfl, hbound, by simp⟩
  split
  · exact ⟨rfl, hbound, by simp⟩
  split
  · exact ⟨rfl, hbound, by simp⟩
  next hceiling =>
    have hfetch : it.fetches + 1 ≤ it.maxPages := by omega
    split
    · exact ⟨rfl, hfetch, by simp⟩
    · dsimp only
      split
      · exact ⟨rfl, hfetch, by simp⟩
      · refine ⟨rfl, ⟨?_, ?_⟩, Nat.lt_succ_self it.page⟩
        · exact congrArg (· + 1) hfetches
        · exact Nat.succ_le_succ (Nat.not_lt.mp hceiling)

/-- A call that yields an item comes nearer to the end of its page or to the last page, and one
that ends the iteration has kept to the ceiling. -/
theorem next_within (h : it.Within) (fetcher : PaginatedFetcher T ε) (signalled : Bool) :
    (it.next fetcher signalled).1.maxPages = it.maxPages ∧
      match (it.next fetcher signalled).2 with
      | .item _ => (it.next fetcher signalled).1.Within ∧
          (it.page < (it.next fetcher signalled).1.page ∨
            (it.next fetcher signalled).1.page = it.page ∧
              (it.next fetcher signalled).1.currentPage = it.currentPage ∧
              it.offset < it.currentPage.length ∧
              (it.next fetcher signalled).1.offset = it.offset + 1)
      | _ => (it.next fetcher signalled).1.fetches ≤ it.maxPages := by
  have hbound : it.fetches ≤ it.maxPages := by
    obtain ⟨hfetches, hpage⟩ := h
    omega
  rw [next]
  split
  · exact ⟨rfl, hbound⟩
  split
  · have hturn := turnPage_within h fetcher
    rcases hresult : it.turnPage fetcher with ⟨turned, _ | result⟩
    · rw [hresult] at hturn
      obtain ⟨hmax, hwithin, hlt⟩ := hturn
      refine ⟨hmax, ?_⟩
      have hfetches : turned.fetches ≤ it.maxPages := by
        obtain ⟨hfetches, hpage⟩ := hwithin
        dsimp only at hmax hfetches hpage
        omega
      dsimp only [takeItem]
      split
      · exact ⟨⟨hwithin.fetches_eq, hwithin.page_le⟩, .inl hlt⟩
      · exact hfetches
    · rw [hresult] at hturn
      obtain ⟨hmax, hfetches, hnot⟩ := hturn
      refine ⟨hmax, ?_⟩
      cases result with
      | item item => exact absurd rfl (hnot item)
      | done => exact hfetches
      | thrown error => exact hfetches
  next hinside =>
    refine ⟨rfl, ?_⟩
    dsimp only [takeItem]
    split
    · exact ⟨⟨h.fetches_eq, h.page_le⟩, .inr ⟨rfl, rfl, Nat.not_le.mp hinside, rfl⟩⟩
    · exact hbound

/-- Whatever the server answers, the loop ends, and it has kept to the ceiling. -/
theorem toArray_ends (fetcher : PaginatedFetcher T ε) (aborted : Nat → Bool)
    (it : PaginatedIterator T) (out : List T) (h : it.Within) :
    ∃ enough, ∀ fuel ≥ enough, ∃ ended result,
      it.toArray fetcher aborted fuel out = (ended, some result) ∧ ended.fetches ≤ it.maxPages := by
  have hnext := next_within h fetcher (aborted out.length)
  match hresult : it.next fetcher (aborted out.length) with
  | (it', .item item) =>
    rw [hresult] at hnext
    have hmax : it'.maxPages = it.maxPages := hnext.1
    have hwithin : it'.Within := hnext.2.1
    have hnearer : it.page < it'.page ∨ it'.page = it.page ∧ it'.currentPage = it.currentPage ∧
      it.offset < it.currentPage.length ∧ it'.offset = it.offset + 1 := hnext.2.2
    obtain ⟨enough, hall⟩ := toArray_ends fetcher aborted it' (out ++ [item]) hwithin
    refine ⟨enough + 1, fun fuel hfuel => ?_⟩
    obtain ⟨more, rfl⟩ : ∃ more, fuel = more + 1 := ⟨fuel - 1, by omega⟩
    obtain ⟨ended, result, hended, hfetches⟩ := hall more (Nat.le_of_succ_le_succ hfuel)
    exact ⟨ended, result, (toArray_item hresult).trans hended, hmax ▸ hfetches⟩
  | (it', .done) =>
    rw [hresult] at hnext
    refine ⟨1, fun fuel hfuel => ⟨it', .ok out, ?_, hnext.2⟩⟩
    obtain ⟨more, rfl⟩ : ∃ more, fuel = more + 1 := ⟨fuel - 1, by omega⟩
    rw [toArray, hresult]
  | (it', .thrown error) =>
    rw [hresult] at hnext
    refine ⟨1, fun fuel hfuel => ⟨it', .error error, ?_, hnext.2⟩⟩
    obtain ⟨more, rfl⟩ : ∃ more, fuel = more + 1 := ⟨fuel - 1, by omega⟩
    rw [toArray, hresult]
termination_by (it.maxPages + 1 - it.page, it.currentPage.length - it.offset)
decreasing_by
  have hpage := hwithin.page_le
  rcases hnearer with hlt | ⟨heq, hsame, hinside, hoffset⟩
  · exact Prod.Lex.left _ _ (by omega)
  · rw [hmax, heq, hsame, hoffset]
    exact Prod.Lex.right _ (by omega)

/-! ## A server that honours the parameters -/

/-- Every page of the list, with its length as the total. -/
def Serves (items : List T) (fetcher : PaginatedFetcher T ε) : Prop :=
  ∀ call index limit, fetcher call ⟨index + 1, limit⟩ =
    .ok ⟨some ((OffsetPaging.page limit index items).map some), some (.number items.length)⟩

/-- What the ceiling lets through of the list, from behind the pages that are left out. -/
def segment (items : List T) (skipped : Nat) (it : PaginatedIterator T) : List T :=
  (items.take (it.maxPages * it.limit)).drop (skipped * it.limit)

/-- The iterator in the middle of the list, with the items that it has yielded. -/
structure ReadingFrom (skipped : Nat) (items : List T) (it : PaginatedIterator T) (out : List T) :
    Prop where
  page_eq : it.page = skipped + it.fetches + 1
  fetches_le :
    it.fetches ≤ min (OffsetPaging.pages it.limit items.length) it.maxPages - skipped
  running : it.exhausted = false
  total_eq : it.total = if it.fetches = 0 then none else some (.number items.length)
  position : ∃ rest, it.currentPage.drop it.offset = rest.map some ∧
    out ++ rest = (items.drop (skipped * it.limit)).take (it.fetches * it.limit)

variable {items out : List T} {skipped : Nat}

theorem readingFrom_new {options : PaginateAllOptions} (hstart : (new T options).page = skipped + 1)
    (items : List T) : ReadingFrom skipped items (new T options) [] where
  page_eq := hstart
  fetches_le := Nat.zero_le _
  running := rfl
  total_eq := rfl
  position := ⟨[], rfl, by simp [new]⟩

/-- Another page can be asked for, and has items. -/
def MorePages (skipped : Nat) (items : List T) (it : PaginatedIterator T) : Prop :=
  (skipped + it.fetches) * it.limit < items.length ∧ skipped + it.fetches < it.maxPages

/-- The fetches of an iterator that ends. -/
def fetchCount (skipped : Nat) (items : List T) (it : PaginatedIterator T) : Nat :=
  if skipped < it.maxPages then
    max 1 (min (OffsetPaging.pages it.limit items.length) it.maxPages - skipped)
  else 0

namespace ReadingFrom

/-- An item of the page at hand. -/
theorem takeItem {item : T} {rest : List T} (h : ReadingFrom skipped items it out)
    (hrest : it.currentPage.drop it.offset = (item :: rest).map some)
    (hout : out ++ item :: rest =
      (items.drop (skipped * it.limit)).take (it.fetches * it.limit)) :
    it.offset < it.currentPage.length ∧
      ∃ it', it.takeItem = (it', (.item item : IteratorResult T ε)) ∧
        ReadingFrom skipped items it' (out ++ [item]) ∧ it'.maxPages = it.maxPages ∧
        it'.limit = it.limit ∧ it'.fetches = it.fetches := by
  have hitem : it.currentPage[it.offset]? = some (some item) := by
    rw [← List.head?_drop, hrest]
    rfl
  refine ⟨(List.getElem?_eq_some_iff.mp hitem).1, { it with offset := it.offset + 1 }, ?_, ?_, rfl,
    rfl, rfl⟩
  · rw [PaginatedIterator.takeItem, hitem]
  · refine ⟨h.page_eq, h.fetches_le, h.running, h.total_eq, rest, ?_, ?_⟩
    · rw [← List.tail_drop, hrest]
      rfl
    · rw [List.append_assoc]
      exact hout

/-- Whether the total tells the end of the list. -/
theorem reached (h : ReadingFrom skipped items it out) :
    it.total.any (Total.reachedBy (((it.page : Int) - 1) * it.limit)) =
      decide (it.fetches ≠ 0 ∧ items.length ≤ (skipped + it.fetches) * it.limit) := by
  have hindex : ((it.page : Int) - 1) * it.limit =
      (((skipped + it.fetches) * it.limit : Nat) : Int) := by
    rw [h.page_eq, Int.natCast_succ, Int.add_sub_cancel, Int.natCast_mul]
  rw [h.total_eq, hindex]
  split
  · next hzero => simp [hzero]
  · next hpos => simp only [Option.any_some, Total.reachedBy, ge_iff_le, Int.ofNat_le, ne_eq, hpos,
      not_false_eq_true, true_and]

/-- At the end of the page at hand, before the end of the list. -/
theorem turnPage (hserves : Serves items fetcher) (h : ReadingFrom skipped items it out)
    (hout : out = (items.drop (skipped * it.limit)).take (it.fetches * it.limit))
    (hmore : MorePages skipped items it) :
    ∃ it' item rest, it.turnPage fetcher = (it', none) ∧ ReadingFrom skipped items it' out ∧
      it'.currentPage.drop it'.offset = (item :: rest).map some ∧
      out ++ item :: rest = (items.drop (skipped * it'.limit)).take (it'.fetches * it'.limit) ∧
      it'.maxPages = it.maxPages ∧ it'.limit = it.limit ∧ it'.fetches = it.fetches + 1 := by
  obtain ⟨hinside, hceiling⟩ := hmore
  have hlt := OffsetPaging.lt_pages it.limit_pos hinside
  have hreached := h.reached
  rw [decide_eq_false fun hend => absurd hend.2 (Nat.not_le.mpr hinside)] at hreached
  have hne := (OffsetPaging.page_ne_nil_iff it.limit_pos (skipped + it.fetches) items).mpr hinside
  obtain ⟨item, rest, hpage⟩ := List.exists_cons_of_ne_nil hne
  let received := it.receive ⟨some ((item :: rest).map some), some (.number items.length)⟩
  have hfull : out ++ item :: rest =
      (items.drop (skipped * it.limit)).take ((it.fetches + 1) * it.limit) := by
    rw [hout, ← hpage, ← OffsetPaging.page_drop, OffsetPaging.take_append_page]
  refine ⟨received, item, rest, ?_, ?_, rfl, hfull, rfl, rfl, rfl⟩
  · have hwithin : ¬it.page > it.maxPages := by
      rw [h.page_eq]
      omega
    rw [PaginatedIterator.turnPage, h.running, hreached, if_neg Bool.false_ne_true,
      if_neg Bool.false_ne_true, if_neg hwithin, h.page_eq, hserves, hpage]
    simp only [received, receive, h.page_eq]
    rfl
  · refine ⟨?_, ?_, h.running, rfl, item :: rest, rfl, hfull⟩
    · show it.page + 1 = skipped + (it.fetches + 1) + 1
      rw [h.page_eq]
      omega
    · show it.fetches + 1 ≤ min (OffsetPaging.pages it.limit items.length) it.maxPages - skipped
      omega

/-- At the end of the list, or at the ceiling. -/
theorem finish (hserves : Serves items fetcher) (h : ReadingFrom skipped items it out)
    (hout : out = (items.drop (skipped * it.limit)).take (it.fetches * it.limit))
    (hend : ¬MorePages skipped items it) :
    out = segment items skipped it ∧
      ∃ it', it.turnPage fetcher = (it', some .done) ∧ it'.exhausted = true ∧
        it'.fetches = fetchCount skipped items it := by
  have hle := h.fetches_le
  have hpos := it.limit_pos
  have hpages := OffsetPaging.le_pages_mul hpos items.length
  have hstop : items.length ≤ (skipped + it.fetches) * it.limit ∨
      it.maxPages ≤ skipped + it.fetches := by
    rw [MorePages, not_and_or] at hend
    exact hend.imp Nat.not_lt.mp Nat.not_lt.mp
  have hcount : items.length ≤ (skipped + it.fetches) * it.limit →
      OffsetPaging.pages it.limit items.length ≤ skipped + it.fetches := fun hshort =>
    OffsetPaging.pages_le hpos hshort
  constructor
  · rw [hout, segment, List.drop_take, ← Nat.sub_mul]
    rcases hstop with hshort | hceiling
    · -- Both take all that there is.
      have hreach : items.length - skipped * it.limit ≤ it.fetches * it.limit := by
        rw [Nat.add_mul] at hshort
        omega
      by_cases hroom : it.fetches ≤ it.maxPages - skipped
      · have hroom' := Nat.mul_le_mul_right it.limit hroom
        rw [List.take_of_length_le (by rw [List.length_drop]; exact hreach),
          List.take_of_length_le (by rw [List.length_drop]; omega)]
      · omega
    · congr 2
      omega
  · by_cases hzero : it.fetches = 0
    · by_cases hceiling : skipped < it.maxPages
      · -- The first page is empty, which its response tells.
        have hshort : items.length ≤ skipped * it.limit := by
          rw [hzero, Nat.add_zero] at hstop
          exact hstop.resolve_right (Nat.not_le.mpr hceiling)
        have hempty : OffsetPaging.page it.limit skipped items = [] := by
          rw [OffsetPaging.page, List.drop_eq_nil_iff.mpr hshort, List.take_nil]
        have hreached := h.reached
        rw [decide_eq_false fun hpast => hpast.1 hzero] at hreached
        have hpage : it.page = skipped + 1 := by rw [h.page_eq, hzero]
        refine ⟨{ it.receive ⟨some [], some (.number items.length)⟩ with exhausted := true }, ?_,
          rfl, ?_⟩
        · rw [PaginatedIterator.turnPage, h.running, hreached, hpage, if_neg Bool.false_ne_true,
            if_neg Bool.false_ne_true, if_neg (by omega), hserves, hempty]
          simp only [receive, hpage]
          rfl
        · show it.fetches + 1 = fetchCount skipped items it
          have hnone := hcount (by rw [hzero]; exact hshort)
          rw [fetchCount, if_pos hceiling]
          omega
      · have hreached := h.reached
        rw [decide_eq_false fun hpast => hpast.1 hzero] at hreached
        refine ⟨{ it with exhausted := true }, ?_, rfl, ?_⟩
        · rw [PaginatedIterator.turnPage, h.running, hreached, if_neg Bool.false_ne_true,
            if_neg Bool.false_ne_true, if_pos (by rw [h.page_eq]; omega)]
        · show it.fetches = fetchCount skipped items it
          rw [fetchCount, if_neg hceiling, hzero]
    · refine ⟨{ it with exhausted := true }, ?_, rfl, ?_⟩
      · rw [PaginatedIterator.turnPage, h.running, h.reached, if_neg Bool.false_ne_true]
        by_cases hshort : items.length ≤ (skipped + it.fetches) * it.limit
        · rw [if_pos (decide_eq_true ⟨hzero, hshort⟩)]
        · rw [if_neg (by simp [hshort]), if_pos (by rw [h.page_eq]; omega)]
      · show it.fetches = fetchCount skipped items it
        rw [fetchCount, if_pos (by omega)]
        rcases hstop with hshort | hceiling
        · have hall := hcount hshort
          omega
        · omega

/-- One more item, whether it comes with another page or not, or else the end. -/
theorem next (hserves : Serves items fetcher) (h : ReadingFrom skipped items it out) :
    (∃ it' item, it.next fetcher false = (it', .item item) ∧
      ReadingFrom skipped items it' (out ++ [item]) ∧ it'.maxPages = it.maxPages ∧
      it'.limit = it.limit ∧
      (it'.fetches = it.fetches ∨
        it'.fetches = it.fetches + 1 ∧
          out = (items.drop (skipped * it.limit)).take (it.fetches * it.limit) ∧
          MorePages skipped items it)) ∨
    out = segment items skipped it ∧
      ∃ it', it.next fetcher false = (it', .done) ∧ it'.exhausted = true ∧
        it'.fetches = fetchCount skipped items it := by
  obtain ⟨rest, hrest, hout⟩ := h.position
  cases rest with
  | cons item rest =>
    obtain ⟨hinside, it', htake, hreading, hmax, hlimit, hfetches⟩ := h.takeItem (ε := ε) hrest hout
    refine .inl ⟨it', item, ?_, hreading, hmax, hlimit, .inl hfetches⟩
    rw [PaginatedIterator.next, if_neg Bool.false_ne_true, if_neg (Nat.not_le.mpr hinside), htake]
  | nil =>
    have hoffset : it.offset ≥ it.currentPage.length := List.drop_eq_nil_iff.mp hrest
    rw [List.append_nil] at hout
    by_cases hmore : MorePages skipped items it
    · obtain ⟨turned, item, rest, hturn, hreading, hdrop, hfull, hmax, hlimit, hfetches⟩ :=
        h.turnPage hserves hout hmore
      obtain ⟨-, it', htake, hreading', hmax', hlimit', hfetches'⟩ :=
        hreading.takeItem (ε := ε) hdrop hfull
      refine .inl ⟨it', item, ?_, hreading', hmax'.trans hmax, hlimit'.trans hlimit,
        .inr ⟨hfetches'.trans hfetches, hout, hmore⟩⟩
      rw [PaginatedIterator.next, if_neg Bool.false_ne_true, if_pos hoffset, hturn]
      exact htake
    · obtain ⟨hall, it', hturn, hexhausted, hfetches⟩ := h.finish hserves hout hmore
      refine .inr ⟨hall, it', ?_, hexhausted, hfetches⟩
      rw [PaginatedIterator.next, if_neg Bool.false_ne_true, if_pos hoffset, hturn]

theorem length_le (h : ReadingFrom skipped items it out) :
    out.length ≤ (segment items skipped it).length := by
  obtain ⟨rest, -, hout⟩ := h.position
  have hlength := congrArg List.length hout
  have hle := h.fetches_le
  have hroom := Nat.mul_le_mul_right it.limit (show it.fetches ≤ it.maxPages - skipped by omega)
  rw [Nat.sub_mul] at hroom
  rw [List.length_append, List.length_take, List.length_drop] at hlength
  rw [segment, List.length_drop, List.length_take]
  omega

theorem segment_congr {it' : PaginatedIterator T} (hmax : it'.maxPages = it.maxPages)
    (hlimit : it'.limit = it.limit) : segment items skipped it' = segment items skipped it := by
  rw [segment, segment, hmax, hlimit]

theorem fetchCount_congr {it' : PaginatedIterator T} (hmax : it'.maxPages = it.maxPages)
    (hlimit : it'.limit = it.limit) :
    fetchCount skipped items it' = fetchCount skipped items it := by
  rw [fetchCount, fetchCount, hmax, hlimit]

/-- The rest of the list, from anywhere in it. -/
theorem toArray (hserves : Serves items fetcher) (h : ReadingFrom skipped items it out) {fuel : Nat}
    (hfuel : (segment items skipped it).length < fuel + out.length) :
    ∃ ended, it.toArray fetcher (fun _ => false) fuel out =
        (ended, some (.ok (segment items skipped it))) ∧
      ended.fetches = fetchCount skipped items it := by
  induction fuel generalizing it out with
  | zero =>
    have hlength := h.length_le
    omega
  | succ fuel ih =>
    rcases h.next hserves with ⟨it', item, hnext, hreading, hmax, hlimit, -⟩ |
      ⟨hall, it', hnext, -, hfetches⟩
    · have hsegment : segment items skipped it' = segment items skipped it :=
        segment_congr hmax hlimit
      obtain ⟨ended, hended, hfetches⟩ := ih hreading (by
        rw [hsegment, List.length_append, List.length_singleton]
        omega)
      rw [hsegment] at hended
      exact ⟨ended, (toArray_item hnext).trans hended,
        hfetches.trans (fetchCount_congr hmax hlimit)⟩
    · refine ⟨it', ?_, hfetches⟩
      rw [PaginatedIterator.toArray, hnext, hall]

end ReadingFrom

/-- Reading from page 1 below the ceiling. -/
structure Reading (items : List T) (it : PaginatedIterator T) (out : List T) : Prop where
  page_eq : it.page = it.fetches + 1
  fetches_le : it.fetches ≤ OffsetPaging.pages it.limit items.length
  running : it.exhausted = false
  total_eq : it.total = if it.fetches = 0 then none else some (.number items.length)
  position : ∃ rest, it.currentPage.drop it.offset = rest.map some ∧
    out ++ rest = items.take (it.fetches * it.limit)

theorem reading_new {options : PaginateAllOptions} (hstart : (new T options).page = 1)
    (items : List T) : Reading items (new T options) [] where
  page_eq := hstart
  fetches_le := Nat.zero_le _
  running := rfl
  total_eq := rfl
  position := ⟨[], rfl, by simp [new]⟩

/-- The rest of the list, from anywhere in it. -/
theorem Reading.toArray (hserves : Serves items fetcher) (h : Reading items it out)
    (hpages : OffsetPaging.pages it.limit items.length ≤ it.maxPages) {fuel : Nat}
    (hfuel : items.length < fuel + out.length) :
    ∃ ended, it.toArray fetcher (fun _ => false) fuel out = (ended, some (.ok items)) ∧
      ended.fetches = max 1 (OffsetPaging.pages it.limit items.length) := by
  have hfrom : ReadingFrom 0 items it out := by
    refine ⟨?_, ?_, h.running, h.total_eq, ?_⟩
    · rw [Nat.zero_add]
      exact h.page_eq
    · rw [Nat.min_eq_left hpages, Nat.sub_zero]
      exact h.fetches_le
    · rw [Nat.zero_mul, List.drop_zero]
      exact h.position
  have hall : segment items 0 it = items := by
    rw [segment, Nat.zero_mul, List.drop_zero]
    exact List.take_of_length_le (le_trans (OffsetPaging.le_pages_mul it.limit_pos _)
      (Nat.mul_le_mul_right _ hpages))
  rw [← hall] at hfuel
  obtain ⟨ended, hended, hfetches⟩ := hfrom.toArray hserves hfuel
  refine ⟨ended, by rw [hended, hall], ?_⟩
  have hpos : 0 < it.maxPages := it.maxPages_pos
  rw [hfetches, fetchCount, if_pos hpos, Nat.sub_zero, Nat.min_eq_left hpages]

/-- From page 1, a server that honours the parameters has its list yielded once and in order,
with as many fetches as the list has pages, and no server keeps the iterator above its
ceiling. -/
theorem yields_list_and_ends (options : PaginateAllOptions)
    (hstart : (new T options).page = 1) :
    (∀ items (fetcher : PaginatedFetcher T ε), Serves items fetcher →
      OffsetPaging.pages (new T options).limit items.length ≤ (new T options).maxPages →
      ∀ fuel > items.length, ∃ ended,
        (new T options).toArray fetcher (fun _ => false) fuel [] = (ended, some (.ok items)) ∧
        ended.fetches = max 1 (OffsetPaging.pages (new T options).limit items.length)) ∧
    ∀ (fetcher : PaginatedFetcher T ε) (aborted : Nat → Bool),
      ∃ enough, ∀ fuel ≥ enough, ∃ ended result,
        (new T options).toArray fetcher aborted fuel [] = (ended, some result) ∧
        ended.fetches ≤ (new T options).maxPages := by
  constructor
  · intro items fetcher hserves hpages fuel hfuel
    exact (reading_new hstart items).toArray hserves hpages hfuel
  · intro fetcher aborted
    exact toArray_ends fetcher aborted _ [] (within_new hstart)

/-- The server of a list. -/
def serveList (items : List T) : PaginatedFetcher T ε := fun _ params =>
  .ok ⟨some ((OffsetPaging.page params.limit (params.page - 1) items).map some),
    some (.number items.length)⟩

theorem serves_serveList (items : List T) : Serves items (serveList (ε := ε) items) :=
  fun _ _ _ => rfl

/-- Four items fill two pages of two, and the ceiling of two pages is enough. -/
theorem yields_list_twoPages :
    ∃ ended, (new Nat { limit := some 2, maxPages := some 2 }).toArray
        (serveList (ε := Empty) [5, 6, 7, 8]) (fun _ => false) 5 [] =
          (ended, some (.ok [5, 6, 7, 8])) ∧ ended.fetches = 2 :=
  (yields_list_and_ends { limit := some 2, maxPages := some 2 } rfl).1 [5, 6, 7, 8]
    (serveList [5, 6, 7, 8]) (serves_serveList _) (by decide) 5 (by decide)

/-- A server that names no end is left at the ceiling. -/
example : ((new Nat { maxPages := some 3 }).toArray (ε := Empty)
    (fun _ _ => .ok ⟨some [some 1], some .nan⟩) (fun _ => false) 9 []).1.fetches = 3 := rfl

end PaginatedIterator

end Sdk
end XStreamRoll
