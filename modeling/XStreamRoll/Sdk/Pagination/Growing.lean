/-
The iterator over a list that changes between the pages.

Each fetch finds a list of its own and is told that list's length.  What the iterator yields
is then the walk over those lists, and it ends behind the last one, unless at its ceiling.

The lists are of keys: what else an item holds may differ with the page that it comes on.
-/
import XStreamRoll.OffsetPaging.Growing
import XStreamRoll.Sdk.Pagination

namespace XStreamRoll
namespace Sdk
namespace PaginatedIterator

variable {T ε κ : Type} {key : T → κ} {lists : Nat → List κ} {fetcher : PaginatedFetcher T ε}
  {it : PaginatedIterator T} {out : List T}

/-- Every page, of the list that the call finds. -/
def ServesEach (key : T → κ) (lists : Nat → List κ) (limit : Nat) (fetcher : PaginatedFetcher T ε) :
    Prop :=
  ∀ call index, ∃ data : List T, data.map key = OffsetPaging.page limit index (lists call) ∧
    fetcher call ⟨index + 1, limit⟩ =
      .ok ⟨some (data.map some), some (.number (lists call).length)⟩

/-- The iterator in the middle of the walk, with the items that it has yielded. -/
structure ReadingEach (key : T → κ) (lists : Nat → List κ) (it : PaginatedIterator T)
    (out : List T) : Prop where
  page_eq : it.page = it.fetches + 1
  running : it.exhausted = false
  total_eq : it.total =
    if it.fetches = 0 then none else some (.number (lists (it.fetches - 1)).length)
  position : ∃ rest, it.currentPage.drop it.offset = rest.map some ∧
    (out ++ rest).map key = OffsetPaging.walk it.limit lists it.fetches

/-- The walk has come to the end of the list that the last fetch found, or to the ceiling. -/
def Ended (key : T → κ) (lists : Nat → List κ) (it : PaginatedIterator T) (out : List T) : Prop :=
  ∃ count, out.map key = OffsetPaging.walk it.limit lists (count + 1) ∧
    ((lists count).length ≤ (count + 1) * it.limit ∨ it.maxPages ≤ count + 1)

theorem readingEach_new {options : PaginateAllOptions} (hstart : (new T options).page = 1)
    (key : T → κ) (lists : Nat → List κ) : ReadingEach key lists (new T options) [] where
  page_eq := hstart
  running := rfl
  total_eq := rfl
  position := ⟨[], rfl, rfl⟩

namespace ReadingEach

theorem reached (h : ReadingEach key lists it out) :
    it.total.any (Total.reachedBy (((it.page : Int) - 1) * it.limit)) =
      decide (it.fetches ≠ 0 ∧ (lists (it.fetches - 1)).length ≤ it.fetches * it.limit) := by
  have hindex : ((it.page : Int) - 1) * it.limit = ((it.fetches * it.limit : Nat) : Int) := by
    rw [h.page_eq, Int.natCast_succ, Int.add_sub_cancel, Int.natCast_mul]
  rw [h.total_eq, hindex]
  split
  · next hzero => simp [hzero]
  · next hpos =>
    simp only [Option.any_some, Total.reachedBy, ge_iff_le, Int.ofNat_le, ne_eq, hpos,
      not_false_eq_true, true_and]

/-- An item of the page at hand. -/
theorem takeItem {item : T} {rest : List T} (h : ReadingEach key lists it out)
    (hrest : it.currentPage.drop it.offset = (item :: rest).map some)
    (hout : (out ++ item :: rest).map key = OffsetPaging.walk it.limit lists it.fetches) :
    it.offset < it.currentPage.length ∧
      ∃ it', it.takeItem = (it', (.item item : IteratorResult T ε)) ∧
        ReadingEach key lists it' (out ++ [item]) ∧ it'.maxPages = it.maxPages ∧
        it'.limit = it.limit := by
  have hitem : it.currentPage[it.offset]? = some (some item) := by
    rw [← List.head?_drop, hrest]
    rfl
  refine ⟨(List.getElem?_eq_some_iff.mp hitem).1, { it with offset := it.offset + 1 }, ?_, ?_, rfl,
    rfl⟩
  · rw [PaginatedIterator.takeItem, hitem]
  · refine ⟨h.page_eq, h.running, h.total_eq, rest, ?_, ?_⟩
    · rw [← List.tail_drop, hrest]
      rfl
    · rw [List.append_assoc]
      exact hout

/-- At the end of the page at hand: the end, or a page with an item. -/
theorem turnPage (hserves : ServesEach key lists it.limit fetcher) (h : ReadingEach key lists it out)
    (hout : out.map key = OffsetPaging.walk it.limit lists it.fetches) :
    (∃ it', it.turnPage fetcher = (it', some .done) ∧ Ended key lists it out) ∨
      ∃ it' item rest, it.turnPage fetcher = (it', none) ∧ ReadingEach key lists it' out ∧
        it'.currentPage.drop it'.offset = (item :: rest).map some ∧
        (out ++ item :: rest).map key = OffsetPaging.walk it'.limit lists it'.fetches ∧
        it'.maxPages = it.maxPages ∧ it'.limit = it.limit := by
  have hmax := it.maxPages_pos
  by_cases hreached : it.fetches ≠ 0 ∧
      (lists (it.fetches - 1)).length ≤ it.fetches * it.limit
  · left
    obtain ⟨count, hcount⟩ := Nat.exists_eq_succ_of_ne_zero hreached.1
    have hend := hreached.2
    rw [hcount] at hend hout
    refine ⟨{ it with exhausted := true }, ?_, count, hout, .inl hend⟩
    rw [PaginatedIterator.turnPage, h.running, if_neg Bool.false_ne_true, h.reached,
      if_pos (decide_eq_true hreached)]
  by_cases hceiling : it.maxPages ≤ it.fetches
  · left
    obtain ⟨count, hcount⟩ := Nat.exists_eq_add_of_le (le_trans hmax hceiling)
    rw [Nat.add_comm] at hcount
    rw [hcount] at hout
    refine ⟨{ it with exhausted := true }, ?_, count, hout, .inr (hcount ▸ hceiling)⟩
    rw [PaginatedIterator.turnPage, h.running, if_neg Bool.false_ne_true, h.reached,
      decide_eq_false hreached, if_neg Bool.false_ne_true, if_pos (by rw [h.page_eq]; omega)]
  obtain ⟨data, hdata, hfetch⟩ := hserves it.fetches it.fetches
  have hturn : it.turnPage fetcher =
      if data.length = 0 then
        ({ it.receive ⟨some (data.map some), some (.number (lists it.fetches).length)⟩ with
          exhausted := true }, some .done)
      else (it.receive ⟨some (data.map some), some (.number (lists it.fetches).length)⟩, none) := by
    rw [PaginatedIterator.turnPage, h.running, if_neg Bool.false_ne_true, h.reached,
      decide_eq_false hreached, if_neg Bool.false_ne_true, if_neg (by rw [h.page_eq]; omega),
      h.page_eq, hfetch]
    simp only [receive, Option.getD_some, List.length_map]
  have hwalk : (out ++ data).map key = OffsetPaging.walk it.limit lists (it.fetches + 1) := by
    rw [OffsetPaging.walk_succ, List.map_append, hout, hdata]
  cases data with
  | nil =>
    left
    refine ⟨_, hturn.trans (if_pos rfl), it.fetches, ?_, .inl ?_⟩
    · rw [← hwalk, List.append_nil]
    · have hshort := mt (OffsetPaging.page_ne_nil_iff it.limit_pos it.fetches
        (lists it.fetches)).mpr (not_not.mpr hdata.symm)
      rw [Nat.add_mul]
      omega
  | cons item rest =>
    right
    refine ⟨_, item, rest, hturn.trans (if_neg (Nat.succ_ne_zero _)), ?_, rfl, hwalk, rfl, rfl⟩
    exact ⟨congrArg (· + 1) h.page_eq, h.running, rfl, item :: rest, rfl, hwalk⟩

/-- One more item, whether it comes with another page or not, or else the end. -/
theorem next (hserves : ServesEach key lists it.limit fetcher) (h : ReadingEach key lists it out) :
    (∃ it' item, it.next fetcher false = (it', .item item) ∧
        ReadingEach key lists it' (out ++ [item]) ∧ it'.maxPages = it.maxPages ∧
        it'.limit = it.limit) ∨
      ∃ it', it.next fetcher false = (it', .done) ∧ Ended key lists it out := by
  obtain ⟨rest, hrest, hout⟩ := h.position
  cases rest with
  | cons item rest =>
    obtain ⟨hinside, it', htake, hreading, hmax, hlimit⟩ := h.takeItem (ε := ε) hrest hout
    refine .inl ⟨it', item, ?_, hreading, hmax, hlimit⟩
    rw [PaginatedIterator.next, if_neg Bool.false_ne_true, if_neg (Nat.not_le.mpr hinside), htake]
  | nil =>
    have hoffset : it.offset ≥ it.currentPage.length := List.drop_eq_nil_iff.mp hrest
    rw [List.append_nil] at hout
    rcases h.turnPage hserves hout with ⟨it', hturn, hended⟩ |
      ⟨turned, item, rest, hturn, hreading, hdrop, hfull, hmax, hlimit⟩
    · refine .inr ⟨it', ?_, hended⟩
      rw [PaginatedIterator.next, if_neg Bool.false_ne_true, if_pos hoffset, hturn]
    · obtain ⟨-, it', htake, hreading', hmax', hlimit'⟩ := hreading.takeItem (ε := ε) hdrop hfull
      refine .inl ⟨it', item, ?_, hreading', hmax'.trans hmax, hlimit'.trans hlimit⟩
      rw [PaginatedIterator.next, if_neg Bool.false_ne_true, if_pos hoffset, hturn]
      exact htake

theorem toArray (hserves : ServesEach key lists it.limit fetcher) (h : ReadingEach key lists it out)
    {fuel : Nat} {ended : PaginatedIterator T} {result : Except ε (List T)}
    (hended : it.toArray fetcher (fun _ => false) fuel out = (ended, some result)) :
    ∃ all, result = .ok all ∧ Ended key lists it all := by
  induction fuel generalizing it out with
  | zero => cases hended
  | succ fuel ih =>
    rcases h.next hserves with ⟨it', item, hnext, hreading, hmax, hlimit⟩ | ⟨it', hnext, hend⟩
    · rw [toArray_item hnext] at hended
      obtain ⟨all, hall, count, hwalk, hreach⟩ := ih (hlimit ▸ hserves) hreading hended
      rw [hlimit] at hwalk hreach
      rw [hmax] at hreach
      exact ⟨all, hall, count, hwalk, hreach⟩
    · rw [PaginatedIterator.toArray, hnext] at hended
      cases hended
      exact ⟨out, rfl, hend⟩

end ReadingEach

/-- From page 1 the iteration ends, and has walked over the lists that its fetches found. -/
theorem toArray_walks (options : PaginateAllOptions) (hstart : (new T options).page = 1)
    (hserves : ServesEach key lists (new T options).limit fetcher) :
    ∃ enough, ∀ fuel ≥ enough, ∃ ended all,
      (new T options).toArray fetcher (fun _ => false) fuel [] = (ended, some (.ok all)) ∧
        Ended key lists (new T options) all := by
  obtain ⟨enough, hall⟩ := toArray_ends fetcher (fun _ => false) _ [] (within_new hstart)
  refine ⟨enough, fun fuel hfuel => ?_⟩
  obtain ⟨ended, result, hended, -⟩ := hall fuel hfuel
  obtain ⟨all, rfl, hend⟩ := (readingEach_new hstart key lists).toArray hserves hended
  exact ⟨ended, all, hended, hend⟩

end PaginatedIterator
end Sdk
end XStreamRoll
