/-
Offset pagination over a collection that does not change.

Every page is a query of its own, and each query may return rows of equal key in any
order.  The pages partition the rows whatever the queries choose exactly when the key
falls wherever one page ends and the next begins.
-/
import Mathlib.Data.List.Sort
import Mathlib.Data.List.Nodup

namespace XStreamRoll
namespace OffsetPaging

variable {α κ : Type*}

/-- The page at an index that counts from zero. -/
def page (limit index : Nat) (l : List α) : List α := (l.drop (index * limit)).take limit

/-- How many pages the rows fill. -/
def pages (limit total : Nat) : Nat := (total + limit - 1) / limit

/-- The first pages, each from its own order of the rows. -/
def walk (limit : Nat) (order : Nat → List α) (count : Nat) : List α :=
  (List.range count).flatMap fun index => page limit index (order index)

theorem walk_succ (limit : Nat) (order : Nat → List α) (count : Nat) :
    walk limit order (count + 1) = walk limit order count ++ page limit count (order count) := by
  rw [walk, List.range_succ, List.flatMap_append, List.flatMap_singleton, walk]

theorem take_append_page (limit index : Nat) (l : List α) :
    l.take (index * limit) ++ page limit index l = l.take ((index + 1) * limit) := by
  rw [page, Nat.add_mul, Nat.one_mul, List.take_add]

/-- The pages behind those that are left out. -/
theorem page_drop (limit skipped index : Nat) (l : List α) :
    page limit index (l.drop (skipped * limit)) = page limit (skipped + index) l := by
  rw [page, page, List.drop_drop, Nat.add_mul]

theorem length_page (limit index : Nat) (l : List α) :
    (page limit index l).length = min limit (l.length - index * limit) := by
  rw [page, List.length_take, List.length_drop]

theorem page_ne_nil_iff {limit : Nat} (hpos : 0 < limit) (index : Nat) (l : List α) :
    page limit index l ≠ [] ↔ index * limit < l.length := by
  rw [← List.length_pos_iff, length_page]
  omega

theorem getElem?_page {limit i : Nat} (hi : i < limit) (index : Nat) (l : List α) :
    (page limit index l)[i]? = l[index * limit + i]? := by
  rw [page, List.getElem?_take_of_lt hi, List.getElem?_drop]

theorem mem_of_mem_page {limit index : Nat} {l : List α} {a : α} (ha : a ∈ page limit index l) :
    a ∈ l :=
  List.mem_of_mem_drop (List.mem_of_mem_take ha)

/-- The first page has everything, if there is room. -/
theorem page_of_length_le {limit : Nat} {l : List α} (room : l.length ≤ limit) :
    page limit (1 - 1) l = l := by
  rw [page, Nat.sub_self, Nat.zero_mul, List.drop_zero, List.take_of_length_le room]

/-- The pages reach the end of the rows. -/
theorem le_pages_mul {limit : Nat} (hpos : 0 < limit) (total : Nat) :
    total ≤ pages limit total * limit := by
  have hdiv := Nat.div_add_mod (total + limit - 1) limit
  have hmod := Nat.mod_lt (total + limit - 1) hpos
  rw [pages, Nat.mul_comm]
  omega

theorem lt_pages {limit index total : Nat} (hpos : 0 < limit) (h : index * limit < total) :
    index < pages limit total := by
  have hreach := le_pages_mul hpos total
  by_contra hge
  have hmul := Nat.mul_le_mul_right limit (Nat.not_lt.mp hge)
  omega

/-- As many pages as reach the end of the rows are all of them. -/
theorem pages_le {limit index total : Nat} (hpos : 0 < limit) (h : total ≤ index * limit) :
    pages limit total ≤ index := by
  rw [pages, ← Nat.lt_succ_iff, Nat.div_lt_iff_lt_mul hpos, Nat.succ_mul]
  omega

section Order

variable [LinearOrder κ] (key : α → κ)

/-- A list in which the rows may come, the highest key first. -/
def Ordered (rows ordered : List α) : Prop :=
  ordered.Perm rows ∧ ordered.Pairwise fun a b => key b ≤ key a

/-- The keys of the rows, the highest first. -/
def keys (rows : List α) : List κ := (rows.map key).insertionSort (· ≥ ·)

/-- The key falls where one page ends and the next begins. -/
def FallsAtBorders (limit : Nat) (ks : List κ) : Prop :=
  ∀ index k k', ks[(index + 1) * limit - 1]? = some k → ks[(index + 1) * limit]? = some k' →
    k' < k

/-- Keys that are all different fall everywhere. -/
theorem fallsAtBorders_of_pairwise {limit : Nat} {ks : List κ} (hpos : 0 < limit)
    (h : ks.Pairwise (· > ·)) : FallsAtBorders limit ks := by
  intro index k k' hk hk'
  obtain ⟨hi, rfl⟩ := List.getElem?_eq_some_iff.mp hk
  obtain ⟨hi', rfl⟩ := List.getElem?_eq_some_iff.mp hk'
  have hfull : limit ≤ (index + 1) * limit := Nat.le_mul_of_pos_left limit (Nat.succ_pos index)
  exact List.pairwise_iff_getElem.mp h _ _ hi hi' (by omega)

variable {key}

theorem ordered_insertionSort (rows : List α) :
    Ordered key rows (rows.insertionSort fun a b => key b ≤ key a) := by
  have : Std.Total fun a b : α => key b ≤ key a := ⟨fun a b => le_total (key b) (key a)⟩
  have : IsTrans α fun a b => key b ≤ key a := ⟨fun a b c hab hbc => le_trans hbc hab⟩
  exact ⟨List.perm_insertionSort _ _, List.pairwise_insertionSort _ _⟩

/-- Whatever the order of the rows, that of their keys is fixed. -/
theorem Ordered.map_key {rows ordered : List α} (h : Ordered key rows ordered) :
    ordered.map key = keys key rows := by
  obtain ⟨hperm, hsorted⟩ := h
  have hkeys : (ordered.map key).Perm (keys key rows) :=
    (hperm.map key).trans (List.perm_insertionSort _ _).symm
  have hleft : (ordered.map key).Pairwise (· ≥ ·) := List.pairwise_map.mpr hsorted
  have hright : (keys key rows).Pairwise (· ≥ ·) := List.pairwise_insertionSort _ _
  exact hkeys.eq_of_pairwise (fun a b _ _ hab hba => le_antisymm hba hab) hleft hright

/-- Keys that are all different leave no choice. -/
theorem Ordered.unique {rows ordered ordered' : List α} (h : Ordered key rows ordered)
    (h' : Ordered key rows ordered') (hkeys : (rows.map key).Nodup) : ordered = ordered' := by
  have hstrict : ∀ l, Ordered key rows l → l.Pairwise fun a b => key b < key a := by
    rintro l ⟨hperm, hsorted⟩
    have hnodup : (l.map key).Nodup := (hperm.map key).nodup_iff.mpr hkeys
    refine (hsorted.and (List.pairwise_map.mp hnodup)).imp ?_
    rintro a b ⟨hle, hne⟩
    exact lt_of_le_of_ne hle hne.symm
  exact (h.1.trans h'.1.symm).eq_of_pairwise (fun a b _ _ hab hba => absurd hab (lt_asymm hba))
    (hstrict ordered h) (hstrict ordered' h')

theorem Ordered.length_eq {rows ordered : List α} (h : Ordered key rows ordered) :
    ordered.length = rows.length :=
  h.1.length_eq

theorem keys_sorted (rows : List α) : (keys key rows).Pairwise (· ≥ ·) :=
  List.pairwise_insertionSort _ _

/-! ## A border where the key falls -/

/-- Two lists of the same rows with the same keys have the same rows before a point where
the key falls below `v`. -/
theorem take_perm_of_falls {l l' : List α} {n : Nat} {v : κ} (hperm : l.Perm l')
    (hkeys : l.map key = l'.map key) (hbefore : ∀ k ∈ (l.map key).take n, v ≤ k)
    (hafter : ∀ k ∈ (l.map key).drop n, k < v) : (l.take n).Perm (l'.take n) := by
  have hfilter : ∀ m : List α, m.map key = l.map key →
      m.filter (fun x => decide (v ≤ key x)) = m.take n := by
    intro m hm
    have htake : ∀ x ∈ m.take n, v ≤ key x := by
      intro x hx
      apply hbefore
      rw [← hm, ← List.map_take]
      exact List.mem_map_of_mem hx
    have hdrop : ∀ x ∈ m.drop n, ¬v ≤ key x := by
      intro x hx
      apply not_le_of_gt
      apply hafter
      rw [← hm, ← List.map_drop]
      exact List.mem_map_of_mem hx
    conv_lhs => rw [← List.take_append_drop n m]
    rw [List.filter_append, List.filter_eq_self.mpr fun x hx => decide_eq_true (htake x hx),
      List.filter_eq_nil_iff.mpr fun x hx => by simpa using hdrop x hx, List.append_nil]
  rw [← hfilter l rfl, ← hfilter l' hkeys.symm]
  exact hperm.filter _

/-- Up to a border where the key falls, every order has the same rows. -/
theorem take_perm {rows l l' : List α} {limit : Nat} (hpos : 0 < limit)
    (hl : Ordered key rows l) (hl' : Ordered key rows l')
    (hfalls : FallsAtBorders limit (keys key rows)) (index : Nat) :
    (l.take (index * limit)).Perm (l'.take (index * limit)) := by
  have hperm : l.Perm l' := hl.1.trans hl'.1.symm
  have hkeys : l.map key = l'.map key := hl.map_key.trans hl'.map_key.symm
  cases index with
  | zero => simp
  | succ index =>
    by_cases hend : l.length ≤ (index + 1) * limit
    · have hend' : l'.length ≤ (index + 1) * limit := by
        rw [hl'.length_eq, ← hl.length_eq]
        exact hend
      rw [List.take_of_length_le hend, List.take_of_length_le hend']
      exact hperm
    · -- The last key before the border bounds those before it and not those after it.
      have hfull : limit ≤ (index + 1) * limit := Nat.le_mul_of_pos_left limit (Nat.succ_pos index)
      have hlength : (keys key rows).length = l.length := by
        rw [← hl.map_key, List.length_map]
      have hlast : (index + 1) * limit - 1 < (keys key rows).length := by omega
      have hnext : (index + 1) * limit < (keys key rows).length := by omega
      have hfall := hfalls index _ _ (List.getElem?_eq_getElem hlast)
        (List.getElem?_eq_getElem hnext)
      have hsorted := List.pairwise_iff_getElem.mp (@keys_sorted _ _ _ key rows)
      apply take_perm_of_falls (v := (keys key rows)[(index + 1) * limit - 1]) hperm hkeys
      · intro k hk
        rw [hl.map_key] at hk
        obtain ⟨i, hi, rfl⟩ := List.mem_take_iff_getElem.mp hk
        rcases Nat.lt_or_eq_of_le (Nat.le_sub_one_of_lt (Nat.lt_of_lt_of_le hi (Nat.min_le_left ..)))
          with hlt | heq
        · exact hsorted i _ (by omega) hlast hlt
        · simp only [heq, le_refl]
      · intro k hk
        rw [hl.map_key] at hk
        obtain ⟨i, hi, rfl⟩ := List.mem_drop_iff_getElem.mp hk
        rcases Nat.eq_zero_or_pos i with rfl | hipos
        · simpa using hfall
        · exact lt_of_le_of_lt (hsorted _ _ hnext (by omega) (by omega)) hfall

/-- Where the key falls at every border, the first pages hold the first rows. -/
theorem walk_perm_take {rows l : List α} {limit : Nat} (hpos : 0 < limit)
    (hfalls : FallsAtBorders limit (keys key rows)) (hl : Ordered key rows l)
    {order : Nat → List α} (horder : ∀ index, Ordered key rows (order index)) (count : Nat) :
    (walk limit order count).Perm (l.take (count * limit)) := by
  induction count with
  | zero => simp [walk]
  | succ count ih =>
    have hstart := take_perm hpos hl (horder count) hfalls count
    have hstop := take_perm hpos (horder count) hl hfalls (count + 1)
    have hpages : (walk limit order (count + 1)).Perm
        ((order count).take ((count + 1) * limit)) := by
      rw [walk_succ, ← take_append_page]
      exact (ih.trans hstart).append_right _
    exact hpages.trans hstop

/-! ## A border where the key stays -/

/-- Neighbours of equal key may change places. -/
theorem Ordered.swap {rows before after : List α} {a b : α}
    (h : Ordered key rows (before ++ a :: b :: after)) (hkey : key a = key b) :
    Ordered key rows (before ++ b :: a :: after) := by
  obtain ⟨hperm, hsorted⟩ := h
  refine ⟨((List.Perm.swap a b after).append_left before).trans hperm, ?_⟩
  obtain ⟨hbefore, hrest, hcross⟩ := List.pairwise_append.mp hsorted
  obtain ⟨ha, hb⟩ := List.pairwise_cons.mp hrest
  obtain ⟨hbafter, hafter⟩ := List.pairwise_cons.mp hb
  refine List.pairwise_append.mpr ⟨hbefore, ?_, ?_⟩
  · refine List.pairwise_cons.mpr ⟨?_, List.pairwise_cons.mpr ⟨?_, hafter⟩⟩
    · intro x hx
      rcases List.mem_cons.mp hx with rfl | hx
      · exact le_of_eq hkey
      · exact hbafter x hx
    · exact fun x hx => ha x (List.mem_cons_of_mem b hx)
  · intro x hx y hy
    apply hcross x hx y
    simp only [List.mem_cons] at hy ⊢
    exact or_left_comm.mp hy

/-- Where the key stays at a border, two queries may put one row on both sides of it. -/
theorem exists_repeated {rows : List α} {limit : Nat} (hpos : 0 < limit)
    (hfalls : ¬FallsAtBorders limit (keys key rows)) :
    ∃ order : Nat → List α, (∀ index, Ordered key rows (order index)) ∧
      ∃ index a, (index + 1) * limit < rows.length ∧ a ∈ page limit index (order index) ∧
        a ∈ page limit (index + 1) (order (index + 1)) := by
  simp only [FallsAtBorders, not_forall] at hfalls
  obtain ⟨index, k, k', hk, hk', hstays⟩ := hfalls
  let l := rows.insertionSort fun a b => key b ≤ key a
  have hl : Ordered key rows l := ordered_insertionSort rows
  have hfull : limit ≤ (index + 1) * limit := Nat.le_mul_of_pos_left limit (Nat.succ_pos index)
  rw [← hl.map_key, List.getElem?_map, Option.map_eq_some_iff] at hk hk'
  obtain ⟨a, ha, rfl⟩ := hk
  obtain ⟨b, hb, rfl⟩ := hk'
  obtain ⟨hi, rfl⟩ := List.getElem?_eq_some_iff.mp ha
  obtain ⟨hi', rfl⟩ := List.getElem?_eq_some_iff.mp hb
  let n := (index + 1) * limit - 1
  have hn : n + 1 = (index + 1) * limit := by omega
  -- The two rows stand next to each other, with equal keys.
  have hsplit : l = l.take n ++ l[n] :: l[n + 1] :: l.drop (n + 2) := by
    rw [List.getElem_cons_drop, List.getElem_cons_drop, List.take_append_drop]
  have hkey : key l[n] = key l[n + 1] := by
    have hle := List.pairwise_iff_getElem.mp hl.2 n (n + 1) hi (by omega) (Nat.lt_succ_self n)
    have hge := not_lt.mp hstays
    simp only [← hn] at hge
    exact le_antisymm hge hle
  let swapped := l.take n ++ l[n + 1] :: l[n] :: l.drop (n + 2)
  have hswapped : Ordered key rows swapped := (hsplit ▸ hl : Ordered key rows _).swap hkey
  have hplace : swapped[(index + 1) * limit]? = some l[n] := by
    have hlength : (l.take n).length = n := List.length_take_of_le (Nat.le_of_lt hi)
    rw [← hn, List.getElem?_append_right (by omega), hlength, Nat.add_sub_cancel_left]
    rfl
  refine ⟨fun i => if i = index + 1 then swapped else l, ?_, index, l[n], ?_, ?_, ?_⟩
  · intro i
    by_cases h : i = index + 1
    · simp only [h, if_true]
      exact hswapped
    · simp only [h, if_false]
      exact hl
  · rw [← hl.length_eq]
    exact hi'
  · have hother : ¬index = index + 1 := by omega
    simp only [hother, if_false]
    apply List.mem_of_getElem? (i := limit - 1)
    rw [getElem?_page (by omega), List.getElem?_eq_some_iff]
    have hindex : index * limit + (limit - 1) = n := by
      rw [Nat.add_mul, Nat.one_mul] at hn
      omega
    exact ⟨hindex ▸ hi, by simp only [hindex]⟩
  · simp only [if_true]
    apply List.mem_of_getElem? (i := 0)
    rw [getElem?_page hpos]
    exact hplace

/-! ## The partition -/

/-- Where the key falls at every border, the pages hold every row once. -/
theorem walk_perm {rows : List α} {limit : Nat} (hpos : 0 < limit)
    (hfalls : FallsAtBorders limit (keys key rows)) {order : Nat → List α}
    (horder : ∀ index, Ordered key rows (order index)) :
    (walk limit order (pages limit rows.length)).Perm rows := by
  have hreach := le_pages_mul hpos rows.length
  have hwalk := walk_perm_take hpos hfalls (ordered_insertionSort rows) horder
    (pages limit rows.length)
  rw [List.take_of_length_le (by rw [(ordered_insertionSort rows).length_eq]; exact hreach)]
    at hwalk
  exact hwalk.trans (ordered_insertionSort rows).1

/-- Pages that never repeat a row come from a key that falls at every border. -/
theorem fallsAtBorders_of_nodup {rows : List α} {limit : Nat} (hpos : 0 < limit)
    (hall : ∀ order : Nat → List α, (∀ index, Ordered key rows (order index)) →
      (walk limit order (pages limit rows.length)).Nodup) :
    FallsAtBorders limit (keys key rows) := by
  by_contra hfalls
  obtain ⟨order, horder, index, a, hinside, hleft, hright⟩ := exists_repeated hpos hfalls
  have hdisjoint := List.pairwise_iff_getElem.mp (List.nodup_flatMap.mp (hall order horder)).2
    index (index + 1)
  have hlt := lt_pages hpos hinside
  have hboth := hdisjoint (by rw [List.length_range]; omega) (by rw [List.length_range]; omega)
    (Nat.lt_succ_self index)
  simp only [List.getElem_range] at hboth
  exact hboth hleft hright

end Order

end OffsetPaging
end XStreamRoll
