/-
Lists as heaps.

A reference is an index.  `l ++ [x]` allocates `x` at `l.length`, and `l.set i x`
writes through the reference `i`.  Nothing is freed, so a reference stays valid.
-/
import Mathlib.Data.List.Basic

namespace XStreamRoll
namespace Heap

variable {α : Type*}

theorem getElem?_alloc {l : List α} {x y : α} {i : Nat} :
    (l ++ [x])[i]? = some y ↔ l[i]? = some y ∨ i = l.length ∧ x = y := by
  rw [List.getElem?_append]
  rcases Nat.lt_trichotomy i l.length with hlt | heq | hgt
  · rw [if_pos hlt]
    constructor
    · exact .inl
    · rintro (h | ⟨h, -⟩)
      · exact h
      · omega
  · subst heq
    rw [if_neg (Nat.lt_irrefl _), Nat.sub_self, List.getElem?_eq_none (Nat.le_refl _)]
    simp
  · have hout : [x].length ≤ i - l.length := by
      rw [List.length_singleton]
      omega
    rw [if_neg (by omega), List.getElem?_eq_none hout, List.getElem?_eq_none (by omega)]
    constructor
    · intro h
      cases h
    · rintro (h | ⟨h, -⟩)
      · cases h
      · omega

theorem getElem?_alloc_of_some {l : List α} {x y : α} {i : Nat} (h : l[i]? = some y) :
    (l ++ [x])[i]? = some y :=
  getElem?_alloc.mpr (.inl h)

theorem getElem?_alloc_self (l : List α) (x : α) : (l ++ [x])[l.length]? = some x :=
  getElem?_alloc.mpr (.inr ⟨rfl, rfl⟩)

theorem lt_of_getElem?_eq_some {l : List α} {y : α} {i : Nat} (h : l[i]? = some y) :
    i < l.length := by
  rw [List.getElem?_eq_some_iff] at h
  exact h.1

theorem getElem?_write {l : List α} {i : Nat} (hi : i < l.length) {x y : α} {j : Nat} :
    (l.set i x)[j]? = some y ↔ j = i ∧ x = y ∨ j ≠ i ∧ l[j]? = some y := by
  rw [List.getElem?_set]
  by_cases h : i = j
  · subst h
    simp [hi]
  · rw [if_neg h]
    constructor
    · exact fun hy => .inr ⟨fun e => h e.symm, hy⟩
    · rintro (⟨e, -⟩ | ⟨-, hy⟩)
      · exact absurd e.symm h
      · exact hy

theorem getElem?_write_self {l : List α} {i : Nat} (hi : i < l.length) (x : α) :
    (l.set i x)[i]? = some x :=
  (getElem?_write hi).mpr (.inl ⟨rfl, rfl⟩)

theorem getElem?_write_ne {l : List α} {i j : Nat} (h : j ≠ i) (x : α) :
    (l.set i x)[j]? = l[j]? := by
  rw [List.getElem?_set, if_neg (fun e => h e.symm)]

theorem write_self {l : List α} {i : Nat} {x : α} (h : l[i]? = some x) : l.set i x = l := by
  apply List.ext_getElem?
  intro j
  by_cases hj : j = i
  · subst hj
    rw [getElem?_write_self (lt_of_getElem?_eq_some h), h]
  · rw [getElem?_write_ne hj]

end Heap
end XStreamRoll
