/-
Elements counted by the interval that they fall into.

The intervals are half open, and each begins where the one before ends.  What they count
together is what lies between the first border and the last.
-/
import Mathlib.Algebra.Order.Ring.Nat
import Mathlib.Order.Lattice

namespace XStreamRoll

variable {α τ : Type*} [LinearOrder τ]

/-- From the first border, and before the second. -/
def within (first last : τ) (t : τ) : Bool := decide (first ≤ t) && decide (t < last)

theorem within_iff {first last t : τ} : within first last t = true ↔ first ≤ t ∧ t < last := by
  simp [within]

variable {f : α → τ} {l : List α} {border : Nat → τ}

theorem border_mono (increasing : ∀ i, border i ≤ border (i + 1)) {i j : Nat} (h : i ≤ j) :
    border i ≤ border j := by
  induction h with
  | refl => exact le_refl _
  | step _ ih => exact le_trans ih (increasing _)

theorem countP_within_add {first middle last : τ} (before : first ≤ middle)
    (after : middle ≤ last) :
    l.countP (fun x => within first middle (f x)) + l.countP (fun x => within middle last (f x)) =
      l.countP fun x => within first last (f x) := by
  induction l with
  | nil => rfl
  | cons x l ih =>
    have here : (if within first middle (f x) = true then 1 else 0) +
        (if within middle last (f x) = true then 1 else 0) =
          if within first last (f x) = true then 1 else 0 := by
      simp only [within_iff]
      rcases lt_or_ge (f x) middle with early | late
      · simp [early, not_le_of_gt early, lt_of_lt_of_le early after]
      · simp [late, not_lt_of_ge late, le_trans before late]
    simp only [List.countP_cons]
    omega

/-- The counts of the intervals add up. -/
theorem sum_countP_within (increasing : ∀ i, border i ≤ border (i + 1)) (n : Nat) :
    ((List.range n).map fun i => l.countP fun x => within (border i) (border (i + 1)) (f x)).sum =
      l.countP fun x => within (border 0) (border n) (f x) := by
  induction n with
  | zero =>
    have nothing : ∀ x ∈ l, ¬within (border 0) (border 0) (f x) = true := by
      intro x _ inside
      obtain ⟨first, last⟩ := within_iff.mp inside
      exact absurd last (not_lt_of_ge first)
    exact (List.countP_eq_zero.mpr nothing).symm
  | succ n ih =>
    rw [List.range_succ, List.map_append, List.sum_append, ih, List.map_singleton,
      List.sum_singleton]
    exact countP_within_add (border_mono increasing (Nat.zero_le n)) (increasing n)

end XStreamRoll
