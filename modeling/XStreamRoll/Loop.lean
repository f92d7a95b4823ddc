/-
Loops that end with the first element that throws.

`for (const x of xs) await f(x)` gives every element its round up to the first one for which
`f` throws.  That one had its round too, and those behind it had none.
-/
import Mathlib.Data.List.Basic

namespace XStreamRoll
namespace Loop

variable {α : Type*} {throws : α → Bool}

/-- The elements that have their round. -/
def through (throws : α → Bool) : List α → List α
  | [] => []
  | a :: rest => a :: if throws a then [] else through throws rest

theorem filter_through (l : List α) :
    (through throws l).filter (fun a => !throws a) = l.takeWhile fun a => !throws a := by
  induction l with
  | nil => rfl
  | cons a rest ih =>
    rw [through, List.filter_cons, List.takeWhile_cons]
    cases throws a with
    | true => rfl
    | false => exact congrArg (a :: ·) ih

/-- Nothing is left out exactly when all that throw are at the end. -/
theorem takeWhile_eq_filter_iff {l : List α} :
    (l.takeWhile fun a => !throws a) = l.filter (fun a => !throws a) ↔
      l.Pairwise fun a b => throws a = true → throws b = true := by
  induction l with
  | nil => simp
  | cons a rest ih =>
    rw [List.pairwise_cons, List.takeWhile_cons, List.filter_cons]
    cases thrown : throws a with
    | false =>
      simp only [Bool.not_false, if_true, List.cons.injEq, true_and, ih, Bool.false_eq_true,
        false_implies, implies_true]
    | true =>
      simp only [Bool.not_true, Bool.false_eq_true, if_false, true_implies]
      rw [eq_comm, List.filter_eq_nil_iff]
      constructor
      · intro all
        have rest_throws : ∀ b ∈ rest, throws b = true := fun b hb => by simpa using all b hb
        exact ⟨rest_throws, List.pairwise_of_forall_mem_list fun _ _ b hb _ => rest_throws b hb⟩
      · intro all b hb
        simp [all.1 b hb]

theorem mem_of_mem_through {a : α} {l : List α} (h : a ∈ through throws l) : a ∈ l := by
  induction l with
  | nil => exact h
  | cons b rest ih =>
    rcases List.mem_cons.mp h with rfl | later
    · exact List.mem_cons_self
    · split at later
      · cases later
      · exact List.mem_cons_of_mem b (ih later)

theorem exists_mem_through (throws : α → Bool) {l : List α} (h : l ≠ []) :
    ∃ a, a ∈ through throws l := by
  cases l with
  | nil => exact absurd rfl h
  | cons a rest => exact ⟨a, List.mem_cons_self⟩

/-- The first elements hold one that is wanted exactly when the others before it are fewer. -/
theorem exists_mem_take_iff {wanted : α → Bool} {l : List α} {n : Nat}
    (h : ∃ a ∈ l, wanted a = true) :
    (∃ a ∈ l.take n, wanted a = true) ↔ (l.takeWhile fun a => !wanted a).length < n := by
  induction l generalizing n with
  | nil => simp at h
  | cons a rest ih =>
    cases n with
    | zero => simp
    | succ n =>
      rw [List.take_succ_cons, List.exists_mem_cons_iff, List.takeWhile_cons]
      cases first : wanted a with
      | true => simp
      | false =>
        rw [List.exists_mem_cons_iff, first] at h
        have later : ∃ b ∈ rest, wanted b = true := h.resolve_left Bool.false_ne_true
        simpa using ih later

end Loop
end XStreamRoll
