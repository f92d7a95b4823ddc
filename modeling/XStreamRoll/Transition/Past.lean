/-
What a run knows of its own past.

`run_invariant` carries a fact about a state.  Where something that a state holds was taken from
an earlier one, the fact is about the actions so far as well, and the rule here carries it.
-/
import Mathlib.Data.List.Induction
import XStreamRoll.Transition

namespace XStreamRoll
namespace Transition

variable {σ α : Type*} {step : σ → α → Option σ}

/-- A fact about the actions so far and the state they lead to. -/
theorem run_history {I : List α → σ → Prop} {s : σ} (hinit : I [] s)
    (hstep : ∀ as t a u, run step s as = some t → I as t → step t a = some u → I (as ++ [a]) u)
    {t : σ} {as : List α} (hrun : run step s as = some t) : I as t := by
  induction as using List.reverseRecOn generalizing t with
  | nil =>
    rw [run_nil, Option.some.injEq] at hrun
    exact hrun ▸ hinit
  | append_singleton as a ih =>
    obtain ⟨r, hr, hlast⟩ := run_append_eq_some.mp hrun
    rw [run_singleton] at hlast
    exact hstep as r a t hr (ih hr) hlast

/-- There was a state of which it is true. -/
def Once (step : σ → α → Option σ) (P : σ → Prop) (s : σ) (as : List α) : Prop :=
  ∃ before after r, as = before ++ after ∧ run step s before = some r ∧ P r

variable {P : σ → Prop} {s t : σ} {as : List α}

theorem Once.now (hrun : run step s as = some t) (h : P t) : Once step P s as :=
  ⟨as, [], t, (List.append_nil as).symm, hrun, h⟩

/-- The past stays what it was. -/
theorem Once.append (h : Once step P s as) (bs : List α) : Once step P s (as ++ bs) := by
  obtain ⟨before, after, r, rfl, hrun, hP⟩ := h
  exact ⟨before, after ++ bs, r, List.append_assoc before after bs, hrun, hP⟩

/-- There was a step of which it is true, by the state before it and its action. -/
def OnceAt (step : σ → α → Option σ) (P : σ → α → Prop) (s : σ) (as : List α) : Prop :=
  ∃ before a after r, as = before ++ a :: after ∧ run step s before = some r ∧ P r a

theorem OnceAt.last {P : σ → α → Prop} {a : α} (hrun : run step s as = some t) (h : P t a) :
    OnceAt step P s (as ++ [a]) :=
  ⟨as, a, [], t, rfl, hrun, h⟩

theorem OnceAt.append {P : σ → α → Prop} (h : OnceAt step P s as) (bs : List α) :
    OnceAt step P s (as ++ bs) := by
  obtain ⟨before, a, after, r, rfl, hrun, hP⟩ := h
  refine ⟨before, a, after ++ bs, r, ?_, hrun, hP⟩
  rw [List.append_assoc, List.cons_append]

end Transition
end XStreamRoll
