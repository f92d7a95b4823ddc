/-
Runs seen through a function, and runs that simulate one another.

When one step commutes with a function of the states and a function of the actions, whole
runs do.  Two histories that the functions do not tell apart then end in states that they do
not tell apart either: what the functions forget has no influence on what they keep.

Where the two systems agree only in states that are related, a step of one is matched by a
step of the other that keeps them related, and so is a run.
-/
import XStreamRoll.Transition

namespace XStreamRoll
namespace Transition

variable {σ σ' α α' : Type*} {step : σ → α → Option σ} {step' : σ' → α' → Option σ'}
  {f : σ → σ'} {g : α → α'}

theorem run_image (commutes : ∀ s a, step' (f s) (g a) = (step s a).map f) (s : σ) (as : List α) :
    run step' (f s) (as.map g) = (run step s as).map f := by
  induction as generalizing s with
  | nil => rfl
  | cons a as ih =>
    rw [List.map_cons, run, run, commutes]
    cases step s a with
    | none => rfl
    | some t => exact ih t

/-- Either both histories can happen or neither, and then their ends look the same. -/
theorem run_indistinguishable (commutes : ∀ s a, step' (f s) (g a) = (step s a).map f)
    {s₁ s₂ : σ} {as₁ as₂ : List α} (states : f s₁ = f s₂) (actions : as₁.map g = as₂.map g) :
    (run step s₁ as₁).map f = (run step s₂ as₂).map f := by
  rw [← run_image commutes, ← run_image commutes, states, actions]

theorem run_ends_indistinguishable (commutes : ∀ s a, step' (f s) (g a) = (step s a).map f)
    {s₁ s₂ t₁ t₂ : σ} {as₁ as₂ : List α} (states : f s₁ = f s₂)
    (actions : as₁.map g = as₂.map g) (h₁ : run step s₁ as₁ = some t₁)
    (h₂ : run step s₂ as₂ = some t₂) : f t₁ = f t₂ := by
  have same := run_indistinguishable commutes states actions
  rw [h₁, h₂] at same
  exact Option.some.inj same

/-- A run whose steps all satisfy `P` is matched, when every such step is. -/
theorem AllSteps.simulates {P : σ → α → σ → Prop} {R : σ → σ' → Prop}
    (hstep : ∀ s s' a t, R s s' → P s a t → step s a = some t →
      ∃ t', step' s' (g a) = some t' ∧ R t t')
    {s t : σ} {s' : σ'} {as : List α} (hs : R s s') (hP : AllSteps step P s as)
    (h : run step s as = some t) : ∃ t', run step' s' (as.map g) = some t' ∧ R t t' := by
  induction as generalizing s s' with
  | nil =>
    rw [run_nil, Option.some.injEq] at h
    exact ⟨s', rfl, h ▸ hs⟩
  | cons a as ih =>
    obtain ⟨r, hr, hrt⟩ := run_cons_eq_some.mp h
    obtain ⟨hPa, hrest⟩ := hP r hr
    obtain ⟨r', hr', hrr'⟩ := hstep s s' a r hs hPa hr
    obtain ⟨t', ht', htt'⟩ := ih hrr' hrest hrt
    exact ⟨t', run_cons_eq_some.mpr ⟨r', hr', ht'⟩, htt'⟩

end Transition
end XStreamRoll
