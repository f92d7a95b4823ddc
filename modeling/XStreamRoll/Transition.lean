/-
Partial step functions, their finite runs, and the rules that carry a fact
along a run.

A system is a function `step : σ → α → Option σ`.  `step s a` is the state after
action `a`, and `none` says that `a` cannot happen in `s`.  Whatever an
environment decides (an outcome, an interleaving, a fresh name) is part of the
action, so a list of actions is one history and `run` replays it.

Every rule below is an induction over that list, made once.  A safety proof
then consists of a fact about the initial state and a fact about one step.
-/
import Mathlib.Data.List.Basic

namespace XStreamRoll
namespace Transition

variable {σ α : Type*} {step : σ → α → Option σ}

/-- Replay a history.  The result is `none` when some action of it cannot
happen where it stands. -/
def run (step : σ → α → Option σ) : σ → List α → Option σ
  | s, [] => some s
  | s, a :: as => (step s a).bind fun t => run step t as

@[simp] theorem run_nil (s : σ) : run step s [] = some s := rfl

theorem run_cons_eq_some {s t : σ} {a : α} {as : List α} :
    run step s (a :: as) = some t ↔ ∃ r, step s a = some r ∧ run step r as = some t := by
  simp [run, Option.bind_eq_some_iff]

theorem run_append (s : σ) (as bs : List α) :
    run step s (as ++ bs) = (run step s as).bind fun t => run step t bs := by
  induction as generalizing s with
  | nil => rfl
  | cons a as ih =>
    rw [List.cons_append, run, run]
    cases step s a with
    | none => rfl
    | some t => exact ih t

theorem run_append_eq_some {s t : σ} {as bs : List α} :
    run step s (as ++ bs) = some t ↔
      ∃ r, run step s as = some r ∧ run step r bs = some t := by
  rw [run_append, Option.bind_eq_some_iff]

theorem run_singleton (s : σ) (a : α) : run step s [a] = step s a := by
  rw [run]
  cases step s a <;> rfl

/-- `t` is the state after some history from `s`. -/
def Reachable (step : σ → α → Option σ) (s t : σ) : Prop :=
  ∃ as, run step s as = some t

theorem Reachable.refl (s : σ) : Reachable step s s := ⟨[], rfl⟩

theorem Reachable.of_step {s t : σ} {a : α} (h : step s a = some t) : Reachable step s t :=
  ⟨[a], by rw [run_singleton, h]⟩

theorem Reachable.trans {r s t : σ} (hrs : Reachable step r s) (hst : Reachable step s t) :
    Reachable step r t := by
  obtain ⟨as, has⟩ := hrs
  obtain ⟨bs, hbs⟩ := hst
  exact ⟨as ++ bs, run_append_eq_some.mpr ⟨s, has, hbs⟩⟩

theorem Reachable.tail {r s t : σ} {a : α} (hrs : Reachable step r s) (h : step s a = some t) :
    Reachable step r t :=
  hrs.trans (.of_step h)

/-! ## Invariants -/

/-- A predicate preserved by every step whose action satisfies `K` is preserved by
every run of such actions. -/
theorem run_invariant_of {I : σ → Prop} {K : α → Prop}
    (hstep : ∀ s a t, I s → K a → step s a = some t → I t)
    {s t : σ} {as : List α} (hs : I s) (hok : ∀ a ∈ as, K a) (h : run step s as = some t) :
    I t := by
  induction as generalizing s with
  | nil =>
    rw [run_nil, Option.some.injEq] at h
    exact h ▸ hs
  | cons a as ih =>
    obtain ⟨r, hr, hrt⟩ := run_cons_eq_some.mp h
    exact ih (hstep s a r hs (hok a List.mem_cons_self) hr)
      (fun b hb => hok b (List.mem_cons_of_mem a hb)) hrt

/-- A predicate preserved by every step is preserved by every run. -/
theorem run_invariant {I : σ → Prop} (hstep : ∀ s a t, I s → step s a = some t → I t)
    {s t : σ} {as : List α} (hs : I s) (h : run step s as = some t) : I t :=
  run_invariant_of (K := fun _ => True) (fun s a t hI _ hst => hstep s a t hI hst) hs
    (fun _ _ => trivial) h

theorem Reachable.invariant {I : σ → Prop} (hstep : ∀ s a t, I s → step s a = some t → I t)
    {s t : σ} (hs : I s) (h : Reachable step s t) : I t := by
  obtain ⟨as, has⟩ := h
  exact run_invariant hstep hs has

/-- Every step of the history satisfies `P`, which sees the state before the
step, the action, and the state after it. -/
def AllSteps (step : σ → α → Option σ) (P : σ → α → σ → Prop) : σ → List α → Prop
  | _, [] => True
  | s, a :: as => ∀ t, step s a = some t → P s a t ∧ AllSteps step P t as

theorem allSteps_cons_iff {P : σ → α → σ → Prop} {s t : σ} {a : α} {as : List α}
    (h : step s a = some t) :
    AllSteps step P s (a :: as) ↔ P s a t ∧ AllSteps step P t as := by
  constructor
  · exact fun hall => hall t h
  · intro hall t' ht'
    rw [h, Option.some.injEq] at ht'
    exact ht' ▸ hall

instance AllSteps.decidable {P : σ → α → σ → Prop} [∀ s a t, Decidable (P s a t)] :
    ∀ s as, Decidable (AllSteps step P s as)
  | _, [] => isTrue trivial
  | s, a :: as =>
    match h : step s a with
    | none => isTrue fun t ht => by rw [h] at ht; cases ht
    | some t =>
      have : Decidable (AllSteps step P t as) := AllSteps.decidable t as
      decidable_of_iff _ (allSteps_cons_iff h).symm

theorem AllSteps.mono {P Q : σ → α → σ → Prop} (hPQ : ∀ s a t, P s a t → Q s a t)
    {s : σ} {as : List α} (h : AllSteps step P s as) : AllSteps step Q s as := by
  induction as generalizing s with
  | nil => trivial
  | cons a as ih =>
    intro t ht
    exact ⟨hPQ s a t (h t ht).1, ih (h t ht).2⟩

/-- What holds of each action may be added to what holds of each step. -/
theorem AllSteps.and_actions {P : σ → α → σ → Prop} {K : α → Prop} {s : σ} {as : List α}
    (h : AllSteps step P s as) (hK : ∀ a ∈ as, K a) :
    AllSteps step (fun s a t => P s a t ∧ K a) s as := by
  induction as generalizing s with
  | nil => trivial
  | cons a as ih =>
    intro t ht
    exact ⟨⟨(h t ht).1, hK a List.mem_cons_self⟩,
      ih (h t ht).2 fun b hb => hK b (List.mem_cons_of_mem a hb)⟩

theorem AllSteps.append {P : σ → α → σ → Prop} {s t : σ} {as bs : List α}
    (h : AllSteps step P s as) (hrun : run step s as = some t) (hbs : AllSteps step P t bs) :
    AllSteps step P s (as ++ bs) := by
  induction as generalizing s with
  | nil =>
    rw [run_nil, Option.some.injEq] at hrun
    exact hrun ▸ hbs
  | cons a as ih =>
    obtain ⟨r, hr, hrt⟩ := run_cons_eq_some.mp hrun
    obtain ⟨hPa, hrest⟩ := h r hr
    exact (allSteps_cons_iff hr).mpr ⟨hPa, ih hrest hrt⟩

theorem AllSteps.of_append {P : σ → α → σ → Prop} {s : σ} {as bs : List α}
    (h : AllSteps step P s (as ++ bs)) : AllSteps step P s as := by
  induction as generalizing s with
  | nil => trivial
  | cons a as ih =>
    intro t ht
    exact ⟨(h t ht).1, ih (h t ht).2⟩

/-- The steps after a run are among the steps of the whole history. -/
theorem AllSteps.after_run {P : σ → α → σ → Prop} {s t : σ} {as bs : List α}
    (h : AllSteps step P s (as ++ bs)) (hrun : run step s as = some t) :
    AllSteps step P t bs := by
  induction as generalizing s with
  | nil =>
    rw [run_nil, Option.some.injEq] at hrun
    exact hrun ▸ h
  | cons a as ih =>
    obtain ⟨r, hr, hrt⟩ := run_cons_eq_some.mp hrun
    exact ih (h r hr).2 hrt

/-- A predicate preserved by every step that satisfies `P` is preserved by every
run whose steps all do. -/
theorem AllSteps.invariant {P : σ → α → σ → Prop} {I : σ → Prop}
    (hstep : ∀ s a t, I s → P s a t → step s a = some t → I t)
    {s t : σ} {as : List α} (hs : I s) (hP : AllSteps step P s as)
    (h : run step s as = some t) : I t := by
  induction as generalizing s with
  | nil =>
    rw [run_nil, Option.some.injEq] at h
    exact h ▸ hs
  | cons a as ih =>
    obtain ⟨r, hr, hrt⟩ := run_cons_eq_some.mp h
    exact ih (hstep s a r hs (hP r hr).1 hr) (hP r hr).2 hrt

/-- What an invariant implies of a step holds of every step of such a run. -/
theorem AllSteps.of_invariant {P Q : σ → α → σ → Prop} {I : σ → Prop}
    (hstep : ∀ s a t, I s → P s a t → step s a = some t → I t)
    (hQ : ∀ s a t, I s → P s a t → step s a = some t → Q s a t)
    {s : σ} {as : List α} (hs : I s) (hP : AllSteps step P s as) : AllSteps step Q s as := by
  induction as generalizing s with
  | nil => trivial
  | cons a as ih =>
    intro t ht
    obtain ⟨hPs, hrest⟩ := hP t ht
    exact ⟨hQ s a t hs hPs ht, ih (hstep s a t hs hPs ht) hrest⟩

/-- The same for an invariant that every step keeps. -/
theorem allSteps_of_invariant {Q : σ → α → σ → Prop} {I : σ → Prop}
    (hstep : ∀ s a t, I s → step s a = some t → I t ∧ Q s a t) {s : σ} {as : List α} (hs : I s) :
    AllSteps step Q s as := by
  induction as generalizing s with
  | nil => trivial
  | cons a as ih =>
    intro t ht
    obtain ⟨hI, hQ⟩ := hstep s a t hs ht
    exact ⟨hQ, ih hI⟩

/-- Two facts that say the same of every step from a state with the invariant say the same
of a run, when either of them keeps the invariant. -/
theorem allSteps_iff {P Q : σ → α → σ → Prop} {I : σ → Prop}
    (hiff : ∀ s a t, I s → step s a = some t → (P s a t ↔ Q s a t))
    (hstep : ∀ s a t, I s → P s a t → step s a = some t → I t)
    {s : σ} {as : List α} (hs : I s) : AllSteps step P s as ↔ AllSteps step Q s as := by
  induction as generalizing s with
  | nil => exact Iff.rfl
  | cons a as ih =>
    constructor
    · intro h t ht
      obtain ⟨hP, hrest⟩ := h t ht
      exact ⟨(hiff s a t hs ht).mp hP, (ih (hstep s a t hs hP ht)).mp hrest⟩
    · intro h t ht
      obtain ⟨hQ, hrest⟩ := h t ht
      have hP := (hiff s a t hs ht).mpr hQ
      exact ⟨hP, (ih (hstep s a t hs hP ht)).mpr hrest⟩

/-! ## Relations between the two ends of a run -/

/-- A reflexive and transitive relation that every step respects relates the two
ends of every run. -/
theorem run_relates {R : σ → σ → Prop} (hrefl : ∀ s, R s s)
    (htrans : ∀ r s t, R r s → R s t → R r t)
    (hstep : ∀ s a t, step s a = some t → R s t)
    {s t : σ} {as : List α} (h : run step s as = some t) : R s t := by
  induction as generalizing s with
  | nil =>
    rw [run_nil, Option.some.injEq] at h
    exact h ▸ hrefl s
  | cons a as ih =>
    obtain ⟨r, hr, hrt⟩ := run_cons_eq_some.mp h
    exact htrans s r t (hstep s a r hr) (ih hrt)

/-- A measure that no step raises, and that the actions in `p` lower while it is
positive, is at most its first value less the number of those actions. -/
theorem run_measure {μ : σ → Nat} {p : α → Bool} {I : σ → Prop} {K : α → Prop}
    (hinv : ∀ s a t, I s → K a → step s a = some t → I t)
    (hmono : ∀ s a t, I s → K a → step s a = some t → μ t ≤ μ s)
    (hlower : ∀ s a t, I s → K a → step s a = some t → p a = true → 0 < μ s → μ t < μ s)
    {s t : σ} {as : List α} (hs : I s) (hok : ∀ a ∈ as, K a) (h : run step s as = some t) :
    μ t ≤ μ s - as.countP p := by
  induction as generalizing s with
  | nil =>
    rw [run_nil, Option.some.injEq] at h
    simp [h]
  | cons a as ih =>
    obtain ⟨r, hr, hrt⟩ := run_cons_eq_some.mp h
    have ha := hok a List.mem_cons_self
    have hrest := ih (hinv s a r hs ha hr) (fun b hb => hok b (List.mem_cons_of_mem a hb)) hrt
    have hle := hmono s a r hs ha hr
    by_cases hp : p a = true
    · have hlt := hlower s a r hs ha hr hp
      rw [List.countP_cons_of_pos hp]
      omega
    · rw [List.countP_cons_of_neg hp]
      omega

/-- When no step raises a measure and every action in `p` lowers it, a run has no more
of those actions than the measure at its start. -/
theorem AllSteps.cost {μ : σ → Nat} {p : α → Bool} {P : σ → α → σ → Prop} {I : σ → Prop}
    (hstep : ∀ s a t, I s → P s a t → step s a = some t → I t)
    (hcost : ∀ s a t, I s → P s a t → step s a = some t → μ t + (p a).toNat ≤ μ s)
    {s t : σ} {as : List α} (hs : I s) (hP : AllSteps step P s as)
    (h : run step s as = some t) : as.countP p + μ t ≤ μ s := by
  induction as generalizing s with
  | nil =>
    rw [run_nil, Option.some.injEq] at h
    simp [h]
  | cons a as ih =>
    obtain ⟨r, hr, hrt⟩ := run_cons_eq_some.mp h
    obtain ⟨hPa, hrest⟩ := hP r hr
    have hlater := ih (hstep s a r hs hPa hr) hrest hrt
    have hnow := hcost s a r hs hPa hr
    rw [List.countP_cons]
    cases hp : p a <;> simp only [hp, Bool.toNat_false, Bool.toNat_true] at hnow <;> simp <;> omega

/-! ## Totals along a run -/

/-- What the steps of a history add up to, when each adds `d` of the state it starts in. -/
def total (step : σ → α → Option σ) (d : σ → α → Int) : σ → List α → Int
  | _, [] => 0
  | s, a :: as =>
    match step s a with
    | none => 0
    | some t => d s a + total step d t as

/-- A quantity that every step changes by `d` changes by the total along a run. -/
theorem run_total {v : σ → Int} {d : σ → α → Int} {I : σ → Prop}
    (hinv : ∀ s a t, I s → step s a = some t → I t)
    (hstep : ∀ s a t, I s → step s a = some t → v t = v s + d s a)
    {s t : σ} {as : List α} (hs : I s) (h : run step s as = some t) :
    v t = v s + total step d s as := by
  induction as generalizing s with
  | nil =>
    rw [run_nil, Option.some.injEq] at h
    simp [total, h]
  | cons a as ih =>
    obtain ⟨r, hr, hrt⟩ := run_cons_eq_some.mp h
    have hlater := ih (hinv s a r hs hr) hrt
    have hnow := hstep s a r hs hr
    rw [total, hr]
    show v t = v s + (d s a + total step d r as)
    omega

theorem AllSteps.total_eq_zero {d : σ → α → Int} {s : σ} {as : List α}
    (h : AllSteps step (fun s a _ => d s a = 0) s as) : total step d s as = 0 := by
  induction as generalizing s with
  | nil => rfl
  | cons a as ih =>
    rw [total]
    split
    · rfl
    · next t ht =>
      obtain ⟨hnow, hrest⟩ := h t ht
      rw [hnow, ih hrest, Int.zero_add]

/-- When a step that counts leaves the system in `Q`, and no step from `Q` counts, at most
one step of a run counts. -/
theorem AllSteps.total_le_one {P : σ → α → σ → Prop} {I Q : σ → Prop} {d : σ → α → Int}
    (hI : ∀ s a t, I s → P s a t → step s a = some t → I t)
    (hQ : ∀ s a t, Q s → P s a t → step s a = some t → Q t ∧ d s a = 0)
    (hd : ∀ s a t, I s → P s a t → step s a = some t → d s a = 0 ∨ d s a = 1 ∧ Q t)
    {s : σ} {as : List α} (hs : I s) (hP : AllSteps step P s as) : total step d s as ≤ 1 := by
  have hdone : ∀ {s : σ} {as : List α}, Q s → AllSteps step P s as → total step d s as = 0 := by
    intro s as hs hP
    induction as generalizing s with
    | nil => rfl
    | cons a as ih =>
      rw [total]
      split
      · rfl
      · next t ht =>
        obtain ⟨hQt, hzero⟩ := hQ s a t hs (hP t ht).1 ht
        rw [hzero, ih hQt (hP t ht).2, Int.zero_add]
  induction as generalizing s with
  | nil => exact Int.one_nonneg
  | cons a as ih =>
    rw [total]
    split
    · exact Int.one_nonneg
    · next t ht =>
      have hrest := ih (hI s a t hs (hP t ht).1 ht) (hP t ht).2
      rcases hd s a t hs (hP t ht).1 ht with hzero | ⟨hone, hQt⟩
      · omega
      · rw [hone, hdone hQt (hP t ht).2]
        omega

end Transition
end XStreamRoll
