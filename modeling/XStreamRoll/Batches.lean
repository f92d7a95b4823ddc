/-
Loops that remove what they find in batches, and end with the first batch that is not full.

A batch removes as many of the elements that satisfy a predicate as its limit allows, and says
how many these were.  Which ones it takes is left open, and so is where they stand.
-/
import Mathlib.Data.List.Nodup
import Mathlib.Data.List.Perm.Basic

namespace XStreamRoll
namespace Batches

variable {α σ ε : Type*} {p : α → Bool} {before middle after : List α}

/-- Elements are gone that satisfy `p`, and no others. -/
structure Spares (p : α → Bool) (before after : List α) : Prop where
  sublist : after.Sublist before
  spared : after.filter (fun a => !p a) = before.filter fun a => !p a

theorem Spares.refl (p : α → Bool) (l : List α) : Spares p l l := ⟨List.Sublist.refl l, rfl⟩

theorem Spares.trans (h : Spares p before middle) (h' : Spares p middle after) :
    Spares p before after :=
  ⟨h'.sublist.trans h.sublist, h'.spared.trans h.spared⟩

/-- A batch took `n` elements. -/
structure Takes (p : α → Bool) (limit : Nat) (before after : List α) (n : Nat) : Prop
    extends Spares p before after where
  count : after.countP p + n = before.countP p
  reported : n = min limit (before.countP p)

/-- When nothing is left that satisfies `p`, the rest is what never did. -/
theorem Spares.eq_filter (h : Spares p before after) (hnone : after.countP p = 0) :
    after = before.filter fun a => !p a := by
  rw [← h.spared]
  refine (List.filter_eq_self.mpr fun a ha => ?_).symm
  rw [Bool.not_eq_true']
  exact eq_false_of_ne_true (List.countP_eq_zero.mp hnone a ha)

theorem Takes.none (p : α → Bool) (l : List α) : Takes p 0 l l 0 where
  toSpares := .refl p l
  count := rfl
  reported := (Nat.zero_min _).symm

theorem Takes.nil (p : α → Bool) (limit : Nat) : Takes p limit [] [] 0 where
  toSpares := .refl p []
  count := rfl
  reported := (Nat.min_zero _).symm

/-- The first element is removed. -/
theorem Takes.cons_of_pos {a : α} {limit n : Nat} (ha : p a = true)
    (h : Takes p limit before after n) : Takes p (limit + 1) (a :: before) after (n + 1) where
  sublist := h.sublist.cons a
  spared := by
    rw [h.spared, List.filter_cons, ha]
    rfl
  count := by
    rw [List.countP_cons_of_pos ha, ← h.count, Nat.add_assoc]
  reported := by
    rw [List.countP_cons_of_pos ha, h.reported, Nat.add_min_add_right]

/-- The first element stays. -/
theorem Takes.cons_of_neg {a : α} {limit n : Nat} (ha : ¬p a = true)
    (h : Takes p limit before after n) : Takes p limit (a :: before) (a :: after) n where
  sublist := h.sublist.cons_cons a
  spared := by
    rw [List.filter_cons, List.filter_cons, h.spared]
  count := by
    rw [List.countP_cons_of_neg ha, List.countP_cons_of_neg ha, h.count]
  reported := by
    rw [List.countP_cons_of_neg ha, h.reported]

/-- A batch that finds the elements in some order, and removes them by a key. -/
theorem Takes.of_keys {κ : Type*} [DecidableEq κ] {key : α → κ} (hkeys : (before.map key).Nodup)
    {found : List α} (hfound : found.Perm (before.filter p)) (limit : Nat) :
    Takes p limit before (before.filter fun a => key a ∉ (found.take limit).map key)
      (before.countP fun a => key a ∈ (found.take limit).map key) := by
  have hpart : ∀ a ∈ found.take limit, a ∈ before ∧ p a = true := fun a ha =>
    List.mem_filter.mp (hfound.subset (List.mem_of_mem_take ha))
  have hmem : ∀ a ∈ before, key a ∈ (found.take limit).map key ↔ a ∈ found.take limit := by
    intro a ha
    refine ⟨fun hkey => ?_, List.mem_map_of_mem⟩
    obtain ⟨b, hb, hsame⟩ := List.mem_map.mp hkey
    exact List.inj_on_of_nodup_map hkeys (hpart b hb).1 ha hsame ▸ hb
  have hnodup : (found.take limit).Nodup :=
    (List.take_sublist limit found).nodup (hfound.nodup_iff.mpr (hkeys.of_map key |>.filter p))
  have hgone : (before.filter fun a => key a ∈ (found.take limit).map key).Perm
      (found.take limit) := by
    refine (List.perm_ext_iff_of_nodup ((hkeys.of_map key).filter _) hnodup).mpr fun a => ?_
    rw [List.mem_filter, decide_eq_true_eq]
    exact ⟨fun h => (hmem a h.1).mp h.2, fun h => ⟨(hpart a h).1, List.mem_map_of_mem h⟩⟩
  rw [List.countP_eq_length_filter, hgone.length_eq]
  refine ⟨⟨List.filter_sublist, ?_⟩, ?_, ?_⟩
  · rw [List.filter_filter]
    refine List.filter_congr fun a ha => ?_
    by_cases hp : p a = true
    · rw [hp]
      rfl
    · have hstays : key a ∉ (found.take limit).map key := fun hkey =>
        hp (hpart a ((hmem a ha).mp hkey)).2
      rw [decide_eq_true hstays, Bool.and_true]
  · have hall : (found.take limit).countP p = (found.take limit).length :=
      List.countP_eq_length.mpr fun a ha => (hpart a ha).2
    have hsplit := before.countP_eq_countP_filter_add p
      fun a => decide (key a ∈ (found.take limit).map key)
    rw [hgone.countP_eq p, hall, Nat.add_comm] at hsplit
    simp only [decide_not]
    exact hsplit.symm
  · rw [List.length_take, hfound.length_eq, List.countP_eq_length_filter]

/-- The loop, from its `i`-th round on.  A batch may fail, which ends it. -/
def drain (batch : Nat → σ → Except ε Nat × σ) (limit : Nat) :
    Nat → Nat → Nat → σ → Option (Except ε Nat × σ)
  | 0, _, _, _ => none
  | fuel + 1, i, total, s =>
    match batch i s with
    | (.error e, s') => some (.error e, s')
    | (.ok n, s') =>
      if n = limit then drain batch limit fuel (i + 1) (total + n) s'
      else some (.ok (total + n), s')

/-- What a batch may come to: it takes elements, or it fails and may have taken some. -/
def Comes (p : α → Bool) (limit : Nat) (fails : Prop) (rows : σ → List α) (s : σ) :
    Except ε Nat × σ → Prop
  | (.ok n, s') => Takes p limit (rows s) (rows s') n
  | (.error _, s') => Spares p (rows s) (rows s') ∧ fails

/-- How the loop may end: everything is gone, or a batch has failed on the way. -/
def Ends (p : α → Bool) (fails : Nat → Prop) (total : Nat) (before after : List α) :
    Except ε Nat → Prop
  | .ok n => n = total + before.countP p ∧ after = before.filter fun a => !p a
  | .error _ => Spares p before after ∧ ∃ i, fails i

/-- The loop ends after no more rounds than there are full batches and one. -/
theorem drain_ends {batch : Nat → σ → Except ε Nat × σ} {rows : σ → List α} {limit : Nat}
    {fails : Nat → Prop} (hlimit : 0 < limit)
    (hbatch : ∀ i s, Comes p limit (fails i) rows s (batch i s))
    (i total : Nat) (s : σ) :
    ∃ ended : Except ε Nat × σ,
      (∀ fuel, (rows s).countP p / limit < fuel →
        drain batch limit fuel i total s = some ended) ∧
      Ends p fails total (rows s) (rows ended.2) ended.1 := by
  generalize hcount : (rows s).countP p = count
  induction count using Nat.strongRecOn generalizing i total s with
  | ind count ih =>
    have hnow := hbatch i s
    cases hstep : batch i s with
    | mk result s' =>
      rw [hstep] at hnow
      cases result with
      | error e =>
        refine ⟨(.error e, s'), fun fuel hfuel => ?_, hnow.1, i, hnow.2⟩
        cases fuel with
        | zero => cases hfuel
        | succ fuel => rw [drain, hstep]
      | ok n =>
        have htakes : Takes p limit (rows s) (rows s') n := hnow
        have hsum := htakes.count
        have hreported := htakes.reported
        by_cases hfull : n = limit
        · -- a full batch, and what is left is less
          obtain ⟨ended, hruns, hends⟩ :=
            ih ((rows s').countP p) (by omega) (i + 1) (total + n) s' rfl
          refine ⟨ended, fun fuel hfuel => ?_, ?_⟩
          · have hdiv : count / limit = (rows s').countP p / limit + 1 := by
              rw [← Nat.add_div_right _ hlimit]
              congr 1
              omega
            cases fuel with
            | zero => cases hfuel
            | succ fuel =>
              rw [drain, hstep]
              dsimp only
              rw [if_pos hfull]
              exact hruns fuel (by omega)
          · cases hresult : ended.1 with
            | error e =>
              rw [hresult] at hends
              exact ⟨htakes.toSpares.trans hends.1, hends.2⟩
            | ok m =>
              rw [hresult] at hends
              refine ⟨?_, hends.2.trans htakes.spared⟩
              rw [hends.1]
              omega
        · refine ⟨(.ok (total + n), s'), fun fuel hfuel => ?_, ?_, ?_⟩
          · cases fuel with
            | zero => cases hfuel
            | succ fuel =>
              rw [drain, hstep]
              dsimp only
              rw [if_neg hfull]
          · omega
          · exact htakes.toSpares.eq_filter (by omega)

end Batches
end XStreamRoll
