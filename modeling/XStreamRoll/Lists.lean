/-
Lists that change in one place, and lists with a unique key.
-/
import Mathlib.Data.List.Count
import Mathlib.Data.List.Nodup

namespace XStreamRoll

variable {α : Type*} {p : α → Bool} {l : List α} {k : Nat} {old new : α}

theorem countP_concat : (l ++ [new]).countP p = l.countP p + (p new).toNat := by
  rw [List.countP_append, List.countP_singleton]
  cases p new <;> rfl

theorem countP_set (h : l[k]? = some old) :
    (l.set k new).countP p + (p old).toNat = l.countP p + (p new).toNat := by
  obtain ⟨hk, rfl⟩ := List.getElem?_eq_some_iff.mp h
  have hle := List.boole_getElem_le_countP (p := p) hk
  rw [List.countP_set hk]
  cases hold : p l[k] <;> cases hnew : p new <;> simp_all

theorem countP_set_eq (h : l[k]? = some old) (same : p new = p old) :
    (l.set k new).countP p = l.countP p := by
  have sum : (l.set k new).countP p + (p old).toNat = l.countP p + (p new).toNat := countP_set h
  rw [same] at sum
  exact Nat.add_right_cancel sum

/-- An element that counts is replaced only by one that does, or by one that does not. -/
theorem countP_set_le (h : l[k]? = some old) (hnew : p new = true → p old = true) :
    (l.set k new).countP p ≤ l.countP p := by
  have sum : (l.set k new).countP p + (p old).toNat = l.countP p + (p new).toNat := countP_set h
  have le : (p new).toNat ≤ (p old).toNat := by
    cases hp : p new with
    | false => exact Nat.zero_le _
    | true => exact Nat.le_of_eq (congrArg Bool.toNat (hnew hp)).symm
  omega

theorem countP_eraseIdx_le (l : List α) (k : Nat) : (l.eraseIdx k).countP p ≤ l.countP p :=
  (List.eraseIdx_sublist l k).countP_le

theorem set_last (l : List α) (x y : α) : (l ++ [x]).set l.length y = l ++ [y] := by
  rw [List.set_append_right _ _ (Nat.le_refl _), Nat.sub_self, List.set_cons_zero]

theorem eraseIdx_last (l : List α) (x : α) : (l ++ [x]).eraseIdx l.length = l := by
  rw [List.eraseIdx_append_of_length_le (Nat.le_refl _), Nat.sub_self, List.eraseIdx_cons_zero,
    List.append_nil]

theorem forall_mem_set {P : α → Prop} (h : ∀ x ∈ l, P x) (hnew : P new) :
    ∀ x ∈ l.set k new, P x := by
  intro x hx
  rcases List.mem_or_eq_of_mem_set hx with hold | rfl
  · exact h x hold
  · exact hnew

/-- What stands in a list to which one element has been added. -/
theorem getElem?_concat_or {x : α} (h : (l ++ [new])[k]? = some x) : l[k]? = some x ∨ x = new := by
  rw [List.getElem?_append] at h
  split at h
  · exact .inl h
  · exact .inr (List.mem_singleton.mp (List.mem_of_getElem? h))

/-- What stands in a list of which one element has been replaced. -/
theorem getElem?_set_or {x : α} {j : Nat} (h : (l.set j new)[k]? = some x) :
    (j ≠ k ∧ l[k]? = some x) ∨ (j = k ∧ x = new) := by
  by_cases apart : j = k
  · subst apart
    have inside : j < l.length := by
      have := (List.getElem?_eq_some_iff.mp h).1
      rwa [List.length_set] at this
    rw [List.getElem?_set_self inside, Option.some.injEq] at h
    exact .inr ⟨rfl, h.symm⟩
  · rw [List.getElem?_set_ne apart] at h
    exact .inl ⟨apart, h⟩

theorem mem_eraseIdx_or {x : α} (h : x ∈ l) (k : Nat) : x ∈ l.eraseIdx k ∨ l[k]? = some x := by
  obtain ⟨i, hi⟩ := List.mem_iff_getElem?.mp h
  by_cases he : i = k
  · exact .inr (he ▸ hi)
  · exact .inl (List.mem_eraseIdx_iff_getElem?.mpr ⟨i, he, hi⟩)

theorem nodup_concat {β : Type*} {f : α → β} {a : α} (h : (l.map f).Nodup)
    (ha : ∀ b ∈ l, f b ≠ f a) : ((l ++ [a]).map f).Nodup := by
  rw [List.map_append, List.nodup_append]
  refine ⟨h, List.nodup_singleton _, ?_⟩
  rintro x hx y hy rfl
  obtain ⟨b, hb, rfl⟩ := List.mem_map.mp hx
  exact ha b hb (List.mem_singleton.mp hy)

/-- Rows that a change leaves out of the filter, before and after, do not show. -/
theorem filter_map_ite {f : α → α} {q : α → Bool}
    (apart : ∀ a ∈ l, p a = true → q a = false ∧ q (f a) = false) :
    (l.map fun a => if p a then f a else a).filter q = l.filter q := by
  induction l with
  | nil => rfl
  | cons a l ih =>
    have rest := ih fun b hb => apart b (List.mem_cons_of_mem a hb)
    by_cases hp : p a = true
    · obtain ⟨before, after⟩ := apart a List.mem_cons_self hp
      simp only [List.map_cons, hp, if_true, List.filter_cons, before, after,
        Bool.false_eq_true, if_false, rest]
    · simp only [List.map_cons, hp, if_false, List.filter_cons, rest, Bool.false_eq_true]

/-- A unique key finds the row that has it. -/
theorem find?_of_nodup {β : Type*} [DecidableEq β] {f : α → β} {a : α} (h : (l.map f).Nodup)
    (ha : a ∈ l) : l.find? (fun b => f b = f a) = some a := by
  cases hfound : l.find? (fun b => f b = f a) with
  | none => exact absurd (decide_eq_true rfl) (List.find?_eq_none.mp hfound a ha)
  | some b =>
    have hkey : f b = f a := by simpa using List.find?_some hfound
    rw [List.inj_on_of_nodup_map h (List.mem_of_find?_eq_some hfound) ha hkey]

end XStreamRoll
