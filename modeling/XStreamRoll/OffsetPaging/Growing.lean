/-
Offset pagination, newest first, over a collection that grows.

What is added stands before what was there and shifts it towards the pages that are still to
come.  So a walk may meet a row twice, but it misses none of those that were there when it
began and are there all along.
-/
import XStreamRoll.OffsetPaging

namespace XStreamRoll
namespace OffsetPaging

variable {α κ : Type*}

/-- Rows of higher keys come before those that were there. -/
theorem Ordered.suffix [LinearOrder κ] {key : α → κ} {rows rows' l l' : List α}
    (h : Ordered key rows l) (h' : Ordered key rows' l') (nodup : rows.Nodup)
    (keys' : (rows'.map key).Nodup) (stay : ∀ a ∈ rows, a ∈ rows')
    (enter : ∀ a ∈ rows', a ∈ rows ∨ ∀ b ∈ rows, key b < key a) : l <:+ l' := by
  classical
  let new := rows'.filter fun a => a ∉ rows
  let front := new.insertionSort fun a b => key b ≤ key a
  have hfront : Ordered key new front := ordered_insertionSort new
  have hnew : ∀ a ∈ new, a ∈ rows' ∧ a ∉ rows := by
    intro a ha
    obtain ⟨hmem, hnot⟩ := List.mem_filter.mp ha
    exact ⟨hmem, of_decide_eq_true hnot⟩
  have perm : (new ++ rows).Perm rows' := by
    refine (List.perm_ext_iff_of_nodup ?_ keys'.of_map).mpr fun a => ?_
    · refine List.Nodup.append (keys'.of_map.filter _) nodup ?_
      intro a ha hrows
      exact (hnew a ha).2 hrows
    · rw [List.mem_append]
      constructor
      · rintro (ha | ha)
        · exact (hnew a ha).1
        · exact stay a ha
      · intro ha
        by_cases hrows : a ∈ rows
        · exact .inr hrows
        · exact .inl (List.mem_filter.mpr ⟨ha, decide_eq_true hrows⟩)
  have both : Ordered key rows' (front ++ l) := by
    refine ⟨(hfront.1.append h.1).trans perm, ?_⟩
    rw [List.pairwise_append]
    refine ⟨hfront.2, h.2, ?_⟩
    intro a ha b hb
    obtain ⟨hmem, hnot⟩ := hnew a (hfront.1.subset ha)
    exact le_of_lt ((enter a hmem).resolve_left hnot b (h.1.subset hb))
  rw [h'.unique both keys']
  exact List.suffix_append front l

variable {limit : Nat} {lists : Nat → List α} {a : α}

theorem mem_of_grows (grows : ∀ k, lists k <:+ lists (k + 1)) (ha : a ∈ lists 0) (k : Nat) :
    a ∈ lists k := by
  induction k with
  | zero => exact ha
  | succ k ih => exact (grows k).subset ih

/-- The first pages have met what they would hold of the last list. -/
theorem mem_walk_of_mem_take (grows : ∀ k, lists k <:+ lists (k + 1))
    (nodup : ∀ k, (lists k).Nodup) (ha : a ∈ lists 0) {count : Nat}
    (htake : a ∈ (lists count).take ((count + 1) * limit)) :
    a ∈ walk limit lists (count + 1) := by
  induction count with
  | zero =>
    rw [walk_succ, List.mem_append, page, Nat.zero_mul, List.drop_zero]
    rw [Nat.zero_add, Nat.one_mul] at htake
    exact .inr htake
  | succ count ih =>
    rw [walk_succ, List.mem_append]
    rw [← take_append_page, List.mem_append] at htake
    rcases htake with hbefore | hpage
    · -- what was added is not what was there, so `a` has been shifted towards the end
      obtain ⟨new, hnew⟩ := grows count
      have hnodup : (new ++ lists count).Nodup := hnew ▸ nodup (count + 1)
      have hthere := mem_of_grows grows ha count
      rw [← hnew, List.take_append, List.mem_append] at hbefore
      have hold := hbefore.resolve_left fun hfront =>
        List.disjoint_of_nodup_append hnodup (List.mem_of_mem_take hfront) hthere
      exact .inl (ih (List.take_subset_take_left _ (Nat.sub_le _ _) hold))
    · exact .inr hpage

/-- A walk to the end of the last list has met all that was there at the start. -/
theorem mem_walk_of_grows (grows : ∀ k, lists k <:+ lists (k + 1))
    (nodup : ∀ k, (lists k).Nodup) {count : Nat}
    (reaches : (lists count).length ≤ (count + 1) * limit) (ha : a ∈ lists 0) :
    a ∈ walk limit lists (count + 1) := by
  apply mem_walk_of_mem_take grows nodup ha
  rw [List.take_of_length_le reaches]
  exact mem_of_grows grows ha count

theorem exists_of_mem_walk {count : Nat} (ha : a ∈ walk limit lists count) :
    ∃ k < count, a ∈ lists k := by
  rw [walk, List.mem_flatMap] at ha
  obtain ⟨k, hk, hpage⟩ := ha
  exact ⟨k, List.mem_range.mp hk, mem_of_mem_page hpage⟩

theorem map_walk {β : Type*} (f : α → β) (count : Nat) :
    (walk limit lists count).map f = walk limit (fun k => (lists k).map f) count := by
  rw [walk, walk, List.map_flatMap]
  congr 1
  funext k
  rw [page, page, List.map_take, List.map_drop]

end OffsetPaging
end XStreamRoll
