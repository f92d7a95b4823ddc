/-
Text as lines, and lines as text.
-/
import Mathlib.Data.List.Basic

namespace XStreamRoll

/-- `text.split("\n")` -/
def splitLines (text : String) : List String := (text.toList.splitOn '\n').map String.ofList

/-- `lines.join("\n")` -/
def joinLines (lines : List String) : String :=
  String.ofList (['\n'].intercalate (lines.map String.toList))

theorem notMem_of_mem_splitOn {α : Type} [BEq α] [LawfulBEq α] {a : α} {xs l : List α}
    (h : l ∈ xs.splitOn a) : a ∉ l := by
  induction xs generalizing l with
  | nil =>
    rw [List.splitOn_nil, List.mem_singleton] at h
    rw [h]
    exact List.not_mem_nil
  | cons x xs ih =>
    rw [List.splitOn_cons_eq_if_modifyHead] at h
    split at h
    · rcases List.mem_cons.mp h with rfl | hmem
      · exact List.not_mem_nil
      · exact ih hmem
    · next hx =>
      cases hsplit : xs.splitOn a with
      | nil => exact absurd hsplit (List.splitOn_ne_nil a xs)
      | cons first rest =>
        rw [hsplit, List.modifyHead_cons] at h
        rcases List.mem_cons.mp h with rfl | hmem
        · intro ha
          rcases List.mem_cons.mp ha with rfl | ha
          · exact hx (beq_self_eq_true a)
          · exact ih (hsplit ▸ List.mem_cons_self) ha
        · exact ih (hsplit ▸ List.mem_cons_of_mem first hmem)

theorem splitLines_ne_nil (text : String) : splitLines text ≠ [] := by
  rw [splitLines, Ne, List.map_eq_nil_iff]
  exact List.splitOn_ne_nil _ _

theorem joinLines_splitLines (text : String) : joinLines (splitLines text) = text := by
  have lines : (splitLines text).map String.toList = text.toList.splitOn '\n' := by
    rw [splitLines, List.map_map]
    exact (List.map_congr_left fun line _ => String.toList_ofList).trans (List.map_id _)
  rw [joinLines, lines, List.intercalate_splitOn, String.ofList_toList]

theorem splitLines_joinLines {lines : List String} (hne : lines ≠ [])
    (h : ∀ line ∈ lines, '\n' ∉ line.toList) : splitLines (joinLines lines) = lines := by
  rw [splitLines, joinLines, String.toList_ofList, List.splitOn_intercalate]
  · rw [List.map_map]
    exact (List.map_congr_left fun line _ => String.ofList_toList).trans (List.map_id lines)
  · rw [List.forall_mem_map]
    exact h
  · rwa [Ne, List.map_eq_nil_iff]

end XStreamRoll
