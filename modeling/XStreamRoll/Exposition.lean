/-
The text format in which a scraper reads metrics.

A metric takes three lines: its help, its type, and its name with its value.  The reader goes
through the lines on its own terms: it skips blank lines and comments, and takes every other line
for a sample, so that a name must not look like a comment and must not have a blank in it.

Labels, timestamps, escapes and values that are not whole numbers are left out.
-/
import Mathlib.Data.List.Flatten
import Std.Data.String.ToInt
import XStreamRoll.Lines

namespace XStreamRoll
namespace Exposition

structure Family where
  name : String
  help : String
  /-- `counter`, `gauge` and so on -/
  type : String
  value : Int
  deriving DecidableEq, Repr

inductive Entry where
  | help (name text : String)
  | type (name type : String)
  | sample (name : String) (value : Int)
  deriving DecidableEq, Repr

/-! ## Writing -/

def Family.lines (family : Family) : List String :=
  ["# HELP " ++ family.name ++ " " ++ family.help,
    "# TYPE " ++ family.name ++ " " ++ family.type,
    family.name ++ " " ++ family.value.repr]

def write (families : List Family) : String := joinLines (families.flatMap Family.lines) ++ "\n"

/-! ## Reading -/

/-- The text up to the first blank, and the text after it. -/
def cut (cs : List Char) : String × String :=
  (String.ofList (cs.takeWhile (· ≠ ' ')), String.ofList ((cs.dropWhile (· ≠ ' ')).drop 1))

/-- What comes after `start`. -/
def after (start : String) (cs : List Char) : Option (List Char) :=
  if start.toList.isPrefixOf cs then some (cs.drop start.toList.length) else none

/-- `none` for a line that is none of the format's. -/
def readLine (line : String) : Option (List Entry) :=
  match after "# HELP " line.toList with
  | some rest => some [.help (cut rest).1 (cut rest).2]
  | none =>
    match after "# TYPE " line.toList with
    | some rest => some [.type (cut rest).1 (cut rest).2]
    | none =>
      if line.toList.head? = none ∨ line.toList.head? = some '#' then some []
      else (cut line.toList).2.toInt?.map fun value => [.sample (cut line.toList).1 value]

def read (text : String) : Option (List Entry) := ((splitLines text).mapM readLine).map List.flatten

/-! ## What is read is what was written -/

structure Family.WellFormed (family : Family) : Prop where
  nonempty : family.name ≠ ""
  comment : family.name.toList.head? ≠ some '#'
  blank : ' ' ∉ family.name.toList
  line : '\n' ∉ family.name.toList
  help : '\n' ∉ family.help.toList
  type : '\n' ∉ family.type.toList

instance (family : Family) : Decidable family.WellFormed :=
  decidable_of_iff
    (family.name ≠ "" ∧ family.name.toList.head? ≠ some '#' ∧ ' ' ∉ family.name.toList ∧
      '\n' ∉ family.name.toList ∧ '\n' ∉ family.help.toList ∧ '\n' ∉ family.type.toList)
    ⟨fun h => ⟨h.1, h.2.1, h.2.2.1, h.2.2.2.1, h.2.2.2.2.1, h.2.2.2.2.2⟩,
      fun h => ⟨h.nonempty, h.comment, h.blank, h.line, h.help, h.type⟩⟩

/-- The conditions are about the characters of the texts. -/
theorem Family.wellFormed_ofList {name help type : List Char} {value : Int}
    (h : name ≠ [] ∧ name.head? ≠ some '#' ∧ ' ' ∉ name ∧ '\n' ∉ name ∧ '\n' ∉ help ∧
      '\n' ∉ type) :
    Family.WellFormed ⟨String.ofList name, String.ofList help, String.ofList type, value⟩ where
  nonempty empty := h.1 (by simpa using congrArg String.toList empty)
  comment := by simpa using h.2.1
  blank := by simpa using h.2.2.1
  line := by simpa using h.2.2.2.1
  help := by simpa using h.2.2.2.2.1
  type := by simpa using h.2.2.2.2.2

def Family.entries (family : Family) : List Entry :=
  [.help family.name family.help, .type family.name family.type, .sample family.name family.value]

variable {family : Family}

theorem cut_append {name rest : List Char} (h : ' ' ∉ name) :
    cut (name ++ ' ' :: rest) = (String.ofList name, String.ofList rest) := by
  have inside : ∀ c ∈ name, decide (c ≠ ' ') = true := by
    intro c hc
    exact decide_eq_true fun blank => h (blank ▸ hc)
  rw [cut, List.takeWhile_append_of_pos inside, List.dropWhile_append_of_pos inside]
  simp

theorem after_append (start : String) (rest : List Char) :
    after start (start.toList ++ rest) = some rest := by
  rw [after, if_pos (List.isPrefixOf_iff_prefix.mpr (List.prefix_append _ _)), List.drop_left]

/-- A line that starts otherwise. -/
theorem after_of_head? {start : String} {cs : List Char} (h : cs.head? ≠ start.toList.head?)
    (hne : start.toList ≠ []) : after start cs = none := by
  rw [after, if_neg]
  intro hprefix
  obtain ⟨rest, rfl⟩ := List.isPrefixOf_iff_prefix.mp hprefix
  exact h (List.head?_append_of_ne_nil _ hne)

theorem readLine_help (h : ' ' ∉ family.name.toList) :
    readLine ("# HELP " ++ family.name ++ " " ++ family.help) =
      some [.help family.name family.help] := by
  have split : ("# HELP " ++ family.name ++ " " ++ family.help).toList =
      "# HELP ".toList ++ (family.name.toList ++ ' ' :: family.help.toList) := by
    simp [String.toList_append]
  rw [readLine, split, after_append]
  simp [cut_append h]

theorem readLine_type (h : ' ' ∉ family.name.toList) :
    readLine ("# TYPE " ++ family.name ++ " " ++ family.type) =
      some [.type family.name family.type] := by
  have split : ("# TYPE " ++ family.name ++ " " ++ family.type).toList =
      "# TYPE ".toList ++ (family.name.toList ++ ' ' :: family.type.toList) := by
    simp [String.toList_append]
  have other : after "# HELP " ("# TYPE ".toList ++ (family.name.toList ++ ' ' ::
      family.type.toList)) = none := by
    rw [after, if_neg]
    simp
  rw [readLine, split, other, after_append]
  simp [cut_append h]

theorem readLine_sample (h : family.WellFormed) :
    readLine (family.name ++ " " ++ family.value.repr) =
      some [.sample family.name family.value] := by
  have split : (family.name ++ " " ++ family.value.repr).toList =
      family.name.toList ++ ' ' :: family.value.repr.toList := by
    simp [String.toList_append]
  have nonempty : family.name.toList ≠ [] := fun empty => h.nonempty (String.toList_eq_nil_iff.mp empty)
  have head : (family.name.toList ++ ' ' :: family.value.repr.toList).head? =
      family.name.toList.head? := List.head?_append_of_ne_nil _ nonempty
  have plain {start : String} (hash : start.toList.head? = some '#') :
      after start (family.name.toList ++ ' ' :: family.value.repr.toList) = none := by
    apply after_of_head?
    · rw [head, hash]
      exact h.comment
    · intro empty
      rw [empty] at hash
      cases hash
  have sample : ¬(family.name.toList.head? = none ∨ family.name.toList.head? = some '#') := by
    rintro (none | hash)
    · exact nonempty (List.head?_eq_none_iff.mp none)
    · exact h.comment hash
  rw [readLine, split, plain (by decide), plain (by decide)]
  simp only [head, if_neg sample, cut_append h.blank, String.ofList_toList, Int.toInt?_repr,
    Option.map_some]

theorem notMem_repr (value : Int) : '\n' ∉ value.repr.toList := by
  intro newline
  cases value with
  | ofNat n =>
    have digit : ('\n').isDigit = true :=
      Nat.isDigit_of_mem_toDigits (by decide) (by decide) (Nat.toList_repr ▸ newline)
    exact absurd digit (by decide)
  | negSucc n =>
    have digits : '\n' ∈ "-".toList ++ (n + 1).repr.toList := by
      rw [← String.toList_append]
      exact newline
    rcases List.mem_append.mp digits with sign | digit
    · exact absurd sign (by decide)
    · have digit : ('\n').isDigit = true :=
        Nat.isDigit_of_mem_toDigits (by decide) (by decide) (Nat.toList_repr ▸ digit)
      exact absurd digit (by decide)

/-- No newline stands inside a line. -/
theorem notMem_of_mem_lines (h : family.WellFormed) {line : String} (hline : line ∈ family.lines) :
    '\n' ∉ line.toList := by
  have start : '\n' ∉ "# HELP ".toList ∧ '\n' ∉ "# TYPE ".toList ∧ '\n' ∉ " ".toList := by decide
  obtain ⟨help, type, blank⟩ := start
  simp only [Family.lines, List.mem_cons, List.not_mem_nil, or_false] at hline
  rcases hline with rfl | rfl | rfl
  · simp only [String.toList_append, List.mem_append, not_or]
    exact ⟨⟨⟨help, h.line⟩, blank⟩, h.help⟩
  · simp only [String.toList_append, List.mem_append, not_or]
    exact ⟨⟨⟨type, h.line⟩, blank⟩, h.type⟩
  · simp only [String.toList_append, List.mem_append, not_or]
    exact ⟨⟨h.line, blank⟩, notMem_repr family.value⟩

theorem splitLines_newline (text : String) : splitLines (text ++ "\n") = splitLines text ++ [""] := by
  have newline : (text ++ "\n").toList = text.toList ++ '\n' :: [] := String.toList_append
  rw [splitLines, newline, List.splitOn_append_cons_self, List.map_append]
  rfl

theorem mapM_lines (h : family.WellFormed) :
    family.lines.mapM readLine = some (family.entries.map fun entry => [entry]) := by
  simp [Family.lines, Family.entries, readLine_help h.blank, readLine_type h.blank,
    readLine_sample h]

theorem mapM_flatMap {families : List Family} (h : ∀ family ∈ families, family.WellFormed) :
    (families.flatMap Family.lines).mapM readLine =
      some ((families.flatMap Family.entries).map fun entry => [entry]) := by
  induction families with
  | nil => rfl
  | cons family families ih =>
    have own : family.WellFormed := h family List.mem_cons_self
    have others : ∀ other ∈ families, other.WellFormed := fun other hother =>
      h other (List.mem_cons_of_mem family hother)
    rw [List.flatMap_cons, List.mapM_append, mapM_lines own, ih others]
    simp

/-- A scraper reads the families that were written, in their order. -/
theorem read_write {families : List Family} (h : ∀ family ∈ families, family.WellFormed) :
    read (write families) = some (families.flatMap Family.entries) := by
  cases families with
  | nil => rfl
  | cons family rest =>
    have nonempty : (family :: rest).flatMap Family.lines ≠ [] := by simp [Family.lines]
    have noBreak : ∀ line ∈ (family :: rest).flatMap Family.lines, '\n' ∉ line.toList := by
      intro line hline
      obtain ⟨other, hother, hmem⟩ := List.mem_flatMap.mp hline
      exact notMem_of_mem_lines (h other hother) hmem
    have last : [""].mapM readLine = some [[]] := rfl
    have flat (entries : List Entry) :
        (entries.map (fun entry => [entry]) ++ [[]]).flatten = entries := by
      rw [List.flatten_append, ← List.flatMap_def, List.flatMap_singleton']
      exact List.append_nil entries
    rw [read, write, splitLines_newline, splitLines_joinLines nonempty noBreak, List.mapM_append,
      mapM_flatMap h, last]
    exact congrArg some (flat _)

end Exposition
end XStreamRoll
