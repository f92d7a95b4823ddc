/-
`normalizeYamlStream`, which puts a line `---` where a manifest starts a document without one.

The parser of `validate-network-policies.js` takes a stream of documents only with a marker
between every two.  The manifests leave markers out, and a document starts at its line
`apiVersion:`.  So the script reads the text line by line, keeps in mind the last line that is
neither blank nor a comment, and puts a marker before `apiVersion:` unless that line is one.

A marker is what the script takes for one: a line that reads `---` when it is trimmed.
-/
import XStreamRoll.Api.Auth
import XStreamRoll.Lines

namespace XStreamRoll
namespace Scripts
namespace YamlStream

open Api (trim)

def isMarker (line : String) : Bool := trim line = "---"

/-- Neither blank nor a comment. -/
def isCode (line : String) : Bool := trim line ≠ "" && (trim line).toList.head? ≠ some '#'

/-- `/^apiVersion:/` -/
def startsDocument (line : String) : Bool := "apiVersion:".toList.isPrefixOf (trim line).toList

/-- A marker is missing before the line, where `prevCodeLine` is the last line of code. -/
def lacksMarker (prevCodeLine : Option String) (line : String) : Bool :=
  isCode line && startsDocument line && prevCodeLine ≠ none && prevCodeLine ≠ some "---"

/-- The last line of code after one more line. -/
def keep (prevCodeLine : Option String) (line : String) : Option String :=
  if isCode line then some (trim line) else prevCodeLine

def normalizeLines : Option String → List String → List String
  | _, [] => []
  | prevCodeLine, line :: lines =>
    if lacksMarker prevCodeLine line then
      "---" :: line :: normalizeLines (keep prevCodeLine line) lines
    else line :: normalizeLines (keep prevCodeLine line) lines

def normalizeYamlStream (text : String) : String := joinLines (normalizeLines none (splitLines text))

@[simp] theorem normalizeLines_nil (prevCodeLine : Option String) :
    normalizeLines prevCodeLine [] = [] := rfl

theorem normalizeLines_cons (prevCodeLine : Option String) (line : String) (lines : List String) :
    normalizeLines prevCodeLine (line :: lines) =
      if lacksMarker prevCodeLine line then
        "---" :: line :: normalizeLines (keep prevCodeLine line) lines
      else line :: normalizeLines (keep prevCodeLine line) lines := rfl

/-! ## Documents -/

/-- What stands between the markers. -/
def documents (lines : List String) : List (List String) := lines.splitOnP isMarker

/-- Nothing but blank lines and comments comes before a line that starts a document. -/
def StartsFirst (document : List String) : Prop :=
  ∀ before line after, document = before ++ line :: after → startsDocument line = true →
    before.any isCode = false

def WellSeparated (lines : List String) : Prop := ∀ document ∈ documents lines, StartsFirst document

/-! ## What is put in -/

theorem mem_normalizeLines {prev : Option String} {lines : List String} {line : String}
    (h : line ∈ normalizeLines prev lines) : line = "---" ∨ line ∈ lines := by
  induction lines generalizing prev with
  | nil => cases h
  | cons first lines ih =>
    rw [normalizeLines_cons] at h
    split at h
    · rcases List.mem_cons.mp h with rfl | h
      · exact .inl rfl
      · rcases List.mem_cons.mp h with rfl | h
        · exact .inr List.mem_cons_self
        · exact (ih h).imp_right (List.mem_cons_of_mem first)
    · rcases List.mem_cons.mp h with rfl | h
      · exact .inr List.mem_cons_self
      · exact (ih h).imp_right (List.mem_cons_of_mem first)

/-- The lines of the result are those that the script has pushed. -/
theorem splitLines_normalizeYamlStream (text : String) :
    splitLines (normalizeYamlStream text) = normalizeLines none (splitLines text) := by
  apply splitLines_joinLines
  · cases hlines : splitLines text with
    | nil => exact absurd hlines (splitLines_ne_nil text)
    | cons first lines =>
      rw [normalizeLines_cons]
      split
      · exact List.cons_ne_nil _ _
      · exact List.cons_ne_nil _ _
  · intro line hline
    rcases mem_normalizeLines hline with rfl | hmem
    · decide
    · obtain ⟨chars, hchars, rfl⟩ := List.mem_map.mp hmem
      rw [String.toList_ofList]
      exact notMem_of_mem_splitOn hchars

theorem isMarker_marker : isMarker "---" = true := by decide

/-- Without the markers, the lines are what they were. -/
theorem filter_normalizeLines (prev : Option String) (lines : List String) :
    (normalizeLines prev lines).filter (fun line => !isMarker line) =
      lines.filter fun line => !isMarker line := by
  induction lines generalizing prev with
  | nil => rfl
  | cons line lines ih =>
    rw [normalizeLines_cons]
    split
    · rw [List.filter_cons, isMarker_marker, Bool.not_true, if_neg Bool.false_ne_true,
        List.filter_cons, List.filter_cons, ih]
    · rw [List.filter_cons, List.filter_cons, ih]

theorem sublist_normalizeLines (prev : Option String) (lines : List String) :
    lines.Sublist (normalizeLines prev lines) := by
  induction lines generalizing prev with
  | nil => exact List.nil_sublist _
  | cons line lines ih =>
    rw [normalizeLines_cons]
    split
    · exact ((ih _).cons_cons line).cons "---"
    · exact (ih _).cons_cons line

/-! ## Where it is put in -/

/-- Nothing but blank lines and comments has come since the last marker. -/
def fresh (prevCodeLine : Option String) : Bool := prevCodeLine = none || prevCodeLine = some "---"

theorem isCode_of_isMarker {line : String} (h : isMarker line = true) : isCode line = true := by
  have htrim : trim line = "---" := of_decide_eq_true h
  rw [isCode, htrim]
  decide

theorem startsDocument_of_isMarker {line : String} (h : isMarker line = true) :
    startsDocument line = false := by
  have htrim : trim line = "---" := of_decide_eq_true h
  rw [startsDocument, htrim]
  decide

theorem isCode_of_startsDocument {line : String} (h : startsDocument line = true) :
    isCode line = true := by
  obtain ⟨rest, hrest⟩ := List.isPrefixOf_iff_prefix.mp h
  have head : (trim line).toList.head? = some 'a' := by
    rw [← hrest]
    rfl
  have nonempty : trim line ≠ "" := by
    intro hempty
    rw [hempty] at head
    cases head
  rw [isCode, head, decide_eq_true nonempty]
  decide

theorem lacksMarker_eq (prev : Option String) (line : String) :
    lacksMarker prev line = (startsDocument line && !fresh prev) := by
  rw [lacksMarker, fresh]
  cases hstarts : startsDocument line with
  | false => simp
  | true => simp [isCode_of_startsDocument hstarts]

theorem fresh_keep (prev : Option String) (line : String) :
    fresh (keep prev line) = (isMarker line || fresh prev && !isCode line) := by
  rw [keep]
  split
  · next hcode => simp [fresh, isMarker, hcode]
  · next hcode =>
    have plain : isMarker line = false :=
      Bool.eq_false_iff.mpr fun hmarker => hcode (isCode_of_isMarker hmarker)
    rw [plain, Bool.eq_false_iff.mpr hcode, Bool.not_false, Bool.and_true, Bool.false_or]

/-- No marker is missing in lines that come after `fresh`. -/
def Separated : Bool → List String → Prop
  | _, [] => True
  | fresh, line :: lines => (startsDocument line = true → fresh = true) ∧
      Separated (isMarker line || fresh && !isCode line) lines

theorem separated_normalizeLines (prev : Option String) (lines : List String) :
    Separated (fresh prev) (normalizeLines prev lines) := by
  induction lines generalizing prev with
  | nil => trivial
  | cons line lines ih =>
    have rest := ih (keep prev line)
    rw [fresh_keep] at rest
    cases hlacks : lacksMarker prev line with
    | true =>
      rw [normalizeLines_cons, if_pos hlacks]
      rw [lacksMarker_eq, Bool.and_eq_true, Bool.not_eq_true'] at hlacks
      rw [hlacks.2, Bool.false_and, Bool.or_false] at rest
      refine ⟨fun hstarts => ?_, ?_, ?_⟩
      · rw [startsDocument_of_isMarker isMarker_marker] at hstarts
        cases hstarts
      · intro _
        rw [isMarker_marker, Bool.true_or]
      · rw [isCode_of_startsDocument hlacks.1, Bool.not_true, Bool.and_false, Bool.or_false]
        exact rest
    | false =>
      rw [normalizeLines_cons, hlacks, if_neg Bool.false_ne_true]
      rw [lacksMarker_eq, Bool.and_eq_false_imp] at hlacks
      exact ⟨fun hstarts => Bool.not_eq_eq_eq_not.mp (hlacks hstarts), rest⟩

theorem normalizeLines_eq_self_iff (prev : Option String) (lines : List String) :
    normalizeLines prev lines = lines ↔ Separated (fresh prev) lines := by
  constructor
  · intro h
    rw [← h]
    exact separated_normalizeLines prev lines
  · intro h
    induction lines generalizing prev with
    | nil => rfl
    | cons line lines ih =>
      obtain ⟨hstarts, hrest⟩ := h
      have present : lacksMarker prev line = false := by
        rw [lacksMarker_eq, Bool.and_eq_false_imp]
        intro hline
        rw [hstarts hline, Bool.not_true]
      rw [normalizeLines_cons, present, if_neg Bool.false_ne_true]
      rw [← fresh_keep] at hrest
      rw [ih _ hrest]

/-- `StartsFirst`, for the lines of a document that come after `fresh`. -/
def StartsAfter (fresh : Bool) (document : List String) : Prop :=
  ∀ before line after, document = before ++ line :: after → startsDocument line = true →
    fresh = true ∧ before.any isCode = false

theorem startsAfter_true (document : List String) :
    StartsAfter true document ↔ StartsFirst document := by
  simp only [StartsAfter, StartsFirst, true_and]

theorem startsAfter_cons (fresh : Bool) (line : String) (document : List String) :
    StartsAfter fresh (line :: document) ↔
      (startsDocument line = true → fresh = true) ∧
        StartsAfter (fresh && !isCode line) document := by
  constructor
  · intro h
    refine ⟨fun hstarts => (h [] line document rfl hstarts).1, ?_⟩
    rintro before other after rfl hstarts
    have later := h (line :: before) other after rfl hstarts
    rw [List.any_cons, Bool.or_eq_false_iff] at later
    rw [later.1, later.2.1]
    exact ⟨rfl, later.2.2⟩
  · rintro ⟨hline, hrest⟩ before other after heq hstarts
    cases before with
    | nil =>
      obtain ⟨rfl, rfl⟩ := List.cons_eq_cons.mp heq
      exact ⟨hline hstarts, rfl⟩
    | cons first before =>
      obtain ⟨rfl, rfl⟩ := List.cons_eq_cons.mp heq
      have later := hrest before other after rfl hstarts
      rw [Bool.and_eq_true, Bool.not_eq_true'] at later
      rw [List.any_cons, later.1.2, later.2]
      exact ⟨later.1.1, rfl⟩

theorem separated_iff (fresh : Bool) (lines : List String) : Separated fresh lines ↔
    ∃ document rest, documents lines = document :: rest ∧ StartsAfter fresh document ∧
      ∀ other ∈ rest, StartsFirst other := by
  induction lines generalizing fresh with
  | nil =>
    refine iff_of_true trivial ⟨[], [], List.splitOnP_nil, ?_, List.forall_mem_nil _⟩
    intro before line after heq
    exact absurd heq (by simp)
  | cons line lines ih =>
    rw [Separated, ih, documents, documents, List.splitOnP_cons_eq_if_modifyHead]
    cases hmarker : isMarker line with
    | true =>
      rw [if_pos rfl, startsDocument_of_isMarker hmarker]
      simp only [Bool.false_eq_true, false_imp_iff, true_and, Bool.true_or, startsAfter_true]
      constructor
      · rintro ⟨document, rest, hsplit, hfirst, hrest⟩
        refine ⟨[], _, rfl, fun before line after heq => absurd heq (by simp), ?_⟩
        rw [hsplit, List.forall_mem_cons]
        exact ⟨hfirst, hrest⟩
      · rintro ⟨document, rest, hsplit, -, hrest⟩
        obtain ⟨rfl, rfl⟩ := List.cons_eq_cons.mp hsplit
        obtain ⟨first, others, hothers⟩ :=
          List.exists_cons_of_ne_nil (List.splitOnP_ne_nil isMarker lines)
        rw [hothers, List.forall_mem_cons] at hrest
        exact ⟨first, others, hothers, hrest⟩
    | false =>
      rw [if_neg Bool.false_ne_true, Bool.false_or]
      obtain ⟨first, others, hothers⟩ :=
        List.exists_cons_of_ne_nil (List.splitOnP_ne_nil isMarker lines)
      rw [hothers, List.modifyHead_cons]
      constructor
      · rintro ⟨hline, document, rest, hsplit, hfirst, hrest⟩
        obtain ⟨rfl, rfl⟩ := List.cons_eq_cons.mp hsplit
        exact ⟨_, _, rfl, (startsAfter_cons _ _ _).mpr ⟨hline, hfirst⟩, hrest⟩
      · rintro ⟨document, rest, hsplit, hfirst, hrest⟩
        obtain ⟨rfl, rfl⟩ := List.cons_eq_cons.mp hsplit
        obtain ⟨hline, hafter⟩ := (startsAfter_cons _ _ _).mp hfirst
        exact ⟨hline, _, _, rfl, hafter, hrest⟩

theorem wellSeparated_iff (lines : List String) : WellSeparated lines ↔ Separated true lines := by
  rw [separated_iff, WellSeparated]
  constructor
  · intro h
    obtain ⟨document, rest, hsplit⟩ :=
      List.exists_cons_of_ne_nil (List.splitOnP_ne_nil isMarker lines)
    rw [documents, hsplit, List.forall_mem_cons] at h
    exact ⟨document, rest, hsplit, (startsAfter_true _).mpr h.1, h.2⟩
  · rintro ⟨document, rest, hsplit, hfirst, hrest⟩
    rw [hsplit, List.forall_mem_cons]
    exact ⟨(startsAfter_true _).mp hfirst, hrest⟩

/-- In the result every document starts with its `apiVersion:`, if it has one, and has no other.
The lines of the text are all there and in order, and only markers have been put in.  A text
that has its markers is left as it is, and no other text is. -/
theorem normalizeYamlStream_separates (text : String) :
    WellSeparated (splitLines (normalizeYamlStream text)) ∧
      (splitLines text).Sublist (splitLines (normalizeYamlStream text)) ∧
      (splitLines (normalizeYamlStream text)).filter (fun line => !isMarker line) =
        (splitLines text).filter (fun line => !isMarker line) ∧
      (normalizeYamlStream text = text ↔ WellSeparated (splitLines text)) := by
  rw [splitLines_normalizeYamlStream]
  refine ⟨?_, sublist_normalizeLines _ _, filter_normalizeLines _ _, ?_⟩
  · rw [wellSeparated_iff]
    exact separated_normalizeLines none _
  · rw [wellSeparated_iff]
    refine Iff.trans ?_ (normalizeLines_eq_self_iff none (splitLines text))
    constructor
    · intro h
      rw [← splitLines_normalizeYamlStream, h]
    · intro h
      rw [normalizeYamlStream, h, joinLines_splitLines]

end YamlStream
end Scripts
end XStreamRoll
