/-
Which events share an entry of the dead-letter file.

The key of an event with an id is its stream id, a colon and its id.  Nothing escapes
the colons inside the two parts, so a key says where the parts meet only as long as it
has no other colon.  Two different events have the same key exactly when the longer
stream id is the shorter one with a colon and some text behind it, and the id of the
other event begins with that text and a colon.
-/
import XStreamRoll.Processing.DeadLetterStore.Durable

namespace XStreamRoll
namespace Processing

open Transition

variable {Data : Type}

/-- `s ++ ":" ++ id` and `s' ++ ":" ++ id'` meet in a colon of `id'`. -/
def ReachesInto (s id s' id' : String) : Prop :=
  ∃ w, s = s' ++ ":" ++ w ∧ id' = w ++ ":" ++ id

theorem join_eq_join_iff {s id s' id' : List Char} {c : Char} :
    s ++ c :: id = s' ++ c :: id' ↔
      s = s' ∧ id = id' ∨ (∃ w, s = s' ++ c :: w ∧ id' = w ++ c :: id) ∨
        ∃ w, s' = s ++ c :: w ∧ id = w ++ c :: id' := by
  constructor
  · intro h
    rcases List.append_eq_append_iff.mp h with ⟨as, hs, htail⟩ | ⟨as, hs, htail⟩
    · cases as with
      | nil =>
        rw [List.append_nil] at hs
        rw [List.nil_append, List.cons.injEq] at htail
        exact .inl ⟨hs.symm, htail.2⟩
      | cons first w =>
        rw [List.cons_append, List.cons.injEq] at htail
        obtain ⟨rfl, hid⟩ := htail
        exact .inr (.inr ⟨w, hs, hid⟩)
    · cases as with
      | nil =>
        rw [List.append_nil] at hs
        rw [List.nil_append, List.cons.injEq] at htail
        exact .inl ⟨hs, htail.2.symm⟩
      | cons first w =>
        rw [List.cons_append, List.cons.injEq] at htail
        obtain ⟨rfl, hid⟩ := htail
        exact .inr (.inl ⟨w, hs, hid⟩)
  · rintro (⟨rfl, rfl⟩ | ⟨w, rfl, rfl⟩ | ⟨w, rfl, rfl⟩)
    · rfl
    · rw [List.append_assoc, List.cons_append]
    · rw [List.append_assoc, List.cons_append]

theorem toList_join (s id : String) : (s ++ ":" ++ id).toList = s.toList ++ ':' :: id.toList := by
  rw [String.toList_append, String.toList_append, List.append_assoc]
  rfl

theorem reachesInto_iff {s id s' id' : String} :
    ReachesInto s id s' id' ↔
      ∃ w, s.toList = s'.toList ++ ':' :: w ∧ id'.toList = w ++ ':' :: id.toList := by
  constructor
  · rintro ⟨w, hs, hid⟩
    exact ⟨w.toList, by rw [hs, toList_join], by rw [hid, toList_join]⟩
  · rintro ⟨w, hs, hid⟩
    refine ⟨String.ofList w, String.toList_injective ?_, String.toList_injective ?_⟩
    · rw [hs, toList_join, String.toList_ofList]
    · rw [hid, toList_join, String.toList_ofList]

theorem join_eq_iff {s id s' id' : String} :
    s ++ ":" ++ id = s' ++ ":" ++ id' ↔
      s = s' ∧ id = id' ∨ ReachesInto s id s' id' ∨ ReachesInto s' id' s id := by
  rw [← String.toList_inj, toList_join, toList_join, join_eq_join_iff, String.toList_inj,
    String.toList_inj, reachesInto_iff, reachesInto_iff]

theorem ReachesInto.ne {s id s' id' : String} (h : ReachesInto s id s' id') : s ≠ s' := by
  rintro rfl
  obtain ⟨w, hs, -⟩ := reachesInto_iff.mp h
  have hlength := congrArg List.length hs
  rw [List.length_append, List.length_cons] at hlength
  omega

/-! ## Keys of events -/

/-- The parts that a key is made of. -/
def StreamEvent.sameIdentity (e e' : StreamEvent Data) : Prop :=
  e.streamId = e'.streamId ∧ e.id = e'.id

instance (e e' : StreamEvent Data) : Decidable (e.sameIdentity e') :=
  inferInstanceAs (Decidable (_ ∧ _))

/-- One of the stream ids is the other with a colon and a text `w` behind it, and the
id of the other event is `w`, a colon and the id of this one. -/
def StreamEvent.Overlaps (e e' : StreamEvent Data) : Prop :=
  ReachesInto e.streamId (e.id.getD "") e'.streamId (e'.id.getD "") ∨
    ReachesInto e'.streamId (e'.id.getD "") e.streamId (e.id.getD "")

namespace FileDeadLetterStore

variable {p : EventHash Data} {e e' : StreamEvent Data}

theorem eventKey_eq (h : e.id.getD "" ≠ "") :
    p.eventKey e = e.streamId ++ ":" ++ e.id.getD "" := by
  unfold EventHash.eventKey
  split
  · next hid =>
    rw [hid] at h
    exact absurd rfl h
  · next hid =>
    rw [hid] at h
    exact absurd rfl h
  · next id _ hid =>
    rw [hid]
    rfl

theorem id_eq_iff (h : e.id.getD "" ≠ "") (h' : e'.id.getD "" ≠ "") :
    e.id.getD "" = e'.id.getD "" ↔ e.id = e'.id := by
  cases hid : e.id with
  | none =>
    rw [hid] at h
    exact absurd rfl h
  | some id =>
    cases hid' : e'.id with
    | none =>
      rw [hid'] at h'
      exact absurd rfl h'
    | some id' =>
      rw [Option.getD_some, Option.getD_some, Option.some.injEq]

theorem eventKey_eq_iff (h : e.id.getD "" ≠ "") (h' : e'.id.getD "" ≠ "") :
    p.eventKey e = p.eventKey e' ↔ e.sameIdentity e' ∨ e.Overlaps e' := by
  rw [eventKey_eq h, eventKey_eq h', join_eq_iff, id_eq_iff h h']
  rfl

theorem not_sameIdentity_of_overlaps (h : e.Overlaps e') : ¬e.sameIdentity e' := by
  intro hsame
  rcases h with hinto | hinto
  · exact hinto.ne hsame.1
  · exact hinto.ne hsame.1.symm

/-- Stream ids without a colon, as the ids of the API are, never overlap. -/
theorem not_overlaps_of_plain (h : ':' ∉ e.streamId.toList) (h' : ':' ∉ e'.streamId.toList) :
    ¬e.Overlaps e' := by
  rintro (hinto | hinto)
  · obtain ⟨w, hs, -⟩ := reachesInto_iff.mp hinto
    exact h (by simp [hs])
  · obtain ⟨w, hs, -⟩ := reachesInto_iff.mp hinto
    exact h' (by simp [hs])

/-- The keys of the two events tell them apart, and recording the one never touches the
entry of the other. -/
def Separated (p : EventHash Data) (e e' : StreamEvent Data) : Prop :=
  (p.eventKey e = p.eventKey e' → e.sameIdentity e') ∧
    ∀ (now : Date) (error : String) (attempts : Nat) (records : Records Data),
      ¬e.sameIdentity e' →
        (change p now ⟨e, error, attempts⟩ records).lookup (p.eventKey e') =
          records.lookup (p.eventKey e')

/-- Two events with non-empty ids are separated unless a colon inside one of their ids
stands where the other key has its own. -/
theorem events_separated_iff (p : EventHash Data) (e e' : StreamEvent Data)
    (h : e.id.getD "" ≠ "") (h' : e'.id.getD "" ≠ "") :
    Separated p e e' ↔ ¬e.Overlaps e' := by
  constructor
  · intro hseparated hoverlaps
    have hkeys : p.eventKey e = p.eventKey e' := (eventKey_eq_iff h h').mpr (.inr hoverlaps)
    exact not_sameIdentity_of_overlaps hoverlaps (hseparated.1 hkeys)
  · intro hnot
    have hkeys : p.eventKey e = p.eventKey e' → e.sameIdentity e' := by
      intro heq
      rcases (eventKey_eq_iff h h').mp heq with hsame | hoverlaps
      · exact hsame
      · exact absurd hoverlaps hnot
    refine ⟨hkeys, ?_⟩
    intro now error attempts records hdifferent
    exact lookup_change_ne (fun heq => hdifferent (hkeys heq)) now records

def keyedEvent (streamId id : String) : StreamEvent Unit := ⟨some id, streamId, (), ⟨"", none⟩⟩

theorem events_separated_plainIds :
    Separated plainHash (keyedEvent "1" "a:b") (keyedEvent "2" "a:b") := by
  apply (events_separated_iff plainHash _ _ (by decide) (by decide)).mpr
  exact not_overlaps_of_plain (by decide) (by decide)

/-- The dead letter of event "c" of stream "a:b" goes into the entry of event "b:c" of
stream "a". -/
theorem events_share_entry : ¬∀ e e' : StreamEvent Unit, e.id.getD "" ≠ "" →
    e'.id.getD "" ≠ "" → Separated plainHash e e' := by
  intro h
  have hseparated := h (keyedEvent "a:b" "c") (keyedEvent "a" "b:c") (by decide) (by decide)
  exact absurd (hseparated.1 (by decide)) (by decide)

/-! ## Every run -/

/-- In every run the entry of an event holds its own failures only, as long as no other
event that was recorded overlaps it. -/
theorem entry_of_own_failures {file temporary : Option (Document Data)}
    {as : List (Action Data)} {s : FileDeadLetterStore Data}
    (hrun : run (step p) (initial file temporary) as = some s) (he : e.id.getD "" ≠ "")
    (hids : ∀ x ∈ s.successes, x.1.event.id.getD "" ≠ "")
    (hapart : ∀ x ∈ s.successes, ¬x.1.event.Overlaps e) :
    (loaded s.file).lookup (p.eventKey e) =
      entryAfter (p.eventKey e) ((loaded file).lookup (p.eventKey e))
        (s.successes.filter fun x => x.1.event.sameIdentity e) := by
  rw [(file_holds_successes hrun (run_nil s)).2.1 (p.eventKey e)]
  congr 1
  apply List.filter_congr
  intro x hx
  rw [decide_eq_decide, eventKey_eq_iff (hids x hx) he]
  exact or_iff_left (hapart x hx)

end FileDeadLetterStore

end Processing
end XStreamRoll
