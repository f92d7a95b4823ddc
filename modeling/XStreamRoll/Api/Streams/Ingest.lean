/-
The size of an ingested payload.

The limit is 65536 bytes, and what is compared with it is the length of a JavaScript string,
which counts code units of UTF-16.  A character takes at least as many bytes in UTF-8 as it
takes code units, so nothing within the limit is refused for its size, and a text whose
letters take two bytes each is let through up to twice the limit.
-/
import Mathlib.Data.String.Basic
import XStreamRoll.Api.Streams.Backends

namespace XStreamRoll

/-! ## Code units and bytes -/

namespace Json

theorem length_codeUnits (c : Char) : (codeUnits c).length ≤ c.utf8Size := by
  have size : c.utf8Size = if c.toNat ≤ 0x7f then 1 else if c.toNat ≤ 0x7ff then 2
      else if c.toNat ≤ 0xffff then 3 else 4 := rfl
  rw [size]
  unfold codeUnits
  split
  · rw [List.length_singleton]
    split
    · exact le_refl _
    · split
      · decide
      · split <;> decide
  · next large =>
    rw [if_neg (by omega), if_neg (by omega), if_neg (by omega)]
    exact (by decide : 2 ≤ 4)

theorem length_flatMap_codeUnits (cs : List Char) :
    (cs.flatMap codeUnits).length ≤ String.utf8Len cs := by
  induction cs with
  | nil => exact le_refl _
  | cons c cs ih =>
    rw [List.flatMap_cons, List.length_append, String.utf8Len_cons, Nat.add_comm]
    exact Nat.add_le_add ih (length_codeUnits c)

theorem length_le_utf8ByteSize (text : String) : length text ≤ text.utf8ByteSize := by
  rw [← String.utf8Len_toList]
  exact length_flatMap_codeUnits text.toList

end Json

namespace Api

/-! ## The check -/

section

variable {σ : Type} (repo : Repository σ Json) (now : Date)

/-- `ingestEvent` goes through. -/
def Ingests (dto : IngestStreamEventDto) (s : σ) : Prop :=
  ∃ event, (StreamsService.ingestEvent repo now dto s).1 = .ok event

/-- The repository stores the payload: it knows the stream, and takes the value. -/
def Stores (streamId : Int) (payload : Json) (s : σ) : Prop :=
  ∃ event, (repo.insertPendingEvent now streamId payload s).1 = .ok event

/-- The stream exists.  Who has the API key may ingest for every stream. -/
def Knows (streamId : Int) (s : σ) : Prop := ∃ stream, repo.findById streamId s = .ok (some stream)

/-- The limit is one of bytes. -/
structure LimitsBytes (dto : IngestStreamEventDto) (fields : List (String × Json)) (s : σ) :
    Prop where
  within : Ingests repo now { dto with data := some (.object fields) } s →
    (Json.object fields).stringify.utf8ByteSize ≤ MAX_INGEST_PAYLOAD_BYTES
  accepts : Knows repo dto.number s →
    (Json.object fields).stringify.utf8ByteSize ≤ MAX_INGEST_PAYLOAD_BYTES →
      Ingests repo now { dto with data := some (.object fields) } s

theorem ingests_iff (dto : IngestStreamEventDto) (fields : List (String × Json)) (s : σ) :
    Ingests repo now { dto with data := some (.object fields) } s ↔
      Json.length (Json.object fields).stringify ≤ MAX_INGEST_PAYLOAD_BYTES ∧
        Stores repo now dto.number (.object fields) s := by
  unfold Ingests
  rw [Backends.ingestEvent_object repo now rfl]
  by_cases large : MAX_INGEST_PAYLOAD_BYTES < Json.length (Json.object fields).stringify
  · rw [if_pos large]
    constructor
    · rintro ⟨event, accepted⟩
      cases accepted
    · rintro ⟨small, -⟩
      exact absurd large (not_lt.mpr small)
  · rw [if_neg large]
    exact ⟨fun stored => ⟨not_lt.mp large, stored⟩, And.right⟩

/-- The limit is one of bytes for a payload unless its text passes the check and is longer in
bytes, and the repository stores it; or unless the text is short enough and the repository
does not take the payload for a stream that it has. -/
theorem ingests_bytes_iff (dto : IngestStreamEventDto) (fields : List (String × Json)) (s : σ) :
    LimitsBytes repo now dto fields s ↔
      (Stores repo now dto.number (.object fields) s →
        Json.length (Json.object fields).stringify ≤ MAX_INGEST_PAYLOAD_BYTES →
          (Json.object fields).stringify.utf8ByteSize ≤ MAX_INGEST_PAYLOAD_BYTES) ∧
      (Knows repo dto.number s →
        (Json.object fields).stringify.utf8ByteSize ≤ MAX_INGEST_PAYLOAD_BYTES →
          Stores repo now dto.number (.object fields) s) := by
  have lengths := Json.length_le_utf8ByteSize (Json.object fields).stringify
  have passes := ingests_iff repo now dto fields s
  constructor
  · intro limits
    refine ⟨fun stored small => limits.within (passes.mpr ⟨small, stored⟩), fun known fits => ?_⟩
    exact (passes.mp (limits.accepts known fits)).2
  · rintro ⟨bytes, takes⟩
    refine ⟨fun accepted => ?_, fun known fits => ?_⟩
    · obtain ⟨small, stored⟩ := passes.mp accepted
      exact bytes stored small
    · exact passes.mpr ⟨le_trans lengths fits, takes known fits⟩

end

/-- The store takes every payload for a stream that it has. -/
theorem memory_stores_iff (folding : CaseFolding) (tagsRepository : Option (List (Int × Int)))
    (now : Date) (streamId : Int) (payload : Json) (store : StreamsRepository Json) :
    Stores (StreamsRepository.repository folding tagsRepository) now streamId payload store ↔
      Knows (StreamsRepository.repository folding tagsRepository) streamId store := by
  unfold Stores Knows StreamsRepository.repository
  simp only [StreamsRepository.insertPendingEvent]
  cases store.findById streamId with
  | none =>
    refine iff_of_false ?_ ?_
    · rintro ⟨event, ⟨⟩⟩
    · rintro ⟨stream, ⟨⟩⟩
  | some stream => exact iff_of_true ⟨_, rfl⟩ ⟨stream, rfl⟩

theorem database_knows_iff (pg : Postgres) (streamId : Int) (db : StreamsDatabase) :
    Knows (StreamsDbRepository.repository pg) streamId db ↔
      fitsInteger streamId = true ∧ (db.streams.find streamId).isSome = true := by
  unfold Knows StreamsDbRepository.repository
  simp only [StreamsDbRepository.findById]
  by_cases fits : fitsInteger streamId = true
  · rw [if_pos fits, and_iff_right fits, Option.isSome_iff_exists]
    constructor
    · rintro ⟨stream, found⟩
      obtain ⟨row, hrow, -⟩ := Option.map_eq_some_iff.mp (Except.ok.inj found)
      exact ⟨row, hrow⟩
    · rintro ⟨row, hrow⟩
      exact ⟨row.rowToStream, by rw [hrow]; rfl⟩
  · rw [if_neg fits]
    refine iff_of_false ?_ fun both => fits both.1
    rintro ⟨stream, ⟨⟩⟩

/-- The database also asks whether the value is one for JSONB, and for a free id. -/
theorem database_stores_iff (pg : Postgres) (now : Date) (streamId : Int) (payload : Json)
    (db : StreamsDatabase) :
    Stores (StreamsDbRepository.repository pg) now streamId payload db ↔
      Knows (StreamsDbRepository.repository pg) streamId db ∧
        db.nextDataId ≤ 2147483647 ∧ (pg.jsonb payload).isSome = true := by
  rw [database_knows_iff]
  unfold Stores StreamsDbRepository.repository
  simp only [StreamsDbRepository.insertPendingEvent]
  constructor
  · rintro ⟨event, stored⟩
    split at stored
    · next room =>
      split at stored
      · cases stored
      · next value taken =>
        split at stored
        · next found => exact ⟨⟨room.1, found⟩, room.2, by rw [taken]; rfl⟩
        · cases stored
    · cases stored
  · rintro ⟨⟨fits, found⟩, free, taken⟩
    obtain ⟨value, hvalue⟩ := Option.isSome_iff_exists.mp taken
    refine ⟨(db.createdData streamId value now.toTimestamptz).toPendingEvent, ?_⟩
    rw [if_pos ⟨fits, free⟩, hvalue]
    simp only [dif_pos found]

/-! ## Letters with an accent -/

/-- A payload with so many letters of two bytes. -/
def accented (n : Nat) : List (String × Json) :=
  [("k", .string (String.ofList (List.replicate n 'é')))]

theorem stringify_accented (n : Nat) : (Json.object (accented n)).stringify.toList =
    '{' :: "\"k\":\"".toList ++ List.replicate n 'é' ++ ['"', '}'] := by
  have plain : (List.replicate n 'é').flatMap Json.escapeChar = List.replicate n 'é' := by
    induction n with
    | zero => rfl
    | succ n ih =>
      rw [List.replicate_succ, List.flatMap_cons, ih]
      rfl
  have text : (Json.object (accented n)).stringify =
      Json.inBraces (Json.quote "k" ++ ":" ++
        Json.quote (String.ofList (List.replicate n 'é'))) := rfl
  rw [text]
  simp only [Json.toList_inBraces, Json.quote, String.toList_append, String.toList_ofList, plain]
  simp only [List.append_assoc]
  rfl

theorem length_accented (n : Nat) :
    Json.length (Json.object (accented n)).stringify = n + 8 := by
  have letters : ((List.replicate n 'é').flatMap Json.codeUnits).length = n := by
    rw [List.length_flatMap, List.map_replicate]
    exact (List.sum_replicate_nat).trans (Nat.mul_one n)
  have ends : (('{' :: "\"k\":\"".toList).flatMap Json.codeUnits).length = 6 ∧
      (['"', '}'].flatMap Json.codeUnits).length = 2 := by decide
  rw [Json.length, stringify_accented, List.flatMap_append, List.flatMap_append, List.length_append,
    List.length_append, letters]
  omega

theorem utf8ByteSize_accented (n : Nat) :
    (Json.object (accented n)).stringify.utf8ByteSize = 2 * n + 8 := by
  have letters : String.utf8Len (List.replicate n 'é') = 2 * n := by
    induction n with
    | zero => rfl
    | succ n ih =>
      rw [List.replicate_succ, String.utf8Len_cons, ih]
      rfl
  have ends : String.utf8Len ('{' :: "\"k\":\"".toList) = 6 ∧ String.utf8Len ['"', '}'] = 2 := by
    decide
  rw [← String.utf8Len_toList, stringify_accented, String.utf8Len_append, String.utf8Len_append,
    letters]
  omega

/-- The public stream 1 in memory. -/
def storeWithPublic : StreamsRepository Json :=
  ⟨storeWithoutPrivate.streamsById, storeWithoutPrivate.nextId, [], [], 1,
    storeWithoutPrivate.keys, storeWithoutPrivate.serial, storeWithoutPrivate.nextId_pos⟩

def toPublic : IngestStreamEventDto :=
  ⟨"1", none, List.cons_ne_nil _ _, List.forall_mem_singleton.mpr rfl⟩

/-- Forty thousand of them are accepted, and take eighty thousand bytes. -/
theorem ingests_accented :
    ¬∀ (σ : Type) (repo : Repository σ Json) (now : Date) (dto : IngestStreamEventDto)
      (fields : List (String × Json)) (s : σ), LimitsBytes repo now dto fields s := by
  intro always
  have stored : Stores (StreamsRepository.repository plainFolding none) ⟨0⟩ toPublic.number
      (.object (accented 40000)) storeWithPublic := ⟨_, rfl⟩
  have bytes := ((ingests_bytes_iff _ _ _ _ _).mp (always _ _ _ _ _ _)).1 stored
    (by rw [length_accented]; decide)
  rw [utf8ByteSize_accented] at bytes
  exact absurd bytes (by decide)

end Api
end XStreamRoll
