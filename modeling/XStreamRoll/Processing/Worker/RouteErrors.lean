/-
The log of routing errors: `logRouteError` of the worker.

An error is logged when the last line about it is old enough, and counted otherwise; the next
line about it gives the count.  What is remembered is a map in the order of its insertions,
with at most a hundred keys.  A key that is new to a full map takes the place of the one whose
last line is the oldest, and the count of that one is lost.

The console and the evicted keys are logs that the worker does not keep.
-/
import XStreamRoll.Lists
import Mathlib.Algebra.BigOperators.Group.List.Basic
import Mathlib.Algebra.Order.Ring.Nat
import Mathlib.Data.List.Nodup

namespace XStreamRoll
namespace Processing

structure DedupeState where
  lastLoggedAtMs : Int
  suppressedBatch : Nat
  deriving DecidableEq

def routeErrorDedupeMs : Int := 30000

def maxTrackedErrorKeys : Nat := 100

/-- `routeErrorDedupe` -/
structure RouteErrorDedupe where
  entries : List (String × DedupeState)
  keys : (entries.map Prod.fst).Nodup

namespace RouteErrorDedupe

def empty : RouteErrorDedupe := ⟨[], List.nodup_nil⟩

def get (key : String) (map : RouteErrorDedupe) : Option DedupeState :=
  (map.entries.find? fun entry => entry.1 = key).map Prod.snd

def has (key : String) (map : RouteErrorDedupe) : Bool := (map.get key).isSome

def size (map : RouteErrorDedupe) : Nat := map.entries.length

def delete (key : String) (map : RouteErrorDedupe) : RouteErrorDedupe where
  entries := map.entries.filter fun entry => entry.1 ≠ key
  keys := (List.filter_sublist.map _).nodup map.keys

theorem ne_of_mem_delete {key : String} {map : RouteErrorDedupe} {entry : String × DedupeState}
    (h : entry ∈ (map.delete key).entries) : entry.1 ≠ key :=
  of_decide_eq_true (List.mem_filter.mp h).2

theorem keys_bump (key : String) (state : DedupeState) (map : RouteErrorDedupe) :
    (((map.delete key).entries ++ [(key, state)]).map Prod.fst).Nodup := by
  rw [List.map_append, List.map_singleton, ← List.concat_eq_append, List.nodup_concat]
  refine ⟨fun hmem => ?_, (map.delete key).keys⟩
  obtain ⟨entry, hentry, hkey⟩ := List.mem_map.mp hmem
  exact ne_of_mem_delete hentry hkey

/-- `delete` and `set`, which puts the key behind all others. -/
def bump (key : String) (state : DedupeState) (map : RouteErrorDedupe) : RouteErrorDedupe where
  entries := (map.delete key).entries ++ [(key, state)]
  keys := keys_bump key state map

/-- The entry that the loop has found, `none` before the first. -/
def older (found : Option (String × DedupeState)) (entry : String × DedupeState) :
    Option (String × DedupeState) :=
  match found with
  | none => some entry
  | some oldest =>
    if entry.2.lastLoggedAtMs < oldest.2.lastLoggedAtMs then some entry else found

def evictKey (map : RouteErrorDedupe) : Option String :=
  (map.entries.foldl older none).map Prod.fst

theorem get_delete_ne {key other : String} (hne : other ≠ key) (map : RouteErrorDedupe) :
    (map.delete key).get other = map.get other := by
  rw [get, get, delete, List.find?_filter]
  congr 2
  funext entry
  by_cases hother : entry.1 = other
  · simp [hother, hne]
  · simp [hother]

theorem get_delete_self (key : String) (map : RouteErrorDedupe) :
    (map.delete key).get key = none := by
  rw [get, List.find?_eq_none.mpr fun entry hmem => by simpa using ne_of_mem_delete hmem]
  rfl

theorem get_bump_self (key : String) (state : DedupeState) (map : RouteErrorDedupe) :
    (map.bump key state).get key = some state := by
  have hnone : (map.delete key).entries.find? (fun entry => entry.1 = key) = none :=
    Option.map_eq_none_iff.mp (get_delete_self key map)
  rw [get, bump, List.find?_append, hnone]
  simp

theorem get_bump_ne {key other : String} (hne : other ≠ key) (state : DedupeState)
    (map : RouteErrorDedupe) : (map.bump key state).get other = map.get other := by
  rw [← get_delete_ne hne map, get, get, bump, List.find?_append]
  simp [hne.symm]

theorem has_iff {key : String} {map : RouteErrorDedupe} :
    map.has key = true ↔ ∃ entry ∈ map.entries, entry.1 = key := by
  rw [has, get, Option.isSome_map, List.find?_isSome]
  simp

/-- A key that is there is deleted. -/
theorem size_delete_lt {key : String} {map : RouteErrorDedupe} (h : map.has key = true) :
    (map.delete key).size < map.size := by
  obtain ⟨entry, hmem, hkey⟩ := has_iff.mp h
  exact List.length_filter_lt_length_iff_exists.mpr ⟨entry, hmem, by simp [hkey]⟩

theorem size_bump (key : String) (state : DedupeState) (map : RouteErrorDedupe) :
    (map.bump key state).size = (map.delete key).size + 1 := List.length_append

theorem size_delete_le (key : String) (map : RouteErrorDedupe) :
    (map.delete key).size ≤ map.size := List.length_filter_le _ _

/-- The loop ends with one of the entries. -/
theorem foldl_older (entries : List (String × DedupeState)) (first : String × DedupeState) :
    ∃ entry ∈ first :: entries, entries.foldl older (some first) = some entry := by
  induction entries generalizing first with
  | nil => exact ⟨first, List.mem_cons_self, rfl⟩
  | cons next entries ih =>
    rw [List.foldl_cons, older]
    split
    · obtain ⟨entry, hmem, hentry⟩ := ih next
      exact ⟨entry, List.mem_cons_of_mem first hmem, hentry⟩
    · obtain ⟨entry, hmem, hentry⟩ := ih first
      refine ⟨entry, ?_, hentry⟩
      rcases List.mem_cons.mp hmem with rfl | hrest
      · exact List.mem_cons_self
      · exact List.mem_cons_of_mem first (List.mem_cons_of_mem next hrest)

/-- A map that has entries has a key to evict. -/
theorem evictKey_spec {map : RouteErrorDedupe} (h : 0 < map.size) :
    ∃ key, map.evictKey = some key ∧ map.has key = true := by
  obtain ⟨first, rest, hentries⟩ := List.exists_cons_of_length_pos h
  obtain ⟨entry, hmem, hentry⟩ := foldl_older rest first
  refine ⟨entry.1, ?_, has_iff.mpr ⟨entry, hentries ▸ hmem, rfl⟩⟩
  rw [evictKey, hentries, List.foldl_cons, older, hentry]
  rfl

end RouteErrorDedupe

structure RouteErrorCall where
  streamId : String
  message : String
  now : Int

def RouteErrorCall.key (call : RouteErrorCall) : String := call.streamId ++ "::" ++ call.message

/-- A line on the console. -/
structure RouteErrorLine where
  streamId : String
  message : String
  suppressed : Nat
  deriving DecidableEq

namespace RouteErrorLine

def key (line : RouteErrorLine) : String := line.streamId ++ "::" ++ line.message

def tag (line : RouteErrorLine) : String :=
  if line.suppressed > 0 then
    " (" ++ toString line.suppressed ++ " similar errors suppressed in the last " ++
      toString (routeErrorDedupeMs / 1000) ++ "s)"
  else ""

def text (workerId : String) (line : RouteErrorLine) : String :=
  "[" ++ workerId ++ "] routing event for " ++ line.streamId ++ " failed: " ++ line.message ++
    line.tag

end RouteErrorLine

def RouteErrorCall.line (suppressed : Nat) (call : RouteErrorCall) : RouteErrorLine :=
  ⟨call.streamId, call.message, suppressed⟩

theorem RouteErrorCall.line_key (suppressed : Nat) (call : RouteErrorCall) :
    (call.line suppressed).key = call.key := rfl

structure RouteErrors where
  dedupe : RouteErrorDedupe
  lines : List RouteErrorLine
  evicted : List String

namespace RouteErrors

def initial : RouteErrors := ⟨.empty, [], []⟩

def makeRoom (key : String) (s : RouteErrors) : RouteErrors :=
  if !s.dedupe.has key ∧ s.dedupe.size ≥ maxTrackedErrorKeys then
    match s.dedupe.evictKey with
    | some evictKey =>
      { s with dedupe := s.dedupe.delete evictKey, evicted := s.evicted ++ [evictKey] }
    | none => s
  else s

/-- The entry of the key, and the log. -/
def logKnown (call : RouteErrorCall) (s : RouteErrors) : RouteErrors :=
  let existing := (s.dedupe.get call.key).getD ⟨0, 0⟩
  if call.now - existing.lastLoggedAtMs ≥ routeErrorDedupeMs then
    { s with
      dedupe := s.dedupe.bump call.key ⟨call.now, 0⟩
      lines := s.lines ++ [call.line existing.suppressedBatch] }
  else
    { s with
      dedupe := s.dedupe.bump call.key { existing with
        suppressedBatch := existing.suppressedBatch + 1 } }

def logRouteError (s : RouteErrors) (call : RouteErrorCall) : RouteErrors :=
  (s.makeRoom call.key).logKnown call

def after (calls : List RouteErrorCall) : RouteErrors := calls.foldl logRouteError initial

/-! ## What is counted -/

/-- The count that the next line about the key will give. -/
def pending (key : String) (s : RouteErrors) : Nat :=
  ((s.dedupe.get key).map DedupeState.suppressedBatch).getD 0

def linesFor (key : String) (s : RouteErrors) : List RouteErrorLine :=
  s.lines.filter fun line => line.key = key

/-- The calls that the state shows for the key. -/
def shown (key : String) (s : RouteErrors) : Nat :=
  (s.linesFor key).length + ((s.linesFor key).map RouteErrorLine.suppressed).sum + s.pending key

/-- What has been called is accounted for, but for the keys that were evicted. -/
structure Accounted (calls : List RouteErrorCall) (s : RouteErrors) : Prop where
  bounded : s.dedupe.size ≤ maxTrackedErrorKeys
  counts : ∀ key, key ∉ s.evicted → calls.countP (fun call => call.key = key) = s.shown key

/-! ## One call -/

variable {key other : String} {s : RouteErrors} {call : RouteErrorCall}

/-- There is room for the key when the other entries are counted. -/
theorem size_makeRoom (h : s.dedupe.size ≤ maxTrackedErrorKeys) (key : String) :
    ((s.makeRoom key).dedupe.delete key).size < maxTrackedErrorKeys := by
  have hsmaller := s.dedupe.size_delete_le key
  rw [makeRoom]
  split
  · next hfull =>
    have hpos : 0 < s.dedupe.size := Nat.lt_of_lt_of_le (by decide) hfull.2
    obtain ⟨evictKey, hevict, hhas⟩ := RouteErrorDedupe.evictKey_spec hpos
    rw [hevict]
    exact Nat.lt_of_le_of_lt (RouteErrorDedupe.size_delete_le key _)
      (Nat.lt_of_lt_of_le (RouteErrorDedupe.size_delete_lt hhas) h)
  · next hroom =>
    by_cases hhas : s.dedupe.has key = true
    · exact Nat.lt_of_lt_of_le (RouteErrorDedupe.size_delete_lt hhas) h
    · have hlt : s.dedupe.size < maxTrackedErrorKeys := by
        by_contra hfull
        exact hroom ⟨by simpa using hhas, Nat.le_of_not_lt hfull⟩
      exact Nat.lt_of_le_of_lt hsmaller hlt

/-- A key that is not evicted keeps its count. -/
theorem makeRoom_spec (h : other ∉ (s.makeRoom key).evicted) :
    other ∉ s.evicted ∧ (s.makeRoom key).shown other = s.shown other := by
  rw [makeRoom] at h ⊢
  split at h
  · next hfull =>
    rw [if_pos hfull]
    cases hevict : s.dedupe.evictKey with
    | none =>
      rw [hevict] at h
      exact ⟨h, rfl⟩
    | some evictKey =>
      rw [hevict] at h
      have hold : other ∉ s.evicted := fun hmem => h (List.mem_append_left _ hmem)
      have hne : other ≠ evictKey := fun heq => h (List.mem_append_right _ (by simp [heq]))
      refine ⟨hold, ?_⟩
      show _ + _ + (((s.dedupe.delete evictKey).get other).map _).getD 0 = _
      rw [RouteErrorDedupe.get_delete_ne hne]
      rfl
  · next hroom =>
    rw [if_neg hroom]
    exact ⟨h, rfl⟩

theorem logKnown_evicted (call : RouteErrorCall) (s : RouteErrors) :
    (s.logKnown call).evicted = s.evicted := by
  rw [logKnown]
  split <;> rfl

theorem logKnown_size (call : RouteErrorCall) (s : RouteErrors) :
    (s.logKnown call).dedupe.size = (s.dedupe.delete call.key).size + 1 := by
  rw [logKnown]
  split <;> exact RouteErrorDedupe.size_bump ..

theorem linesFor_append_self {line : RouteErrorLine} (h : line.key = key) :
    (s.lines ++ [line]).filter (fun line => line.key = key) = s.linesFor key ++ [line] := by
  rw [List.filter_append, List.filter_singleton, decide_eq_true h]
  rfl

theorem linesFor_append_ne {line : RouteErrorLine} (h : line.key ≠ key) :
    (s.lines ++ [line]).filter (fun line => line.key = key) = s.linesFor key := by
  rw [List.filter_append, List.filter_singleton, decide_eq_false h]
  exact List.append_nil _

/-- The call is shown as a line, with what was pending, or as pending. -/
theorem shown_logKnown_self (call : RouteErrorCall) (s : RouteErrors) :
    (s.logKnown call).shown call.key = s.shown call.key + 1 := by
  have hexisting : ((s.dedupe.get call.key).getD ⟨0, 0⟩).suppressedBatch = s.pending call.key := by
    rw [pending]
    cases s.dedupe.get call.key <;> rfl
  rw [logKnown]
  split
  · rw [shown, linesFor, pending, RouteErrorDedupe.get_bump_self]
    dsimp only
    rw [linesFor_append_self (call.line_key _), List.length_append, List.map_append,
      List.sum_append, hexisting]
    simp only [List.length_singleton, List.map_singleton, List.sum_singleton, Option.map_some,
      Option.getD_some, shown, RouteErrorCall.line]
    omega
  · rw [shown, linesFor, pending, RouteErrorDedupe.get_bump_self, hexisting]
    simp only [Option.map_some, Option.getD_some, shown, linesFor]
    omega

theorem shown_logKnown_ne (hne : other ≠ call.key) (s : RouteErrors) :
    (s.logKnown call).shown other = s.shown other := by
  rw [logKnown]
  split
  · rw [shown, linesFor, pending, RouteErrorDedupe.get_bump_ne hne]
    dsimp only
    rw [linesFor_append_ne fun hkey => hne ((call.line_key _).symm.trans hkey).symm]
    rfl
  · rw [shown, linesFor, pending, RouteErrorDedupe.get_bump_ne hne]
    rfl

theorem initial_accounted : Accounted [] initial where
  bounded := Nat.zero_le _
  counts _ _ := rfl

theorem Accounted.log {calls : List RouteErrorCall} (h : Accounted calls s)
    (call : RouteErrorCall) : Accounted (calls ++ [call]) (s.logRouteError call) where
  bounded := by
    rw [logRouteError, logKnown_size]
    exact size_makeRoom h.bounded call.key
  counts := by
    intro key hkey
    rw [logRouteError, logKnown_evicted] at hkey
    obtain ⟨hold, hshown⟩ := makeRoom_spec hkey
    rw [countP_concat, h.counts key hold, ← hshown, logRouteError]
    by_cases hcall : key = call.key
    · rw [hcall, shown_logKnown_self, decide_eq_true rfl]
      rfl
    · rw [shown_logKnown_ne hcall, decide_eq_false (Ne.symm hcall)]
      rfl

/-! ## Every run -/

theorem Accounted.foldl {done : List RouteErrorCall} (h : Accounted done s)
    (calls : List RouteErrorCall) : Accounted (done ++ calls) (calls.foldl logRouteError s) := by
  induction calls generalizing done s with
  | nil => rwa [List.append_nil]
  | cons call calls ih =>
    have hrest := ih (h.log call)
    rwa [List.append_assoc] at hrest

/-- At most a hundred keys are remembered, and the calls for a key that was never evicted are its
lines, what these lines say was suppressed, and what is still pending. -/
theorem logRouteError_accounted (calls : List RouteErrorCall) :
    (after calls).dedupe.size ≤ 100 ∧
      ∀ key, key ∉ (after calls).evicted →
        calls.countP (fun call => call.key = key) =
          ((after calls).linesFor key).length +
            (((after calls).linesFor key).map RouteErrorLine.suppressed).sum +
            (after calls).pending key := by
  have haccounted := initial_accounted.foldl calls
  exact ⟨haccounted.bounded, haccounted.counts⟩

/-- Two repeats are suppressed, and reported by the fourth call; the fifth is pending. -/
theorem logRouteError_accounted_repeats :
    let calls := [0, 1000, 2000, 31000, 32000].map fun passed =>
      (⟨"7", "timeout", 1735689600000 + passed⟩ : RouteErrorCall)
    calls.countP (fun call => call.key = "7::timeout") = 2 + 2 + 1 := by
  intro calls
  have haccounted := (logRouteError_accounted calls).2 "7::timeout" (by decide)
  exact haccounted

end RouteErrors
end Processing
end XStreamRoll
