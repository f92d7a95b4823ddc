/-
Who owns which stream inside one worker, with everything else left out.

A roster has the sessions in the map, the tokens stored for them, the claims
asked of the lock manager, and the routes that wait for a claim.  Its moves are
what a registry does to these: ask for a claim or join one in flight, receive
and settle the answer, resume a route in one of four ways, end a session, drain.

`Orderly` names the moves after which ownership stays coherent.  A route may ask
for a claim only if no granted claim of its stream still has routes to resume,
and a resumed route may spawn only under a token that no session has had.  From
there on a stream has at most one claim that matters: the one in flight, the one
whose routes have not all resumed, or the one its session runs under.
-/
import Mathlib.Data.List.Basic
import Mathlib.Logic.Function.Basic
import XStreamRoll.Heap
import XStreamRoll.Transition

namespace XStreamRoll
namespace Processing

open Transition

/-- A claim asked of the lock manager.  Its grant is unknown, then refused (or
failed), or a token. -/
structure Claim where
  stream : String
  grant : Option (Option String)
  settled : Bool
deriving DecidableEq, Repr

/-- A session object: its stream, the token it was spawned under, and whether it
runs or drains. -/
structure Member where
  stream : String
  claim : String
  live : Bool
deriving DecidableEq, Repr

@[ext] structure Roster where
  sessions : String → Option Nat
  tokens : String → Option String
  inflight : String → Option Nat
  objects : List Member
  claims : List Claim
  /-- The routes that await a claim: stream, and index of the claim. -/
  waiting : List (String × Nat)
  /-- The tokens that the worker has asked the lock manager to release. -/
  released : List String

namespace Roster

inductive Move where
  | ask (stream : String)
  | join (stream : String) (i : Nat)
  | answer (i : Nat) (grant : Option String)
  | settle (i : Nat)
  /-- A waiting route resumes: its claim was refused, it finds the session that
  runs under its token, it finds another session, or it spawns one. -/
  | leave (j : Nat)
  | share (j : Nat)
  | surplus (j : Nat)
  | spawn (j : Nat)
  | ended (o : Nat)
  | drained
deriving DecidableEq

/-- The session object is no longer live, and leaves the map if it is there. -/
def endSession (o : Nat) (m : Member) (ro : Roster) : Roster :=
  let ro := { ro with objects := ro.objects.set o { m with live := false } }
  if ro.sessions m.stream = some o then
    { ro with
      sessions := Function.update ro.sessions m.stream none
      tokens := Function.update ro.tokens m.stream none
      released := ro.released ++ (ro.tokens m.stream).toList }
  else ro

theorem endSession_sessions (o : Nat) (m : Member) (ro : Roster) :
    (ro.endSession o m).sessions =
      if ro.sessions m.stream = some o then Function.update ro.sessions m.stream none
      else ro.sessions := by
  by_cases h : ro.sessions m.stream = some o
  · simp only [endSession, h, if_true]
  · simp only [endSession, h, if_false]

@[simp] theorem endSession_objects (o : Nat) (m : Member) (ro : Roster) :
    (ro.endSession o m).objects = ro.objects.set o { m with live := false } := by
  by_cases h : ro.sessions m.stream = some o
  · simp only [endSession, h, if_true]
  · simp only [endSession, h, if_false]

@[simp] theorem endSession_claims (o : Nat) (m : Member) (ro : Roster) :
    (ro.endSession o m).claims = ro.claims := by
  by_cases h : ro.sessions m.stream = some o
  · simp only [endSession, h, if_true]
  · simp only [endSession, h, if_false]

@[simp] theorem endSession_waiting (o : Nat) (m : Member) (ro : Roster) :
    (ro.endSession o m).waiting = ro.waiting := by
  by_cases h : ro.sessions m.stream = some o
  · simp only [endSession, h, if_true]
  · simp only [endSession, h, if_false]

/-- The claim that the waiting route `j` resumes with. -/
def resuming (ro : Roster) (j : Nat) : Option (String × Option (Option String)) :=
  (ro.waiting[j]?).bind fun w =>
    (ro.claims[w.2]?).bind fun c => if c.settled then some (w.1, c.grant) else none

def step (ro : Roster) : Move → Option Roster
  | .ask stream =>
    if ro.sessions stream = none ∧ ro.inflight stream = none then
      some { ro with
        claims := ro.claims ++ [⟨stream, none, false⟩]
        inflight := Function.update ro.inflight stream (some ro.claims.length)
        waiting := ro.waiting ++ [(stream, ro.claims.length)] }
    else none
  | .join stream i =>
    if ro.inflight stream = some i then some { ro with waiting := ro.waiting ++ [(stream, i)] }
    else none
  | .answer i grant =>
    match ro.claims[i]? with
    | none => none
    | some c =>
      if c.grant.isSome then none
      else some { ro with claims := ro.claims.set i { c with grant := some grant } }
  | .settle i =>
    match ro.claims[i]? with
    | none => none
    | some c =>
      if c.grant.isNone ∨ c.settled = true then none
      else some { ro with
        claims := ro.claims.set i { c with settled := true }
        inflight := Function.update ro.inflight c.stream none }
  | .leave j =>
    if (ro.resuming j).map (·.2) = some (some none) then
      some { ro with waiting := ro.waiting.eraseIdx j }
    else none
  | .share j =>
    match ro.resuming j with
    | some (stream, some (some k)) =>
      if ro.sessions stream ≠ none ∧ ro.tokens stream = some k then
        some { ro with waiting := ro.waiting.eraseIdx j }
      else none
    | _ => none
  | .surplus j =>
    match ro.resuming j with
    | some (stream, some (some k)) =>
      if ro.sessions stream ≠ none ∧ ro.tokens stream ≠ some k then
        some { ro with waiting := ro.waiting.eraseIdx j, released := ro.released ++ [k] }
      else none
    | _ => none
  | .spawn j =>
    match ro.resuming j with
    | some (stream, some (some k)) =>
      if ro.sessions stream = none then
        some { ro with
          waiting := ro.waiting.eraseIdx j
          objects := ro.objects ++ [⟨stream, k, true⟩]
          sessions := Function.update ro.sessions stream (some ro.objects.length)
          tokens := Function.update ro.tokens stream (some k) }
      else none
    | _ => none
  | .ended o =>
    match ro.objects[o]? with
    | none => none
    | some m => some (ro.endSession o m)
  | .drained =>
    some { ro with
      sessions := fun _ => none, tokens := fun _ => none, inflight := fun _ => none }

def empty : Roster := ⟨fun _ => none, fun _ => none, fun _ => none, [], [], [], []⟩

/-- What a move does to the sessions: nothing, or it spawns one, ends one, or drops
them all from the map. -/
theorem step_sessions {ro ro' : Roster} {m : Move} (hs : ro.step m = some ro') :
    (ro'.sessions = ro.sessions ∧ ro'.objects = ro.objects) ∨
    (∃ stream k, ro.sessions stream = none ∧
      ro'.sessions = Function.update ro.sessions stream (some ro.objects.length) ∧
      ro'.objects = ro.objects ++ [⟨stream, k, true⟩]) ∨
    (∃ (o : Nat) (obj : Member), ro.objects[o]? = some obj ∧ ro' = ro.endSession o obj) ∨
    (m = .drained ∧ ro'.sessions = (fun _ => none) ∧ ro'.objects = ro.objects) := by
  cases m with
  | spawn j =>
    simp only [step] at hs
    split at hs
    · next stream k _ =>
      split at hs
      · next hnone =>
        rw [Option.some.injEq] at hs
        subst hs
        exact .inr (.inl ⟨stream, k, hnone, rfl, rfl⟩)
      · cases hs
    · cases hs
  | ended o =>
    simp only [step] at hs
    split at hs
    · cases hs
    · next obj hobj =>
      rw [Option.some.injEq] at hs
      exact .inr (.inr (.inl ⟨o, obj, hobj, hs.symm⟩))
  | drained =>
    simp only [step, Option.some.injEq] at hs
    subst hs
    exact .inr (.inr (.inr ⟨rfl, rfl, rfl⟩))
  | ask s | join s i | leave j =>
    simp only [step] at hs
    split at hs
    · rw [Option.some.injEq] at hs
      subst hs
      exact .inl ⟨rfl, rfl⟩
    · cases hs
  | share j | surplus j =>
    simp only [step] at hs
    split at hs
    · split at hs
      · rw [Option.some.injEq] at hs
        subst hs
        exact .inl ⟨rfl, rfl⟩
      · cases hs
    · cases hs
  | answer i grant | settle i =>
    simp only [step] at hs
    split at hs
    · cases hs
    · split at hs
      · cases hs
      · rw [Option.some.injEq] at hs
        subst hs
        exact .inl ⟨rfl, rfl⟩

/-! ## Coherence -/

/-- The claim `i` of the stream was granted the token, and has been settled. -/
def Granted (ro : Roster) (stream : String) (i : Nat) (k : String) : Prop :=
  ro.claims[i]? = some ⟨stream, some (some k), true⟩

/-- The claim `i` of the stream may still give somebody a token: it is in flight,
or granted with routes yet to resume. -/
def Open (ro : Roster) (stream : String) (i : Nat) : Prop :=
  (∃ grant, ro.claims[i]? = some ⟨stream, grant, false⟩) ∨
    (∃ k, ro.Granted stream i k) ∧ (stream, i) ∈ ro.waiting

structure Coherent (ro : Roster) : Prop where
  inflight : ∀ stream i, ro.inflight stream = some i ↔
    ∃ grant, ro.claims[i]? = some ⟨stream, grant, false⟩
  waits : ∀ stream i, (stream, i) ∈ ro.waiting → ∃ c : Claim,
    ro.claims[i]? = some c ∧ c.stream = stream
  answered : ∀ (i : Nat) (c : Claim), ro.claims[i]? = some c → c.settled = true → c.grant.isSome
  distinct : ∀ (i j : Nat) (c d : Claim) k, ro.claims[i]? = some c → ro.claims[j]? = some d →
    c.grant = some (some k) → d.grant = some (some k) → i = j
  single : ∀ stream i j, ro.Open stream i → ro.Open stream j → i = j
  registered : ∀ stream o, ro.sessions stream = some o → ∃ k i,
    ro.objects[o]? = some ⟨stream, k, true⟩ ∧ ro.tokens stream = some k ∧
      ro.Granted stream i k ∧ ∀ j, ro.Open stream j → j = i
  untracked : ∀ stream, ro.sessions stream = none → ro.tokens stream = none
  present : ∀ (o : Nat) stream k, ro.objects[o]? = some ⟨stream, k, true⟩ → ro.sessions stream = some o
  claimed : ∀ (o : Nat) (m : Member), ro.objects[o]? = some m → ∃ i, ro.Granted m.stream i m.claim
  ended : ∀ k ∈ ro.released, ∃ (o : Nat) (stream : String),
    ro.objects[o]? = some ⟨stream, k, false⟩
  alone : ∀ (o o' : Nat) (m m' : Member), ro.objects[o]? = some m → ro.objects[o']? = some m' →
    m.claim = m'.claim → o = o'

/-- The moves after which ownership stays coherent. -/
def Orderly (ro : Roster) : Move → Prop
  | .ask stream => ∀ i k, (stream, i) ∈ ro.waiting → ¬ro.Granted stream i k
  | .answer _ grant => ∀ k, grant = some k → ∀ c ∈ ro.claims, c.grant ≠ some (some k)
  | .spawn j => ∀ stream i k, ro.waiting[j]? = some (stream, i) → ro.Granted stream i k →
      ∀ m ∈ ro.objects, m.claim ≠ k
  | .drained => False
  | _ => True

theorem empty_coherent : Coherent empty where
  inflight := by intro stream i; simp [empty]
  waits := by intro stream i h; cases h
  answered := by intro i c h; simp [empty] at h
  distinct := by intro i j c d k h; simp [empty] at h
  single := by
    rintro stream i j (⟨grant, h⟩ | ⟨-, h⟩)
    · simp [empty] at h
    · cases h
  registered := by intro stream o h; cases h
  untracked := fun _ _ => rfl
  present := by intro o stream k h; simp [empty] at h
  claimed := by intro o m h; simp [empty] at h
  ended := by intro k h; cases h
  alone := by intro o o' m m' h; simp [empty] at h

theorem resuming_eq_some {ro : Roster} {j : Nat} {stream : String} {grant : Option (Option String)} :
    ro.resuming j = some (stream, grant) ↔
      ∃ i c, ro.waiting[j]? = some (stream, i) ∧ ro.claims[i]? = some c ∧ c.settled = true ∧
        c.grant = grant := by
  simp only [resuming, Option.bind_eq_some_iff]
  constructor
  · rintro ⟨⟨stream', i⟩, hw, c, hc, h⟩
    split at h
    · next hs =>
      rw [Option.some.injEq, Prod.mk.injEq] at h
      obtain ⟨rfl, rfl⟩ := h
      exact ⟨i, c, hw, hc, hs, rfl⟩
    · cases h
  · rintro ⟨i, c, hw, hc, hs, rfl⟩
    exact ⟨(stream, i), hw, c, hc, by rw [if_pos hs]⟩

/-- A route that resumes with a granted claim waits for it. -/
theorem Coherent.resuming_granted {ro : Roster} (h : Coherent ro) {j : Nat} {stream k : String}
    (hr : ro.resuming j = some (stream, some (some k))) :
    ∃ i, ro.waiting[j]? = some (stream, i) ∧ ro.Granted stream i k ∧ ro.Open stream i := by
  obtain ⟨i, c, hw, hc, hs, hg⟩ := resuming_eq_some.mp hr
  have hmem : (stream, i) ∈ ro.waiting := List.mem_of_getElem? hw
  obtain ⟨c', hc', hstream⟩ := h.waits stream i hmem
  rw [hc, Option.some.injEq] at hc'
  subst hc'
  have hgranted : ro.Granted stream i k := by
    cases c
    simp_all [Granted]
  exact ⟨i, hw, hgranted, .inr ⟨⟨k, hgranted⟩, hmem⟩⟩

theorem Open.claim {ro : Roster} {stream : String} {i : Nat} (h : ro.Open stream i) :
    ∃ grant settled, ro.claims[i]? = some ⟨stream, grant, settled⟩ := by
  rcases h with ⟨grant, h⟩ | ⟨⟨k, h⟩, -⟩
  · exact ⟨grant, false, h⟩
  · exact ⟨some (some k), true, h⟩

/-- A stream without a claim in flight, whose routes have all resumed, has no
claim that still matters. -/
theorem Coherent.not_open {ro : Roster} (h : Coherent ro) {stream : String}
    (hi : ro.inflight stream = none)
    (hw : ∀ i k, (stream, i) ∈ ro.waiting → ¬ro.Granted stream i k) (i : Nat) :
    ¬ro.Open stream i := by
  rintro (hunsettled | ⟨⟨k, hk⟩, hmem⟩)
  · rw [← h.inflight, hi] at hunsettled
    cases hunsettled
  · exact hw i k hmem hk

/-- A live session runs under a token that was not released. -/
theorem Coherent.not_released {ro : Roster} (h : Coherent ro) {o : Nat} {stream k : String}
    (ho : ro.objects[o]? = some ⟨stream, k, true⟩) : k ∉ ro.released := by
  intro hk
  obtain ⟨o', stream', ho'⟩ := h.ended k hk
  have hsame := h.alone o o' _ _ ho ho' rfl
  subst hsame
  rw [ho, Option.some.injEq, Member.mk.injEq] at ho'
  cases ho'.2.2

/-! ## Every orderly move keeps it -/

/-- A move that leaves the sessions alone keeps ownership coherent if it opens no
claim and revokes no grant. -/
theorem Coherent.claims_moved {ro ro' : Roster} (h : Coherent ro)
    (hsessions : ro'.sessions = ro.sessions) (htokens : ro'.tokens = ro.tokens)
    (hobjects : ro'.objects = ro.objects) (hreleased : ro'.released = ro.released)
    (hgrant : ∀ stream i k, ro.Granted stream i k → ro'.Granted stream i k)
    (hopen : ∀ stream i, ro'.Open stream i → ro.Open stream i)
    (hinflight : ∀ stream i, ro'.inflight stream = some i ↔
      ∃ grant, ro'.claims[i]? = some ⟨stream, grant, false⟩)
    (hwaits : ∀ stream i, (stream, i) ∈ ro'.waiting →
      ∃ c : Claim, ro'.claims[i]? = some c ∧ c.stream = stream)
    (hanswered : ∀ (i : Nat) (c : Claim), ro'.claims[i]? = some c → c.settled = true →
      c.grant.isSome)
    (hdistinct : ∀ (i j : Nat) (c d : Claim) k, ro'.claims[i]? = some c →
      ro'.claims[j]? = some d → c.grant = some (some k) → d.grant = some (some k) → i = j) :
    Coherent ro' where
  inflight := hinflight
  waits := hwaits
  answered := hanswered
  distinct := hdistinct
  single := fun stream i j hi hj => h.single stream i j (hopen stream i hi) (hopen stream j hj)
  registered := by
    intro stream o ho
    rw [hsessions] at ho
    obtain ⟨k, i, hobj, htok, hk, honly⟩ := h.registered stream o ho
    refine ⟨k, i, ?_, ?_, hgrant stream i k hk, fun j hj => honly j (hopen stream j hj)⟩
    · rw [hobjects, hobj]
    · rw [htokens, htok]
  untracked := by
    rw [hsessions, htokens]
    exact h.untracked
  present := by
    rw [hsessions, hobjects]
    exact h.present
  claimed := by
    intro o m ho
    rw [hobjects] at ho
    obtain ⟨i, hi⟩ := h.claimed o m ho
    exact ⟨i, hgrant m.stream i m.claim hi⟩
  ended := by
    rw [hreleased, hobjects]
    exact h.ended
  alone := by
    rw [hobjects]
    exact h.alone

theorem join_coherent {ro : Roster} (h : Coherent ro) {stream : String} {i : Nat}
    (hi : ro.inflight stream = some i) :
    Coherent { ro with waiting := ro.waiting ++ [(stream, i)] } := by
  obtain ⟨grant, hc⟩ := (h.inflight stream i).mp hi
  refine h.claims_moved rfl rfl rfl rfl (fun _ _ _ hk => hk) ?_ ?_ ?_ ?_ ?_
  · rintro stream' j (hj | ⟨hk, hj⟩)
    · exact .inl hj
    · rcases List.mem_append.mp hj with hj | hj
      · exact .inr ⟨hk, hj⟩
      · rw [List.mem_singleton, Prod.mk.injEq] at hj
        obtain ⟨rfl, rfl⟩ := hj
        exact .inl ⟨grant, hc⟩
  · exact h.inflight
  · intro stream' j hj
    rcases List.mem_append.mp hj with hj | hj
    · exact h.waits stream' j hj
    · rw [List.mem_singleton, Prod.mk.injEq] at hj
      obtain ⟨rfl, rfl⟩ := hj
      exact ⟨_, hc, rfl⟩
  · exact h.answered
  · exact h.distinct

theorem resumed_coherent {ro : Roster} (h : Coherent ro) (j : Nat) :
    Coherent { ro with waiting := ro.waiting.eraseIdx j } := by
  refine h.claims_moved rfl rfl rfl rfl (fun _ _ _ hk => hk) ?_ ?_ ?_ ?_ ?_
  · rintro stream i (hi | ⟨hk, hi⟩)
    · exact .inl hi
    · exact .inr ⟨hk, List.mem_of_mem_eraseIdx hi⟩
  · exact h.inflight
  · intro stream i hi
    exact h.waits stream i (List.mem_of_mem_eraseIdx hi)
  · exact h.answered
  · exact h.distinct

theorem answer_coherent {ro : Roster} (h : Coherent ro) {i : Nat} {c : Claim}
    {grant : Option String} (hc : ro.claims[i]? = some c) (hnone : c.grant = none)
    (hfresh : ∀ k, grant = some k → ∀ d ∈ ro.claims, d.grant ≠ some (some k)) :
    Coherent { ro with claims := ro.claims.set i { c with grant := some grant } } := by
  have hlt := Heap.lt_of_getElem?_eq_some hc
  have hunsettled : c.settled = false := by
    by_contra hs
    have hsome := h.answered i c hc (by simpa using hs)
    rw [hnone] at hsome
    cases hsome
  have hopen : ∀ stream g, ro.claims[i]? = some ⟨stream, g, true⟩ → False := by
    intro stream g hg
    rw [hc, Option.some.injEq] at hg
    rw [hg] at hunsettled
    cases hunsettled
  refine h.claims_moved rfl rfl rfl rfl ?_ ?_ ?_ ?_ ?_ ?_
  · intro stream j k hk
    have hne : j ≠ i := fun e => hopen stream _ (e ▸ hk)
    exact (Heap.getElem?_write hlt).mpr (.inr ⟨hne, hk⟩)
  · rintro stream j (⟨g, hj⟩ | ⟨⟨k, hk⟩, hj⟩)
    · rcases (Heap.getElem?_write hlt).mp hj with ⟨rfl, he⟩ | ⟨-, hj⟩
      · rw [Claim.mk.injEq] at he
        exact .inl ⟨c.grant, by rw [hc, ← he.1, ← he.2.2]⟩
      · exact .inl ⟨g, hj⟩
    · rcases (Heap.getElem?_write hlt).mp hk with ⟨rfl, he⟩ | ⟨-, hk⟩
      · rw [Claim.mk.injEq] at he
        rw [hunsettled] at he
        cases he.2.2
      · exact .inr ⟨⟨k, hk⟩, hj⟩
  · intro stream j
    rw [h.inflight]
    constructor
    · rintro ⟨g, hj⟩
      by_cases he : j = i
      · subst he
        rw [hc, Option.some.injEq] at hj
        refine ⟨some grant, (Heap.getElem?_write hlt).mpr (.inl ⟨rfl, ?_⟩)⟩
        rw [hj]
      · exact ⟨g, (Heap.getElem?_write hlt).mpr (.inr ⟨he, hj⟩)⟩
    · rintro ⟨g, hj⟩
      rcases (Heap.getElem?_write hlt).mp hj with ⟨rfl, he⟩ | ⟨-, hj⟩
      · rw [Claim.mk.injEq] at he
        exact ⟨c.grant, by rw [hc, ← he.1, ← he.2.2]⟩
      · exact ⟨g, hj⟩
  · intro stream j hj
    obtain ⟨d, hd, hstream⟩ := h.waits stream j hj
    by_cases he : j = i
    · subst he
      rw [hc, Option.some.injEq] at hd
      subst hd
      exact ⟨_, Heap.getElem?_write_self hlt _, hstream⟩
    · exact ⟨d, (Heap.getElem?_write hlt).mpr (.inr ⟨he, hd⟩), hstream⟩
  · intro j d hd hs
    rcases (Heap.getElem?_write hlt).mp hd with ⟨-, rfl⟩ | ⟨-, hd⟩
    · rfl
    · exact h.answered j d hd hs
  · intro a b d e k hd he hdk hek
    rcases (Heap.getElem?_write hlt).mp hd with ⟨rfl, rfl⟩ | ⟨-, hold⟩
    · rcases (Heap.getElem?_write hlt).mp he with ⟨rfl, -⟩ | ⟨-, hold'⟩
      · rfl
      · exact absurd hek (hfresh k (Option.some.inj hdk) e (List.mem_of_getElem? hold'))
    · rcases (Heap.getElem?_write hlt).mp he with ⟨rfl, rfl⟩ | ⟨-, hold'⟩
      · exact absurd hdk (hfresh k (Option.some.inj hek) d (List.mem_of_getElem? hold))
      · exact h.distinct a b d e k hold hold' hdk hek

theorem settle_coherent {ro : Roster} (h : Coherent ro) {i : Nat} {c : Claim}
    (hc : ro.claims[i]? = some c) (hsome : c.grant.isSome) (hs : c.settled = false) :
    Coherent { ro with
      claims := ro.claims.set i { c with settled := true }
      inflight := Function.update ro.inflight c.stream none } := by
  have hlt := Heap.lt_of_getElem?_eq_some hc
  have hflight : ro.inflight c.stream = some i := by
    rw [h.inflight]
    exact ⟨c.grant, by rw [hc, ← hs]⟩
  refine h.claims_moved rfl rfl rfl rfl ?_ ?_ ?_ ?_ ?_ ?_
  · intro stream j k hk
    have hne : j ≠ i := by
      rintro rfl
      rw [Granted, hc, Option.some.injEq] at hk
      rw [hk] at hs
      cases hs
    exact (Heap.getElem?_write hlt).mpr (.inr ⟨hne, hk⟩)
  · rintro stream j (⟨g, hj⟩ | ⟨⟨k, hk⟩, hj⟩)
    · rcases (Heap.getElem?_write hlt).mp hj with ⟨-, he⟩ | ⟨-, hj⟩
      · rw [Claim.mk.injEq] at he
        cases he.2.2
      · exact .inl ⟨g, hj⟩
    · rcases (Heap.getElem?_write hlt).mp hk with ⟨rfl, he⟩ | ⟨-, hk⟩
      · rw [Claim.mk.injEq] at he
        exact .inl ⟨c.grant, by rw [hc, ← he.1, ← hs]⟩
      · exact .inr ⟨⟨k, hk⟩, hj⟩
  · intro stream j
    show Function.update ro.inflight c.stream none stream = some j ↔ _
    by_cases he : stream = c.stream
    · subst he
      rw [Function.update_self]
      constructor
      · intro hn
        cases hn
      · rintro ⟨g, hj⟩
        rcases (Heap.getElem?_write hlt).mp hj with ⟨-, hw⟩ | ⟨hne, hj⟩
        · rw [Claim.mk.injEq] at hw
          cases hw.2.2
        · have hsame := (h.inflight c.stream j).mpr ⟨g, hj⟩
          rw [hflight, Option.some.injEq] at hsame
          exact absurd hsame.symm hne
    · rw [Function.update_of_ne he, h.inflight]
      constructor
      · rintro ⟨g, hj⟩
        have hne : j ≠ i := by
          rintro rfl
          rw [hc, Option.some.injEq] at hj
          exact he (by rw [hj])
        exact ⟨g, (Heap.getElem?_write hlt).mpr (.inr ⟨hne, hj⟩)⟩
      · rintro ⟨g, hj⟩
        rcases (Heap.getElem?_write hlt).mp hj with ⟨-, hw⟩ | ⟨-, hj⟩
        · rw [Claim.mk.injEq] at hw
          cases hw.2.2
        · exact ⟨g, hj⟩
  · intro stream j hj
    obtain ⟨d, hd, hstream⟩ := h.waits stream j hj
    by_cases he : j = i
    · subst he
      rw [hc, Option.some.injEq] at hd
      subst hd
      exact ⟨_, Heap.getElem?_write_self hlt _, hstream⟩
    · exact ⟨d, (Heap.getElem?_write hlt).mpr (.inr ⟨he, hd⟩), hstream⟩
  · intro j d hd hset
    rcases (Heap.getElem?_write hlt).mp hd with ⟨-, rfl⟩ | ⟨-, hd⟩
    · exact hsome
    · exact h.answered j d hd hset
  · intro a b d e k hd he hdk hek
    have hback : ∀ (j : Nat) (d : Claim), (ro.claims.set i { c with settled := true })[j]? = some d →
        ∃ d', ro.claims[j]? = some d' ∧ d'.grant = d.grant := by
      intro j d hd
      rcases (Heap.getElem?_write hlt).mp hd with ⟨rfl, rfl⟩ | ⟨-, hd⟩
      · exact ⟨c, hc, rfl⟩
      · exact ⟨d, hd, rfl⟩
    obtain ⟨d', hd', hdg⟩ := hback a d hd
    obtain ⟨e', he', heg⟩ := hback b e he
    exact h.distinct a b d' e' k hd' he' (hdg.trans hdk) (heg.trans hek)

theorem ask_coherent {ro : Roster} (h : Coherent ro) {stream : String}
    (hask : ∀ i k, (stream, i) ∈ ro.waiting → ¬ro.Granted stream i k)
    (hs : ro.sessions stream = none) (hi : ro.inflight stream = none) :
    Coherent { ro with
      claims := ro.claims ++ [⟨stream, none, false⟩]
      inflight := Function.update ro.inflight stream (some ro.claims.length)
      waiting := ro.waiting ++ [(stream, ro.claims.length)] } := by
  let ro' : Roster := { ro with
      claims := ro.claims ++ [⟨stream, none, false⟩]
      inflight := Function.update ro.inflight stream (some ro.claims.length)
      waiting := ro.waiting ++ [(stream, ro.claims.length)] }
  have hclosed := h.not_open hi hask
  have hgrant : ∀ s i k, ro'.Granted s i k ↔ ro.Granted s i k := by
    intro s i k
    constructor
    · intro hk
      rcases Heap.getElem?_alloc.mp hk with hk | ⟨-, hk⟩
      · exact hk
      · rw [Claim.mk.injEq] at hk
        cases hk.2.2
    · exact fun hk => Heap.getElem?_alloc_of_some hk
  -- The only claim this opens is the new one.
  have hopen : ∀ s i, ro'.Open s i → ro.Open s i ∨ s = stream ∧ i = ro.claims.length := by
    rintro s i (⟨g, hc⟩ | ⟨⟨k, hk⟩, hmem⟩)
    · rcases Heap.getElem?_alloc.mp hc with hc | ⟨rfl, hnew⟩
      · exact .inl (.inl ⟨g, hc⟩)
      · exact .inr ⟨(Claim.mk.inj hnew).1.symm, rfl⟩
    · rcases List.mem_append.mp hmem with hmem | hmem
      · exact .inl (.inr ⟨⟨k, (hgrant s i k).mp hk⟩, hmem⟩)
      · rw [List.mem_singleton, Prod.mk.injEq] at hmem
        exact .inr hmem
  show Coherent ro'
  constructor
  · intro s i
    show Function.update ro.inflight stream (some ro.claims.length) s = some i ↔
      ∃ g, (ro.claims ++ [⟨stream, none, false⟩])[i]? = some ⟨s, g, false⟩
    by_cases he : s = stream
    · subst he
      rw [Function.update_self, Option.some.injEq]
      constructor
      · rintro rfl
        exact ⟨none, Heap.getElem?_alloc_self ..⟩
      · rintro ⟨g, hc⟩
        rcases Heap.getElem?_alloc.mp hc with hc | ⟨rfl, -⟩
        · exact absurd (Or.inl ⟨g, hc⟩) (hclosed i)
        · rfl
    · rw [Function.update_of_ne he, h.inflight]
      constructor
      · rintro ⟨g, hc⟩
        exact ⟨g, Heap.getElem?_alloc_of_some hc⟩
      · rintro ⟨g, hc⟩
        rcases Heap.getElem?_alloc.mp hc with hc | ⟨-, hc⟩
        · exact ⟨g, hc⟩
        · rw [Claim.mk.injEq] at hc
          exact absurd hc.1.symm he
  · intro s i hmem
    rcases List.mem_append.mp hmem with hmem | hmem
    · obtain ⟨c, hc, hstream⟩ := h.waits s i hmem
      exact ⟨c, Heap.getElem?_alloc_of_some hc, hstream⟩
    · rw [List.mem_singleton, Prod.mk.injEq] at hmem
      obtain ⟨rfl, rfl⟩ := hmem
      exact ⟨_, Heap.getElem?_alloc_self .., rfl⟩
  · intro i c hc hset
    rcases Heap.getElem?_alloc.mp hc with hc | ⟨-, rfl⟩
    · exact h.answered i c hc hset
    · cases hset
  · intro i j c d k hc hd hck hdk
    rcases Heap.getElem?_alloc.mp hc with hc | ⟨-, rfl⟩
    · rcases Heap.getElem?_alloc.mp hd with hd | ⟨-, rfl⟩
      · exact h.distinct i j c d k hc hd hck hdk
      · cases hdk
    · cases hck
  · intro s i j hi' hj'
    rcases hopen s i hi' with hold | ⟨rfl, rfl⟩
    · rcases hopen s j hj' with hold' | ⟨rfl, rfl⟩
      · exact h.single s i j hold hold'
      · exact absurd hold (hclosed i)
    · rcases hopen s j hj' with hold' | ⟨-, rfl⟩
      · exact absurd hold' (hclosed j)
      · rfl
  · intro s o ho
    obtain ⟨k, i, hobj, htok, hk, honly⟩ := h.registered s o ho
    refine ⟨k, i, hobj, htok, (hgrant s i k).mpr hk, ?_⟩
    intro j hj
    rcases hopen s j hj with hj | ⟨rfl, -⟩
    · exact honly j hj
    · have hnone : ro.sessions s = some o := ho
      rw [hs] at hnone
      cases hnone
  · exact h.untracked
  · exact h.present
  · intro o m ho
    obtain ⟨i, hk⟩ := h.claimed o m ho
    exact ⟨i, (hgrant _ _ _).mpr hk⟩
  · exact h.ended
  · exact h.alone

theorem spawn_coherent {ro : Roster} (h : Coherent ro) {j i : Nat} {stream k : String}
    (hnew : ∀ m ∈ ro.objects, m.claim ≠ k) (hs : ro.sessions stream = none)
    (hk : ro.Granted stream i k) (hi : ro.Open stream i) :
    Coherent { ro with
      waiting := ro.waiting.eraseIdx j
      objects := ro.objects ++ [⟨stream, k, true⟩]
      sessions := Function.update ro.sessions stream (some ro.objects.length)
      tokens := Function.update ro.tokens stream (some k) } := by
  have hr := resumed_coherent h j
  have hopen : ∀ s i, Open { ro with waiting := ro.waiting.eraseIdx j } s i → ro.Open s i := by
    rintro s i (hc | ⟨hc, hmem⟩)
    · exact .inl hc
    · exact .inr ⟨hc, List.mem_of_mem_eraseIdx hmem⟩
  refine ⟨hr.inflight, hr.waits, hr.answered, hr.distinct, hr.single, ?_, ?_, ?_, ?_, ?_, ?_⟩
  · intro s o ho
    simp only [Function.update_apply] at ho
    by_cases he : s = stream
    · subst he
      rw [if_pos rfl, Option.some.injEq] at ho
      subst ho
      refine ⟨k, i, Heap.getElem?_alloc_self .., by simp, hk, ?_⟩
      intro j' hj'
      exact h.single s j' i (hopen s j' hj') hi
    · rw [if_neg he] at ho
      obtain ⟨k', i', hobj, htok, hk', honly⟩ := h.registered s o ho
      refine ⟨k', i', Heap.getElem?_alloc_of_some hobj, ?_, hk', fun j' hj' =>
        honly j' (hopen s j' hj')⟩
      simpa [he] using htok
  · intro s hn
    simp only [Function.update_apply] at hn ⊢
    by_cases he : s = stream
    · rw [if_pos he] at hn
      cases hn
    · rw [if_neg he] at hn
      rw [if_neg he]
      exact h.untracked s hn
  · intro o s k' ho
    simp only [Function.update_apply]
    rcases Heap.getElem?_alloc.mp ho with hold | ⟨rfl, hnew'⟩
    · have hreg := h.present o s k' hold
      have he : s ≠ stream := by
        rintro rfl
        rw [hs] at hreg
        cases hreg
      rw [if_neg he]
      exact hreg
    · rw [if_pos (Member.mk.inj hnew').1.symm]
  · intro o m ho
    rcases Heap.getElem?_alloc.mp ho with hold | ⟨rfl, rfl⟩
    · exact h.claimed o m hold
    · exact ⟨i, hk⟩
  · intro k' hk'
    obtain ⟨o, s, ho⟩ := h.ended k' hk'
    exact ⟨o, s, Heap.getElem?_alloc_of_some ho⟩
  · intro o o' m m' ho ho' hsame
    rcases Heap.getElem?_alloc.mp ho with hold | ⟨rfl, rfl⟩
    · rcases Heap.getElem?_alloc.mp ho' with hold' | ⟨rfl, rfl⟩
      · exact h.alone o o' m m' hold hold' hsame
      · exact absurd hsame (hnew m (List.mem_of_getElem? hold))
    · rcases Heap.getElem?_alloc.mp ho' with hold' | ⟨rfl, -⟩
      · exact absurd hsame.symm (hnew m' (List.mem_of_getElem? hold'))
      · rfl

/-- What is left of an object list when one object is no longer live. -/
theorem getElem?_ended {l : List Member} {o : Nat} {m : Member} (ho : l[o]? = some m) {o' : Nat}
    {m' : Member} (h : (l.set o { m with live := false })[o']? = some m') :
    ∃ old, l[o']? = some old ∧ old.stream = m'.stream ∧ old.claim = m'.claim ∧
      (m'.live = true → o' ≠ o ∧ old.live = true) := by
  rcases (Heap.getElem?_write (Heap.lt_of_getElem?_eq_some ho)).mp h with ⟨rfl, rfl⟩ | ⟨hne, hold⟩
  · exact ⟨m, ho, rfl, rfl, fun hl => by cases hl⟩
  · exact ⟨m', hold, rfl, rfl, fun hl => ⟨hne, hl⟩⟩

theorem ended_coherent {ro : Roster} (h : Coherent ro) {o : Nat} {m : Member}
    (ho : ro.objects[o]? = some m) : Coherent (ro.endSession o m) := by
  have hlt := Heap.lt_of_getElem?_eq_some ho
  have hpresent : ∀ (o' : Nat) s k,
      (ro.objects.set o { m with live := false })[o']? = some ⟨s, k, true⟩ →
        o' ≠ o ∧ ro.sessions s = some o' := by
    intro o' s k hobj
    obtain ⟨⟨s', k', l'⟩, hold, hstream, hclaim, hlive⟩ := getElem?_ended ho hobj
    obtain ⟨hne, hl⟩ := hlive rfl
    simp only at hstream hclaim hl
    subst hstream
    subst hclaim
    subst hl
    exact ⟨hne, h.present o' s' k' hold⟩
  have hclaimed : ∀ (o' : Nat) (m' : Member),
      (ro.objects.set o { m with live := false })[o']? = some m' →
        ∃ i, ro.Granted m'.stream i m'.claim := by
    intro o' m' hobj
    obtain ⟨old, hold, hstream, hclaim, -⟩ := getElem?_ended ho hobj
    rw [← hstream, ← hclaim]
    exact h.claimed o' old hold
  have halone : ∀ (a b : Nat) (m₁ m₂ : Member),
      (ro.objects.set o { m with live := false })[a]? = some m₁ →
      (ro.objects.set o { m with live := false })[b]? = some m₂ → m₁.claim = m₂.claim → a = b := by
    intro a b m₁ m₂ ha hb hsame
    obtain ⟨old₁, hold₁, -, hc₁, -⟩ := getElem?_ended ho ha
    obtain ⟨old₂, hold₂, -, hc₂, -⟩ := getElem?_ended ho hb
    exact h.alone a b old₁ old₂ hold₁ hold₂ (by rw [hc₁, hc₂, hsame])
  have hended : ∀ k ∈ ro.released, ∃ (o' : Nat) (s : String),
      (ro.objects.set o { m with live := false })[o']? = some ⟨s, k, false⟩ := by
    intro k hk
    obtain ⟨o', s, hobj⟩ := h.ended k hk
    by_cases he : o' = o
    · subst he
      rw [ho, Option.some.injEq] at hobj
      subst hobj
      exact ⟨o', s, Heap.getElem?_write_self hlt _⟩
    · exact ⟨o', s, (Heap.getElem?_write_ne he _).trans hobj⟩
  unfold endSession
  by_cases hreg : ro.sessions m.stream = some o
  · obtain ⟨k, i, hobj, htok, hk, honly⟩ := h.registered m.stream o hreg
    rw [ho, Option.some.injEq] at hobj
    rw [if_pos hreg]
    refine ⟨h.inflight, h.waits, h.answered, h.distinct, h.single, ?_, ?_, ?_, hclaimed, ?_, halone⟩
    · intro s o' ho'
      simp only [Function.update_apply] at ho'
      by_cases he : s = m.stream
      · rw [if_pos he] at ho'
        cases ho'
      · rw [if_neg he] at ho'
        obtain ⟨k', i', hobj', htok', hk', honly'⟩ := h.registered s o' ho'
        have hne : o' ≠ o := by
          rintro rfl
          rw [ho, Option.some.injEq] at hobj'
          exact he (by rw [hobj'])
        refine ⟨k', i', (Heap.getElem?_write_ne hne _).trans hobj', ?_, hk', honly'⟩
        simpa [he] using htok'
    · intro s hn
      simp only [Function.update_apply] at hn ⊢
      by_cases he : s = m.stream
      · rw [if_pos he]
      · rw [if_neg he] at hn
        rw [if_neg he]
        exact h.untracked s hn
    · intro o' s k' hobj'
      obtain ⟨hne, hold⟩ := hpresent o' s k' hobj'
      have he : s ≠ m.stream := by
        rintro rfl
        rw [hreg, Option.some.injEq] at hold
        exact hne hold.symm
      simpa [he] using hold
    · intro k' hk'
      rcases List.mem_append.mp hk' with hk' | hk'
      · exact hended k' hk'
      · have hcur : ro.tokens m.stream = some k' := by simpa using hk'
        rw [htok, Option.some.injEq] at hcur
        subst hcur
        refine ⟨o, m.stream, (Heap.getElem?_write hlt).mpr (.inl ⟨rfl, ?_⟩)⟩
        rw [hobj]
  · rw [if_neg hreg]
    refine ⟨h.inflight, h.waits, h.answered, h.distinct, h.single, ?_, h.untracked, ?_, hclaimed,
      hended, halone⟩
    · intro s o' ho'
      obtain ⟨k', i', hobj', htok', hk', honly'⟩ := h.registered s o' ho'
      have hne : o' ≠ o := by
        rintro rfl
        rw [ho, Option.some.injEq] at hobj'
        exact hreg (by rw [hobj']; exact ho')
      exact ⟨k', i', (Heap.getElem?_write_ne hne _).trans hobj', htok', hk', honly'⟩
    · intro o' s k' hobj'
      exact (hpresent o' s k' hobj').2

/-- In a coherent roster no claim is surplus: a route that finds a session was
waiting for the claim that session runs under. -/
theorem Coherent.tokens_of_resuming {ro : Roster} (h : Coherent ro) {j : Nat} {stream k : String}
    (hr : ro.resuming j = some (stream, some (some k))) (hs : ro.sessions stream ≠ none) :
    ro.tokens stream = some k := by
  obtain ⟨i, -, hk, hopen⟩ := h.resuming_granted hr
  obtain ⟨o, ho⟩ := Option.ne_none_iff_exists'.mp hs
  obtain ⟨k', i', -, htok, hk', honly⟩ := h.registered stream o ho
  have hsame := honly i hopen
  subst hsame
  rw [Granted, hk, Option.some.injEq, Claim.mk.injEq] at hk'
  have hkk : k = k' := by
    have := hk'.2.1
    simpa using this
  rw [hkk]
  exact htok

theorem Coherent.step {ro ro' : Roster} {m : Move} (h : Coherent ro) (ho : ro.Orderly m)
    (hs : ro.step m = some ro') : Coherent ro' := by
  cases m with
  | ask stream =>
    simp only [Roster.step] at hs
    split at hs
    · next hg =>
      rw [Option.some.injEq] at hs
      subst hs
      exact ask_coherent h ho hg.1 hg.2
    · cases hs
  | join stream i =>
    simp only [Roster.step] at hs
    split at hs
    · next hg =>
      rw [Option.some.injEq] at hs
      subst hs
      exact join_coherent h hg
    · cases hs
  | answer i grant =>
    simp only [Roster.step] at hs
    split at hs
    · cases hs
    · next c hc =>
      split at hs
      · cases hs
      · next hg =>
        rw [Option.some.injEq] at hs
        subst hs
        exact answer_coherent h hc (Option.not_isSome_iff_eq_none.mp hg) ho
  | settle i =>
    simp only [Roster.step] at hs
    split at hs
    · cases hs
    · next c hc =>
      split at hs
      · cases hs
      · next hg =>
        rw [Option.some.injEq] at hs
        subst hs
        rw [not_or] at hg
        have hsome : c.grant.isSome := Option.isSome_iff_ne_none.mpr (by simpa using hg.1)
        exact settle_coherent h hc hsome (by simpa using hg.2)
  | leave j =>
    simp only [Roster.step] at hs
    split at hs
    · rw [Option.some.injEq] at hs
      subst hs
      exact resumed_coherent h j
    · cases hs
  | share j =>
    simp only [Roster.step] at hs
    split at hs
    · split at hs
      · rw [Option.some.injEq] at hs
        subst hs
        exact resumed_coherent h j
      · cases hs
    · cases hs
  | surplus j =>
    simp only [Roster.step] at hs
    split at hs
    · next stream k hr =>
      split at hs
      · next hg => exact absurd (h.tokens_of_resuming hr hg.1) hg.2
      · cases hs
    · cases hs
  | spawn j =>
    simp only [Roster.step] at hs
    split at hs
    · next stream k hr =>
      split at hs
      · next hg =>
        rw [Option.some.injEq] at hs
        subst hs
        obtain ⟨i, hw, hk, hopen⟩ := h.resuming_granted hr
        exact spawn_coherent h (ho stream i k hw hk) hg hk hopen
      · cases hs
    · cases hs
  | ended o =>
    simp only [Roster.step] at hs
    split at hs
    · cases hs
    · next m hm =>
      rw [Option.some.injEq] at hs
      subst hs
      exact ended_coherent h hm
  | drained => exact absurd ho id

end Roster

end Processing
end XStreamRoll
