/-
The claims of one worker against what it holds at the lock manager.

A roster is backed when the worker holds each stream under the claim that
matters for it: the claim its live session runs under, or the claim that was
granted and whose routes have yet to spawn one.  Orderly moves keep a roster
backed, and so does an answer that gives the token the worker has come to hold.
What a worker no longer holds must then be a token it has released.
-/
import XStreamRoll.Processing.SessionRegistry.Refinement

namespace XStreamRoll
namespace Processing

open Transition

variable {Data : Type}

namespace Roster

structure Backed (held : String → Option String) (ro : Roster) : Prop where
  live : ∀ (o : Nat) stream k, ro.objects[o]? = some ⟨stream, k, true⟩ → held stream = some k
  unspent : ∀ stream (i : Nat) k settled, ro.claims[i]? = some ⟨stream, some (some k), settled⟩ →
    ro.Open stream i → (∀ m ∈ ro.objects, m.claim ≠ k) → held stream = some k

theorem empty_backed (held : String → Option String) : Backed held empty where
  live := by intro o stream k h; simp [empty] at h
  unspent := by intro stream i k settled h; simp [empty] at h

/-- A move that leaves the sessions alone keeps the roster backed if it grants
nothing and opens no granted claim. -/
theorem Backed.claims_moved {held : String → Option String} {ro ro' : Roster}
    (h : Backed held ro) (hobjects : ro'.objects = ro.objects)
    (hgrant : ∀ stream (i : Nat) k settled, ro'.claims[i]? = some ⟨stream, some (some k), settled⟩ →
      ∃ settled', ro.claims[i]? = some ⟨stream, some (some k), settled'⟩)
    (hopen : ∀ stream (i : Nat) k settled, ro'.claims[i]? = some ⟨stream, some (some k), settled⟩ →
      ro'.Open stream i → ro.Open stream i) : Backed held ro' where
  live := by
    rw [hobjects]
    exact h.live
  unspent := by
    intro stream i k settled hc ho hnew
    rw [hobjects] at hnew
    obtain ⟨settled', hc'⟩ := hgrant stream i k settled hc
    exact h.unspent stream i k settled' hc' (hopen stream i k settled hc ho) hnew

theorem resumed_open {ro : Roster} {j : Nat} {stream : String} {i : Nat}
    (h : Open { ro with waiting := ro.waiting.eraseIdx j } stream i) : ro.Open stream i := by
  rcases h with hc | ⟨hk, hmem⟩
  · exact .inl hc
  · exact .inr ⟨hk, List.mem_of_mem_eraseIdx hmem⟩

theorem Backed.resumed {held : String → Option String} {ro : Roster} (h : Backed held ro)
    (j : Nat) : Backed held { ro with waiting := ro.waiting.eraseIdx j } :=
  h.claims_moved rfl (fun _ _ _ settled hc => ⟨settled, hc⟩) (fun _ _ _ _ _ => resumed_open)

theorem Backed.ask {held : String → Option String} {ro : Roster} (h : Backed held ro)
    (stream : String) : Backed held { ro with
      claims := ro.claims ++ [⟨stream, none, false⟩]
      inflight := Function.update ro.inflight stream (some ro.claims.length)
      waiting := ro.waiting ++ [(stream, ro.claims.length)] } := by
  have hold : ∀ s (i : Nat) g settled,
      (ro.claims ++ [⟨stream, none, false⟩])[i]? = some (⟨s, some g, settled⟩ : Claim) →
        ro.claims[i]? = some ⟨s, some g, settled⟩ := by
    intro s i g settled hc
    rcases Heap.getElem?_alloc.mp hc with hc | ⟨-, hnew⟩
    · exact hc
    · cases (Claim.mk.inj hnew).2.1
  refine h.claims_moved rfl (fun s i k settled hc => ⟨settled, hold s i (some k) settled hc⟩) ?_
  intro s i k settled hc ho
  have hc' := hold s i (some k) settled hc
  cases settled with
  | false => exact .inl ⟨_, hc'⟩
  | true =>
    refine .inr ⟨⟨k, hc'⟩, ?_⟩
    rcases ho with ⟨g, hg⟩ | ⟨-, hmem⟩
    · rw [hc, Option.some.injEq, Claim.mk.injEq] at hg
      cases hg.2.2
    · rcases List.mem_append.mp hmem with hmem | hmem
      · exact hmem
      · -- The new claim has no answer yet.
        rw [List.mem_singleton, Prod.mk.injEq] at hmem
        have hlt := Heap.lt_of_getElem?_eq_some hc'
        omega

theorem Backed.join {held : String → Option String} {ro : Roster} (h : Backed held ro)
    (hco : Coherent ro) {stream : String} {i : Nat} (hi : ro.inflight stream = some i) :
    Backed held { ro with waiting := ro.waiting ++ [(stream, i)] } := by
  refine h.claims_moved rfl (fun _ _ _ settled hc => ⟨settled, hc⟩) ?_
  rintro s j k settled hc (hunsettled | ⟨hk, hmem⟩)
  · exact .inl hunsettled
  · rcases List.mem_append.mp hmem with hmem | hmem
    · exact .inr ⟨hk, hmem⟩
    · rw [List.mem_singleton, Prod.mk.injEq] at hmem
      obtain ⟨rfl, rfl⟩ := hmem
      exact .inl ((hco.inflight s j).mp hi)

theorem Backed.settle {held : String → Option String} {ro : Roster} (h : Backed held ro) {i : Nat}
    {c : Claim} (hc : ro.claims[i]? = some c) (hs : c.settled = false) : Backed held { ro with
      claims := ro.claims.set i { c with settled := true }
      inflight := Function.update ro.inflight c.stream none } := by
  have hlt := Heap.lt_of_getElem?_eq_some hc
  have hback : ∀ s (j : Nat) k settled,
      (ro.claims.set i { c with settled := true })[j]? = some ⟨s, some (some k), settled⟩ →
        (∃ settled', ro.claims[j]? = some ⟨s, some (some k), settled'⟩) := by
    intro s j k settled hj
    rcases (Heap.getElem?_write hlt).mp hj with ⟨rfl, he⟩ | ⟨-, hj⟩
    · cases c
      rw [Claim.mk.injEq] at he
      obtain ⟨rfl, rfl, -⟩ := he
      exact ⟨_, hc⟩
    · exact ⟨settled, hj⟩
  refine h.claims_moved rfl hback ?_
  intro s j k settled hj ho
  rcases (Heap.getElem?_write hlt).mp hj with ⟨rfl, he⟩ | ⟨hne, hj'⟩
  · -- The claim that settles was in flight, hence open.
    obtain ⟨cs, cg, csettled⟩ := c
    rw [Claim.mk.injEq] at he
    obtain ⟨rfl, rfl, -⟩ := he
    simp only at hs
    subst hs
    exact .inl ⟨_, hc⟩
  · rcases ho with ⟨g, hg⟩ | ⟨⟨k', hk'⟩, hmem⟩
    · rcases (Heap.getElem?_write hlt).mp hg with ⟨he, -⟩ | ⟨-, hg⟩
      · exact absurd he hne
      · exact .inl ⟨g, hg⟩
    · rcases (Heap.getElem?_write hlt).mp hk' with ⟨he, -⟩ | ⟨-, hk'⟩
      · exact absurd he hne
      · exact .inr ⟨⟨k', hk'⟩, hmem⟩

theorem Backed.spawn {held : String → Option String} {ro : Roster} (h : Backed held ro)
    {j i : Nat} {stream k : String} (hnew : ∀ m ∈ ro.objects, m.claim ≠ k)
    (hk : ro.Granted stream i k) (hi : ro.Open stream i) : Backed held { ro with
      waiting := ro.waiting.eraseIdx j
      objects := ro.objects ++ [⟨stream, k, true⟩]
      sessions := Function.update ro.sessions stream (some ro.objects.length)
      tokens := Function.update ro.tokens stream (some k) } where
  live := by
    intro o s k' ho
    rcases Heap.getElem?_alloc.mp ho with hold | ⟨-, he⟩
    · exact h.live o s k' hold
    · rw [Member.mk.injEq] at he
      obtain ⟨rfl, rfl, -⟩ := he
      exact h.unspent stream i k true hk hi hnew
  unspent := by
    intro s i' k' settled hc ho hnone
    apply h.unspent s i' k' settled hc
    · exact resumed_open (j := j) ho
    · exact fun m hm => hnone m (List.mem_append_left _ hm)

theorem Backed.ended {held : String → Option String} {ro : Roster} (h : Backed held ro)
    {o : Nat} {m : Member} (ho : ro.objects[o]? = some m) : Backed held (ro.endSession o m) where
  live := by
    intro o' s k hobj
    rw [endSession_objects] at hobj
    obtain ⟨⟨s', k', l'⟩, hold, hstream, hclaim, hlive⟩ := getElem?_ended ho hobj
    obtain ⟨-, hl⟩ := hlive rfl
    simp only at hstream hclaim hl
    subst hstream
    subst hclaim
    subst hl
    exact h.live o' s' k' hold
  unspent := by
    intro s i k settled hc hopen hnone
    rw [endSession_claims] at hc
    apply h.unspent s i k settled hc
    · simpa only [Open, Granted, endSession_claims, endSession_waiting] using hopen
    · intro m' hm' he
      obtain ⟨o', ho'⟩ := List.mem_iff_getElem?.mp hm'
      have hlt := Heap.lt_of_getElem?_eq_some ho
      rw [endSession_objects] at hnone
      by_cases hoo : o' = o
      · subst hoo
        rw [ho, Option.some.injEq] at ho'
        exact hnone _ (List.mem_of_getElem? (Heap.getElem?_write_self hlt _)) (ho' ▸ he)
      · exact hnone m' (List.mem_of_getElem? ((Heap.getElem?_write_ne hoo _).trans ho')) he

/-- No move but an answer needs the worker to hold anything new. -/
theorem Backed.step {held : String → Option String} {ro ro' : Roster} {m : Move}
    (h : Backed held ro) (hco : Coherent ro) (ho : ro.Orderly m)
    (hm : ∀ i grant, m ≠ .answer i grant) (hs : ro.step m = some ro') : Backed held ro' := by
  cases m with
  | ask stream =>
    simp only [Roster.step] at hs
    split at hs
    · rw [Option.some.injEq] at hs
      subst hs
      exact h.ask stream
    · cases hs
  | join stream i =>
    simp only [Roster.step] at hs
    split at hs
    · next hi =>
      rw [Option.some.injEq] at hs
      subst hs
      exact h.join hco hi
    · cases hs
  | answer i grant => exact absurd rfl (hm i grant)
  | settle i =>
    simp only [Roster.step] at hs
    split at hs
    · cases hs
    · next c hc =>
      split at hs
      · cases hs
      · next hg =>
        rw [Option.some.injEq] at hs
        subst hs
        rw [not_or] at hg
        exact h.settle hc (by simpa using hg.2)
  | leave j =>
    simp only [Roster.step] at hs
    split at hs
    · rw [Option.some.injEq] at hs
      subst hs
      exact h.resumed j
    · cases hs
  | share j =>
    simp only [Roster.step] at hs
    split at hs
    · split at hs
      · rw [Option.some.injEq] at hs
        subst hs
        exact h.resumed j
      · cases hs
    · cases hs
  | surplus j =>
    simp only [Roster.step] at hs
    split at hs
    · next stream k hr =>
      split at hs
      · next hg => exact absurd (hco.tokens_of_resuming hr hg.1) hg.2
      · cases hs
    · cases hs
  | spawn j =>
    simp only [Roster.step] at hs
    split at hs
    · next stream k hr =>
      split at hs
      · rw [Option.some.injEq] at hs
        subst hs
        obtain ⟨i, hw, hk, hopen⟩ := hco.resuming_granted hr
        exact h.spawn (ho stream i k hw hk) hk hopen
      · cases hs
    · cases hs
  | ended o =>
    simp only [Roster.step] at hs
    split at hs
    · cases hs
    · next m hm =>
      rw [Option.some.injEq] at hs
      subst hs
      exact h.ended hm
  | drained => exact absurd ho id

/-- No live session runs on a stream whose claim has yet to be answered. -/
theorem Coherent.not_live {ro : Roster} (hco : Coherent ro) {i : Nat} {stream : String}
    {settled : Bool} (hc : ro.claims[i]? = some ⟨stream, none, settled⟩) {o : Nat} {k : String} :
    ro.objects[o]? ≠ some ⟨stream, k, true⟩ := by
  intro ho
  have hunsettled : settled = false := by
    cases settled with
    | false => rfl
    | true => cases hco.answered i _ hc rfl
  subst hunsettled
  obtain ⟨k', i', -, -, hk', honly⟩ := hco.registered stream o (hco.present o stream k ho)
  have hsame := honly i (.inl ⟨_, hc⟩)
  subst hsame
  rw [Granted, hc, Option.some.injEq, Claim.mk.injEq] at hk'
  cases hk'.2.1

/-- The answer to a claim tells the worker what it holds on that stream from now on. -/
theorem Backed.answer {held held' : String → Option String} {ro ro' : Roster} {i : Nat}
    {c : Claim} {grant : Option String} (h : Backed held ro) (hco : Coherent ro)
    (hc : ro.claims[i]? = some c) (hs : ro.step (.answer i grant) = some ro')
    (hothers : ∀ stream, stream ≠ c.stream → held' stream = held stream)
    (hgrant : ∀ k, grant = some k → held' c.stream = some k) : Backed held' ro' := by
  simp only [Roster.step, hc] at hs
  split at hs
  · cases hs
  · next hnone =>
    obtain ⟨cs, cg, settled⟩ := c
    have hcg : cg = none := Option.not_isSome_iff_eq_none.mp hnone
    subst hcg
    rw [Option.some.injEq] at hs
    subst hs
    have hlt := Heap.lt_of_getElem?_eq_some hc
    have hunsettled : settled = false := by
      cases settled with
      | false => rfl
      | true => cases hco.answered i _ hc rfl
    subst hunsettled
    constructor
    · intro o stream k ho
      by_cases he : stream = cs
      · subst he
        exact absurd ho (hco.not_live hc)
      · rw [hothers stream he]
        exact h.live o stream k ho
    · intro stream j k settled hj ho hnew
      -- An open claim of the answered claim's stream is that claim.
      have hopen : ro.Open stream j := by
        rcases ho with ⟨g, hg⟩ | ⟨⟨k', hk'⟩, hmem⟩
        · rcases (Heap.getElem?_write hlt).mp hg with ⟨rfl, he⟩ | ⟨-, hg⟩
          · rw [Claim.mk.injEq] at he
            obtain ⟨rfl, -, -⟩ := he
            exact .inl ⟨_, hc⟩
          · exact .inl ⟨g, hg⟩
        · rcases (Heap.getElem?_write hlt).mp hk' with ⟨rfl, he⟩ | ⟨-, hk'⟩
          · cases (Claim.mk.inj he).2.2
          · exact .inr ⟨⟨k', hk'⟩, hmem⟩
      by_cases he : stream = cs
      · subst he
        have hsame := hco.single stream j i hopen (.inl ⟨_, hc⟩)
        subst hsame
        rcases (Heap.getElem?_write hlt).mp hj with ⟨-, hjc⟩ | ⟨hne, -⟩
        · rw [Claim.mk.injEq, Option.some.injEq] at hjc
          exact hgrant k hjc.2.1
        · exact absurd rfl hne
      · rw [hothers stream he]
        rcases (Heap.getElem?_write hlt).mp hj with ⟨rfl, hjc⟩ | ⟨-, hj⟩
        · exact absurd (Claim.mk.inj hjc).1.symm he
        · exact h.unspent stream j k settled hj hopen hnew

/-- Letting go of a released token costs no session and no open claim. -/
theorem Backed.released {held held' : String → Option String} {ro : Roster} (h : Backed held ro)
    (hco : Coherent ro) {k : String} (hk : k ∈ ro.released)
    (hkept : ∀ stream, held stream ≠ some k → held' stream = held stream) : Backed held' ro where
  live := by
    intro o stream k' ho
    have hlive := h.live o stream k' ho
    rw [hkept stream, hlive]
    rw [hlive]
    intro he
    rw [Option.some.injEq] at he
    subst he
    exact hco.not_released ho hk
  unspent := by
    intro stream i k' settled hc hopen hnew
    have hheld := h.unspent stream i k' settled hc hopen hnew
    rw [hkept stream, hheld]
    rw [hheld]
    intro he
    rw [Option.some.injEq] at he
    subst he
    obtain ⟨o, s, ho⟩ := hco.ended k' hk
    exact hnew _ (List.mem_of_getElem? ho) rfl

theorem Backed.congr {held held' : String → Option String} {ro : Roster} (h : Backed held ro)
    (hsame : ∀ stream, held' stream = held stream) : Backed held' ro := by
  rw [funext hsame]
  exact h

/-- The token that the claim `i` was granted. -/
def grantOf (ro : Roster) (i : Nat) : Option String :=
  (ro.claims[i]?).bind fun c => c.grant.bind id

/-- Only an answer grants. -/
theorem grantOf_step {ro ro' : Roster} {m : Move} (hm : ∀ i grant, m ≠ .answer i grant)
    (hs : ro.step m = some ro') (i : Nat) : ro'.grantOf i = ro.grantOf i := by
  cases m with
  | ask stream =>
    simp only [Roster.step] at hs
    split at hs
    · rw [Option.some.injEq] at hs
      subst hs
      rw [grantOf, grantOf, List.getElem?_append]
      split
      · rfl
      · next hlt =>
        rw [List.getElem?_eq_none (Nat.not_lt.mp hlt), Option.bind_none]
        cases hn : [(⟨stream, none, false⟩ : Claim)][i - ro.claims.length]? with
        | none => rfl
        | some c =>
          have hc := List.mem_singleton.mp (List.mem_of_getElem? hn)
          rw [hc]
          rfl
    · cases hs
  | answer j grant => exact absurd rfl (hm j grant)
  | settle j =>
    simp only [Roster.step] at hs
    split at hs
    · cases hs
    · next c hc =>
      split at hs
      · cases hs
      · rw [Option.some.injEq] at hs
        subst hs
        show ((ro.claims.set j { c with settled := true })[i]?).bind _ = _
        by_cases hij : i = j
        · subst hij
          rw [Heap.getElem?_write_self (Heap.lt_of_getElem?_eq_some hc), grantOf, hc]
          rfl
        · rw [Heap.getElem?_write_ne hij, grantOf]
  | ended o =>
    simp only [Roster.step] at hs
    split at hs
    · cases hs
    · rw [Option.some.injEq] at hs
      subst hs
      rw [grantOf, endSession_claims, grantOf]
  | join stream j | leave j =>
    simp only [Roster.step] at hs
    split at hs
    · rw [Option.some.injEq] at hs
      subst hs
      rfl
    · cases hs
  | share j | surplus j | spawn j =>
    simp only [Roster.step] at hs
    split at hs
    · split at hs
      · rw [Option.some.injEq] at hs
        subst hs
        rfl
      · cases hs
    · cases hs
  | drained =>
    simp only [Roster.step, Option.some.injEq] at hs
    subst hs
    rfl

/-- An answer grants to its own claim only. -/
theorem grantOf_answer {ro ro' : Roster} {i : Nat} {grant : Option String}
    (hs : ro.step (.answer i grant) = some ro') {j : Nat} {k : String}
    (hk : ro'.grantOf j = some k) : ro.grantOf j = some k ∨ grant = some k := by
  simp only [Roster.step] at hs
  split at hs
  · cases hs
  · next c hc =>
    split at hs
    · cases hs
    · rw [Option.some.injEq] at hs
      subst hs
      by_cases hij : j = i
      · subst hij
        rw [grantOf, Heap.getElem?_write_self (Heap.lt_of_getElem?_eq_some hc)] at hk
        exact .inr hk
      · rw [grantOf, Heap.getElem?_write_ne hij] at hk
        exact .inl hk

end Roster

/-! ## Orderly steps of a registry -/

namespace SessionRegistry

/-- The token that the answer to `acquires[call]` brought. -/
def grantOf (r : SessionRegistry Data) (call : Nat) : Option String :=
  ((r.acquires[call]?).bind (·.answer)).bind granted

theorem grantOf_roster (r : SessionRegistry Data) (i : Nat) : r.grantOf i = r.roster.grantOf i := by
  rw [grantOf, Roster.grantOf]
  simp only [roster, List.getElem?_map]
  cases r.acquires[i]? with
  | none => rfl
  | some call => cases ha : call.answer <;> simp [LockCall.claim, ha]

theorem grantOf_of_claim {r : SessionRegistry Data} {stream : String} {i : Nat} {k : String}
    {settled : Bool} (h : r.roster.claims[i]? = some ⟨stream, some (some k), settled⟩) :
    r.grantOf i = some k := by
  rw [grantOf_roster, Roster.grantOf, h]
  rfl

/-- Only the answer to a claim grants. -/
theorem step_grantOf {r r' : SessionRegistry Data} {a : Action Data}
    (ha : ∀ i answer, a ≠ .acquireAnswered i answer) (h : r.step a = some r') (i : Nat) :
    r'.grantOf i = r.grantOf i := by
  obtain ⟨ms, hexp, hr⟩ := step_moves h
  rw [grantOf_roster, grantOf_roster]
  refine run_invariant_of (I := fun ro => ro.grantOf i = r.roster.grantOf i)
    (K := fun m => ∀ i grant, m ≠ Roster.Move.answer i grant) ?_ rfl ?_ hr
  · intro ro m ro' hsame hm hs
    rw [Roster.grantOf_step hm hs, hsame]
  · cases hexp with
    | answers j answer => exact absurd rfl (ha j answer)
    | ends _ os =>
      intro m hm j grant he
      obtain ⟨o, -, rfl⟩ := List.mem_map.mp hm
      cases he
    | asks | joins | settles | leaves | shares | surplus | spawns | drained =>
      intro m hm j grant he
      rw [List.mem_singleton] at hm
      subst hm
      cases he

theorem answered_grantOf {r r' : SessionRegistry Data} {i : Nat}
    {answer : Except String (Option LockToken)}
    (h : r.step (.acquireAnswered i answer) = some r') {j : Nat} {k : String}
    (hk : r'.grantOf j = some k) : r.grantOf j = some k ∨ granted answer = some k := by
  obtain ⟨calls, hcalls, rfl⟩ := Option.map_eq_some_iff.mp h
  rw [grantOf_roster] at hk ⊢
  exact Roster.grantOf_answer (arrive_claims hcalls) hk

/-- No route of the stream still awaits a granted claim. -/
def ClaimsApart (streamId : String) (r : SessionRegistry Data) : Prop :=
  ∀ f ∈ r.routes, f.event.streamId = streamId → r.grantOf f.call = none

/-- A route that resumes without a session in the map does so under a token that no
session has had. -/
def SpawnsAnew (i : Nat) (r : SessionRegistry Data) : Prop :=
  ∀ f ∈ r.routes[i]?, r.sessions.lookup f.event.streamId = none →
    ∀ k ∈ r.grantOf f.call, ∀ obj ∈ r.objects, obj.claim.token ≠ k

/-- A step after which the worker still owns its streams coherently. -/
def Orderly (r : SessionRegistry Data) : Action Data → Prop
  | .route _ event => r.Admits event → r.inflightAcquires.lookup event.streamId = none →
      r.ClaimsApart event.streamId
  | .resumeRoute _ i _ => r.SpawnsAnew i
  | .resumeDrain .. => False
  | _ => True

instance (streamId : String) (r : SessionRegistry Data) : Decidable (r.ClaimsApart streamId) :=
  inferInstanceAs (Decidable (∀ f ∈ r.routes, _))

instance (i : Nat) (r : SessionRegistry Data) : Decidable (r.SpawnsAnew i) :=
  inferInstanceAs (Decidable (∀ f ∈ r.routes[i]?, _))

instance (r : SessionRegistry Data) : ∀ a : Action Data, Decidable (r.Orderly a)
  | .route _ _ => inferInstanceAs (Decidable (_ → _ → _))
  | .resumeRoute _ i _ => inferInstanceAs (Decidable (r.SpawnsAnew i))
  | .resumeDrain .. => isFalse id
  | .settleAcquire _ | .tick .. | .resumeTick .. | .resumeRelease _ | .pump .. | .stop ..
  | .stopWake .. | .fail .. | .drainAll _ | .resumeReleaseAll _ | .acquireAnswered ..
  | .renewAnswered .. | .releaseAnswered .. | .releaseAllAnswered .. => isTrue trivial

theorem ask_orderly {r : SessionRegistry Data} {streamId : String}
    (h : r.ClaimsApart streamId) : r.roster.Orderly (.ask streamId) := by
  intro i k hmem hk
  simp only [roster, List.mem_map, Prod.mk.injEq] at hmem
  obtain ⟨f, hf, hstream, rfl⟩ := hmem
  have hnone := h f hf hstream
  rw [grantOf_of_claim hk] at hnone
  cases hnone

theorem spawn_orderly {r : SessionRegistry Data} {i : Nat} {ro : Roster} (h : r.SpawnsAnew i)
    (hs : r.roster.step (.spawn i) = some ro) : r.roster.Orderly (.spawn i) := by
  intro stream call k hw hk m hm
  simp only [roster, List.getElem?_map, Option.map_eq_some_iff, Prod.mk.injEq] at hw
  obtain ⟨f, hf, rfl, rfl⟩ := hw
  simp only [roster, List.mem_map] at hm
  obtain ⟨obj, hobj, rfl⟩ := hm
  refine h f hf ?_ k (grantOf_of_claim hk) obj hobj
  simp only [Roster.step] at hs
  split at hs
  · next stream' k' hr =>
    split at hs
    · next hnone =>
      obtain ⟨i', c, hw', -⟩ := Roster.resuming_eq_some.mp hr
      simp only [roster, List.getElem?_map, hf, Option.map_some, Option.some.injEq,
        Prod.mk.injEq] at hw'
      rw [hw'.1]
      exact hnone
    · cases hs
  · cases hs

/-- Ownership stays coherent and backed in every orderly step except the answer to
a claim, which changes what is held. -/
theorem step_sound {held : String → Option String} {r r' : SessionRegistry Data}
    {a : Action Data} (hco : r.roster.Coherent) (hb : Roster.Backed held r.roster)
    (ho : r.Orderly a) (ha : ∀ i answer, a ≠ .acquireAnswered i answer)
    (h : r.step a = some r') : r'.roster.Coherent ∧ Roster.Backed held r'.roster := by
  obtain ⟨ms, hexp, hr⟩ := step_moves h
  have hone : ∀ m, ms = [m] → r.roster.Orderly m → (∀ i grant, m ≠ .answer i grant) →
      r'.roster.Coherent ∧ Roster.Backed held r'.roster := by
    rintro m rfl hm hnot
    rw [run_singleton] at hr
    exact ⟨hco.step hm hr, hb.step hco hm hnot hr⟩
  have hnot : ∀ m : Roster.Move, (match m with | .answer .. => False | _ => True) →
      ∀ i grant, m ≠ .answer i grant := by
    rintro m hm i grant rfl
    exact hm
  cases hexp with
  | asks now event hadmits =>
    refine hone _ rfl ?_ (hnot _ trivial)
    rw [run_singleton, Roster.step] at hr
    split at hr
    · next hfree => exact ask_orderly (ho hadmits hfree.2)
    · cases hr
  | joins now event i hadmits => exact hone _ rfl trivial (hnot _ trivial)
  | answers i answer => exact absurd rfl (ha i answer)
  | settles i => exact hone _ rfl trivial (hnot _ trivial)
  | leaves now i suffix => exact hone _ rfl trivial (hnot _ trivial)
  | shares now i suffix => exact hone _ rfl trivial (hnot _ trivial)
  | surplus now i suffix => exact hone _ rfl trivial (hnot _ trivial)
  | spawns now i suffix =>
    refine hone _ rfl ?_ (hnot _ trivial)
    rw [run_singleton] at hr
    exact spawn_orderly ho hr
  | drained now i => exact absurd ho id
  | ends _ os =>
    refine run_invariant_of (I := fun ro => ro.Coherent ∧ Roster.Backed held ro)
      (K := fun m => ∃ o, m = .ended o) ?_ ⟨hco, hb⟩ ?_ hr
    · rintro ro m ro' ⟨hco, hb⟩ ⟨o, rfl⟩ hs
      have hended : ro.Orderly (.ended o) := trivial
      exact ⟨hco.step hended hs, hb.step hco hended (hnot _ trivial) hs⟩
    · intro m hm
      obtain ⟨o, -, rfl⟩ := List.mem_map.mp hm
      exact ⟨o, rfl⟩

/-- A fresh token in answer to a claim, and the leases that come with it. -/
theorem answered_sound (held' : String → Option String) {held : String → Option String}
    {r r' : SessionRegistry Data} {i : Nat} {answer : Except String (Option LockToken)}
    {call : LockCall String (Option LockToken)} (hco : r.roster.Coherent)
    (hb : Roster.Backed held r.roster) (hc : r.acquires[i]? = some call)
    (hfresh : ∀ k, granted answer = some k → ∀ j, r.grantOf j ≠ some k)
    (hothers : ∀ stream, stream ≠ call.request → held' stream = held stream)
    (hgrant : ∀ k, granted answer = some k → held' call.request = some k)
    (h : r.step (.acquireAnswered i answer) = some r') :
    r'.roster.Coherent ∧ Roster.Backed held' r'.roster := by
  obtain ⟨calls, hcalls, rfl⟩ := Option.map_eq_some_iff.mp h
  have hs := arrive_claims hcalls
  have hclaim : r.roster.claims[i]? = some call.claim := by simp [roster, hc]
  refine ⟨hco.step ?_ hs, hb.answer hco hclaim hs hothers hgrant⟩
  intro k hk c hmem hgranted
  obtain ⟨j, hj⟩ := List.mem_iff_getElem?.mp hmem
  obtain ⟨stream, grant, settled⟩ := c
  simp only at hgranted
  subst hgranted
  exact hfresh k hk j (grantOf_of_claim hj)

/-- While every session lives, a route that resumes without one spawns anew. -/
theorem spawnsAnew_of_live {r : SessionRegistry Data} (hco : r.roster.Coherent)
    (hlive : ∀ obj ∈ r.objects, obj.session.state.live = true) (i : Nat) : r.SpawnsAnew i := by
  intro f hf hnone k hk obj hobj hclaim
  have hmem : (f.event.streamId, f.call) ∈ r.roster.waiting :=
    List.mem_map.mpr ⟨f, List.mem_of_getElem? hf, rfl⟩
  obtain ⟨c, hc, hstream⟩ := hco.waits _ _ hmem
  have hgrant : c.grant = some (some k) := by
    have hk' : r.roster.grantOf f.call = some k := by rw [← grantOf_roster]; exact hk
    rw [Roster.grantOf, hc, Option.bind_some] at hk'
    obtain ⟨g, hg, he⟩ := Option.bind_eq_some_iff.mp hk'
    rw [hg, ← he]
    rfl
  -- The session that had the token belongs to the same claim, hence to the same stream.
  obtain ⟨o, ho⟩ := List.mem_iff_getElem?.mp hobj
  have ho' : r.roster.objects[o]? = some obj.member := by simp [roster, ho]
  obtain ⟨j, hj⟩ := hco.claimed o obj.member ho'
  have hsame : j = f.call := hco.distinct j f.call _ c k hj hc (by rw [← hclaim]; rfl) hgrant
  subst hsame
  rw [Roster.Granted, hc, Option.some.injEq] at hj
  have hmember : obj.member = ⟨f.event.streamId, obj.claim.token, true⟩ := by
    rw [SessionObject.member, hlive obj hobj, ← hstream, hj]
    rfl
  have hreg := hco.present o _ _ (hmember ▸ ho')
  have hreg' : r.sessions.lookup f.event.streamId = some o := hreg
  rw [hnone] at hreg'
  cases hreg'

/-- A new registry has no claim and no session. -/
theorem create_roster {workerId : String} {options : SessionRegistryOptions}
    {r : SessionRegistry Data} (h : create workerId options = .ok r) :
    r.roster = Roster.empty := by
  unfold create at h
  simp only at h
  split at h
  · cases h
  · rw [Except.ok.injEq] at h
    subst h
    rfl

end SessionRegistry

end Processing
end XStreamRoll
