/-
The two maps of a registry stay together, whatever its callers do.

A roster is paired when a stream has a token exactly when it has a session, and
every session object has the granted claim it was spawned under.  Every move of
a roster keeps it paired, the drain and the moves that are not orderly included.

The rest is about single steps.  A session object that has left the map changes
nothing but itself.  An entry leaves the map, and its token goes back to the
lock manager, only when its own session ends.
-/
import XStreamRoll.Processing.SessionRegistry.Holding

namespace XStreamRoll
namespace Processing

open Transition

variable {Data : Type}

/-! ## Sessions and tokens in pairs -/

namespace Roster

structure Paired (ro : Roster) : Prop where
  tracked : ∀ stream o, ro.sessions stream = some o → ∃ k live,
    ro.objects[o]? = some ⟨stream, k, live⟩ ∧ ro.tokens stream = some k
  untracked : ∀ stream, ro.sessions stream = none → ro.tokens stream = none
  addressed : ∀ stream i, (stream, i) ∈ ro.waiting ∨ ro.inflight stream = some i →
    ∃ c : Claim, ro.claims[i]? = some c ∧ c.stream = stream
  claimed : ∀ (o : Nat) (m : Member), ro.objects[o]? = some m → ∃ i, ro.Granted m.stream i m.claim

theorem empty_paired : Paired empty where
  tracked := by intro stream o h; cases h
  untracked := fun _ _ => rfl
  addressed := by
    rintro stream i (h | h)
    · cases h
    · cases h
  claimed := by intro o m h; simp [empty] at h

/-- A move that leaves the sessions alone, and of the claims changes only what is
not settled. -/
theorem Paired.claims_moved {ro ro' : Roster} (h : Paired ro)
    (hsessions : ro'.sessions = ro.sessions) (htokens : ro'.tokens = ro.tokens)
    (hobjects : ro'.objects = ro.objects)
    (hclaims : ∀ (i : Nat) (c : Claim), ro.claims[i]? = some c →
      ∃ c' : Claim, ro'.claims[i]? = some c' ∧ c'.stream = c.stream ∧
        (c.settled = true → c.grant.isSome = true → c' = c))
    (haddressed : ∀ stream i, (stream, i) ∈ ro'.waiting ∨ ro'.inflight stream = some i →
      ((stream, i) ∈ ro.waiting ∨ ro.inflight stream = some i) ∨
        ∃ c : Claim, ro'.claims[i]? = some c ∧ c.stream = stream) :
    Paired ro' where
  tracked := by
    rw [hsessions, hobjects, htokens]
    exact h.tracked
  untracked := by
    rw [hsessions, htokens]
    exact h.untracked
  addressed := by
    intro stream i hi
    rcases haddressed stream i hi with hold | hnew
    · obtain ⟨c, hc, hstream⟩ := h.addressed stream i hold
      obtain ⟨c', hc', hsame, -⟩ := hclaims i c hc
      exact ⟨c', hc', hsame.trans hstream⟩
    · exact hnew
  claimed := by
    intro o m ho
    rw [hobjects] at ho
    obtain ⟨i, hi⟩ := h.claimed o m ho
    obtain ⟨c', hc', -, hkept⟩ := hclaims i _ hi
    exact ⟨i, by rw [Granted, hc', hkept rfl rfl]⟩

/-- A route that resumes leaves the routes that wait. -/
theorem Paired.resumed {ro ro' : Roster} (h : Paired ro) {j : Nat}
    (hsessions : ro'.sessions = ro.sessions) (htokens : ro'.tokens = ro.tokens)
    (hobjects : ro'.objects = ro.objects) (hclaims : ro'.claims = ro.claims)
    (hinflight : ro'.inflight = ro.inflight) (hwaiting : ro'.waiting = ro.waiting.eraseIdx j) :
    Paired ro' := by
  apply h.claims_moved hsessions htokens hobjects
  · intro i c hc
    exact ⟨c, by rw [hclaims, hc], rfl, fun _ _ => rfl⟩
  · intro stream i hi
    rw [hwaiting, hinflight] at hi
    exact .inl (hi.imp_left List.mem_of_mem_eraseIdx)

/-- The claim `i` is answered or settled. -/
theorem Paired.claim_written {ro ro' : Roster} (h : Paired ro) {i : Nat} {c d : Claim}
    (hc : ro.claims[i]? = some c) (hclaims : ro'.claims = ro.claims.set i d)
    (hstream : d.stream = c.stream) (hopen : c.settled = true → c.grant.isSome = true → d = c)
    (hsessions : ro'.sessions = ro.sessions) (htokens : ro'.tokens = ro.tokens)
    (hobjects : ro'.objects = ro.objects)
    (hinflight : ∀ stream j, ro'.inflight stream = some j → ro.inflight stream = some j)
    (hwaiting : ro'.waiting = ro.waiting) : Paired ro' := by
  have hlt := Heap.lt_of_getElem?_eq_some hc
  apply h.claims_moved hsessions htokens hobjects
  · intro j e he
    rw [hclaims]
    by_cases hj : j = i
    · subst hj
      rw [hc, Option.some.injEq] at he
      subst he
      exact ⟨d, Heap.getElem?_write_self hlt d, hstream, hopen⟩
    · exact ⟨e, (Heap.getElem?_write_ne hj d).trans he, rfl, fun _ _ => rfl⟩
  · intro stream j hj
    rw [hwaiting] at hj
    exact .inl (hj.imp_right (hinflight stream j))

theorem Paired.ask {ro : Roster} (h : Paired ro) (stream : String) :
    Paired { ro with
      claims := ro.claims ++ [⟨stream, none, false⟩]
      inflight := Function.update ro.inflight stream (some ro.claims.length)
      waiting := ro.waiting ++ [(stream, ro.claims.length)] } := by
  refine h.claims_moved rfl rfl rfl ?_ ?_
  · intro i c hc
    exact ⟨c, Heap.getElem?_alloc_of_some hc, rfl, fun _ _ => rfl⟩
  · have hnew : ∃ c : Claim, (ro.claims ++ [⟨stream, none, false⟩])[ro.claims.length]? = some c ∧
        c.stream = stream := ⟨_, Heap.getElem?_alloc_self .., rfl⟩
    intro s i hi
    simp only [List.mem_append, List.mem_singleton, Prod.mk.injEq, Function.update_apply] at hi
    rcases hi with (hold | ⟨rfl, rfl⟩) | hi
    · exact .inl (.inl hold)
    · exact .inr hnew
    · by_cases he : s = stream
      · subst he
        rw [if_pos rfl, Option.some.injEq] at hi
        subst hi
        exact .inr hnew
      · rw [if_neg he] at hi
        exact .inl (.inr hi)

theorem Paired.spawn {ro : Roster} (h : Paired ro) {i : Nat} {stream k : String} (j : Nat)
    (hk : ro.Granted stream i k) :
    Paired { ro with
      waiting := ro.waiting.eraseIdx j
      objects := ro.objects ++ [⟨stream, k, true⟩]
      sessions := Function.update ro.sessions stream (some ro.objects.length)
      tokens := Function.update ro.tokens stream (some k) } where
  tracked := by
    intro s o ho
    simp only [Function.update_apply] at ho ⊢
    by_cases he : s = stream
    · subst he
      rw [if_pos rfl, Option.some.injEq] at ho
      subst ho
      exact ⟨k, true, Heap.getElem?_alloc_self .., if_pos rfl⟩
    · rw [if_neg he] at ho
      obtain ⟨k', live, hobj, htok⟩ := h.tracked s o ho
      exact ⟨k', live, Heap.getElem?_alloc_of_some hobj, (if_neg he).trans htok⟩
  untracked := by
    intro s hs
    simp only [Function.update_apply] at hs ⊢
    by_cases he : s = stream
    · rw [if_pos he] at hs
      cases hs
    · rw [if_neg he] at hs
      exact (if_neg he).trans (h.untracked s hs)
  addressed := fun s i hi => h.addressed s i (hi.imp_left List.mem_of_mem_eraseIdx)
  claimed := by
    intro o m ho
    rcases Heap.getElem?_alloc.mp ho with hold | ⟨-, rfl⟩
    · exact h.claimed o m hold
    · exact ⟨i, hk⟩

theorem Paired.ended {ro : Roster} (h : Paired ro) {o : Nat} {m : Member}
    (ho : ro.objects[o]? = some m) : Paired (ro.endSession o m) := by
  have hlt := Heap.lt_of_getElem?_eq_some ho
  have htracked : ∀ stream o', ro.sessions stream = some o' → ∃ k live,
      (ro.objects.set o { m with live := false })[o']? = some ⟨stream, k, live⟩ ∧
        ro.tokens stream = some k := by
    intro stream o' ho'
    obtain ⟨k, live, hobj, htok⟩ := h.tracked stream o' ho'
    by_cases he : o' = o
    · subst he
      rw [ho, Option.some.injEq] at hobj
      subst hobj
      exact ⟨k, false, Heap.getElem?_write_self hlt _, htok⟩
    · exact ⟨k, live, (Heap.getElem?_write_ne he _).trans hobj, htok⟩
  have hclaimed : ∀ (o' : Nat) (m' : Member),
      (ro.objects.set o { m with live := false })[o']? = some m' →
        ∃ i, ro.Granted m'.stream i m'.claim := by
    intro o' m' hobj
    obtain ⟨old, hold, hstream, hclaim, -⟩ := getElem?_ended ho hobj
    rw [← hstream, ← hclaim]
    exact h.claimed o' old hold
  unfold endSession
  by_cases hreg : ro.sessions m.stream = some o
  · rw [if_pos hreg]
    refine ⟨?_, ?_, h.addressed, hclaimed⟩
    · intro s o' ho'
      simp only [Function.update_apply] at ho' ⊢
      by_cases he : s = m.stream
      · rw [if_pos he] at ho'
        cases ho'
      · rw [if_neg he] at ho'
        obtain ⟨k, live, hobj, htok⟩ := htracked s o' ho'
        exact ⟨k, live, hobj, (if_neg he).trans htok⟩
    · intro s hs
      simp only [Function.update_apply] at hs ⊢
      by_cases he : s = m.stream
      · exact if_pos he
      · rw [if_neg he] at hs
        exact (if_neg he).trans (h.untracked s hs)
  · rw [if_neg hreg]
    exact ⟨htracked, h.untracked, h.addressed, hclaimed⟩

/-- A route that resumes with a token has the granted claim of its own stream. -/
theorem Paired.resuming_granted {ro : Roster} (h : Paired ro) {j : Nat} {stream k : String}
    (hr : ro.resuming j = some (stream, some (some k))) : ∃ i, ro.Granted stream i k := by
  obtain ⟨i, c, hw, hc, hs, hg⟩ := resuming_eq_some.mp hr
  obtain ⟨c', hc', hstream⟩ := h.addressed stream i (.inl (List.mem_of_getElem? hw))
  rw [hc, Option.some.injEq] at hc'
  subst hc'
  refine ⟨i, ?_⟩
  rw [Granted, hc, ← hstream, ← hg, ← hs]

theorem Paired.step {ro ro' : Roster} {m : Move} (h : Paired ro) (hs : ro.step m = some ro') :
    Paired ro' := by
  cases m with
  | ask stream =>
    simp only [Roster.step] at hs
    split at hs
    · rw [Option.some.injEq] at hs
      subst hs
      exact h.ask stream
    · cases hs
  | join stream i =>
    simp only [Roster.step] at hs
    split at hs
    · next hi =>
      rw [Option.some.injEq] at hs
      subst hs
      refine h.claims_moved rfl rfl rfl (fun _ c hc => ⟨c, hc, rfl, fun _ _ => rfl⟩) ?_
      intro s j hj
      simp only [List.mem_append, List.mem_singleton, Prod.mk.injEq] at hj
      rcases hj with (hold | ⟨rfl, rfl⟩) | hold
      · exact .inl (.inl hold)
      · exact .inl (.inr hi)
      · exact .inl (.inr hold)
    · cases hs
  | answer i grant =>
    simp only [Roster.step] at hs
    split at hs
    · cases hs
    · next c hc =>
      split at hs
      · cases hs
      · next hnone =>
        rw [Option.some.injEq] at hs
        subst hs
        exact h.claim_written hc rfl rfl (fun _ hg => absurd hg hnone) rfl rfl rfl
          (fun _ _ hj => hj) rfl
  | settle i =>
    simp only [Roster.step] at hs
    split at hs
    · cases hs
    · next c hc =>
      split at hs
      · cases hs
      · next hg =>
        rw [Option.some.injEq] at hs
        subst hs
        refine h.claim_written hc rfl rfl (fun hset _ => absurd (.inr hset) hg) rfl rfl rfl ?_ rfl
        intro s j hj
        simp only [Function.update_apply] at hj
        split at hj
        · cases hj
        · exact hj
  | leave j =>
    simp only [Roster.step] at hs
    split at hs
    · rw [Option.some.injEq] at hs
      subst hs
      exact h.resumed rfl rfl rfl rfl rfl rfl
    · cases hs
  | share j | surplus j =>
    simp only [Roster.step] at hs
    split at hs
    · split at hs
      · rw [Option.some.injEq] at hs
        subst hs
        exact h.resumed rfl rfl rfl rfl rfl rfl
      · cases hs
    · cases hs
  | spawn j =>
    simp only [Roster.step] at hs
    split at hs
    · next stream k hr =>
      split at hs
      · rw [Option.some.injEq] at hs
        subst hs
        obtain ⟨i, hk⟩ := h.resuming_granted hr
        exact h.spawn j hk
      · cases hs
    · cases hs
  | ended o =>
    simp only [Roster.step] at hs
    split at hs
    · cases hs
    · next m hm =>
      rw [Option.some.injEq] at hs
      subst hs
      exact h.ended hm
  | drained =>
    simp only [Roster.step, Option.some.injEq] at hs
    subst hs
    refine ⟨?_, fun _ _ => rfl, ?_, h.claimed⟩
    · intro s o ho
      cases ho
    · rintro s i (hi | hi)
      · exact h.addressed s i (.inl hi)
      · cases hi

/-- Only a spawn adds a session object. -/
theorem objects_length {ro ro' : Roster} {m : Move} (hm : ∀ j, m ≠ .spawn j)
    (hs : ro.step m = some ro') : ro'.objects.length = ro.objects.length := by
  cases m with
  | spawn j => exact absurd rfl (hm j)
  | ended o =>
    simp only [Roster.step] at hs
    split at hs
    · cases hs
    · rw [Option.some.injEq] at hs
      rw [← hs, endSession_objects, List.length_set]
  | drained =>
    simp only [Roster.step, Option.some.injEq] at hs
    rw [← hs]
  | ask | join | leave =>
    simp only [Roster.step] at hs
    split at hs
    · rw [Option.some.injEq] at hs
      rw [← hs]
    · cases hs
  | answer | settle =>
    simp only [Roster.step] at hs
    split at hs
    · cases hs
    · split at hs
      · cases hs
      · rw [Option.some.injEq] at hs
        rw [← hs]
  | share | surplus =>
    simp only [Roster.step] at hs
    split at hs
    · split at hs
      · rw [Option.some.injEq] at hs
        rw [← hs]
      · cases hs
    · cases hs

/-- It is under the claim that the route waited for. -/
theorem Paired.spawned {ro ro' : Roster} {j : Nat} (h : Paired ro)
    (hs : ro.step (.spawn j) = some ro') :
    ∃ obj i, ro'.objects = ro.objects ++ [obj] ∧ ro.Granted obj.stream i obj.claim := by
  simp only [Roster.step] at hs
  split at hs
  · next stream k hr =>
    split at hs
    · rw [Option.some.injEq] at hs
      subst hs
      obtain ⟨i, hk⟩ := h.resuming_granted hr
      exact ⟨_, i, rfl, hk⟩
    · cases hs
  · cases hs

end Roster

namespace SessionRegistry

/-! ## Sessions, tokens and claims of a registry -/

/-- `acquires[i]` returned this token for the stream, and has settled. -/
def Acquired (r : SessionRegistry Data) (streamId : String) (token : LockToken) : Prop :=
  ∃ (i : Nat) (call : LockCall String (Option LockToken)), r.acquires[i]? = some call ∧
    call.request = streamId ∧ call.settled = true ∧
      ∃ current, call.answer = some (.ok (some current)) ∧ current.token = token.token

/-- The streams with a session are those with a token, and the session in the map
has the token of a claim that its own stream was granted. -/
structure Tracked (r : SessionRegistry Data) : Prop where
  paired : ∀ streamId,
    (r.sessions.lookup streamId).isSome = true ↔ (r.lockTokens.lookup streamId).isSome = true
  acquired : ∀ streamId o, r.sessions.lookup streamId = some o → ∃ obj token,
    r.objects[o]? = some obj ∧ obj.session.streamId = streamId ∧
      r.lockTokens.lookup streamId = some token ∧ obj.claim.token = token.token ∧
      r.Acquired streamId token

theorem acquired_of_granted {r : SessionRegistry Data} {streamId : String} {i : Nat}
    {token : LockToken} (h : r.roster.Granted streamId i token.token) :
    r.Acquired streamId token := by
  rw [Roster.Granted] at h
  simp only [roster, List.getElem?_map, Option.map_eq_some_iff] at h
  obtain ⟨call, hcall, hclaim⟩ := h
  rw [LockCall.claim, Claim.mk.injEq] at hclaim
  obtain ⟨hrequest, hgrant, hsettled⟩ := hclaim
  obtain ⟨answer, hanswer, hgranted⟩ := Option.map_eq_some_iff.mp hgrant
  unfold granted at hgranted
  split at hgranted
  · next current =>
    rw [Option.some.injEq] at hgranted
    exact ⟨i, call, hcall, hrequest, hsettled, current, hanswer, hgranted⟩
  · cases hgranted

theorem tracked_of_paired {r : SessionRegistry Data} (h : r.roster.Paired) : r.Tracked := by
  have htracked : ∀ streamId o, r.sessions.lookup streamId = some o → ∃ obj token,
      r.objects[o]? = some obj ∧ obj.session.streamId = streamId ∧
        r.lockTokens.lookup streamId = some token ∧ obj.claim.token = token.token := by
    intro streamId o ho
    obtain ⟨k, live, hobj, htok⟩ := h.tracked streamId o ho
    simp only [roster, List.getElem?_map, Option.map_eq_some_iff] at hobj htok
    obtain ⟨obj, hobj, hmember⟩ := hobj
    obtain ⟨token, htoken, rfl⟩ := htok
    rw [SessionObject.member, Member.mk.injEq] at hmember
    exact ⟨obj, token, hobj, hmember.1, htoken, hmember.2.1⟩
  constructor
  · intro streamId
    constructor
    · intro hs
      obtain ⟨o, ho⟩ := Option.isSome_iff_exists.mp hs
      obtain ⟨-, token, -, -, htoken, -⟩ := htracked streamId o ho
      rw [htoken]
      rfl
    · intro ht
      by_contra hs
      have hnone : r.roster.sessions streamId = none := Option.not_isSome_iff_eq_none.mp hs
      have hfree : (r.lockTokens.lookup streamId).map (·.token) = none := h.untracked streamId hnone
      rw [Option.map_eq_none_iff] at hfree
      rw [hfree] at ht
      cases ht
  · intro streamId o ho
    obtain ⟨obj, token, hobj, hstream, htoken, hclaim⟩ := htracked streamId o ho
    have hmember : r.roster.objects[o]? = some obj.member := by simp [roster, hobj]
    obtain ⟨i, hi⟩ := h.claimed o obj.member hmember
    have hgranted : r.roster.Granted streamId i token.token := by
      rw [← hstream, ← hclaim]
      exact hi
    exact ⟨obj, token, hobj, hstream, htoken, hclaim, acquired_of_granted hgranted⟩

theorem step_paired {r r' : SessionRegistry Data} {a : Action Data} (h : r.roster.Paired)
    (hs : r.step a = some r') : r'.roster.Paired := by
  obtain ⟨ms, -, hr⟩ := step_moves hs
  exact run_invariant (fun _ _ _ h hs => Roster.Paired.step h hs) h hr

/-- A session object that the step adds was granted its claim before. -/
theorem step_spawned {r r' : SessionRegistry Data} {a : Action Data} (h : r.roster.Paired)
    (hs : r.step a = some r') {o : Nat} {obj : SessionObject Data} (hnew : r.objects.length ≤ o)
    (ho : r'.objects[o]? = some obj) : r.Acquired obj.session.streamId obj.claim := by
  obtain ⟨ms, hexp, hr⟩ := step_moves hs
  have hmember : r'.roster.objects[o]? = some obj.member := by simp [roster, ho]
  have hlength : r.roster.objects.length = r.objects.length := by simp [roster]
  have hsame : (∀ m ∈ ms, ∀ j, m ≠ Roster.Move.spawn j) →
      r'.roster.objects.length = r.roster.objects.length := by
    intro hms
    refine run_invariant_of (I := fun ro => ro.objects.length = r.roster.objects.length)
      (K := fun m => ∀ j, m ≠ Roster.Move.spawn j) ?_ rfl hms hr
    intro ro m ro' hro hm hstep
    rw [Roster.objects_length hm hstep, hro]
  have hnone : (∀ m ∈ ms, ∀ j, m ≠ Roster.Move.spawn j) → False := by
    intro hms
    have hlt := Heap.lt_of_getElem?_eq_some hmember
    have hlen := hsame hms
    omega
  cases hexp with
  | spawns now j suffix =>
    rw [run_singleton] at hr
    obtain ⟨m, i, hobjects, hi⟩ := h.spawned hr
    rw [hobjects] at hmember
    rcases Heap.getElem?_alloc.mp hmember with hold | ⟨-, rfl⟩
    · have hlt := Heap.lt_of_getElem?_eq_some hold
      omega
    · exact acquired_of_granted hi
  | ends _ os =>
    refine absurd ?_ hnone
    intro m hm j he
    obtain ⟨o', -, rfl⟩ := List.mem_map.mp hm
    cases he
  | asks | joins | answers | settles | leaves | shares | surplus | drained =>
    refine absurd ?_ hnone
    intro m hm j he
    rw [List.mem_singleton] at hm
    subst hm
    cases he

/-! ## What a step does to the entries of others -/

/-- The session object is over. -/
def Ended (r : SessionRegistry Data) (o : Nat) : Prop :=
  ∃ obj, r.objects[o]? = some obj ∧ obj.session.state.live = false

/-- The token stored for the stream. -/
def tokenOf (r : SessionRegistry Data) (streamId : String) : Option String :=
  (r.lockTokens.lookup streamId).map (·.token)

/-- What the manager is asked to release, in order. -/
def releaseRequests (r : SessionRegistry Data) : List ReleaseRequest := r.releases.map (·.request)

/-- An entry leaves the map, and its token is released, only with the end of its own
session. -/
structure SparesOthers (r r' : SessionRegistry Data) : Prop where
  ended : ∀ o, r.Ended o → r'.Ended o
  entries : ∀ streamId o, r.sessions.lookup streamId = some o →
    r'.Ended o ∨ r'.sessions.lookup streamId = some o ∧ r'.tokenOf streamId = r.tokenOf streamId
  releases : ∃ more, r'.releaseRequests = r.releaseRequests ++ more ∧
    ∀ q ∈ more, ∀ o, r.sessions.lookup q.streamId = some o →
      r.tokenOf q.streamId = some q.token.token → r'.Ended o

theorem ended_iff {r : SessionRegistry Data} {o : Nat} :
    r.Ended o ↔ ∃ m : Member, r.roster.objects[o]? = some m ∧ m.live = false := by
  simp only [roster, List.getElem?_map, Option.map_eq_some_iff]
  constructor
  · rintro ⟨obj, hobj, hlive⟩
    exact ⟨obj.member, ⟨obj, hobj, rfl⟩, hlive⟩
  · rintro ⟨-, ⟨obj, hobj, rfl⟩, hlive⟩
    exact ⟨obj, hobj, hlive⟩

theorem SparesOthers.trans {r r₁ r₂ : SessionRegistry Data} (h : SparesOthers r r₁)
    (h' : SparesOthers r₁ r₂) : SparesOthers r r₂ where
  ended := fun o ho => h'.ended o (h.ended o ho)
  entries := by
    intro streamId o ho
    rcases h.entries streamId o ho with hended | ⟨ho₁, htoken⟩
    · exact .inl (h'.ended o hended)
    · rcases h'.entries streamId o ho₁ with hended | ⟨ho₂, htoken'⟩
      · exact .inl hended
      · exact .inr ⟨ho₂, htoken'.trans htoken⟩
  releases := by
    obtain ⟨more, hmore, hown⟩ := h.releases
    obtain ⟨more', hmore', hown'⟩ := h'.releases
    refine ⟨more ++ more', ?_, ?_⟩
    · rw [hmore', hmore, List.append_assoc]
    · intro q hq o ho htoken
      rcases List.mem_append.mp hq with hq | hq
      · exact h'.ended o (hown q hq o ho htoken)
      · rcases h.entries q.streamId o ho with hended | ⟨ho₁, hsame⟩
        · exact h'.ended o hended
        · exact hown' q hq o ho₁ (hsame.trans htoken)

/-- A step that leaves the sessions alone and asks for no release. -/
theorem sparesOthers_of_same {r r' : SessionRegistry Data}
    (hsessions : r'.roster.sessions = r.roster.sessions)
    (htokens : r'.roster.tokens = r.roster.tokens)
    (hobjects : r'.roster.objects = r.roster.objects)
    (hreleases : r'.releaseRequests = r.releaseRequests) : SparesOthers r r' where
  ended := by
    intro o ho
    rw [ended_iff, hobjects]
    exact ended_iff.mp ho
  entries := fun streamId _ ho =>
    .inr ⟨(congrFun hsessions streamId).trans ho, congrFun htokens streamId⟩
  releases := ⟨[], by rw [hreleases, List.append_nil], fun q hq => by cases hq⟩

theorem sparesOthers_of_roster {r r' : SessionRegistry Data} (h : r'.roster = r.roster)
    (hreleases : r'.releaseRequests = r.releaseRequests) : SparesOthers r r' :=
  sparesOthers_of_same (by rw [h]) (by rw [h]) (by rw [h]) hreleases

theorem deregister_releases (now : Date) (o : Nat) (streamId : String) (r : SessionRegistry Data) :
    ∃ more, (r.deregister now o streamId).releaseRequests = r.releaseRequests ++ more ∧
      ∀ q ∈ more, q.streamId = streamId ∧ r.sessions.lookup streamId = some o := by
  by_cases h : r.sessions.lookup streamId = some o
  · rw [deregister, stateListener]
    simp only [ne_eq, not_true_eq_false, false_and, if_false, h]
    cases r.lockTokens.lookup streamId with
    | none => exact ⟨[], (List.append_nil _).symm, fun q hq => by cases hq⟩
    | some token =>
      refine ⟨[⟨streamId, token, false⟩], ?_, ?_⟩
      · cases r.heartbeats.lookup streamId <;> simp [releaseRequests, release, clearTimeout]
      · intro q hq
        rw [List.mem_singleton] at hq
        subst hq
        exact ⟨rfl, trivial⟩
  · rw [deregister_absent h]
    exact ⟨[], (List.append_nil _).symm, fun q hq => by cases hq⟩

theorem sessionRan_sparesOthers {now : Date} {o : Nat} {obj : SessionObject Data}
    {ran : StreamSession Data × List (Effect Data)} {r : SessionRegistry Data}
    (ho : r.objects[o]? = some obj) (hran : Reports obj.session ran) :
    SparesOthers r (r.sessionRan now o obj ran) := by
  have hroster : (r.sessionRan now o obj ran).roster = _ := sessionRan_roster ho hran
  cases hends : ran.2.any Effect.ends with
  | false =>
    rw [hends] at hroster
    refine sparesOthers_of_roster hroster ?_
    rw [sessionRan, notify_foldl, hends]
    rfl
  | true =>
    rw [hends, if_pos rfl] at hroster
    have hget : r.roster.objects[o]? = some obj.member := by simp [roster, ho]
    have hself : (r.sessionRan now o obj ran).Ended o := by
      rw [ended_iff, hroster, Roster.endSession_objects]
      exact ⟨_, Heap.getElem?_write_self (Heap.lt_of_getElem?_eq_some hget) _, rfl⟩
    constructor
    · intro o' ho'
      by_cases he : o' = o
      · exact he ▸ hself
      · rw [ended_iff, hroster, Roster.endSession_objects, Heap.getElem?_write_ne he]
        exact ended_iff.mp ho'
    · intro streamId o' ho'
      by_cases he : o' = o
      · exact .inl (he ▸ hself)
      · right
        have hsessions := congrFun (congrArg Roster.sessions hroster) streamId
        have htokens := congrFun (congrArg Roster.tokens hroster) streamId
        have hold : r.roster.sessions streamId = some o' := ho'
        unfold Roster.endSession at hsessions htokens
        by_cases hreg : r.roster.sessions obj.member.stream = some o
        · have hne : streamId ≠ obj.member.stream := by
            rintro rfl
            rw [hreg, Option.some.injEq] at hold
            exact he hold.symm
          simp only [hreg, if_true, Function.update_of_ne hne] at hsessions htokens
          exact ⟨hsessions.trans hold, htokens⟩
        · simp only [hreg, if_false] at hsessions htokens
          exact ⟨hsessions.trans hold, htokens⟩
    · rw [sessionRan, notify_foldl, hends, if_pos rfl]
      obtain ⟨more, hmore, hown⟩ := deregister_releases now o obj.session.streamId ({ r with
        objects := r.objects.set o { obj with session := ran.1 }
        log := r.log ++ ran.2.map fun e => (o, e) } : SessionRegistry Data)
      refine ⟨more, hmore, ?_⟩
      intro q hq o' ho' htoken
      obtain ⟨hstream, hreg⟩ := hown q hq
      have hreg' : r.sessions.lookup obj.session.streamId = some o := hreg
      rw [hstream, hreg', Option.some.injEq] at ho'
      subst ho'
      rw [sessionRan, notify_foldl, hends, if_pos rfl] at hself
      exact hself

theorem enqueueAndReturn_sparesOthers (now : Date) (o : Nat) (event : StreamEvent Data)
    (r : SessionRegistry Data) : SparesOthers r (r.enqueueAndReturn now o event) := by
  rw [enqueueAndReturn, enqueueOn]
  cases ho : r.objects[o]? with
  | none => exact sparesOthers_of_roster rfl rfl
  | some obj =>
    have hran : SparesOthers r (r.sessionRan now o obj (obj.session.enqueue now event).2) :=
      sessionRan_sparesOthers ho (enqueue_reports now event obj.session)
    refine hran.trans ?_
    exact sparesOthers_of_roster rfl rfl

theorem stopOn_sparesOthers (now : Date) (o : Nat) (r : SessionRegistry Data) :
    SparesOthers r (r.stopOn now o) := by
  unfold stopOn
  cases ho : r.objects[o]? with
  | none => exact sparesOthers_of_roster rfl rfl
  | some obj =>
    have hcounted : SparesOthers r { r with stopCalls := r.stopCalls + 1 } :=
      sparesOthers_of_roster rfl rfl
    refine hcounted.trans ?_
    exact sessionRan_sparesOthers (r := { r with stopCalls := r.stopCalls + 1 }) ho
      (stop_reports _ obj.session)

theorem stopAll_sparesOthers (now : Date) (all : List Nat) (r : SessionRegistry Data) :
    SparesOthers r (all.foldl (stopOn now) r) := by
  induction all generalizing r with
  | nil => exact sparesOthers_of_roster rfl rfl
  | cons o all ih =>
    rw [List.foldl_cons]
    exact (stopOn_sparesOthers now o r).trans (ih (r.stopOn now o))

theorem scheduleNext_releases (now : Date) (streamId : String) (token : LockToken)
    (r : SessionRegistry Data) :
    (r.scheduleNext now streamId token).releaseRequests = r.releaseRequests := by
  unfold scheduleNext
  split
  · rfl
  · split <;> rfl

theorem extendToken_releases (now : Date) (streamId : String) (token : LockToken)
    (r : SessionRegistry Data) :
    (r.extendToken now streamId token).releaseRequests = r.releaseRequests := by
  unfold extendToken
  split
  · rfl
  · split <;> rfl

theorem joinRaced_sparesOthers (now : Date) (raced : Nat) (event : StreamEvent Data)
    (token : LockToken) (r : SessionRegistry Data) :
    SparesOthers r (r.joinRaced now raced event token) := by
  rw [joinRaced]
  simp only
  refine .trans ?_ (enqueueAndReturn_sparesOthers ..)
  split
  · next hne =>
    -- The claim is surplus because the stored token is another one.
    refine ⟨fun o ho => ho, fun _ _ ho => .inr ⟨ho, rfl⟩,
      [⟨event.streamId, token, true⟩], by simp [releaseRequests, release], ?_⟩
    intro q hq o _ htoken
    rw [List.mem_singleton] at hq
    subst hq
    exact absurd htoken hne
  · exact sparesOthers_of_roster rfl rfl

theorem start_quiet (now : Date) (s : StreamSession Data) :
    (s.start now).2.any Effect.ends = false := by
  unfold StreamSession.start
  split
  · rfl
  · next hidle =>
    have hstate : s.state = .idle := Decidable.not_not.mp hidle
    simp only [StreamSession.transition, hstate, reduceCtorEq, if_false]
    rw [List.any_append, (pump_reports now _).2.2]
    rfl

theorem sessionRan_releases {ran : StreamSession Data × List (Effect Data)}
    (h : ran.2.any Effect.ends = false) (now : Date) (o : Nat) (obj : SessionObject Data)
    (r : SessionRegistry Data) :
    (r.sessionRan now o obj ran).releaseRequests = r.releaseRequests := by
  rw [sessionRan, notify_foldl, h]
  rfl

theorem spawnAndStart_releases (now : Date) (suffix : String) (event : StreamEvent Data)
    (token : LockToken) (r : SessionRegistry Data) :
    (r.spawnAndStart now suffix event token).releaseRequests = r.releaseRequests := by
  have henqueue : ∀ (o : Nat) (q : SessionRegistry Data),
      (q.enqueueAndReturn now o event).releaseRequests = q.releaseRequests := by
    intro o q
    rw [enqueueAndReturn, enqueueOn]
    cases q.objects[o]? with
    | none => rfl
    | some obj => exact sessionRan_releases (enqueue_state now event obj.session).2.2 now o obj q
  have hstart : ∀ (o : Nat) (q : SessionRegistry Data),
      (q.startOn now o).releaseRequests = q.releaseRequests := by
    intro o q
    unfold startOn
    cases q.objects[o]? with
    | none => rfl
    | some obj => exact sessionRan_releases (start_quiet now obj.session) now o obj q
  rw [spawnAndStart]
  simp only [henqueue, hstart, spawn, startHeartbeat]
  exact scheduleNext_releases ..

theorem spawnAndStart_sparesOthers (now : Date) (suffix : String) (event : StreamEvent Data)
    (token : LockToken) {r : SessionRegistry Data}
    (hnone : r.sessions.lookup event.streamId = none) :
    SparesOthers r (r.spawnAndStart now suffix event token) := by
  have hroster := spawnAndStart_roster now suffix event token r
  refine ⟨?_, ?_, [], ?_, fun q hq => by cases hq⟩
  · intro o ho
    rw [ended_iff, hroster]
    obtain ⟨m, hm, hlive⟩ := ended_iff.mp ho
    exact ⟨m, Heap.getElem?_alloc_of_some hm, hlive⟩
  · intro streamId o ho
    have hne : streamId ≠ event.streamId := by
      rintro rfl
      rw [hnone] at ho
      cases ho
    have hsessions := congrFun (congrArg Roster.sessions hroster) streamId
    have htokens := congrFun (congrArg Roster.tokens hroster) streamId
    simp only [Function.update_of_ne hne] at hsessions htokens
    exact .inr ⟨hsessions.trans ho, htokens⟩
  · rw [spawnAndStart_releases, List.append_nil]

theorem resumeRoute_sparesOthers {now : Date} {i : Nat} {suffix : String}
    {r r' : SessionRegistry Data} (h : r.resumeRoute now i suffix = some r') :
    SparesOthers r r' := by
  have hleft : SparesOthers r { r with routes := r.routes.eraseIdx i } :=
    sparesOthers_of_same rfl rfl rfl rfl
  unfold resumeRoute at h
  split at h
  · cases h
  · next f hf =>
    split at h
    · cases h
    · next call hc =>
      split at h
      · cases h
      · simp only at h
        split at h
        · cases h
        · rw [Option.some.injEq] at h
          subst h
          exact sparesOthers_of_same rfl rfl rfl rfl
        · rw [Option.some.injEq] at h
          subst h
          exact sparesOthers_of_same rfl rfl rfl rfl
        · split at h
          · rw [Option.some.injEq] at h
            subst h
            exact hleft.trans (joinRaced_sparesOthers ..)
          · next hnone =>
            rw [Option.some.injEq] at h
            subst h
            exact hleft.trans (spawnAndStart_sparesOthers now suffix f.event _ hnone)

theorem resumeTick_sparesOthers {now : Date} {i : Nat} {r r' : SessionRegistry Data}
    (h : r.resumeTick now i = some r') : SparesOthers r r' := by
  unfold resumeTick at h
  split at h
  · cases h
  · next f hf =>
    split at h
    · cases h
    · simp only at h
      split at h
      · rw [Option.some.injEq] at h
        subst h
        apply sparesOthers_of_roster
        · rw [scheduleNext_roster, extendToken_roster]
          rfl
        · rw [scheduleNext_releases, extendToken_releases]
          rfl
      · rw [Option.some.injEq] at h
        subst h
        let q : SessionRegistry Data := { r with
          ticks := r.ticks.eraseIdx i
          renews := r.renews.modify f.call fun c => { c with settled := true }
          metrics := r.metrics.incrementLockRenewalsFailed }
        have hq : SparesOthers r q := sparesOthers_of_roster rfl rfl
        refine hq.trans ?_
        unfold lockLost
        simp only
        split
        · exact sparesOthers_of_roster rfl rfl
        · split
          · exact sparesOthers_of_roster rfl rfl
          · next obj ho =>
            split
            · exact sessionRan_sparesOthers (r := q) ho (fail_reports _ obj.session)
            · exact sparesOthers_of_roster rfl rfl
      · rw [Option.some.injEq] at h
        subst h
        apply sparesOthers_of_roster
        · rw [scheduleNext_roster]
          rfl
        · rw [scheduleNext_releases]
          rfl

/-- An answer, and the continuation of a call, leave what was asked. -/
theorem requests_write {calls : List (LockCall ReleaseRequest Bool)} {i : Nat}
    {call call' : LockCall ReleaseRequest Bool} (hc : calls[i]? = some call)
    (h : call'.request = call.request) :
    (calls.set i call').map (·.request) = calls.map (·.request) := by
  rw [List.map_set, h]
  apply Heap.write_self
  simp [hc]

theorem resumeRelease_requests {i : Nat} {r r' : SessionRegistry Data}
    (h : r.resumeRelease i = some r') : r'.releaseRequests = r.releaseRequests := by
  unfold resumeRelease at h
  split at h
  · cases h
  · next call hc =>
    split at h
    · cases h
    · split at h
      · cases h
      · simp only at h
        split at h
        · cases h
          exact requests_write hc rfl
        · split at h
          · cases h
            exact requests_write hc rfl
          · cases h
            exact requests_write hc rfl

theorem releaseAnswered_requests {i : Nat} {answer : Except String Bool}
    {calls calls' : List (LockCall ReleaseRequest Bool)}
    (h : LockCall.arrive i answer calls = some calls') :
    calls'.map (·.request) = calls.map (·.request) := by
  unfold LockCall.arrive at h
  split at h
  · cases h
  · next call hc =>
    split at h
    · cases h
    · cases h
      exact requests_write hc rfl

theorem step_sparesOthers {r r' : SessionRegistry Data} {a : Action Data} (hs : r.step a = some r')
    (ha : ∀ now i, a ≠ .resumeDrain now i) : SparesOthers r r' := by
  cases a with
  | route now event =>
    simp only [step, Option.some.injEq] at hs
    subst hs
    unfold route
    cases r.sessions.lookup event.streamId with
    | some existing => exact enqueueAndReturn_sparesOthers ..
    | none =>
      simp only
      split
      · exact sparesOthers_of_roster rfl rfl
      · unfold acquireDeduplicated
        cases r.inflightAcquires.lookup event.streamId with
        | some pending => exact sparesOthers_of_same rfl rfl rfl rfl
        | none => exact sparesOthers_of_same rfl rfl rfl rfl
  | settleAcquire i =>
    simp only [step, settleAcquire] at hs
    split at hs
    · cases hs
    · split at hs
      · cases hs
      · rw [Option.some.injEq] at hs
        subst hs
        exact sparesOthers_of_same rfl rfl rfl rfl
  | resumeRoute now i suffix => exact resumeRoute_sparesOthers hs
  | tick now timer =>
    refine sparesOthers_of_roster (tick_roster hs) ?_
    simp only [step] at hs
    unfold tick at hs
    grind [clearTimeout, releaseRequests]
  | resumeTick now i => exact resumeTick_sparesOthers hs
  | resumeRelease i =>
    exact sparesOthers_of_roster (resumeRelease_roster hs) (resumeRelease_requests hs)
  | pump now o i answer =>
    simp only [step] at hs
    split at hs
    · cases hs
    · next obj ho =>
      obtain ⟨ran, hran, rfl⟩ := Option.map_eq_some_iff.mp hs
      exact sessionRan_sparesOthers ho (resume_reports hran)
  | stop now o =>
    simp only [step] at hs
    split at hs
    · rw [Option.some.injEq] at hs
      subst hs
      exact stopOn_sparesOthers now o r
    · cases hs
  | stopWake now o call =>
    simp only [step] at hs
    split at hs
    · cases hs
    · next obj ho =>
      split at hs
      · rw [Option.some.injEq] at hs
        subst hs
        exact sessionRan_sparesOthers ho (stopWake_reports call obj.session)
      · cases hs
  | fail now o error =>
    simp only [step] at hs
    split at hs
    · cases hs
    · next obj ho =>
      rw [Option.some.injEq] at hs
      subst hs
      exact sessionRan_sparesOthers ho (fail_reports error obj.session)
  | drainAll now =>
    simp only [step, Option.some.injEq] at hs
    subst hs
    have hstops := stopAll_sparesOthers now (r.sessions.entries.map (·.2)) r
    refine hstops.trans ?_
    exact sparesOthers_of_same rfl rfl rfl rfl
  | resumeDrain now i => exact absurd rfl (ha now i)
  | resumeReleaseAll i =>
    simp only [step, resumeReleaseAll] at hs
    split at hs
    · cases hs
    · split at hs
      · cases hs
      · rw [Option.some.injEq] at hs
        subst hs
        exact sparesOthers_of_roster rfl rfl
  | acquireAnswered i answer | renewAnswered i answer | releaseAllAnswered i answer =>
    obtain ⟨calls, -, rfl⟩ := Option.map_eq_some_iff.mp hs
    exact sparesOthers_of_same rfl rfl rfl rfl
  | releaseAnswered i answer =>
    obtain ⟨calls, hcalls, rfl⟩ := Option.map_eq_some_iff.mp hs
    exact sparesOthers_of_roster (releaseAnswered_roster hcalls) (releaseAnswered_requests hcalls)

/-! ## A session object that has left the map -/

/-- The session object whose method the action runs. -/
def Action.runs : Action Data → Option Nat
  | .pump _ o _ _ | .stop _ o | .stopWake _ o _ | .fail _ o _ => some o
  | _ => none

/-- Nothing but the object itself, its log and the number of `stop()` calls differs. -/
def OnlyObject (o : Nat) (r r' : SessionRegistry Data) : Prop :=
  r' = { r with objects := r'.objects, log := r'.log, stopCalls := r'.stopCalls } ∧
    ∀ o', o' ≠ o → r'.objects[o']? = r.objects[o']?

theorem sessionRan_onlyObject {now : Date} {o : Nat} {obj : SessionObject Data}
    {r : SessionRegistry Data} (habsent : r.sessions.lookup obj.session.streamId ≠ some o)
    (ran : StreamSession Data × List (Effect Data)) :
    OnlyObject o r (r.sessionRan now o obj ran) := by
  rw [sessionRan, notify_foldl]
  have hfixed : ∀ q : SessionRegistry Data, q.sessions = r.sessions →
      (if ran.2.any Effect.ends then q.deregister now o obj.session.streamId else q) = q := by
    intro q hq
    split
    · apply deregister_absent
      rw [hq]
      exact habsent
    · rfl
  rw [hfixed { r with
    objects := r.objects.set o { obj with session := ran.1 }
    log := r.log ++ ran.2.map fun e => (o, e) } rfl]
  exact ⟨rfl, fun o' ho' => Heap.getElem?_write_ne ho' _⟩

theorem step_onlyObject {r r' : SessionRegistry Data} {a : Action Data} (hs : r.step a = some r')
    {o : Nat} {obj : SessionObject Data} (ha : a.runs = some o) (ho : r.objects[o]? = some obj)
    (habsent : r.sessions.lookup obj.session.streamId ≠ some o) : OnlyObject o r r' := by
  cases a with
  | pump now o' i answer =>
    rw [Action.runs, Option.some.injEq] at ha
    subst ha
    simp only [step, ho] at hs
    obtain ⟨ran, -, rfl⟩ := Option.map_eq_some_iff.mp hs
    exact sessionRan_onlyObject habsent ran
  | stop now o' =>
    rw [Action.runs, Option.some.injEq] at ha
    subst ha
    rw [step, if_pos (Heap.lt_of_getElem?_eq_some ho), Option.some.injEq, stopOn, ho] at hs
    subst hs
    exact sessionRan_onlyObject (r := { r with stopCalls := r.stopCalls + 1 }) habsent _
  | stopWake now o' call =>
    rw [Action.runs, Option.some.injEq] at ha
    subst ha
    simp only [step, ho] at hs
    split at hs
    · rw [Option.some.injEq] at hs
      subst hs
      exact sessionRan_onlyObject habsent _
    · cases hs
  | fail now o' error =>
    rw [Action.runs, Option.some.injEq] at ha
    subst ha
    simp only [step, ho, Option.some.injEq] at hs
    subst hs
    exact sessionRan_onlyObject habsent _
  | _ => cases ha

/-! ## Every reachable registry -/

/-- Sessions are created under a claim that their own stream was granted, and none
touches the entry of another. -/
structure Coherent (r : SessionRegistry Data) (a : Action Data) (r' : SessionRegistry Data) :
    Prop where
  created : ∀ (o : Nat) obj, r.objects.length ≤ o → r'.objects[o]? = some obj →
    r.Acquired obj.session.streamId obj.claim
  spares : (∀ now i, a ≠ .resumeDrain now i) → SparesOthers r r'
  replaced : ∀ (o : Nat) obj, a.runs = some o → r.objects[o]? = some obj →
    r.sessions.lookup obj.session.streamId ≠ some o → OnlyObject o r r'

/-- Whatever routes, drains, stops, failures and heartbeat ticks a registry has seen,
the streams with a session are those with a token, and each session was granted a
claim of its own stream.  From there no step creates a session without such a claim,
or lets a session touch an entry that is not its own. -/
theorem registry_coherent {workerId : String} {options : SessionRegistryOptions}
    {r r' : SessionRegistry Data} {as : List (Action Data)}
    (hcreate : create workerId options = .ok r) (h : run step r as = some r') :
    r'.Tracked ∧ ∀ a r'', r'.step a = some r'' → Coherent r' a r'' := by
  have hpaired : r'.roster.Paired := by
    refine run_invariant (I := fun q => q.roster.Paired)
      (fun _ _ _ h hs => step_paired h hs) ?_ h
    rw [create_roster hcreate]
    exact Roster.empty_paired
  refine ⟨tracked_of_paired hpaired, ?_⟩
  intro a r'' hs
  exact ⟨fun _ _ hnew ho => step_spawned hpaired hs hnew ho, step_sparesOthers hs,
    fun _ _ ha ho habsent => step_onlyObject hs ha ho habsent⟩

/-- A session fails while it publishes, its stream gets a new session, and then the
publish of the first one goes through. -/
def sessionReplaced : List (Action Unit) :=
  let event : StreamEvent Unit := ⟨none, "a", (), ⟨"", none⟩⟩
  let token (uuid : String) : LockToken := ⟨"a", "w", uuid, ⟨30000⟩, ⟨0⟩⟩
  [.route ⟨0⟩ event, .acquireAnswered 0 (.ok (some (token "k1"))), .settleAcquire 0,
    .resumeRoute ⟨1⟩ 0 "x", .fail ⟨2⟩ 0 "lost", .route ⟨3⟩ event,
    .acquireAnswered 1 (.ok (some (token "k2"))), .settleAcquire 1, .resumeRoute ⟨4⟩ 0 "y",
    .pump ⟨5⟩ 0 0 .resolved]

theorem registry_coherent_sessionReplaced :
    ∃ start r : SessionRegistry Unit, create "w" ⟨2, 30000, none, none, none, true⟩ = .ok start ∧
      run step start sessionReplaced = some r ∧ r.sessions.lookup "a" = some 1 ∧
      r.Tracked ∧ ∀ a r', r.step a = some r' → Coherent r a r' := by
  have hcheck : (match create "w" ⟨2, 30000, none, none, none, true⟩ with
      | .ok start => (run step start sessionReplaced).map fun r => r.sessions.lookup "a"
      | .error _ => none) = some (some 1) := by decide
  cases hc : (create "w" ⟨2, 30000, none, none, none, true⟩ :
      Except String (SessionRegistry Unit)) with
  | error message =>
    rw [hc] at hcheck
    cases hcheck
  | ok start =>
    rw [hc] at hcheck
    obtain ⟨r, hr, hlookup⟩ := Option.map_eq_some_iff.mp hcheck
    exact ⟨start, r, rfl, hr, hlookup, registry_coherent hc hr⟩

end SessionRegistry

end Processing
end XStreamRoll
