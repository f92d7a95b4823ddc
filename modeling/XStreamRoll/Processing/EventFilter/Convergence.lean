/-
When the filter maps of the workers end up as the hash.

The message of a change is published after the write to the hash, so the messages of
two workers can come in the other order.  A stream whose config was cleared is then set
again everywhere by an older message, and the reconcile, which sets entries and clears
none, leaves it there.  The answer to a reconcile that was read before the clear does
the same in one map.

So the maps converge if a `set` never goes out, by message or by reconcile, for a stream
that is not in the hash any more and whose `clear` is not still on its way.
-/
import XStreamRoll.Lists
import XStreamRoll.Processing.EventFilter

namespace XStreamRoll
namespace Processing
namespace RedisFilterConfigStore

open Transition

/-! ## Reading and setting a whole hash -/

theorem lookup_readEntry {s : String} (l : List (Sigma fun _ : String => WirePayload))
    (h : l.NodupKeys) (out : FilterConfigs) :
    (l.foldl FilterHash.readEntry out).lookup s =
      ((l.dlookup s).bind (·.config)).or (out.lookup s) := by
  induction l generalizing out with
  | nil => simp
  | cons entry l ih =>
    obtain ⟨key, payload⟩ := entry
    obtain ⟨hkey, hl⟩ := List.nodupKeys_cons.mp h
    rw [List.foldl_cons, ih hl]
    by_cases hs : s = key
    · subst hs
      rw [List.dlookup_eq_none.mpr hkey, List.dlookup_cons_eq]
      unfold FilterHash.readEntry parseFilterPayload
      cases hconfig : payload.config with
      | none => simp [hconfig]
      | some config => simp [hconfig, AList.lookup_insert]
    · rw [List.dlookup_cons_ne _ _ hs]
      congr 1
      unfold FilterHash.readEntry parseFilterPayload
      cases payload.config with
      | none => rfl
      | some config => exact AList.lookup_insert_ne hs

theorem FilterHash.lookup_readHash (hash : FilterHash) (s : String) :
    hash.readHash.lookup s = (hash.lookup s).bind (·.config) := by
  unfold FilterHash.readHash
  rw [lookup_readEntry hash.entries hash.nodupKeys, AList.lookup_empty, Option.or_none]
  rfl

theorem lookup_reconcile_aux {s : String} (l : List (Sigma fun _ : String => FilterConfig))
    (h : l.NodupKeys) (configs : FilterConfigs) :
    (l.foldl (fun configs entry => configs.applyChange (.set entry.1 entry.2)) configs).lookup s =
      (l.dlookup s).or (configs.lookup s) := by
  induction l generalizing configs with
  | nil => simp
  | cons entry l ih =>
    obtain ⟨key, config⟩ := entry
    obtain ⟨hkey, hl⟩ := List.nodupKeys_cons.mp h
    rw [List.foldl_cons, ih hl]
    by_cases hs : s = key
    · subst hs
      rw [List.dlookup_eq_none.mpr hkey, List.dlookup_cons_eq]
      simp [FilterConfigs.applyChange, AList.lookup_insert]
    · rw [List.dlookup_cons_ne _ _ hs]
      simp [FilterConfigs.applyChange, AList.lookup_insert_ne hs]

/-- A reconcile takes over every entry that was read and keeps the others. -/
theorem FilterConfigs.lookup_reconcile (snapshot configs : FilterConfigs) (s : String) :
    (FilterConfigs.reconcile snapshot configs).lookup s =
      (snapshot.lookup s).or (configs.lookup s) :=
  lookup_reconcile_aux snapshot.entries snapshot.nodupKeys configs

theorem FilterConfigs.mem_reconcile {snapshot configs : FilterConfigs} {s : String} :
    s ∈ FilterConfigs.reconcile snapshot configs ↔ s ∈ snapshot ∨ s ∈ configs := by
  simp only [← AList.lookup_isSome, FilterConfigs.lookup_reconcile, Option.isSome_or,
    Bool.or_eq_true]

theorem FilterConfigs.mem_applyChange {change : FilterChange} {configs : FilterConfigs} {s : String}
    (h : s ∈ configs.applyChange change) :
    change ≠ .clear s ∧ (s ∈ configs ∨ ∃ config, change = .set s config) := by
  cases change with
  | set streamId config =>
    rcases (AList.mem_insert _).mp h with rfl | hold
    · exact ⟨by simp, .inr ⟨config, rfl⟩⟩
    · exact ⟨by simp, .inl hold⟩
  | clear streamId =>
    obtain ⟨hne, hold⟩ := AList.mem_erase.mp h
    exact ⟨by simpa using Ne.symm hne, .inl hold⟩

namespace FilterCluster

variable {c c' : FilterCluster} {n : Nat} {s workerId : String}

/-! ## What the hash and the channel hold for a stream -/

/-- The stream is in the hash, or its `clear` is still to come: as a message behind the
first `n`, or from a call that has written and not published. -/
def Covered (c : FilterCluster) (n : Nat) (s : String) : Prop :=
  s ∈ c.hash ∨ (∃ call ∈ c.calls, call.change = .clear s ∧ call.written = true) ∨
    ∃ m ∈ c.published.drop n, parseFilterPayload m = .clear s

instance (c : FilterCluster) (n : Nat) (s : String) : Decidable (c.Covered n s) :=
  inferInstanceAs (Decidable (_ ∨ _ ∨ _))

/-- The worker has a call that is still to write a config for the stream. -/
def Setting (c : FilterCluster) (workerId s : String) : Prop :=
  ∃ call ∈ c.calls, call.workerId = workerId ∧ call.written = false ∧
    ∃ config, call.change = .set s config

/-- A message or a reconcile sets a stream only while it is covered. -/
def KeepsOrder (c : FilterCluster) : Action → Prop
  | .publish i => ∀ call ∈ c.calls[i]?, ∀ s ∈ call.change.config.map fun _ => call.change.streamId,
      c.Covered c.published.length s
  | .reconcile workerId => ∀ snapshot ∈ (c.workers workerId).reconciles.head?,
      ∀ s ∈ snapshot.keys, c.Covered (c.workers workerId).received s
  | _ => True

instance (c : FilterCluster) (a : Action) : Decidable (c.KeepsOrder a) := by
  cases a <;> unfold KeepsOrder <;> infer_instance

/-- A message that does not clear the stream leaves it covered. -/
theorem Covered.next {m : WirePayload} (h : c.Covered n s) (hm : c.published[n]? = some m)
    (hne : parseFilterPayload m ≠ .clear s) : c.Covered (n + 1) s := by
  rcases h with hhash | hcall | ⟨m', hm', hclear⟩
  · exact .inl hhash
  · exact .inr (.inl hcall)
  · rw [List.drop_eq_getElem_cons (List.getElem?_eq_some_iff.mp hm).1] at hm'
    rcases List.mem_cons.mp hm' with rfl | hlater
    · rw [(List.getElem?_eq_some_iff.mp hm).2] at hclear
      exact absurd hclear hne
    · exact .inr (.inr ⟨m', hlater, hclear⟩)

theorem mem_of_write {call call' : FilterCall} {i : Nat} {calls : List FilterCall}
    (hcall : calls[i]? = some call) (hwritten : call.written = false) (h : call' ∈ calls)
    (h' : call'.written = true) : call' ∈ calls.set i { call with written := true } := by
  obtain ⟨j, hj⟩ := List.mem_iff_getElem?.mp h
  have hne : i ≠ j := by
    rintro rfl
    rw [hcall, Option.some.injEq] at hj
    subst hj
    rw [hwritten] at h'
    cases h'
  apply List.mem_iff_getElem?.mpr
  exact ⟨j, by rw [List.getElem?_set_ne hne, hj]⟩

theorem write_eq_some {i : Nat} (hs : c.write i = some c') : ∃ call, c.calls[i]? = some call ∧
    call.written = false ∧ c' = { c with
      hash := match call.change with
        | .set streamId _ => c.hash.insert streamId call.payload
        | .clear streamId => c.hash.erase streamId
      calls := c.calls.set i { call with written := true } } := by
  unfold write at hs
  split at hs
  · cases hs
  · next call hcall =>
    split at hs
    · cases hs
    · next hwritten => exact ⟨call, hcall, Bool.eq_false_iff.mpr hwritten, (Option.some.inj hs).symm⟩

theorem publish_eq_some {i : Nat} (hs : c.publish i = some c') : ∃ call, c.calls[i]? = some call ∧
    call.written = true ∧ c' = { c with
      published := c.published ++ [call.payload], calls := c.calls.eraseIdx i } := by
  unfold publish at hs
  split at hs
  · cases hs
  · next call hcall =>
    split at hs
    · next hwritten => exact ⟨call, hcall, hwritten, (Option.some.inj hs).symm⟩
    · cases hs

theorem reconcile_eq_some (hs : c.reconcile workerId = some c') :
    ∃ snapshot rest, (c.workers workerId).reconciles = snapshot :: rest ∧
      c' = c.withWorker workerId { c.workers workerId with
        configs := FilterConfigs.reconcile snapshot (c.workers workerId).configs
        reconciles := rest } := by
  unfold reconcile at hs
  dsimp only at hs
  split at hs
  · cases hs
  · next snapshot rest hrest => exact ⟨snapshot, rest, hrest, (Option.some.inj hs).symm⟩

/-- A covered stream stays covered. -/
theorem Covered.step {a : Action} (h : c.Covered n s) (hn : n ≤ c.published.length)
    (hs : FilterCluster.step c a = some c') : c'.Covered n s := by
  cases a with
  | setConfig w streamId config | clearConfig w streamId =>
    cases hs
    rcases h with hhash | ⟨call, hcall, hclear⟩ | hmessage
    · exact .inl hhash
    · exact .inr (.inl ⟨call, List.mem_append_left _ hcall, hclear⟩)
    · exact .inr (.inr hmessage)
  | write i =>
    obtain ⟨call, hcall, hwritten, rfl⟩ := write_eq_some hs
    rcases h with hhash | ⟨call', hcall', hclear, hwritten'⟩ | hmessage
    · obtain ⟨w, change, written⟩ := call
      cases change with
      | set streamId config =>
        left
        exact (AList.mem_insert _).mpr (.inr hhash)
      | clear streamId =>
        by_cases hsame : s = streamId
        · right
          left
          refine ⟨⟨w, .clear streamId, true⟩, ?_, by rw [hsame], rfl⟩
          exact List.mem_set (List.getElem?_eq_some_iff.mp hcall).1 _
        · left
          exact AList.mem_erase.mpr ⟨hsame, hhash⟩
    · exact .inr (.inl ⟨call', mem_of_write hcall hwritten hcall' hwritten', hclear, hwritten'⟩)
    · exact .inr (.inr hmessage)
  | publish i =>
    obtain ⟨call, hcall, hwritten, rfl⟩ := publish_eq_some hs
    have hdrop : ∀ m, m ∈ c.published.drop n ∨ m = call.payload →
        m ∈ (c.published ++ [call.payload]).drop n := by
      intro m hm
      rw [List.drop_append_of_le_length hn, List.mem_append, List.mem_singleton]
      exact hm
    rcases h with hhash | ⟨call', hcall', hclear, hwritten'⟩ | ⟨m, hm, hclear⟩
    · exact .inl hhash
    · right
      rcases mem_eraseIdx_or hcall' i with hkept | hi
      · exact .inl ⟨call', hkept, hclear, hwritten'⟩
      · rw [hcall, Option.some.injEq] at hi
        subst hi
        exact .inr ⟨call.payload, hdrop _ (.inr rfl), by rw [call.parse_payload, hclear]⟩
    · exact .inr (.inr ⟨m, hdrop m (.inl hm), hclear⟩)
  | deliver w =>
    obtain ⟨payload, -, rfl⟩ := Option.map_eq_some_iff.mp hs
    exact h
  | readHash w =>
    cases hs
    exact h
  | reconcile w =>
    obtain ⟨snapshot, rest, -, rfl⟩ := reconcile_eq_some hs
    exact h

/-! ## The invariant -/

structure Sound (c : FilterCluster) : Prop where
  stored : ∀ s ∈ c.hash, (c.stored s).isSome = true
  received : ∀ workerId, (c.workers workerId).received ≤ c.published.length
  /-- A `set` that was published is covered behind its message. -/
  messages : ∀ k m s config, c.published[k]? = some m → parseFilterPayload m = .set s config →
    c.Covered (k + 1) s
  configs : ∀ workerId, ∀ s ∈ (c.workers workerId).configs,
    c.Covered (c.workers workerId).received s ∨ c.Setting workerId s

theorem Initial.sound (h : c.Initial) : c.Sound where
  stored := h.hash
  received := by
    intro workerId
    rw [h.received]
    exact Nat.zero_le _
  messages := by
    intro k m s config hm
    rw [h.published] at hm
    cases hm
  configs := by
    intro workerId s hs
    left
    left
    rw [← AList.lookup_isSome, h.configs] at hs
    obtain ⟨config, hconfig⟩ := Option.isSome_iff_exists.mp hs
    obtain ⟨payload, hpayload, -⟩ := Option.bind_eq_some_iff.mp hconfig
    rw [← AList.lookup_isSome, hpayload]
    rfl

/-- What a worker waits to write, it goes on waiting for, or has written. -/
theorem Setting.step {a : Action} (h : c.Setting workerId s)
    (hs : FilterCluster.step c a = some c') : c'.Setting workerId s ∨ s ∈ c'.hash := by
  obtain ⟨call, hcall, hworker, hwritten, config, hset⟩ := h
  cases a with
  | setConfig w streamId config' | clearConfig w streamId =>
    cases hs
    exact .inl ⟨call, List.mem_append_left _ hcall, hworker, hwritten, config, hset⟩
  | write i =>
    obtain ⟨call', hcall', -, rfl⟩ := write_eq_some hs
    obtain ⟨j, hj⟩ := List.mem_iff_getElem?.mp hcall
    by_cases hij : i = j
    · right
      subst hij
      rw [hcall', Option.some.injEq] at hj
      subst hj
      show s ∈ (match call'.change with
        | .set streamId _ => c.hash.insert streamId call'.payload
        | .clear streamId => c.hash.erase streamId)
      rw [hset]
      exact (AList.mem_insert _).mpr (.inl rfl)
    · left
      refine ⟨call, List.mem_iff_getElem?.mpr ⟨j, ?_⟩, hworker, hwritten, config, hset⟩
      rw [List.getElem?_set_ne hij, hj]
  | publish i =>
    obtain ⟨call', hcall', hwritten', rfl⟩ := publish_eq_some hs
    rcases mem_eraseIdx_or hcall i with hkept | hi
    · exact .inl ⟨call, hkept, hworker, hwritten, config, hset⟩
    · rw [hcall', Option.some.injEq] at hi
      subst hi
      rw [hwritten] at hwritten'
      cases hwritten'
  | deliver w =>
    obtain ⟨payload, -, rfl⟩ := Option.map_eq_some_iff.mp hs
    exact .inl ⟨call, hcall, hworker, hwritten, config, hset⟩
  | readHash w =>
    cases hs
    exact .inl ⟨call, hcall, hworker, hwritten, config, hset⟩
  | reconcile w =>
    obtain ⟨snapshot, rest, -, rfl⟩ := reconcile_eq_some hs
    exact .inl ⟨call, hcall, hworker, hwritten, config, hset⟩

/-- A stream in a map was covered or about to be written before, and still is. -/
theorem Sound.kept {a : Action} (h : c.Sound) (hs : FilterCluster.step c a = some c')
    (hmem : s ∈ (c.workers workerId).configs) :
    c'.Covered (c.workers workerId).received s ∨ c'.Setting workerId s := by
  rcases h.configs workerId s hmem with hcovered | hsetting
  · exact .inl (hcovered.step (h.received workerId) hs)
  · rcases hsetting.step hs with hstill | hwritten
    · exact .inr hstill
    · exact .inl (.inl hwritten)

/-- The messages of a step that publishes none. -/
theorem Sound.messages_step {a : Action} (h : c.Sound) (hs : FilterCluster.step c a = some c')
    (hsame : c'.published = c.published) {k : Nat} {m : WirePayload} {config : FilterConfig}
    (hm : c'.published[k]? = some m) (hset : parseFilterPayload m = .set s config) :
    c'.Covered (k + 1) s := by
  rw [hsame] at hm
  apply (h.messages k m s config hm hset).step ?_ hs
  exact (List.getElem?_eq_some_iff.mp hm).1

theorem Sound.change (h : c.Sound) {change : FilterChange} {a : Action}
    (hs : FilterCluster.step c a = some c') (hc' : c' = c.change workerId change) : c'.Sound := by
  have hreceived : ∀ w, (c'.workers w).received = (c.workers w).received := by
    intro w
    rw [hc']
    by_cases hw : w = workerId
    · subst hw
      simp [FilterCluster.change, withWorker]
    · simp [FilterCluster.change, withWorker, hw]
  refine ⟨?_, ?_, ?_, ?_⟩
  · rw [hc']
    exact h.stored
  · intro w
    rw [hreceived, hc']
    exact h.received w
  · intro k m s config hm hset
    exact h.messages_step hs (by rw [hc']; rfl) hm hset
  · intro w s hmem
    rw [hreceived]
    by_cases hw : w = workerId
    · subst hw
      have happlied : s ∈ (c.workers w).configs.applyChange change := by
        rw [hc'] at hmem
        simpa [FilterCluster.change, withWorker] using hmem
      rcases (FilterConfigs.mem_applyChange happlied).2 with hold | ⟨config, rfl⟩
      · exact h.kept hs hold
      · right
        rw [hc']
        exact ⟨⟨w, .set s config, false⟩, List.mem_append_right _ (List.mem_singleton_self _), rfl,
          rfl, config, rfl⟩
    · have hold : s ∈ (c.workers w).configs := by
        rw [hc'] at hmem
        simpa [FilterCluster.change, withWorker, hw] using hmem
      exact h.kept hs hold

theorem Sound.step {a : Action} (h : c.Sound) (hkeeps : c.KeepsOrder a)
    (hs : FilterCluster.step c a = some c') : c'.Sound := by
  cases a with
  | setConfig w streamId config => exact h.change hs (Option.some.inj hs).symm
  | clearConfig w streamId => exact h.change hs (Option.some.inj hs).symm
  | write i =>
    have hs' := hs
    obtain ⟨⟨w, change, written⟩, hcall, -, rfl⟩ := write_eq_some hs
    refine ⟨?_, h.received, ?_, fun w s hmem => h.kept hs' hmem⟩
    · intro s hmem
      cases change with
      | set streamId config =>
        by_cases hsame : s = streamId
        · subst hsame
          simp [FilterCluster.stored, AList.lookup_insert, FilterCall.payload, stringifyFilterPayload,
            FilterChange.config]
        · have hold := h.stored s (((AList.mem_insert _).mp hmem).resolve_left hsame)
          simpa [FilterCluster.stored, AList.lookup_insert_ne hsame] using hold
      | clear streamId =>
        obtain ⟨hne, hold⟩ := AList.mem_erase.mp hmem
        have hstored := h.stored s hold
        simpa [FilterCluster.stored, AList.lookup_erase_ne hne] using hstored
    · intro k m s config hm hset
      exact h.messages_step hs' rfl hm hset
  | publish i =>
    have hs' := hs
    obtain ⟨call, hcall, -, rfl⟩ := publish_eq_some hs
    refine ⟨h.stored, ?_, ?_, fun w s hmem => h.kept hs' hmem⟩
    · intro w
      show (c.workers w).received ≤ (c.published ++ [call.payload]).length
      rw [List.length_append]
      exact Nat.le_add_right_of_le (h.received w)
    · intro k m s config hm hset
      by_cases hk : k < c.published.length
      · have hold : c.published[k]? = some m := by
          rw [← List.getElem?_append_left hk]
          exact hm
        exact (h.messages k m s config hold hset).step hk hs'
      · have hlast : k = c.published.length := by
          have hlen := (List.getElem?_eq_some_iff.mp hm).1
          simp only [List.length_append, List.length_singleton] at hlen
          omega
        subst hlast
        have hpayload : m = call.payload := by simpa using hm.symm
        have hchange : call.change = .set s config := by
          rw [← call.parse_payload, ← hpayload, hset]
        have hcovered : c.Covered c.published.length s :=
          hkeeps call hcall s (by rw [hchange]; rfl)
        apply (hcovered.step (le_refl _) hs').next hm
        rw [hset]
        simp
  | deliver w =>
    have hs' := hs
    obtain ⟨payload, hpayload, rfl⟩ := Option.map_eq_some_iff.mp hs
    refine ⟨h.stored, ?_, fun k m s config hm hset => h.messages_step hs' rfl hm hset, ?_⟩
    · intro w'
      show (Function.update c.workers w _ w').received ≤ c.published.length
      by_cases hw : w' = w
      · subst hw
        rw [Function.update_self]
        exact (List.getElem?_eq_some_iff.mp hpayload).1
      · rw [Function.update_of_ne hw]
        exact h.received w'
    · intro w' s hmem
      by_cases hw : w' = w
      · subst hw
        simp only [withWorker, Function.update_self] at hmem ⊢
        obtain ⟨hne, hold⟩ := FilterConfigs.mem_applyChange hmem
        rcases hold with hold | ⟨config, hset⟩
        · rcases h.kept hs' hold with hcovered | hsetting
          · exact .inl (Covered.next hcovered hpayload hne)
          · exact .inr hsetting
        · exact .inl (h.messages _ payload s config hpayload hset)
      · simp only [withWorker, Function.update_of_ne hw] at hmem ⊢
        exact h.kept hs' hmem
  | readHash w =>
    have hs' := hs
    cases hs
    have hworkers : ∀ w', ((c.readHash w).workers w').configs = (c.workers w').configs ∧
        ((c.readHash w).workers w').received = (c.workers w').received := by
      intro w'
      by_cases hw : w' = w
      · subst hw
        simp [FilterCluster.readHash, withWorker]
      · simp [FilterCluster.readHash, withWorker, hw]
    refine ⟨h.stored, ?_, fun k m s config hm hset => h.messages_step hs' rfl hm hset, ?_⟩
    · intro w'
      rw [(hworkers w').2]
      exact h.received w'
    · intro w' s hmem
      rw [(hworkers w').1] at hmem
      rw [(hworkers w').2]
      exact h.kept hs' hmem
  | reconcile w =>
    have hs' := hs
    obtain ⟨snapshot, rest, hhead, rfl⟩ := reconcile_eq_some hs
    refine ⟨h.stored, ?_, fun k m s config hm hset => h.messages_step hs' rfl hm hset, ?_⟩
    · intro w'
      by_cases hw : w' = w
      · subst hw
        simp only [withWorker, Function.update_self]
        exact h.received w'
      · simp only [withWorker, Function.update_of_ne hw]
        exact h.received w'
    · intro w' s hmem
      by_cases hw : w' = w
      · subst hw
        simp only [withWorker, Function.update_self] at hmem ⊢
        rcases FilterConfigs.mem_reconcile.mp hmem with hread | hold
        · left
          exact hkeeps snapshot (by rw [hhead]; rfl) s (AList.mem_keys.mp hread)
        · exact h.kept hs' hold
      · simp only [withWorker, Function.update_of_ne hw] at hmem ⊢
        exact h.kept hs' hmem

/-! ## Convergence -/

/-- No call is under way, and the worker has handled every message. -/
structure Quiet (workerId : String) (c : FilterCluster) : Prop where
  calls : c.calls = []
  received : (c.workers workerId).received = c.published.length

/-- In quiet a worker has no stream that the hash does not have. -/
theorem Sound.covered_of_quiet (h : c.Sound) (hquiet : c.Quiet workerId)
    (hmem : s ∈ (c.workers workerId).configs) : s ∈ c.hash := by
  rcases h.configs workerId s hmem with (hhash | ⟨call, hcall, -⟩ | ⟨m, hm, -⟩) | ⟨call, hcall, -⟩
  · exact hhash
  · rw [hquiet.calls] at hcall
    cases hcall
  · rw [hquiet.received, List.drop_length] at hm
    cases hm
  · rw [hquiet.calls] at hcall
    cases hcall

/-- The action is a part of a reconcile. -/
def Action.reconciling : Action → Bool
  | .readHash _ | .reconcile _ => true
  | _ => false

/-- The action ends a reconcile of the worker. -/
def Action.reconciles (workerId : String) : Action → Bool
  | .reconcile w => w = workerId
  | _ => false

/-- The map of the worker has every entry of the hash. -/
def Agrees (workerId : String) (c : FilterCluster) : Prop :=
  ∀ s ∈ c.hash, (c.workers workerId).configs.lookup s = c.stored s

/-- All but the first `n` reconciles of the worker have read the hash as it is. -/
def ReadFrom (workerId : String) (n : Nat) (c : FilterCluster) : Prop :=
  ∀ snapshot ∈ (c.workers workerId).reconciles.drop n, snapshot = c.hash.readHash

/-- A reconcile changes only the maps and what was read for them. -/
theorem reconciling_frame (workerId : String) {a : Action} (ha : a.reconciling = true) (hs : step c a = some c') :
    c'.hash = c.hash ∧ c'.calls = c.calls ∧ c'.published = c.published ∧
      (c'.workers workerId).received = (c.workers workerId).received := by
  cases a with
  | setConfig | clearConfig | write | publish | deliver => cases ha
  | readHash w =>
    cases hs
    refine ⟨rfl, rfl, rfl, ?_⟩
    by_cases hw : workerId = w
    · subst hw
      simp [readHash, withWorker]
    · simp [readHash, withWorker, hw]
  | reconcile w =>
    obtain ⟨snapshot, rest, -, rfl⟩ := reconcile_eq_some hs
    refine ⟨rfl, rfl, rfl, ?_⟩
    by_cases hw : workerId = w
    · subst hw
      simp [withWorker]
    · simp [withWorker, hw]

theorem ReadFrom.step {a : Action} (h : c.ReadFrom workerId n) (ha : a.reconciling = true)
    (hs : FilterCluster.step c a = some c') :
    c'.ReadFrom workerId (n - (a.reconciles workerId).toNat) := by
  cases a with
  | setConfig | clearConfig | write | publish | deliver => cases ha
  | readHash w =>
    cases hs
    intro snapshot hmem
    by_cases hw : workerId = w
    · subst hw
      simp only [FilterCluster.readHash, withWorker, Function.update_self] at hmem
      rw [List.drop_append] at hmem
      rcases List.mem_append.mp hmem with hold | hnew
      · exact h snapshot hold
      · exact List.mem_singleton.mp (List.mem_of_mem_drop hnew)
    · simp only [FilterCluster.readHash, withWorker, Function.update_of_ne hw] at hmem
      exact h snapshot hmem
  | reconcile w =>
    obtain ⟨first, rest, hrest, rfl⟩ := reconcile_eq_some hs
    intro snapshot hmem
    by_cases hw : workerId = w
    · subst hw
      simp only [withWorker, Function.update_self, Action.reconciles, decide_true,
        Bool.toNat_true] at hmem
      apply h
      rw [hrest]
      cases n with
      | zero => exact List.mem_cons_of_mem _ (List.mem_of_mem_drop hmem)
      | succ m => exact hmem
    · have hne : ¬w = workerId := fun heq => hw heq.symm
      simp only [withWorker, Function.update_of_ne hw, Action.reconciles, hne, decide_false,
        Bool.toNat_false, Nat.sub_zero] at hmem
      exact h snapshot hmem

/-- A reconcile that has read the hash as it is makes the map agree, and none that has
read it so undoes that. -/
theorem Agrees.step {a : Action} (hstored : ∀ s ∈ c.hash, (c.stored s).isSome = true)
    (hread : c.ReadFrom workerId 0) (ha : a.reconciling = true)
    (hs : FilterCluster.step c a = some c')
    (h : a.reconciles workerId = true ∨ c.Agrees workerId) : c'.Agrees workerId := by
  cases a with
  | setConfig | clearConfig | write | publish | deliver => cases ha
  | readHash w =>
    cases hs
    intro s hmem
    have hold := h.resolve_left (by simp [Action.reconciles]) s hmem
    refine Eq.trans ?_ hold
    by_cases hw : workerId = w
    · subst hw
      simp [FilterCluster.readHash, withWorker]
    · simp [FilterCluster.readHash, withWorker, hw]
  | reconcile w =>
    obtain ⟨first, rest, hrest, rfl⟩ := reconcile_eq_some hs
    intro s hmem
    by_cases hw : workerId = w
    · subst hw
      have hfirst : first = c.hash.readHash := by
        apply hread
        rw [hrest]
        exact List.mem_cons_self
      obtain ⟨config, hconfig⟩ := Option.isSome_iff_exists.mp (hstored s hmem)
      simp only [withWorker, Function.update_self]
      rw [FilterConfigs.lookup_reconcile, hfirst, FilterHash.lookup_readHash]
      show (c.stored s).or _ = c.stored s
      rw [hconfig, Option.some_or]
    · have hold := h.resolve_left (by simpa [Action.reconciles] using Ne.symm hw) s hmem
      refine Eq.trans ?_ hold
      simp [withWorker, hw]

theorem run_agrees {bs : List Action} (hstored : ∀ s ∈ c.hash, (c.stored s).isSome = true)
    (hbs : ∀ a ∈ bs, a.reconciling = true) (hr : run step c bs = some c') (hread : c.ReadFrom workerId n)
    (hdone : n < bs.countP (Action.reconciles workerId) ∨ n = 0 ∧ c.Agrees workerId) :
    c'.Agrees workerId := by
  induction bs generalizing c n with
  | nil =>
    rw [run_nil, Option.some.injEq] at hr
    subst hr
    exact (hdone.resolve_left (by simp)).2
  | cons a bs ih =>
    obtain ⟨r, hs, hrest⟩ := run_cons_eq_some.mp hr
    have ha := hbs a List.mem_cons_self
    have hkept : ∀ s ∈ r.hash, (r.stored s).isSome = true := by
      obtain ⟨hhash, -⟩ := reconciling_frame workerId ha hs
      unfold FilterCluster.stored
      rw [hhash]
      exact hstored
    apply ih hkept (fun b hb => hbs b (List.mem_cons_of_mem a hb)) hrest (hread.step ha hs)
    rw [List.countP_cons] at hdone
    cases hends : a.reconciles workerId with
    | true =>
      rw [hends] at hdone
      rcases Nat.eq_zero_or_pos n with rfl | hpos
      · exact .inr ⟨rfl, Agrees.step hstored hread ha hs (.inl hends)⟩
      · left
        rcases hdone with hlt | ⟨rfl, -⟩
        · simp only [if_true] at hlt
          show n - 1 < _
          omega
        · cases hpos
    | false =>
      rw [hends] at hdone
      rcases hdone with hlt | ⟨rfl, hagrees⟩
      · exact .inl (by simpa using hlt)
      · exact .inr ⟨rfl, Agrees.step hstored hread ha hs (.inr hagrees)⟩

/-- Let every `set` go out only while the stream is covered.  When the calls have settled
and a worker has handled every message, then the reconciles that are under way at that
worker and one more leave its map as the hash. -/
theorem filters_converge {c₀ : FilterCluster} {as bs : List Action} (hinit : c₀.Initial)
    (hrun : run step c₀ as = some c) (hquiet : c.Quiet workerId)
    (hbs : ∀ a ∈ bs, a.reconciling = true) (hrun' : run step c bs = some c')
    (hdone : (c.workers workerId).reconciles.length < bs.countP (Action.reconciles workerId))
    (hkeeps : AllSteps step (fun q a _ => q.KeepsOrder a) c₀ (as ++ bs)) (streamId : String) :
    (c'.workers workerId).configs.lookup streamId = c'.stored streamId := by
  have hstep : ∀ q a q', Sound q → KeepsOrder q a → step q a = some q' → Sound q' :=
    fun _ _ _ h hk hs => h.step hk hs
  have hsound : c.Sound := AllSteps.invariant hstep hinit.sound hkeeps.of_append hrun
  have hsound' : c'.Sound := AllSteps.invariant hstep hsound (hkeeps.after_run hrun) hrun'
  have hquiet' : c'.Quiet workerId := by
    refine run_invariant_of (I := Quiet workerId) ?_ hquiet hbs hrun'
    intro q a q' hq ha hs
    obtain ⟨-, hcalls, hpublished, hreceived⟩ := reconciling_frame workerId ha hs
    exact ⟨hcalls.trans hq.calls, by rw [hreceived, hpublished]; exact hq.received⟩
  have hread : c.ReadFrom workerId (c.workers workerId).reconciles.length := by
    intro snapshot hmem
    rw [List.drop_length] at hmem
    cases hmem
  have hagrees := run_agrees hsound.stored hbs hrun' hread (.inl hdone)
  by_cases hmem : streamId ∈ c'.hash
  · exact hagrees streamId hmem
  · have hnone : c'.stored streamId = none := by
      rw [stored, AList.lookup_eq_none.mpr hmem]
      rfl
    rw [hnone]
    apply AList.lookup_eq_none.mpr
    exact fun hin => hmem (hsound'.covered_of_quiet hquiet' hin)

/-! ## Two workers and one stream -/

def freshCluster : FilterCluster where
  hash := ∅
  published := []
  workers := fun _ => ⟨∅, 0, []⟩
  calls := []

theorem freshCluster_initial : freshCluster.Initial where
  hash := fun _ h => absurd h (AList.notMem_empty _)
  published := rfl
  calls := rfl
  configs := fun _ _ => rfl
  received := fun _ => rfl
  reconciles := fun _ => rfl

/-- "a" sets the filter of a stream and "b" clears it, both in the hash in that order.
The calls publish in the order that is given. -/
def setThenCleared (first second : Nat) : List Action :=
  [.setConfig "a" "s" ⟨["debug"]⟩, .write 0, .clearConfig "b" "s", .write 1, .publish first,
    .publish second, .deliver "a", .deliver "a"]

def reconciledOnce : List Action := [.readHash "a", .reconcile "a"]

instance (workerId : String) (c : FilterCluster) : Decidable (c.Quiet workerId) :=
  decidable_of_iff (c.calls = [] ∧ (c.workers workerId).received = c.published.length)
    ⟨fun h => ⟨h.1, h.2⟩, fun h => ⟨h.calls, h.received⟩⟩

/-- Published in order, both end up in every map. -/
theorem filters_converge_inOrder : ∃ c c', run step freshCluster (setThenCleared 0 0) = some c ∧
    run step c reconciledOnce = some c' ∧
      ∀ streamId, (c'.workers "a").configs.lookup streamId = c'.stored streamId := by
  have hkeeps : AllSteps step (fun q a _ => q.KeepsOrder a) freshCluster
      (setThenCleared 0 0 ++ reconciledOnce) := by decide +kernel
  have hcheck : (run step freshCluster (setThenCleared 0 0)).bind (fun c =>
      (run step c reconciledOnce).map fun _ => decide (c.Quiet "a" ∧
        (c.workers "a").reconciles.length < reconciledOnce.countP (Action.reconciles "a"))) =
      some true := by decide +kernel
  obtain ⟨c, hc, hcheck⟩ := Option.bind_eq_some_iff.mp hcheck
  obtain ⟨c', hc', hcheck⟩ := Option.map_eq_some_iff.mp hcheck
  obtain ⟨hquiet, hdone⟩ := of_decide_eq_true hcheck
  exact ⟨c, c', hc, hc',
    filters_converge freshCluster_initial hc hquiet (by decide) hc' hdone hkeeps⟩

/-- The `set` is published last, and no reconcile takes it back. -/
theorem cleared_filter_returns :
    ¬∀ (c₀ c c' : FilterCluster) (as bs : List Action) (workerId : String), c₀.Initial →
      run step c₀ as = some c → c.Quiet workerId → (∀ a ∈ bs, a.reconciling = true) →
      run step c bs = some c' →
      (c.workers workerId).reconciles.length < bs.countP (Action.reconciles workerId) →
      ∀ streamId, (c'.workers workerId).configs.lookup streamId = c'.stored streamId := by
  intro h
  have hcheck : (run step freshCluster (setThenCleared 1 0)).bind (fun c =>
      (run step c reconciledOnce).map fun c' => decide (c.Quiet "a" ∧
        (c.workers "a").reconciles.length < reconciledOnce.countP (Action.reconciles "a") ∧
        (c'.workers "a").configs.lookup "s" ≠ c'.stored "s")) = some true := by decide +kernel
  obtain ⟨c, hc, hcheck⟩ := Option.bind_eq_some_iff.mp hcheck
  obtain ⟨c', hc', hcheck⟩ := Option.map_eq_some_iff.mp hcheck
  obtain ⟨hquiet, hdone, hdiffers⟩ := of_decide_eq_true hcheck
  exact hdiffers (h freshCluster c c' (setThenCleared 1 0) reconciledOnce "a" freshCluster_initial
    hc hquiet (by decide) hc' hdone "s")

end FilterCluster

end RedisFilterConfigStore
end Processing
end XStreamRoll
