/-
When a filter keeps to its own last change of a stream.

The map of a worker is written by its own calls, and by what comes from the store: the
snapshot of the start, the messages, and the answers to reconciles.  None of these says
how old it is.  A snapshot or a reconcile takes the entry of the hash from before the
change, and a message that was sent before the change comes after it.

So a change stays as long as nothing that is on its way says something else about the
stream at the moment of the call: no call or message that is not yet handled, and no
read of the hash, done or to be done before the change is in it.
-/
import XStreamRoll.Processing.EventFilter.Convergence
import XStreamRoll.Processing.EventFilter.Startup

namespace XStreamRoll
namespace Processing
namespace RedisFilterConfigStore

open Transition

/-- What was read for a stream says `config`, or nothing. -/
def Compatible (read config : Option FilterConfig) : Prop := read = none ∨ read = config

instance (read config : Option FilterConfig) : Decidable (Compatible read config) :=
  inferInstanceAs (Decidable (_ ∨ _))

/-- Each of the changes leaves the stream with `config`, if it is about the stream. -/
def Keep (s : String) (config : Option FilterConfig) (changes : List FilterChange) : Prop :=
  ∀ change ∈ changes, change.streamId = s → change.config = config

instance (s : String) (config : Option FilterConfig) (changes : List FilterChange) :
    Decidable (Keep s config changes) :=
  inferInstanceAs (Decidable (∀ _ ∈ _, _))

theorem Keep.mono {s : String} {config : Option FilterConfig} {l l' : List FilterChange}
    (h : Keep s config l) (hsub : ∀ change ∈ l', change ∈ l) : Keep s config l' :=
  fun change hchange => h change (hsub change hchange)

theorem keep_append {s : String} {config : Option FilterConfig} {l l' : List FilterChange} :
    Keep s config (l ++ l') ↔ Keep s config l ∧ Keep s config l' := by
  constructor
  · intro h
    exact ⟨h.mono fun _ hc => List.mem_append_left _ hc,
      h.mono fun _ hc => List.mem_append_right _ hc⟩
  · rintro ⟨h, h'⟩ change hchange
    rcases List.mem_append.mp hchange with hleft | hright
    · exact h change hleft
    · exact h' change hright

/-! ## The map of one filter -/

theorem lookup_applyChange (change : FilterChange) (configs : FilterConfigs) (s : String) :
    (configs.applyChange change).lookup s =
      if change.streamId = s then change.config else configs.lookup s := by
  cases change with
  | set streamId config =>
    show (configs.insert streamId config).lookup s = if streamId = s then some config else _
    split
    · next h =>
      subst h
      rw [AList.lookup_insert]
    · next h => rw [AList.lookup_insert_ne (Ne.symm h)]
  | clear streamId =>
    show (configs.erase streamId).lookup s = if streamId = s then none else _
    split
    · next h =>
      subst h
      rw [AList.lookup_erase]
    · next h => rw [AList.lookup_erase_ne (Ne.symm h)]

theorem lookup_applyChange_keep {change : FilterChange} {configs : FilterConfigs} {s : String}
    {config : Option FilterConfig} (hlookup : configs.lookup s = config)
    (h : change.streamId = s → change.config = config) :
    (configs.applyChange change).lookup s = config := by
  rw [lookup_applyChange]
  split
  · next hs => exact h hs
  · exact hlookup

theorem lookup_reconcile_keep {snapshot configs : FilterConfigs} {s : String}
    {config : Option FilterConfig} (hlookup : configs.lookup s = config)
    (h : Compatible (snapshot.lookup s) config) :
    (FilterConfigs.reconcile snapshot configs).lookup s = config := by
  rw [FilterConfigs.lookup_reconcile]
  rcases h with hnone | hsame
  · rw [hnone, Option.none_or, hlookup]
  · rw [hsame, hlookup, Option.or_self]

/-- What `allow()` answers when the stream has this config. -/
def decides (config : Option FilterConfig) (eventType : Option String) : Bool :=
  match config, eventType with
  | some config, some eventType => !config.blockedEventTypes.contains eventType
  | _, _ => true

theorem allow_eq (configs : FilterConfigs) (s : String) (eventType : Option String) :
    configs.allow s eventType = decides (configs.lookup s) eventType := by
  unfold FilterConfigs.allow decides
  cases configs.lookup s with
  | none => rfl
  | some config =>
    cases eventType with
    | none => rfl
    | some eventType => rfl

/-! ## What is on its way -/

/-- The change that the command carries. -/
def Command.change : Command → Option FilterChange
  | .write change => some change
  | .publish payload => some (parseFilterPayload payload)
  | .install | .reconcile => none

def Command.reads : Command → Bool
  | .install | .reconcile => true
  | .write _ | .publish _ => false

namespace FilterNode

/-- The changes of the calls that have not been published. -/
def pending (n : FilterNode) : List FilterChange :=
  n.waiting ++ n.queue.filterMap Command.change ++ n.written

/-- The snapshots of the hash that are still to be set in the map. -/
def read (n : FilterNode) : List FilterConfigs :=
  n.answers ++ match n.stage with
    | .connecting snapshot | .subscribed snapshot => [snapshot]
    | _ => []

/-- The filter has started and will change the stream in the hash before it reads it. -/
def WritesFirst (s : String) (n : FilterNode) : Prop :=
  n.stage = .started ∧ ∃ before change after, n.queue = before ++ .write change :: after ∧
    change.streamId = s ∧ ∀ command ∈ before, command.reads = false

/-- Nothing that the filter has still to take in says anything but `config`. -/
structure Unopposed (s : String) (config : Option FilterConfig) (n : FilterNode) : Prop where
  inbox : Keep s config (n.inbox.map parseFilterPayload)
  read : ∀ snapshot ∈ n.read, Compatible (snapshot.lookup s) config

theorem WritesFirst.append {s : String} {n n' : FilterNode} (h : n.WritesFirst s)
    (hstage : n'.stage = n.stage) (commands : List Command)
    (hqueue : n'.queue = n.queue ++ commands) : n'.WritesFirst s := by
  obtain ⟨hstarted, before, change, after, heq, hs, hbefore⟩ := h
  refine ⟨hstage.trans hstarted, before, change, after ++ commands, ?_, hs, hbefore⟩
  rw [hqueue, heq, List.append_assoc, List.cons_append]

/-- The next command is the change of the stream itself, or one that reads nothing and
leaves the change in the queue. -/
theorem WritesFirst.next {s : String} {n : FilterNode} (h : n.WritesFirst s) {command : Command}
    {rest : List Command} (hqueue : n.queue = command :: rest) :
    (∃ change, command = .write change ∧ change.streamId = s) ∨
      command.reads = false ∧
        ∀ n' : FilterNode, n'.stage = n.stage → n'.queue = rest → n'.WritesFirst s := by
  obtain ⟨hstarted, before, change, after, heq, hs, hbefore⟩ := h
  rw [hqueue] at heq
  cases before with
  | nil =>
    rw [List.nil_append, List.cons.injEq] at heq
    exact .inl ⟨change, heq.1, hs⟩
  | cons first before =>
    rw [List.cons_append, List.cons.injEq] at heq
    obtain ⟨rfl, hrest⟩ := heq
    refine .inr ⟨hbefore _ List.mem_cons_self, ?_⟩
    intro n' hstage hqueue'
    refine ⟨hstage.trans hstarted, before, change, after, hqueue'.trans hrest, hs, ?_⟩
    exact fun c hc => hbefore c (List.mem_cons_of_mem _ hc)

theorem receive_frame (m : WirePayload) (n : FilterNode) :
    (n.receive m).configs = n.configs ∧ (n.receive m).pending = n.pending ∧
      (n.receive m).read = n.read ∧ (n.receive m).stage = n.stage ∧
      (n.receive m).queue = n.queue ∧
      ∀ m' ∈ (n.receive m).inbox, m' ∈ n.inbox ∨ m' = m := by
  cases hstage : n.stage <;> simp +contextual [receive, hstage, pending, read]

end FilterNode

namespace FilterFleet

variable {x y : FilterFleet} {w s : String} {config : Option FilterConfig}

theorem payload_parse (workerId : String) (change : FilterChange) :
    parseFilterPayload (payload workerId change) = change :=
  FilterCall.parse_payload ⟨workerId, change, false⟩

theorem lookup_write (workerId : String) (change : FilterChange) (hash : FilterHash) (s : String) :
    ((write workerId change hash).lookup s).bind (·.config) =
      if change.streamId = s then change.config else (hash.lookup s).bind (·.config) := by
  cases change with
  | set streamId config =>
    show ((hash.insert streamId _).lookup s).bind (·.config) = if streamId = s then some config else _
    split
    · next h =>
      subst h
      rw [AList.lookup_insert]
      rfl
    · next h => rw [AList.lookup_insert_ne (Ne.symm h)]
  | clear streamId =>
    show ((hash.erase streamId).lookup s).bind (·.config) = if streamId = s then none else _
    split
    · next h =>
      subst h
      rw [AList.lookup_erase]
      rfl
    · next h => rw [AList.lookup_erase_ne (Ne.symm h)]

/-- The map of the worker has `config` for the stream, and nothing on its way will change
that. -/
structure Upheld (x : FilterFleet) (w s : String) (config : Option FilterConfig) : Prop where
  configs : (x.nodes w).configs.lookup s = config
  pending : ∀ v, Keep s config (x.nodes v).pending
  unopposed : (x.nodes w).Unopposed s config
  hash : Compatible (x.stored s) config ∨ (x.nodes w).WritesFirst s

/-- One node changes, and perhaps the hash. -/
theorem Upheld.withNode (h : x.Upheld w s config) {v : String} {n : FilterNode}
    (hy : y.nodes = Function.update x.nodes v n) (hpending : Keep s config n.pending)
    (hself : v = w → n.configs.lookup s = config ∧ n.Unopposed s config)
    (hhash : Compatible (y.stored s) config ∨ (y.nodes w).WritesFirst s) :
    y.Upheld w s config := by
  have hw : (y.nodes w).configs.lookup s = config ∧ (y.nodes w).Unopposed s config := by
    rw [hy]
    by_cases hv : w = v
    · subst hv
      rw [Function.update_self]
      exact hself rfl
    · rw [Function.update_of_ne hv]
      exact ⟨h.configs, h.unopposed⟩
  refine ⟨hw.1, ?_, hw.2, hhash⟩
  intro u
  rw [hy]
  by_cases hu : u = v
  · subst hu
    rwa [Function.update_self]
  · rw [Function.update_of_ne hu]
    exact h.pending u

/-- A node changes, the hash does not, and what was to be written first still is. -/
theorem Upheld.node (h : x.Upheld w s config) {v : String} {n : FilterNode}
    (hpending : Keep s config n.pending)
    (hself : v = w → n.configs.lookup s = config ∧ n.Unopposed s config)
    (hfirst : v = w → (x.nodes w).WritesFirst s → n.WritesFirst s) :
    (x.withNode v n).Upheld w s config := by
  refine h.withNode rfl hpending hself ?_
  rcases h.hash with hcompatible | hwrites
  · exact .inl hcompatible
  · right
    show (Function.update x.nodes v n w).WritesFirst s
    by_cases hv : w = v
    · subst hv
      rw [Function.update_self]
      exact hfirst rfl hwrites
    · rwa [Function.update_of_ne hv]

/-- Every subscribed worker gets a message that does not speak against `config`. -/
theorem Upheld.receive (h : x.Upheld w s config) {m : WirePayload}
    (hm : (parseFilterPayload m).streamId = s → (parseFilterPayload m).config = config) :
    { x with nodes := fun u => (x.nodes u).receive m }.Upheld w s config := by
  obtain ⟨hconfigs, -, hread, hstage, hqueue, hinbox⟩ := FilterNode.receive_frame m (x.nodes w)
  refine ⟨?_, ?_, ⟨?_, ?_⟩, ?_⟩
  · show ((x.nodes w).receive m).configs.lookup s = config
    rw [hconfigs]
    exact h.configs
  · intro v
    show Keep s config ((x.nodes v).receive m).pending
    rw [(FilterNode.receive_frame m (x.nodes v)).2.1]
    exact h.pending v
  · intro change hchange hs
    obtain ⟨m', hm', rfl⟩ := List.mem_map.mp hchange
    rcases hinbox m' hm' with hold | rfl
    · exact h.unopposed.inbox _ (List.mem_map_of_mem hold) hs
    · exact hm hs
  · intro snapshot hsnapshot
    rw [hread] at hsnapshot
    exact h.unopposed.read snapshot hsnapshot
  · rcases h.hash with hcompatible | hwrites
    · exact .inl hcompatible
    · exact .inr (hwrites.append hstage [] (by rw [hqueue, List.append_nil]))

end FilterFleet

/-! ## One call -/

namespace FilterNode

variable {s : String} {config : Option FilterConfig}

theorem ensureStarted_frame (n : FilterNode) : n.ensureStarted.configs = n.configs ∧
    n.ensureStarted.pending = n.pending ∧ n.ensureStarted.inbox = n.inbox ∧
    n.ensureStarted.read = n.read := by
  cases hstage : n.stage <;>
    simp [ensureStarted, hstage, pending, read, Command.change]

theorem ensureStarted_writesFirst {n : FilterNode} (h : n.WritesFirst s) :
    n.ensureStarted.WritesFirst s := by
  rw [ensureStarted, h.1]
  exact h

theorem change_frame (change : FilterChange) (n : FilterNode) :
    (n.change change).configs = n.configs.applyChange change ∧
      (n.change change).inbox = n.inbox ∧ (n.change change).read = n.read := by
  cases hstage : n.stage <;> simp [FilterNode.change, ensureStarted, hstage, read]

/-- A call adds its own change to those that are under way. -/
theorem change_pending {change c : FilterChange} {n : FilterNode}
    (h : c ∈ (n.change change).pending) : c ∈ n.pending ∨ c = change := by
  cases hstage : n.stage <;>
    simp only [FilterNode.change, ensureStarted, hstage, pending, List.mem_append,
      List.filterMap_append, List.filterMap_cons, List.filterMap_nil, Command.change,
      List.mem_singleton, List.not_mem_nil] at h ⊢ <;> grind

theorem change_writesFirst {n : FilterNode} (h : n.WritesFirst s) (change : FilterChange) :
    (n.change change).WritesFirst s := by
  have hn : n.change change = { n with
      configs := n.configs.applyChange change, queue := n.queue ++ [.write change] } := by
    simp [FilterNode.change, h.1]
  rw [hn]
  exact WritesFirst.append h rfl [.write change] rfl

theorem Unopposed.congr {n n' : FilterNode} (h : n.Unopposed s config)
    (hinbox : n'.inbox = n.inbox) (hread : n'.read = n.read) : n'.Unopposed s config :=
  ⟨by rw [hinbox]; exact h.inbox, by rw [hread]; exact h.read⟩

end FilterNode

namespace FilterFleet

variable {x y : FilterFleet} {v w s : String} {config : Option FilterConfig}

/-- At a call of `setConfig` or `clearConfig`: nothing on its way says anything but `config`
about the stream, and the hash is not read before it has the change. -/
structure Free (x : FilterFleet) (w s : String) (config : Option FilterConfig) : Prop where
  pending : ∀ v, Keep s config (x.nodes v).pending
  unopposed : (x.nodes w).Unopposed s config
  hash : Compatible (x.stored s) config ∨
    (x.nodes w).stage = .started ∧ ∀ command ∈ (x.nodes w).queue, command.reads = false

/-- A change is called when the stream is free, and a write is not lost while the hash has
another entry than the worker that changed the stream last. -/
def KeepsOwn (x : FilterFleet) : Action → Prop
  | .setConfig w s config => x.Free w s (some config)
  | .clearConfig w s => x.Free w s none
  | .lose w => ∀ change, (x.nodes w).queue.head? = some (.write change) →
    ∀ last, x.latest change.streamId = some (w, last) →
      Compatible (x.stored change.streamId) last.config
  | _ => True

/-- The last change of a stream is upheld in the worker that made it. -/
def Sound (x : FilterFleet) : Prop :=
  ∀ s w last, x.latest s = some (w, last) → x.Upheld w s last.config

theorem Free.upheld {change : FilterChange} (h : x.Free w change.streamId change.config) :
    (x.change w change).Upheld w change.streamId change.config := by
  obtain ⟨hconfigs, hinbox, hread⟩ := FilterNode.change_frame change (x.nodes w)
  have hself : (x.change w change).nodes w = (x.nodes w).change change := Function.update_self ..
  refine ⟨?_, ?_, ?_, ?_⟩
  · rw [hself, hconfigs, lookup_applyChange, if_pos rfl]
  · intro v
    by_cases hv : v = w
    · subst hv
      rw [hself]
      intro c hc hs
      rcases FilterNode.change_pending hc with hold | rfl
      · exact h.pending v c hold hs
      · rfl
    · have hother : (x.change w change).nodes v = x.nodes v := Function.update_of_ne hv ..
      rw [hother]
      exact h.pending v
  · rw [hself]
    exact h.unopposed.congr hinbox hread
  · rw [hself]
    rcases h.hash with hcompatible | ⟨hstarted, hqueue⟩
    · exact .inl hcompatible
    · right
      have hn : (x.nodes w).change change = { x.nodes w with
          configs := (x.nodes w).configs.applyChange change
          queue := (x.nodes w).queue ++ [.write change] } := by
        simp [FilterNode.change, hstarted]
      rw [hn]
      exact ⟨hstarted, _, change, [], rfl, rfl, hqueue⟩

/-- A call for another stream. -/
theorem Upheld.change (h : x.Upheld w s config) (v : String) {change : FilterChange}
    (hs : change.streamId ≠ s) : (x.change v change).Upheld w s config := by
  obtain ⟨hconfigs, hinbox, hread⟩ := FilterNode.change_frame change (x.nodes v)
  have hnode : (x.withNode v ((x.nodes v).change change)).Upheld w s config := by
    refine h.node ?_ ?_ ?_
    · intro c hc heq
      rcases FilterNode.change_pending hc with hold | rfl
      · exact h.pending v c hold heq
      · exact absurd heq hs
    · rintro rfl
      refine ⟨?_, h.unopposed.congr hinbox hread⟩
      rw [hconfigs, lookup_applyChange, if_neg hs]
      exact h.configs
    · rintro rfl hwrites
      exact FilterNode.change_writesFirst hwrites change
  exact ⟨hnode.configs, hnode.pending, hnode.unopposed, hnode.hash⟩

/-! ## Redis -/

/-- What is left in the queue of a node after its next command. -/
theorem Upheld.pending_rest (h : x.Upheld w s config) {command : Command} {rest : List Command}
    (hqueue : (x.nodes v).queue = command :: rest) :
    Keep s config { x.nodes v with queue := rest }.pending ∧
      ∀ change, command.change = some change → change.streamId = s → change.config = config := by
  have hpending := h.pending v
  rw [FilterNode.pending, hqueue, List.filterMap_cons] at hpending
  constructor
  · apply hpending.mono
    intro change hchange
    rw [FilterNode.pending] at hchange
    cases hcommand : command.change <;> grind
  · intro change hcommand hs
    rw [hcommand] at hpending
    exact hpending change (by simp) hs

theorem Upheld.readHash (h : x.Upheld w s config) {rest : List Command} {command : Command}
    (hqueue : (x.nodes w).queue = command :: rest) (hreads : command.reads = true) :
    Compatible (x.hash.readHash.lookup s) config := by
  rw [FilterHash.lookup_readHash]
  rcases h.hash with hcompatible | hwrites
  · exact hcompatible
  · rcases hwrites.next hqueue with ⟨change, rfl, -⟩ | ⟨hnot, -⟩
    · cases hreads
    · rw [hnot] at hreads
      cases hreads

theorem Upheld.execute (h : x.Upheld w s config) (hs : x.execute v = some y) :
    y.Upheld w s config := by
  simp only [FilterFleet.execute] at hs
  split at hs
  · cases hs
  · next change rest hqueue =>
    rw [Option.some.injEq] at hs
    subst hs
    obtain ⟨hrest, hchange⟩ := h.pending_rest hqueue
    apply h.withNode rfl
    · rw [FilterNode.pending] at hrest ⊢
      rw [← List.append_assoc]
      refine keep_append.mpr ⟨hrest, ?_⟩
      intro c hc heq
      obtain rfl := List.mem_singleton.mp hc
      exact hchange c rfl heq
    · rintro rfl
      exact ⟨h.configs, h.unopposed.congr rfl rfl⟩
    · by_cases heq : change.streamId = s
      · left
        rw [stored, lookup_write, if_pos heq]
        exact .inr (hchange change rfl heq)
      · rcases h.hash with hcompatible | hwrites
        · left
          rw [stored, lookup_write, if_neg heq]
          exact hcompatible
        · right
          show (Function.update x.nodes v _ w).WritesFirst s
          by_cases hv : w = v
          · subst hv
            rw [Function.update_self]
            rcases hwrites.next hqueue with ⟨change', hsame, hs'⟩ | ⟨-, hlater⟩
            · rw [Command.write.injEq] at hsame
              exact absurd (hsame ▸ hs') heq
            · exact hlater _ rfl rfl
          · rwa [Function.update_of_ne hv]
  · next payload rest hqueue =>
    rw [Option.some.injEq] at hs
    subst hs
    obtain ⟨hrest, hchange⟩ := h.pending_rest hqueue
    have hsent : (x.withNode v { x.nodes v with queue := rest }).Upheld w s config := by
      refine h.node hrest ?_ ?_
      · rintro rfl
        exact ⟨h.configs, h.unopposed.congr rfl rfl⟩
      · rintro rfl hwrites
        rcases hwrites.next hqueue with ⟨change, hsame, -⟩ | ⟨-, hlater⟩
        · cases hsame
        · exact hlater _ rfl rfl
    exact hsent.receive (hchange _ rfl)
  · next rest hqueue =>
    rw [Option.some.injEq] at hs
    subst hs
    refine h.node (h.pending_rest hqueue).1 ?_ ?_
    · rintro rfl
      refine ⟨h.configs, h.unopposed.inbox, ?_⟩
      intro snapshot hsnapshot
      rcases List.mem_append.mp hsnapshot with hold | hnew
      · exact h.unopposed.read snapshot (List.mem_append_left _ hold)
      · rw [List.mem_singleton.mp hnew]
        exact h.readHash hqueue rfl
    · rintro rfl hwrites
      rcases hwrites.next hqueue with ⟨change, hsame, -⟩ | ⟨hnot, -⟩
      · cases hsame
      · cases hnot
  · next rest hqueue =>
    rw [Option.some.injEq] at hs
    subst hs
    refine h.node (h.pending_rest hqueue).1 ?_ ?_
    · rintro rfl
      refine ⟨h.configs, h.unopposed.inbox, ?_⟩
      intro snapshot hsnapshot
      rw [FilterNode.read, List.append_assoc] at hsnapshot
      rcases List.mem_append.mp hsnapshot with hold | hrest
      · exact h.unopposed.read snapshot (List.mem_append_left _ hold)
      · rcases List.mem_append.mp hrest with hnew | hold
        · rw [List.mem_singleton.mp hnew]
          exact h.readHash hqueue rfl
        · exact h.unopposed.read snapshot (List.mem_append_right _ hold)
    · rintro rfl hwrites
      rcases hwrites.next hqueue with ⟨change, hsame, -⟩ | ⟨hnot, -⟩
      · cases hsame
      · cases hnot

theorem Upheld.lose (h : x.Upheld w s config) (hs : x.lose v = some y)
    (hkeeps : v = w → ∀ change, (x.nodes w).queue.head? = some (.write change) →
      change.streamId = s → Compatible (x.stored s) config) : y.Upheld w s config := by
  have hpopped : ∀ {command : Command} {rest : List Command} {n : FilterNode},
      (x.nodes v).queue = command :: rest → n.stage = (x.nodes v).stage ∨ command.reads = true →
      n.queue = rest → v = w → (x.nodes w).WritesFirst s →
      Compatible (x.stored s) config ∨ n.WritesFirst s := by
    rintro command rest n hqueue hstage hrest rfl hwrites
    rcases hwrites.next hqueue with ⟨change, rfl, heq⟩ | ⟨hnot, hlater⟩
    · exact .inl (hkeeps rfl change (by rw [hqueue]; rfl) heq)
    · rcases hstage with hsame | hreads
      · exact .inr (hlater n hsame hrest)
      · rw [hnot] at hreads
        cases hreads
  have hnode : ∀ {command : Command} {rest : List Command} {n : FilterNode},
      (x.nodes v).queue = command :: rest → n.stage = (x.nodes v).stage ∨ command.reads = true →
      n.queue = rest → Keep s config n.pending →
      (v = w → n.configs.lookup s = config ∧ n.Unopposed s config) →
      (x.withNode v n).Upheld w s config := by
    intro command rest n hqueue hstage hrest hpending hself
    refine h.withNode rfl hpending hself ?_
    rcases h.hash with hcompatible | hwrites
    · exact .inl hcompatible
    · show _ ∨ (Function.update x.nodes v n w).WritesFirst s
      by_cases hv : v = w
      · subst hv
        rw [Function.update_self]
        exact hpopped hqueue hstage hrest rfl hwrites
      · rw [Function.update_of_ne (Ne.symm hv)]
        exact .inr hwrites
  simp only [FilterFleet.lose] at hs
  split at hs
  · cases hs
  · next rest hqueue =>
    rw [Option.some.injEq] at hs
    subst hs
    refine hnode hqueue (.inr rfl) rfl ?_ ?_
    · apply (h.pending_rest hqueue).1.mono
      intro change hchange
      simp only [FilterNode.failStart, FilterNode.pending, List.nil_append] at hchange
      rw [FilterNode.pending, List.append_assoc]
      exact List.mem_append_right _ hchange
    · rintro rfl
      refine ⟨h.configs, h.unopposed.inbox, ?_⟩
      intro snapshot hsnapshot
      simp only [FilterNode.failStart, FilterNode.read, List.append_nil] at hsnapshot
      exact h.unopposed.read snapshot (List.mem_append_left _ hsnapshot)
  · next command rest _ hqueue =>
    rw [Option.some.injEq] at hs
    subst hs
    refine hnode hqueue (.inl rfl) rfl (h.pending_rest hqueue).1 ?_
    rintro rfl
    exact ⟨h.configs, h.unopposed.congr rfl rfl⟩

/-! ## The answers -/

theorem Upheld.publish (h : x.Upheld w s config) (hs : x.publish v = some y) :
    y.Upheld w s config := by
  simp only [FilterFleet.publish] at hs
  split at hs
  · cases hs
  · next change rest hwritten =>
    rw [Option.some.injEq] at hs
    subst hs
    refine h.node ?_ ?_ ?_
    · apply (h.pending v).mono
      intro c hc
      simp only [FilterNode.pending, hwritten, List.filterMap_append, List.filterMap_cons,
        Command.change, payload_parse, List.filterMap_nil] at hc ⊢
      grind
    · rintro rfl
      exact ⟨h.configs, h.unopposed.congr rfl rfl⟩
    · rintro rfl hwrites
      exact hwrites.append rfl _ rfl

theorem Upheld.loseAnswer (h : x.Upheld w s config) (hs : x.loseAnswer v = some y) :
    y.Upheld w s config := by
  simp only [FilterFleet.loseAnswer] at hs
  split at hs
  · cases hs
  · next change rest hwritten =>
    rw [Option.some.injEq] at hs
    subst hs
    refine h.node ?_ ?_ ?_
    · apply (h.pending v).mono
      intro c hc
      simp only [FilterNode.pending, hwritten] at hc ⊢
      grind
    · rintro rfl
      exact ⟨h.configs, h.unopposed.congr rfl rfl⟩
    · rintro rfl hwrites
      exact hwrites.append rfl [] (List.append_nil _).symm

theorem Upheld.subscribe (h : x.Upheld w s config) (hs : x.subscribe v = some y) :
    y.Upheld w s config := by
  simp only [FilterFleet.subscribe] at hs
  split at hs
  · next snapshot hstage =>
    rw [Option.some.injEq] at hs
    subst hs
    refine h.node (h.pending v) ?_ ?_
    · rintro rfl
      exact ⟨h.configs, h.unopposed.congr rfl (by simp only [FilterNode.read, hstage])⟩
    · rintro rfl hwrites
      rw [hwrites.1] at hstage
      cases hstage
  · cases hs

theorem Upheld.failStart (h : x.Upheld w s config) (hs : x.failStart v = some y) :
    y.Upheld w s config := by
  simp only [FilterFleet.failStart] at hs
  split at hs
  · next snapshot hstage =>
    rw [Option.some.injEq] at hs
    subst hs
    refine h.node ?_ ?_ ?_
    · apply (h.pending v).mono
      intro c hc
      simp only [FilterNode.failStart, FilterNode.pending, List.nil_append] at hc
      rw [FilterNode.pending, List.append_assoc]
      exact List.mem_append_right _ hc
    · rintro rfl
      refine ⟨h.configs, h.unopposed.inbox, ?_⟩
      intro read hread
      simp only [FilterNode.failStart, FilterNode.read, List.append_nil] at hread
      exact h.unopposed.read read (List.mem_append_left _ hread)
    · rintro rfl hwrites
      rw [hwrites.1] at hstage
      cases hstage
  · cases hs

theorem Upheld.finishStart (h : x.Upheld w s config) (hs : x.finishStart v = some y) :
    y.Upheld w s config := by
  simp only [FilterFleet.finishStart] at hs
  split at hs
  · next snapshot hstage =>
    rw [Option.some.injEq] at hs
    subst hs
    refine h.node ?_ ?_ ?_
    · apply (h.pending v).mono
      intro c hc
      simp only [FilterNode.pending, List.nil_append, List.filterMap_append, List.mem_append,
        List.mem_filterMap, List.mem_map] at hc ⊢
      rcases hc with (hqueue | ⟨_, ⟨c', hwaiting, rfl⟩, hsame⟩) | hwritten
      · exact .inl (.inr hqueue)
      · rw [Command.change, Option.some.injEq] at hsame
        exact .inl (.inl (hsame ▸ hwaiting))
      · exact .inr hwritten
    · rintro rfl
      refine ⟨?_, h.unopposed.inbox, ?_⟩
      · apply lookup_reconcile_keep h.configs
        apply h.unopposed.read
        rw [FilterNode.read, hstage]
        exact List.mem_append_right _ (List.mem_singleton.mpr rfl)
      · intro read hread
        simp only [FilterNode.read, List.append_nil] at hread
        exact h.unopposed.read read (List.mem_append_left _ hread)
    · rintro rfl hwrites
      rw [hwrites.1] at hstage
      cases hstage
  · cases hs

theorem Upheld.handle (h : x.Upheld w s config) (hs : x.handle v = some y) :
    y.Upheld w s config := by
  simp only [FilterFleet.handle] at hs
  split at hs
  · next m rest hstage hinbox =>
    rw [Option.some.injEq] at hs
    subst hs
    refine h.node (h.pending v) ?_ ?_
    · rintro rfl
      have hmessages := h.unopposed.inbox
      rw [hinbox, List.map_cons] at hmessages
      refine ⟨?_, ?_, h.unopposed.read⟩
      · exact lookup_applyChange_keep h.configs (hmessages _ List.mem_cons_self)
      · exact hmessages.mono fun c hc => List.mem_cons_of_mem _ hc
    · rintro rfl hwrites
      exact hwrites.append rfl [] (List.append_nil _).symm
  · cases hs

theorem Upheld.reconcileTimer (h : x.Upheld w s config) (hs : x.reconcileTimer v = some y) :
    y.Upheld w s config := by
  simp only [FilterFleet.reconcileTimer] at hs
  split at hs
  · rw [Option.some.injEq] at hs
    subst hs
    refine h.node ?_ ?_ ?_
    · apply (h.pending v).mono
      intro c hc
      simp only [FilterNode.pending, List.filterMap_append, List.filterMap_cons, Command.change,
        List.filterMap_nil, List.append_nil] at hc ⊢
      exact hc
    · rintro rfl
      exact ⟨h.configs, h.unopposed.congr rfl rfl⟩
    · rintro rfl hwrites
      exact hwrites.append rfl [.reconcile] rfl
  · cases hs

theorem Upheld.reconcile (h : x.Upheld w s config) (hs : x.reconcile v = some y) :
    y.Upheld w s config := by
  simp only [FilterFleet.reconcile] at hs
  split at hs
  · cases hs
  · next snapshot rest hanswers =>
    rw [Option.some.injEq] at hs
    subst hs
    refine h.node (h.pending v) ?_ ?_
    · rintro rfl
      have hread := h.unopposed.read
      rw [FilterNode.read, hanswers, List.cons_append] at hread
      refine ⟨?_, h.unopposed.inbox, ?_⟩
      · exact lookup_reconcile_keep h.configs (hread snapshot List.mem_cons_self)
      · exact fun read hin => hread read (List.mem_cons_of_mem _ hin)
    · rintro rfl hwrites
      exact hwrites.append rfl [] (List.append_nil _).symm

/-! ## Every run -/

/-- The action is a call of `setConfig` or `clearConfig`. -/
def Action.changes : Action → Bool
  | .setConfig _ _ _ | .clearConfig _ _ => true
  | _ => false

theorem latest_step {a : Action} (hs : step x a = some y) (ha : a.changes = false) :
    y.latest = x.latest := by
  cases a with
  | setConfig | clearConfig => cases ha
  | start v =>
    rw [FilterFleet.step, Option.some.injEq] at hs
    subst hs
    rfl
  | execute | lose | publish | loseAnswer | subscribe | failStart | finishStart | handle |
      reconcileTimer | reconcile =>
    simp only [FilterFleet.step, FilterFleet.execute, FilterFleet.lose, FilterFleet.publish,
      FilterFleet.loseAnswer, FilterFleet.subscribe, FilterFleet.failStart,
      FilterFleet.finishStart, FilterFleet.handle, FilterFleet.reconcileTimer,
      FilterFleet.reconcile, FilterFleet.withNode] at hs
    grind

theorem Sound.step {a : Action} (h : x.Sound) (hkeeps : x.KeepsOwn a) (hs : step x a = some y) :
    y.Sound := by
  have hcall : ∀ {v : String} {change : FilterChange},
      x.Free v change.streamId change.config → (x.change v change).Sound := by
    intro v change hfree s w last hlast
    by_cases heq : change.streamId = s
    · subst heq
      have hnow : Function.update x.latest change.streamId (some (v, change)) change.streamId =
          some (w, last) := hlast
      rw [Function.update_self, Option.some.injEq, Prod.mk.injEq] at hnow
      obtain ⟨rfl, rfl⟩ := hnow
      exact hfree.upheld
    · have hbefore : x.latest s = some (w, last) := by
        rw [← hlast]
        exact (Function.update_of_ne (Ne.symm heq) ..).symm
      exact (h s w last hbefore).change v heq
  cases a with
  | setConfig v s config =>
    rw [FilterFleet.step, Option.some.injEq] at hs
    exact hs ▸ @hcall v (.set s config) hkeeps
  | clearConfig v s =>
    rw [FilterFleet.step, Option.some.injEq] at hs
    exact hs ▸ @hcall v (.clear s) hkeeps
  | start v =>
    rw [FilterFleet.step, Option.some.injEq] at hs
    subst hs
    intro s w last hlast
    have hu := h s w last hlast
    obtain ⟨hconfigs, hpending, hinbox, hread⟩ := FilterNode.ensureStarted_frame (x.nodes v)
    refine hu.node (by rw [hpending]; exact hu.pending v) ?_ ?_
    · rintro rfl
      exact ⟨by rw [hconfigs]; exact hu.configs, hu.unopposed.congr hinbox hread⟩
    · rintro rfl hwrites
      exact FilterNode.ensureStarted_writesFirst hwrites
  | lose v =>
    intro s w last hlast
    rw [latest_step hs rfl] at hlast
    refine (h s w last hlast).lose hs ?_
    rintro rfl change hhead rfl
    exact hkeeps change hhead last hlast
  | execute v => exact fun s w last hlast => (h s w last (latest_step hs rfl ▸ hlast)).execute hs
  | publish v => exact fun s w last hlast => (h s w last (latest_step hs rfl ▸ hlast)).publish hs
  | loseAnswer v =>
    exact fun s w last hlast => (h s w last (latest_step hs rfl ▸ hlast)).loseAnswer hs
  | subscribe v =>
    exact fun s w last hlast => (h s w last (latest_step hs rfl ▸ hlast)).subscribe hs
  | failStart v =>
    exact fun s w last hlast => (h s w last (latest_step hs rfl ▸ hlast)).failStart hs
  | finishStart v =>
    exact fun s w last hlast => (h s w last (latest_step hs rfl ▸ hlast)).finishStart hs
  | handle v => exact fun s w last hlast => (h s w last (latest_step hs rfl ▸ hlast)).handle hs
  | reconcileTimer v =>
    exact fun s w last hlast => (h s w last (latest_step hs rfl ▸ hlast)).reconcileTimer hs
  | reconcile v =>
    exact fun s w last hlast => (h s w last (latest_step hs rfl ▸ hlast)).reconcile hs

theorem initial_sound (hash : FilterHash) : (initial hash).Sound := by
  intro s w last hlast
  cases hlast

end FilterFleet

/-! ## The in-process store -/

namespace LocalFilter

variable {x y : LocalFilter} {s : String} {config : Option FilterConfig}

/-- No call that waits and no read of the store, done or to be done, says anything but
`config` about the stream. -/
structure Free (x : LocalFilter) (s : String) (config : Option FilterConfig) : Prop where
  waiting : Keep s config x.waiting
  snapshot : ∀ snapshot ∈ x.snapshot, Compatible (snapshot.lookup s) config
  store : x.started = true ∨ x.snapshot.isSome = true ∨ Compatible (x.store.lookup s) config

def KeepsOwn (x : LocalFilter) : Action → Prop
  | .setConfig s config => x.Free s (some config)
  | .clearConfig s => x.Free s none
  | _ => True

def Sound (x : LocalFilter) : Prop :=
  ∀ s last, x.latest s = some last →
    x.configs.lookup s = last.config ∧ x.Free s last.config

theorem Free.ensureStarted (h : x.Free s config) : x.ensureStarted.Free s config := by
  unfold LocalFilter.ensureStarted
  split
  · exact h
  · next hidle =>
    rw [not_or, Bool.not_eq_true] at hidle
    refine ⟨h.waiting, ?_, .inr (.inl rfl)⟩
    intro snapshot hsnapshot
    obtain rfl : x.store = snapshot := Option.mem_some_iff.mp hsnapshot
    rcases h.store with hstarted | hloading | hcompatible
    · rw [hidle.1] at hstarted
      cases hstarted
    · exact absurd hloading hidle.2
    · exact hcompatible

/-- A call that does not speak against `config` leaves the stream as free as it was. -/
theorem Free.change (h : x.Free s config) {change : FilterChange}
    (hchange : change.streamId = s → change.config = config) :
    (x.change change).Free s config := by
  have hstarted := h.ensureStarted
  refine ⟨keep_append.mpr ⟨h.waiting, ?_⟩, hstarted.snapshot, hstarted.store⟩
  intro c hc heq
  obtain rfl := List.mem_singleton.mp hc
  exact hchange heq

theorem Sound.change (h : x.Sound) {change : FilterChange}
    (hfree : x.Free change.streamId change.config) : (x.change change).Sound := by
  intro s last hlast
  have hnow : Function.update x.latest change.streamId (some change) s = some last := hlast
  have hconfigs : (x.change change).configs.lookup s =
      if change.streamId = s then change.config else x.configs.lookup s :=
    lookup_applyChange change x.configs s
  rw [hconfigs]
  by_cases heq : change.streamId = s
  · subst heq
    rw [Function.update_self, Option.some.injEq] at hnow
    subst hnow
    rw [if_pos rfl]
    exact ⟨rfl, hfree.change fun _ => rfl⟩
  · rw [Function.update_of_ne (Ne.symm heq)] at hnow
    obtain ⟨hlookup, hkept⟩ := h s last hnow
    rw [if_neg heq]
    exact ⟨hlookup, hkept.change fun hsame => absurd hsame heq⟩

theorem Sound.step {a : Action} (h : x.Sound) (hkeeps : x.KeepsOwn a) (hs : step x a = some y) :
    y.Sound := by
  cases a with
  | setConfig s config =>
    rw [LocalFilter.step, Option.some.injEq] at hs
    exact hs ▸ @Sound.change x h (.set s config) hkeeps
  | clearConfig s =>
    rw [LocalFilter.step, Option.some.injEq] at hs
    exact hs ▸ @Sound.change x h (.clear s) hkeeps
  | start =>
    rw [LocalFilter.step, Option.some.injEq] at hs
    subst hs
    intro s last hlast
    have hframe : x.ensureStarted.latest = x.latest ∧ x.ensureStarted.configs = x.configs := by
      unfold ensureStarted
      split <;> exact ⟨rfl, rfl⟩
    rw [hframe.1] at hlast
    rw [hframe.2]
    exact ⟨(h s last hlast).1, (h s last hlast).2.ensureStarted⟩
  | finishStart =>
    simp only [LocalFilter.step, finishStart] at hs
    split at hs
    · cases hs
    · next snapshot hsnapshot =>
      rw [Option.some.injEq] at hs
      subst hs
      intro s last hlast
      obtain ⟨hlookup, hfree⟩ := h s last hlast
      refine ⟨lookup_reconcile_keep hlookup (hfree.snapshot snapshot hsnapshot), hfree.waiting, ?_,
        .inl rfl⟩
      intro other hother
      cases hother
  | write =>
    simp only [LocalFilter.step, write] at hs
    split at hs
    · next change rest hstarted hwaiting =>
      rw [Option.some.injEq] at hs
      subst hs
      intro s last hlast
      obtain ⟨hlookup, hfree⟩ := h s last hlast
      have hchanges := hfree.waiting
      rw [hwaiting] at hchanges
      refine ⟨lookup_applyChange_keep hlookup (hchanges change List.mem_cons_self), ?_,
        hfree.snapshot, .inl hstarted⟩
      exact hchanges.mono fun c hc => List.mem_cons_of_mem _ hc
    · cases hs

theorem initial_sound (store : FilterConfigs) : (initial store).Sound := by
  intro s last hlast
  cases hlast

end LocalFilter

/-! ## Every filter -/

/-- Over either store and whatever it holds: if each change of a stream is called while
nothing on its way, and no read of the store before the change is in it, says anything else
about the stream, and no write is lost while the hash has another entry, then `allow()`
decides by the last change at every moment. -/
theorem own_changes_decide (s : String) (eventType : Option String) :
    (∀ (hash : FilterHash) (as : List FilterFleet.Action) (x : FilterFleet),
      run FilterFleet.step (.initial hash) as = some x →
      AllSteps FilterFleet.step (fun x a _ => x.KeepsOwn a) (.initial hash) as →
      ∀ w last, x.latest s = some (w, last) →
        (x.nodes w).configs.allow s eventType = decides last.config eventType) ∧
    ∀ (store : FilterConfigs) (as : List LocalFilter.Action) (x : LocalFilter),
      run LocalFilter.step (.initial store) as = some x →
      AllSteps LocalFilter.step (fun x a _ => x.KeepsOwn a) (.initial store) as →
      ∀ last, x.latest s = some last → x.configs.allow s eventType = decides last.config eventType := by
  constructor
  · intro hash as x hrun hkeeps w last hlast
    have hstep : ∀ q a q', FilterFleet.Sound q → FilterFleet.KeepsOwn q a →
        FilterFleet.step q a = some q' → FilterFleet.Sound q' := fun _ _ _ h hk hs => h.step hk hs
    have hsound := AllSteps.invariant hstep (FilterFleet.initial_sound hash) hkeeps hrun
    rw [allow_eq, (hsound s w last hlast).configs]
  · intro store as x hrun hkeeps last hlast
    have hstep : ∀ q a q', LocalFilter.Sound q → LocalFilter.KeepsOwn q a →
        LocalFilter.step q a = some q' → LocalFilter.Sound q' := fun _ _ _ h hk hs => h.step hk hs
    have hsound := AllSteps.invariant hstep (LocalFilter.initial_sound store) hkeeps hrun
    rw [allow_eq, (hsound s last hlast).1]

/-- A worker sets a filter before its start, which then runs to the end. -/
def setBeforeStart : List FilterFleet.Action :=
  [.setConfig "a" "s" ⟨["trace"]⟩, .execute "a", .subscribe "a", .finishStart "a"]

theorem own_changes_decide_emptyHash : ∃ x,
    run FilterFleet.step (.initial ∅) setBeforeStart = some x ∧
      (x.nodes "a").configs.allow "s" (some "trace") = false := by
  have hkeeps : AllSteps FilterFleet.step (fun x a _ => x.KeepsOwn a) (.initial ∅)
      setBeforeStart := by
    rintro x₁ ⟨⟩
    refine ⟨⟨?_, ⟨?_, ?_⟩, .inl (.inl rfl)⟩, ?_⟩
    · intro v change hchange
      cases hchange
    · intro change hchange
      cases hchange
    · intro snapshot hsnapshot
      cases hsnapshot
    · rintro x₂ ⟨⟩
      refine ⟨trivial, ?_⟩
      rintro x₃ ⟨⟩
      refine ⟨trivial, ?_⟩
      rintro x₄ ⟨⟩
      exact ⟨trivial, trivial⟩
  refine ⟨_, rfl, ?_⟩
  exact (own_changes_decide "s" (some "trace")).1 ∅ setBeforeStart _ rfl hkeeps "a"
    (.set "s" ⟨["trace"]⟩) rfl

/-- Another config of the stream in the hash comes back over the one that was just set. -/
theorem snapshot_reverts_change :
    ¬∀ (hash : FilterHash) (as : List FilterFleet.Action) (x : FilterFleet),
      run FilterFleet.step (.initial hash) as = some x →
      ∀ s w last, x.latest s = some (w, last) →
        ∀ eventType, (x.nodes w).configs.allow s eventType = decides last.config eventType := by
  intro h
  have hallow := h ((∅ : FilterHash).insert "s" (FilterFleet.payload "b" (.set "s" ⟨["debug"]⟩)))
    setBeforeStart _ rfl "s" "a" (.set "s" ⟨["trace"]⟩) rfl (some "trace")
  exact absurd hallow (by decide +kernel)

end RedisFilterConfigStore
end Processing
end XStreamRoll
