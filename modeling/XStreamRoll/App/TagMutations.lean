/-
The tags of a stream in the query cache, and the mutations of `useAttachTag` and `useDetachTag`.

A mutation keeps the cached list as it finds it, and edits it at once.  When its request fails
it puts the list back, and an attach that succeeds puts the tag that the server made in the
place of its own.  Requests overlap, and are answered in any order.

The edits are kept in a log with the mutations that made them.  What the list should be is the
first list with the edits of all mutations but the failed ones.
-/
import XStreamRoll.Json
import XStreamRoll.Transition

namespace XStreamRoll
namespace App

open Transition

structure Tag where
  id : Int
  name : String
  slug : String
  createdAt : String
  deriving DecidableEq

structure PagedTags where
  data : List Tag
  page : Nat
  limit : Nat
  total : Nat
  hasMore : Bool
  deriving DecidableEq

def emptyPagedTags : PagedTags := ⟨[], 1, 50, 0, false⟩

/-- `current?.data ?? []` -/
def dataOf (current : Option PagedTags) : List Tag := (current.map PagedTags.data).getD []

/-- The sum is over code points, and `charCodeAt(0)` is the first half of a pair. -/
def placeholderId (name : String) : Int :=
  -((name.toList.foldl (fun acc c => acc + (Json.codeUnits c).headD 0) 0 : Nat) : Int)

def placeholder (name createdAt : String) : Tag := ⟨placeholderId name, name, name, createdAt⟩

/-- The placeholder of an attach of `name`, made at any time. -/
def Tag.IsPlaceholder (name : String) (tag : Tag) : Prop :=
  tag.id = placeholderId name ∧ tag.name = name

instance (name : String) (tag : Tag) : Decidable (tag.IsPlaceholder name) :=
  inferInstanceAs (Decidable (_ ∧ _))

/-- The test of `onSuccess`. -/
def Tag.StandsFor (created tag : Tag) : Prop := tag.id < 0 ∧ tag.name = created.name

instance (created tag : Tag) : Decidable (created.StandsFor tag) :=
  inferInstanceAs (Decidable (_ ∧ _))

/-- A change that a mutation makes to the list. -/
inductive Edit
  | place (placeholder : Tag)
  | confirm (created : Tag)
  /-- `none` where `Number(tagId)` is not an integer -/
  | remove (tagId : Option Int)
  deriving DecidableEq

def Edit.apply : Edit → List Tag → List Tag
  | .place placeholder, data => data ++ [placeholder]
  | .confirm created, data => data.map fun t => if created.StandsFor t then created else t
  | .remove tagId, data => data.filter fun t => some t.id ≠ tagId

def replay (data : List Tag) (edits : List (Nat × Edit)) : List Tag :=
  edits.foldl (fun data edit => edit.2.apply data) data

theorem replay_append (data : List Tag) (first second : List (Nat × Edit)) :
    replay data (first ++ second) = replay (replay data first) second := List.foldl_append

inductive Request
  | attach (name : String)
  | detach (tagId : Option Int)
  deriving DecidableEq

inductive Status
  | pending
  | failed
  | succeeded
  deriving DecidableEq

structure Mutation where
  request : Request
  /-- `ctx.previousTags` -/
  previousTags : Option PagedTags
  status : Status
  deriving DecidableEq

/-- The name that an attach is for. -/
def Mutation.name (mutation : Mutation) : Option String :=
  match mutation.request with
  | .attach name => some name
  | .detach _ => none

structure TagMutations where
  /-- The entry of the cache under `streamKeys.tags(streamId)`. -/
  cached : Option PagedTags
  mutations : List Mutation
  edits : List (Nat × Edit)

namespace TagMutations

inductive Action
  | attach (name createdAt : String)
  | detach (tagId : Option Int)
  | attached (k : Nat) (created : Tag)
  | detached (k : Nat)
  | fail (k : Nat)

/-- Nothing is on its way. -/
def idle (cached : Option PagedTags) : TagMutations := ⟨cached, [], []⟩

def tags (s : TagMutations) : List Tag := dataOf s.cached

/-- `setQueryData` with a new list, by the mutation `k`. -/
def write (k : Nat) (edit : Edit) (s : TagMutations) : TagMutations :=
  { s with
    cached := some { s.cached.getD emptyPagedTags with data := edit.apply s.tags }
    edits := s.edits ++ [(k, edit)] }

/-- The first write of an attach, so that there is a list. -/
def seed (s : TagMutations) : TagMutations :=
  { s with cached := some { s.cached.getD emptyPagedTags with data := s.tags } }

/-- `onMutate` of an attach. -/
def onAttach (name createdAt : String) (s : TagMutations) : TagMutations :=
  { s.seed.write s.mutations.length (.place (placeholder name createdAt)) with
    mutations := s.mutations ++ [⟨.attach name, s.cached, .pending⟩] }

/-- `onMutate` of a detach. -/
def onDetach (tagId : Option Int) (s : TagMutations) : TagMutations :=
  { s.write s.mutations.length (.remove tagId) with
    mutations := s.mutations ++ [⟨.detach tagId, s.cached, .pending⟩] }

def settle (k : Nat) (mutation : Mutation) (status : Status) (s : TagMutations) : TagMutations :=
  { s with mutations := s.mutations.set k { mutation with status := status } }

/-- `onError` -/
def onError (mutation : Mutation) (s : TagMutations) : TagMutations :=
  match mutation.previousTags with
  | some previousTags => { s with cached := some previousTags }
  | none => s

/-- The ids that the server gives are positive. -/
def step (s : TagMutations) : Action → Option TagMutations
  | .attach name createdAt => some (s.onAttach name createdAt)
  | .detach tagId => some (s.onDetach tagId)
  | .attached k created =>
    match s.mutations[k]? with
    | some mutation =>
      if mutation.name.isSome ∧ mutation.status = .pending ∧ 0 < created.id then
        some ((s.write k (.confirm created)).settle k mutation .succeeded)
      else none
    | none => none
  | .detached k =>
    match s.mutations[k]? with
    | some mutation =>
      if mutation.name = none ∧ mutation.status = .pending then
        some (s.settle k mutation .succeeded)
      else none
    | none => none
  | .fail k =>
    match s.mutations[k]? with
    | some mutation =>
      if mutation.status = .pending then some ((s.onError mutation).settle k mutation .failed)
      else none
    | none => none

/-! ## What is to hold -/

def hasFailed (mutations : List Mutation) (k : Nat) : Bool :=
  mutations[k]?.any fun mutation => mutation.status = .failed

/-- The edits without those of the mutations that failed. -/
def lasting (mutations : List Mutation) (edits : List (Nat × Edit)) : List (Nat × Edit) :=
  edits.filter fun edit => !hasFailed mutations edit.1

/-- The list is the effect of the mutations that have not failed. -/
def Composes (origin : List Tag) (s : TagMutations) : Prop :=
  s.tags = replay origin (lasting s.mutations s.edits)

instance (origin : List Tag) (s : TagMutations) : Decidable (s.Composes origin) :=
  inferInstanceAs (Decidable (_ = _))

/-- One entry has the id of the tag, it is the one of the server, and no placeholder is left. -/
def Entered (created : Tag) (name : String) (data : List Tag) : Prop :=
  data.countP (fun t => t.id = created.id) = 1 ∧ created ∈ data ∧
    ∀ t ∈ data, ¬t.IsPlaceholder name

instance (created : Tag) (name : String) (data : List Tag) :
    Decidable (Entered created name data) :=
  inferInstanceAs (Decidable (_ ∧ _ ∧ _))

/-- The name that `k` attaches. -/
def nameOf (s : TagMutations) (k : Nat) : Option String := s.mutations[k]?.bind Mutation.name

/-- An attach that succeeds has entered its tag. -/
def Enters (s : TagMutations) (a : Action) (t : TagMutations) : Prop :=
  match a with
  | .attached k created => ∀ name ∈ s.nameOf k, Entered created name t.tags
  | _ => True

instance (s : TagMutations) (a : Action) (t : TagMutations) : Decidable (s.Enters a t) :=
  match a with
  | .attached _ _ => inferInstanceAs (Decidable (∀ _ ∈ _, _))
  | .attach _ _ | .detach _ | .detached _ | .fail _ => isTrue trivial

/-- One entry stands for the tag or has its id, and the placeholders of the attach stand for it. -/
def Ready (created : Tag) (name : String) (data : List Tag) : Prop :=
  data.countP (fun t => created.StandsFor t ∨ t.id = created.id) = 1 ∧
    (∃ t ∈ data, created.StandsFor t ∨ t = created) ∧
    ∀ t ∈ data, t.IsPlaceholder name → created.StandsFor t

instance (created : Tag) (name : String) (data : List Tag) : Decidable (Ready created name data) :=
  inferInstanceAs (Decidable (_ ∧ _ ∧ _))

/-- A mutation that fails made the last edit that counts, and an attach that fails had found a
list.  One that succeeds finds the list ready for its tag. -/
def Undisturbed (s : TagMutations) : Action → Prop
  | .attached k created => ∀ name ∈ s.nameOf k, Ready created name s.tags
  | .fail k =>
    (lasting s.mutations s.edits).getLast?.map Prod.fst = some k ∧
      ∀ mutation ∈ s.mutations[k]?, mutation.name.isSome → mutation.previousTags.isSome
  | _ => True

instance (s : TagMutations) (a : Action) : Decidable (s.Undisturbed a) :=
  match a with
  | .attached _ _ => inferInstanceAs (Decidable (∀ _ ∈ _, _))
  | .fail _ => inferInstanceAs (Decidable (_ ∧ ∀ _ ∈ _, _))
  | .attach _ _ | .detach _ | .detached _ => isTrue trivial

/-! ## The log -/

theorem lasting_append (mutations : List Mutation) (first second : List (Nat × Edit)) :
    lasting mutations (first ++ second) = lasting mutations first ++ lasting mutations second :=
  List.filter_append ..

theorem mem_lasting {mutations : List Mutation} {edits : List (Nat × Edit)} {edit : Nat × Edit} :
    edit ∈ lasting mutations edits ↔ edit ∈ edits ∧ hasFailed mutations edit.1 = false := by
  rw [lasting, List.mem_filter, Bool.not_eq_true']

theorem lasting_congr {mutations mutations' : List Mutation} {edits : List (Nat × Edit)}
    (same : ∀ edit ∈ edits, hasFailed mutations' edit.1 = hasFailed mutations edit.1) :
    lasting mutations' edits = lasting mutations edits :=
  List.filter_congr fun edit hmem => by rw [same edit hmem]

theorem hasFailed_append {mutations : List Mutation} {k : Nat} (hk : k < mutations.length)
    (new : Mutation) : hasFailed (mutations ++ [new]) k = hasFailed mutations k := by
  rw [hasFailed, hasFailed, List.getElem?_append_left hk]

theorem hasFailed_set_ne {mutations : List Mutation} {j k : Nat} (hne : j ≠ k) (new : Mutation) :
    hasFailed (mutations.set k new) j = hasFailed mutations j := by
  rw [hasFailed, hasFailed, List.getElem?_set_ne hne.symm]

theorem hasFailed_of_pending {mutations : List Mutation} {k : Nat} {mutation : Mutation}
    (hk : mutations[k]? = some mutation) (hpending : mutation.status = .pending) :
    hasFailed mutations k = false := by
  rw [hasFailed, hk, Option.any_some, hpending]
  rfl

/-- A success fails nothing. -/
theorem hasFailed_succeeded {mutations : List Mutation} {k : Nat} {mutation : Mutation}
    (hk : mutations[k]? = some mutation) (hpending : mutation.status = .pending) (j : Nat) :
    hasFailed (mutations.set k { mutation with status := .succeeded }) j =
      hasFailed mutations j := by
  by_cases hj : j = k
  · subst hj
    have hlt := (List.getElem?_eq_some_iff.mp hk).1
    rw [hasFailed, List.getElem?_set_self hlt, hasFailed_of_pending hk hpending]
    rfl
  · exact hasFailed_set_ne hj _

/-- Where the log stood when a mutation began: what was made before, what it made, and what the
others have made since. -/
structure Began (origin : List Tag) (mutations : List Mutation) (k : Nat) (mutation : Mutation)
    (before : List (Nat × Edit)) (edit : Edit) (since : List (Nat × Edit)) : Prop where
  earlier : ∀ e ∈ before, e.1 < k
  others : ∀ e ∈ since, e.1 ≠ k
  kept : dataOf mutation.previousTags = replay origin (lasting mutations before)
  removed : mutation.name = none → ∃ tagId, edit = .remove tagId

theorem Began.transfer {origin : List Tag} {mutations mutations' : List Mutation} {k : Nat}
    {mutation : Mutation} {before since more : List (Nat × Edit)} {edit : Edit}
    (h : Began origin mutations k mutation before edit since)
    (same : ∀ j < k, hasFailed mutations' j = hasFailed mutations j)
    (hmore : ∀ e ∈ more, e.1 ≠ k) :
    Began origin mutations' k mutation before edit (since ++ more) where
  earlier := h.earlier
  others := by
    intro e hmem
    rcases List.mem_append.mp hmem with hold | hnew
    · exact h.others e hold
    · exact hmore e hnew
  kept := by rw [h.kept, lasting_congr fun e hmem => same e.1 (h.earlier e hmem)]
  removed := h.removed

structure Consistent (origin : List Tag) (s : TagMutations) : Prop where
  composes : s.Composes origin
  numbered : ∀ e ∈ s.edits, e.1 < s.mutations.length
  began : ∀ k mutation, s.mutations[k]? = some mutation → mutation.status = .pending →
    ∃ before edit since, s.edits = before ++ (k, edit) :: since ∧
      Began origin s.mutations k mutation before edit since

theorem idle_consistent (cached : Option PagedTags) : Consistent (dataOf cached) (idle cached) where
  composes := rfl
  numbered := by
    intro e hmem
    cases hmem
  began := by
    intro k mutation hk
    cases hk

/-! ## One step -/

variable {origin : List Tag} {s t : TagMutations}

/-- What the beginning of a mutation does. -/
structure Begins (s : TagMutations) (mutation : Mutation) (edit : Edit) (t : TagMutations) :
    Prop where
  pending : mutation.status = .pending
  kept : mutation.previousTags = s.cached
  removed : mutation.name = none → ∃ tagId, edit = .remove tagId
  tags : t.tags = edit.apply s.tags
  edits : t.edits = s.edits ++ [(s.mutations.length, edit)]
  mutations : t.mutations = s.mutations ++ [mutation]

/-- What an action does. -/
theorem step_cases {a : Action} (h : step s a = some t) :
    match a with
    | .attach _ _ | .detach _ => ∃ mutation edit, s.Begins mutation edit t
    | .attached k created => ∃ mutation, s.mutations[k]? = some mutation ∧
        mutation.status = .pending ∧ 0 < created.id ∧
        t = (s.write k (.confirm created)).settle k mutation .succeeded
    | .detached k => ∃ mutation, s.mutations[k]? = some mutation ∧ mutation.status = .pending ∧
        t = s.settle k mutation .succeeded
    | .fail k => ∃ mutation, s.mutations[k]? = some mutation ∧ mutation.status = .pending ∧
        t = (s.onError mutation).settle k mutation .failed := by
  cases a with
  | attach name createdAt =>
    obtain rfl := Option.some.inj h
    exact ⟨⟨.attach name, s.cached, .pending⟩, .place (placeholder name createdAt), rfl, rfl,
      fun hnone => by (cases hnone), rfl, rfl, rfl⟩
  | detach tagId =>
    obtain rfl := Option.some.inj h
    exact ⟨⟨.detach tagId, s.cached, .pending⟩, .remove tagId, rfl, rfl, fun _ => ⟨tagId, rfl⟩,
      rfl, rfl, rfl⟩
  | attached k created =>
    rw [step] at h
    split at h
    · next mutation hk =>
      split at h
      · next hcan => exact ⟨mutation, hk, hcan.2.1, hcan.2.2, (Option.some.inj h).symm⟩
      · cases h
    · cases h
  | detached k =>
    rw [step] at h
    split at h
    · next mutation hk =>
      split at h
      · next hcan => exact ⟨mutation, hk, hcan.2, (Option.some.inj h).symm⟩
      · cases h
    · cases h
  | fail k =>
    rw [step] at h
    split at h
    · next mutation hk =>
      split at h
      · next hpending => exact ⟨mutation, hk, hpending, (Option.some.inj h).symm⟩
      · cases h
    · cases h

theorem begins_consistent (hs : s.Consistent origin) {mutation : Mutation} {edit : Edit}
    (h : s.Begins mutation edit t) : t.Consistent origin := by
  have hsame : ∀ j < s.mutations.length, hasFailed t.mutations j = hasFailed s.mutations j := by
    intro j hj
    rw [h.mutations, hasFailed_append hj]
  have hold : lasting t.mutations s.edits = lasting s.mutations s.edits :=
    lasting_congr fun e hmem => hsame e.1 (hs.numbered e hmem)
  refine ⟨?_, ?_, ?_⟩
  · have hnew : hasFailed t.mutations s.mutations.length = false := by
      rw [h.mutations, hasFailed, List.getElem?_concat_length]
      simp [h.pending]
    have hlast : lasting t.mutations [(s.mutations.length, edit)] =
        [(s.mutations.length, edit)] := by
      rw [lasting, List.filter_singleton, hnew]
      rfl
    rw [Composes, h.edits, lasting_append, hold, hlast, replay_append, ← hs.composes, h.tags]
    rfl
  · intro e hmem
    rw [h.edits] at hmem
    rw [h.mutations, List.length_append]
    rcases List.mem_append.mp hmem with hold | hnew
    · exact Nat.lt_add_right 1 (hs.numbered e hold)
    · rw [List.mem_singleton.mp hnew]
      exact Nat.lt_add_one _
  · intro k other hk hpending
    rw [h.mutations] at hk
    by_cases hlt : k < s.mutations.length
    · rw [List.getElem?_append_left hlt] at hk
      obtain ⟨before, made, since, hedits, hbegan⟩ := hs.began k other hk hpending
      refine ⟨before, made, since ++ [(s.mutations.length, edit)], ?_,
        hbegan.transfer (fun j hj => hsame j (Nat.lt_trans hj hlt)) ?_⟩
      · rw [h.edits, hedits, List.append_assoc, List.cons_append]
      · intro e hmem
        rw [List.mem_singleton.mp hmem]
        exact Nat.ne_of_gt hlt
    · have hlen : k = s.mutations.length := by
        have hbound := (List.getElem?_eq_some_iff.mp hk).1
        rw [List.length_append, List.length_singleton] at hbound
        omega
      subst hlen
      rw [List.getElem?_concat_length, Option.some.injEq] at hk
      subst hk
      refine ⟨s.edits, edit, [], h.edits, hs.numbered, fun e hmem => (by cases hmem), ?_,
        h.removed⟩
      rw [h.kept, hold, ← hs.composes]
      rfl

/-- What a success does: one mutation is no longer pending, and may have made an edit. -/
theorem succeeded_consistent (hs : s.Consistent origin) {k : Nat} {mutation : Mutation}
    (hk : s.mutations[k]? = some mutation) (hpending : mutation.status = .pending)
    (made : List (Nat × Edit)) (hmade : ∀ e ∈ made, e.1 = k)
    (htags : t.tags = replay s.tags made) (hedits : t.edits = s.edits ++ made)
    (hmutations : t.mutations = s.mutations.set k { mutation with status := .succeeded }) :
    t.Consistent origin := by
  have hsame : ∀ j, hasFailed t.mutations j = hasFailed s.mutations j := by
    rw [hmutations]
    exact hasFailed_succeeded hk hpending
  have hlt := (List.getElem?_eq_some_iff.mp hk).1
  have hkeep : lasting t.mutations made = made := by
    apply List.filter_eq_self.mpr
    intro e hmem
    rw [hsame, hmade e hmem, hasFailed_of_pending hk hpending]
    rfl
  refine ⟨?_, ?_, ?_⟩
  · rw [Composes, hedits, lasting_append, hkeep, lasting_congr fun e _ => hsame e.1, replay_append,
      ← hs.composes, htags]
  · intro e hmem
    rw [hedits] at hmem
    rw [hmutations, List.length_set]
    rcases List.mem_append.mp hmem with hold | hnew
    · exact hs.numbered e hold
    · rw [hmade e hnew]
      exact hlt
  · intro j other hj hother
    rw [hmutations] at hj
    by_cases hjk : j = k
    · subst hjk
      rw [List.getElem?_set_self hlt, Option.some.injEq] at hj
      rw [← hj] at hother
      cases hother
    · rw [List.getElem?_set_ne (Ne.symm hjk)] at hj
      obtain ⟨before, edit, since, hlog, hbegan⟩ := hs.began j other hj hother
      refine ⟨before, edit, since ++ made, ?_, hbegan.transfer (fun i _ => hsame i) ?_⟩
      · rw [hedits, hlog, List.append_assoc, List.cons_append]
      · intro e hmem
        rw [hmade e hmem]
        exact Ne.symm hjk

/-- When the last edit that counts is the mutation's own, no other has counted since. -/
theorem lasting_since {k : Nat} {mutation : Mutation} (hk : s.mutations[k]? = some mutation)
    (hpending : mutation.status = .pending)
    (hlast : (lasting s.mutations s.edits).getLast?.map Prod.fst = some k)
    {before since : List (Nat × Edit)} {edit : Edit}
    (hlog : s.edits = before ++ (k, edit) :: since)
    (hbegan : Began origin s.mutations k mutation before edit since) :
    lasting s.mutations since = [] ∧
      lasting s.mutations s.edits = lasting s.mutations before ++ [(k, edit)] := by
  have hnot : hasFailed s.mutations k = false := hasFailed_of_pending hk hpending
  have hsplit : lasting s.mutations s.edits =
      lasting s.mutations before ++ (k, edit) :: lasting s.mutations since := by
    rw [hlog, lasting_append]
    congr 1
    rw [lasting, List.filter_cons_of_pos (by rw [hnot]; rfl)]
    rfl
  have hnone : lasting s.mutations since = [] := by
    by_contra hsome
    obtain ⟨rest, e, hrest⟩ := (List.eq_nil_or_concat' _).resolve_left hsome
    have hmem : e ∈ lasting s.mutations since := by
      rw [hrest]
      exact List.mem_concat_self
    rw [hsplit, hrest, ← List.cons_append, ← List.append_assoc, List.getLast?_concat] at hlast
    have hek : e.1 = k := Option.some.inj hlast
    exact hbegan.others e (mem_lasting.mp hmem).1 hek
  rw [hnone] at hsplit
  exact ⟨hnone, hsplit⟩

/-- What is put back is the list without the edit of the mutation. -/
theorem onError_tags (hs : s.Consistent origin) {k : Nat} {mutation : Mutation}
    (hk : s.mutations[k]? = some mutation) (hpending : mutation.status = .pending)
    (hlast : (lasting s.mutations s.edits).getLast?.map Prod.fst = some k)
    (hkept : mutation.name.isSome → mutation.previousTags.isSome)
    {before since : List (Nat × Edit)} {edit : Edit}
    (hlog : s.edits = before ++ (k, edit) :: since)
    (hbegan : Began origin s.mutations k mutation before edit since) :
    (s.onError mutation).tags = replay origin (lasting s.mutations before) := by
  rw [← hbegan.kept, onError]
  cases hprevious : mutation.previousTags with
  | some previousTags => rfl
  | none =>
    -- only a detach can begin without a list, and it leaves none
    rw [hprevious] at hkept
    have hname : mutation.name = none := by
      by_contra hname
      exact absurd (hkept (Option.isSome_iff_ne_none.mpr hname)) Bool.false_ne_true
    obtain ⟨tagId, rfl⟩ := hbegan.removed hname
    have hempty : replay origin (lasting s.mutations before) = [] := by
      rw [← hbegan.kept, hprevious]
      rfl
    show s.tags = []
    rw [hs.composes, (lasting_since hk hpending hlast hlog hbegan).2, replay_append, hempty]
    rfl

theorem failed_consistent (hs : s.Consistent origin) {k : Nat} {mutation : Mutation}
    (hk : s.mutations[k]? = some mutation) (hpending : mutation.status = .pending)
    (hlast : (lasting s.mutations s.edits).getLast?.map Prod.fst = some k)
    (hkept : mutation.name.isSome → mutation.previousTags.isSome) :
    ((s.onError mutation).settle k mutation .failed).Consistent origin := by
  obtain ⟨before, edit, since, hlog, hbegan⟩ := hs.began k mutation hk hpending
  obtain ⟨hnone, hall⟩ := lasting_since hk hpending hlast hlog hbegan
  have hlt := (List.getElem?_eq_some_iff.mp hk).1
  generalize ht : (s.onError mutation).settle k mutation .failed = t
  have hedits : t.edits = s.edits := by
    rw [← ht, settle, onError]
    split <;> rfl
  have hmutations : t.mutations = s.mutations.set k { mutation with status := .failed } := by
    rw [← ht, settle, onError]
    split <;> rfl
  have htags : t.tags = replay origin (lasting s.mutations before) := by
    rw [← onError_tags hs hk hpending hlast hkept hlog hbegan, ← ht]
    rfl
  have hfailed : hasFailed t.mutations k = true := by
    rw [hmutations, hasFailed, List.getElem?_set_self hlt]
    rfl
  have hsame : ∀ j, j ≠ k → hasFailed t.mutations j = hasFailed s.mutations j := by
    intro j hj
    rw [hmutations, hasFailed_set_ne hj]
  refine ⟨?_, ?_, ?_⟩
  · have hearlier : lasting t.mutations before = lasting s.mutations before :=
      lasting_congr fun e hmem => hsame e.1 (Nat.ne_of_lt (hbegan.earlier e hmem))
    have hsince : lasting t.mutations ((k, edit) :: since) = [] := by
      rw [lasting, List.filter_cons_of_neg (by rw [hfailed]; exact Bool.false_ne_true)]
      exact (lasting_congr fun e hmem => hsame e.1 (hbegan.others e hmem)).trans hnone
    rw [Composes, hedits, hlog, lasting_append, hearlier, hsince, List.append_nil, htags]
  · intro e hmem
    rw [hedits] at hmem
    rw [hmutations, List.length_set]
    exact hs.numbered e hmem
  · intro j other hj hother
    rw [hmutations] at hj
    have hjk : j ≠ k := by
      rintro rfl
      rw [List.getElem?_set_self hlt, Option.some.injEq] at hj
      rw [← hj] at hother
      cases hother
    rw [List.getElem?_set_ne hjk.symm] at hj
    obtain ⟨before', edit', since', hlog', hbegan'⟩ := hs.began j other hj hother
    refine ⟨before', edit', since', hedits.trans hlog', ?_⟩
    -- one that began later would have made the last edit
    have hmem : (j, edit') ∈ lasting s.mutations s.edits := by
      refine mem_lasting.mpr ⟨?_, hasFailed_of_pending hj hother⟩
      rw [hlog']
      exact List.mem_append_right _ List.mem_cons_self
    rw [hall] at hmem
    have hjlt : j < k := by
      rcases List.mem_append.mp hmem with hold | hlast
      · exact hbegan.earlier _ (mem_lasting.mp hold).1
      · exact absurd (congrArg Prod.fst (List.mem_singleton.mp hlast)) hjk
    rw [← List.append_nil since']
    exact hbegan'.transfer (fun i hi => hsame i (Nat.ne_of_lt (Nat.lt_trans hi hjlt)))
      (fun e hmem => by cases hmem)

/-! ## The tag of an attach that succeeds -/

theorem placeholderId_le (name : String) : placeholderId name ≤ 0 :=
  Int.neg_nonpos_of_nonneg (Int.natCast_nonneg _)

theorem not_isPlaceholder {created : Tag} (h : 0 < created.id) (name : String) :
    ¬created.IsPlaceholder name := by
  rintro ⟨hid, -⟩
  have hle := placeholderId_le name
  omega

/-- A success enters its tag exactly when the list is ready for it. -/
theorem entered_confirm_iff {created : Tag} (h : 0 < created.id) (name : String)
    (data : List Tag) :
    Entered created name ((Edit.confirm created).apply data) ↔ Ready created name data := by
  have hid : ∀ t : Tag, (if created.StandsFor t then created else t).id = created.id ↔
      created.StandsFor t ∨ t.id = created.id := by
    intro t
    by_cases ht : created.StandsFor t <;> simp [ht]
  have hself : ∀ t : Tag, created = (if created.StandsFor t then created else t) ↔
      created.StandsFor t ∨ t = created := by
    intro t
    by_cases ht : created.StandsFor t <;> simp [ht, eq_comm]
  have hleft : ∀ t : Tag,
      ¬(if created.StandsFor t then created else t).IsPlaceholder name ↔
        (t.IsPlaceholder name → created.StandsFor t) := by
    intro t
    by_cases ht : created.StandsFor t
    · simp [ht, not_isPlaceholder h]
    · simp [ht]
  rw [Entered, Ready, Edit.apply, List.countP_map]
  refine and_congr ?_ (and_congr ?_ ?_)
  · rw [List.countP_congr fun t _ => ?_]
    simpa using hid t
  · rw [List.mem_map]
    exact exists_congr fun t => and_congr_right fun _ => eq_comm.trans (hself t)
  · rw [List.forall_mem_map]
    exact forall_congr' fun t => forall_congr' fun _ => hleft t

/-! ## Every run -/

theorem step_consistent (hs : s.Consistent origin) {a : Action} (hmeets : s.Undisturbed a)
    (h : step s a = some t) : t.Consistent origin := by
  have hcases := step_cases h
  cases a with
  | attach name createdAt =>
    obtain ⟨mutation, edit, hbegins⟩ := hcases
    exact begins_consistent hs hbegins
  | detach tagId =>
    obtain ⟨mutation, edit, hbegins⟩ := hcases
    exact begins_consistent hs hbegins
  | attached k created =>
    obtain ⟨mutation, hk, hpending, -, rfl⟩ := hcases
    exact succeeded_consistent hs hk hpending [(k, .confirm created)]
      (fun e hmem => by rw [List.mem_singleton.mp hmem]) rfl rfl rfl
  | detached k =>
    obtain ⟨mutation, hk, hpending, rfl⟩ := hcases
    exact succeeded_consistent hs hk hpending [] (fun e hmem => by cases hmem) rfl
      (List.append_nil _).symm rfl
  | fail k =>
    obtain ⟨mutation, hk, hpending, rfl⟩ := hcases
    exact failed_consistent hs hk hpending hmeets.1 (hmeets.2 mutation hk)

theorem step_enters {a : Action} (hmeets : s.Undisturbed a) (h : step s a = some t) :
    s.Enters a t := by
  have hcases := step_cases h
  cases a with
  | attached k created =>
    obtain ⟨mutation, -, -, hpositive, rfl⟩ := hcases
    intro name hname
    exact (entered_confirm_iff hpositive name s.tags).mpr (hmeets name hname)
  | attach name createdAt => trivial
  | detach tagId => trivial
  | detached k => trivial
  | fail k => trivial

/-- The updates compose in every run in which a mutation that fails made the last edit that
counts, and an attach that succeeds finds one entry that stands for its tag. -/
theorem composes_of_undisturbed (cached : Option PagedTags) (actions : List Action)
    (h : AllSteps step (fun s a _ => s.Undisturbed a) (idle cached) actions) :
    AllSteps step (fun s a t => t.Composes (dataOf cached) ∧ s.Enters a t) (idle cached)
      actions := by
  refine AllSteps.of_invariant (I := Consistent (dataOf cached)) ?_ ?_ (idle_consistent cached) h
  · exact fun s a t hs hmeets hstep => step_consistent hs hmeets hstep
  · exact fun s a t hs hmeets hstep =>
      ⟨(step_consistent hs hmeets hstep).composes, step_enters hmeets hstep⟩

def live : Tag := ⟨1, "live", "live", "2025-01-01T00:00:00.000Z"⟩

def music : Tag := ⟨2, "music", "music", "2025-01-02T00:00:00.000Z"⟩

/-- What `useStreamTags` has read. -/
def loaded : Option PagedTags := some ⟨[live], 1, 50, 1, false⟩

/-- Three mutations overlap, and the last two fail in the reverse order. -/
def nested : List Action :=
  [.attach "music" "2025-02-01T12:00:00.000Z", .attach "news" "2025-02-01T12:00:01.000Z",
    .detach (some 1), .fail 2, .fail 1, .attached 0 music]

theorem composes_of_undisturbed_nested :
    AllSteps step (fun s a t => t.Composes (dataOf loaded) ∧ s.Enters a t) (idle loaded) nested :=
  composes_of_undisturbed loaded nested (by decide)

/-- A detach fails after an attach has begun. -/
def crossed : List Action :=
  [.detach (some 1), .attach "music" "2025-02-01T12:00:00.000Z", .fail 0]

/-- The server trims the name. -/
def respelled : List Action :=
  [.attach " music " "2025-02-01T12:00:00.000Z", .attached 0 music]

/-- The list has not been read. -/
def unread : List Action := [.attach "music" "2025-02-01T12:00:00.000Z", .fail 0]

/-- The first loses the placeholder of the attach, the second keeps the placeholder in the place
of the tag, and the third keeps a placeholder of an attach that failed. -/
theorem not_composes_crossed :
    ((run step (idle loaded) crossed).map fun s => s.tags.map Tag.name) = some ["live"] ∧
      ¬AllSteps step (fun _ _ t => t.Composes (dataOf loaded)) (idle loaded) crossed ∧
      ((run step (idle loaded) respelled).map fun s => s.tags.map Tag.name) =
        some ["live", " music "] ∧
      ¬AllSteps step (fun s a t => s.Enters a t) (idle loaded) respelled ∧
      ((run step (idle none) unread).map fun s => s.tags.map Tag.name) = some ["music"] ∧
      ¬AllSteps step (fun _ _ t => t.Composes (dataOf none)) (idle none) unread := by
  decide

end TagMutations
end App
end XStreamRoll
