/-
The mounts of `useStreamSocket`: the effect that subscribes, and its clean-up.

The effect subscribes at once, and remembers the stream when the subscription is answered.
The clean-up unsubscribes from the stream that is remembered by then.  A mount may end while
the answer is still on its way, and what is remembered does not depend on the answer.

A room that others of the same socket hold is granted at once, and the promise goes on a
little later.  The server answers the other subscriptions, and the unsubscriptions, in any
order or never.
-/
import XStreamRoll.Api.Streams.Gateway
import XStreamRoll.Lists
import XStreamRoll.Transition

namespace XStreamRoll
namespace App

open Transition

/-- A room on one of the sockets that `createStreamSocket` has cached. -/
structure Place where
  socket : String
  room : String
  deriving DecidableEq

inductive Subscription
  /-- the effect has no stream -/
  | absent
  | asked
  /-- granted at once, before the promise goes on -/
  | granted
  | answered (ok : Bool)
  deriving DecidableEq

/-- One run of the effect. -/
structure Mount where
  place : Place
  mounted : Bool
  subscription : Subscription
  /-- How often its clean-up has called `unsubscribeFromStream`. -/
  unsubscribes : Nat
  deriving DecidableEq

/-- `subscribedStreamId` is set. -/
def Mount.remembers (mount : Mount) : Bool :=
  match mount.subscription with
  | .answered _ => true
  | _ => false

/-- The clean-up of a mount that ends. -/
def Mount.ended (mount : Mount) : Mount :=
  { mount with
    mounted := false
    unsubscribes := mount.unsubscribes + if mount.remembers then 1 else 0 }

/-- A mount whose subscription succeeded has unsubscribed once when it is over and the answer has
come, and one whose subscription failed has not. -/
structure Mount.Balanced (mount : Mount) : Prop where
  succeeded : mount.mounted = false → mount.subscription = .answered true → mount.unsubscribes = 1
  failed : mount.subscription = .answered false → mount.unsubscribes = 0

instance (mount : Mount) : Decidable mount.Balanced :=
  decidable_of_iff
    ((mount.mounted = false → mount.subscription = .answered true → mount.unsubscribes = 1) ∧
      (mount.subscription = .answered false → mount.unsubscribes = 0))
    ⟨fun h => ⟨h.1, h.2⟩, fun h => ⟨h.succeeded, h.failed⟩⟩

/-- Nothing has been called while the mount lasts, or before the answer has come. -/
structure Mount.Sound (mount : Mount) : Prop where
  lasting : mount.mounted = true → mount.unsubscribes = 0
  waiting : mount.remembers = false → mount.unsubscribes = 0

structure Mounts where
  /-- `counts.get(room) ?? 0`, on each socket -/
  counts : Place → Nat
  all : List Mount
  /-- The unsubscriptions that the server has not answered. -/
  leaving : List Place

namespace Mounts

inductive Action
  | mount (socket : String) (targetStreamId : Option String)
  | goOn (k : Nat)
  | acknowledge (k : Nat) (ok : Bool)
  | unmount (k : Nat)
  | left (i : Nat)

def initial : Mounts where
  counts _ := 0
  all := []
  leaving := []

def setCount (place : Place) (n : Nat) (s : Mounts) : Mounts :=
  { s with counts := Function.update s.counts place n }

def setMount (k : Nat) (mount : Mount) (s : Mounts) : Mounts := { s with all := s.all.set k mount }

def addMount (mount : Mount) (s : Mounts) : Mounts := { s with all := s.all ++ [mount] }

/-- `subscribeToStream`, up to where it waits. -/
def subscribeToStream (place : Place) (s : Mounts) : Mounts × Subscription :=
  let prev := s.counts place
  if prev > 0 then (s.setCount place (prev + 1), .granted) else (s, .asked)

/-- `unsubscribeFromStream`, up to where it waits. -/
def unsubscribeFromStream (place : Place) (s : Mounts) : Mounts :=
  let prev := s.counts place
  if prev > 1 then s.setCount place (prev - 1) else { s with leaving := s.leaving ++ [place] }

/-- The effect.  A stream without an id counts as none. -/
def effect (socket : String) (targetStreamId : Option String) (s : Mounts) : Mounts :=
  match targetStreamId.filter (· ≠ "") with
  | none => s.addMount ⟨⟨socket, ""⟩, true, .absent, 0⟩
  | some streamId =>
    let place : Place := ⟨socket, Api.roomFor streamId⟩
    let subscribed := s.subscribeToStream place
    subscribed.1.addMount ⟨place, true, subscribed.2, 0⟩

/-- The clean-up. -/
def cleanUp (k : Nat) (mount : Mount) (s : Mounts) : Mounts :=
  let s := s.setMount k mount.ended
  if mount.remembers then s.unsubscribeFromStream mount.place else s

def step (s : Mounts) : Action → Option Mounts
  | .mount socket targetStreamId => some (s.effect socket targetStreamId)
  | .goOn k =>
    match s.all[k]? with
    | some mount =>
      if mount.subscription = .granted then
        some (s.setMount k { mount with subscription := .answered true })
      else none
    | none => none
  | .acknowledge k ok =>
    match s.all[k]? with
    | some mount =>
      if mount.subscription = .asked then
        let s := s.setMount k { mount with subscription := .answered ok }
        some (if ok then s.setCount mount.place 1 else s)
      else none
    | none => none
  | .unmount k =>
    match s.all[k]? with
    | some mount => if mount.mounted then some (s.cleanUp k mount) else none
    | none => none
  | .left i =>
    match s.leaving[i]? with
    | some place => some { s.setCount place 0 with leaving := s.leaving.eraseIdx i }
    | none => none

/-! ## What is to hold -/

def Balanced (s : Mounts) : Prop := ∀ mount ∈ s.all, mount.Balanced

instance (s : Mounts) : Decidable s.Balanced := inferInstanceAs (Decidable (∀ _ ∈ _, _))

/-- A good answer comes while the mount lasts, and no mount ends after a bad one. -/
def Timely (s : Mounts) : Action → Prop
  | .mount _ _ => True
  | .goOn k => ∀ mount ∈ s.all[k]?, mount.mounted = true
  | .acknowledge k ok => ∀ mount ∈ s.all[k]?, ok = true → mount.mounted = true
  | .unmount k => ∀ mount ∈ s.all[k]?, mount.subscription ≠ .answered false
  | .left _ => True

def Sound (s : Mounts) : Prop := ∀ mount ∈ s.all, mount.Sound

/-! ## One step -/

variable {s t : Mounts}

theorem unsubscribeFromStream_all (place : Place) (s : Mounts) :
    (s.unsubscribeFromStream place).all = s.all := by
  rw [unsubscribeFromStream]
  split <;> rfl

theorem effect_all (socket : String) (targetStreamId : Option String) (s : Mounts) :
    ∃ new, (s.effect socket targetStreamId).all = s.all ++ [new] ∧ new.mounted = true ∧
      new.remembers = false ∧ new.unsubscribes = 0 := by
  rw [effect]
  split
  · exact ⟨_, rfl, rfl, rfl, rfl⟩
  · dsimp only [subscribeToStream]
    split
    · exact ⟨_, rfl, rfl, rfl, rfl⟩
    · exact ⟨_, rfl, rfl, rfl, rfl⟩

/-- What an action does to the mounts. -/
theorem step_cases {a : Action} (h : step s a = some t) :
    match a with
    | .mount _ _ => ∃ new, t.all = s.all ++ [new] ∧ new.mounted = true ∧ new.remembers = false ∧
        new.unsubscribes = 0
    | .goOn k => ∃ mount, s.all[k]? = some mount ∧ mount.subscription = .granted ∧
        t.all = s.all.set k { mount with subscription := .answered true }
    | .acknowledge k ok => ∃ mount, s.all[k]? = some mount ∧ mount.subscription = .asked ∧
        t.all = s.all.set k { mount with subscription := .answered ok }
    | .unmount k => ∃ mount, s.all[k]? = some mount ∧ mount.mounted = true ∧
        t.all = s.all.set k mount.ended
    | .left _ => t.all = s.all := by
  cases a with
  | mount socket targetStreamId =>
    obtain rfl := Option.some.inj h
    exact effect_all socket targetStreamId s
  | goOn k =>
    rw [step] at h
    split at h
    · next mount hk =>
      split at h
      · next hgranted =>
        obtain rfl := Option.some.inj h
        exact ⟨mount, hk, hgranted, rfl⟩
      · cases h
    · cases h
  | acknowledge k ok =>
    rw [step] at h
    split at h
    · next mount hk =>
      split at h
      · next hasked =>
        obtain rfl := Option.some.inj h
        refine ⟨mount, hk, hasked, ?_⟩
        split <;> rfl
      · cases h
    · cases h
  | unmount k =>
    rw [step] at h
    split at h
    · next mount hk =>
      split at h
      · next hmounted =>
        obtain rfl := Option.some.inj h
        refine ⟨mount, hk, hmounted, ?_⟩
        rw [cleanUp]
        split
        · rw [unsubscribeFromStream_all]
          rfl
        · rfl
      · cases h
    · cases h
  | left i =>
    rw [step] at h
    split at h
    · obtain rfl := Option.some.inj h
      rfl
    · cases h

/-- One mount changes, and the others stay in balance. -/
theorem balanced_set_iff {k : Nat} {old new : Mount} (hbalanced : s.Balanced)
    (hk : s.all[k]? = some old) (ht : t.all = s.all.set k new) : t.Balanced ↔ new.Balanced := by
  rw [Balanced, ht]
  constructor
  · exact fun h => h new (List.mem_set (List.getElem?_eq_some_iff.mp hk).1 new)
  · exact forall_mem_set hbalanced

theorem sound_set {k : Nat} {new : Mount} (hsound : s.Sound) (ht : t.all = s.all.set k new)
    (hnew : new.Sound) : t.Sound := by
  rw [Sound, ht]
  exact forall_mem_set hsound hnew

theorem remembers_of_answered {mount : Mount} {ok : Bool} (h : mount.subscription = .answered ok) :
    mount.remembers = true := by
  rw [Mount.remembers, h]

theorem step_sound (hsound : s.Sound) {a : Action} (h : step s a = some t) : t.Sound := by
  have hcases := step_cases h
  cases a with
  | mount socket targetStreamId =>
    obtain ⟨new, ht, -, -, hnone⟩ := hcases
    rw [Sound, ht]
    intro mount hmem
    rcases List.mem_append.mp hmem with hold | hnew
    · exact hsound mount hold
    · rw [List.mem_singleton.mp hnew]
      exact ⟨fun _ => hnone, fun _ => hnone⟩
  | goOn k =>
    obtain ⟨mount, hk, -, ht⟩ := hcases
    have hmount := hsound mount (List.mem_of_getElem? hk)
    exact sound_set hsound ht ⟨hmount.lasting, fun hnot => by cases hnot⟩
  | acknowledge k ok =>
    obtain ⟨mount, hk, -, ht⟩ := hcases
    have hmount := hsound mount (List.mem_of_getElem? hk)
    exact sound_set hsound ht ⟨hmount.lasting, fun hnot => by cases hnot⟩
  | unmount k =>
    obtain ⟨mount, hk, -, ht⟩ := hcases
    have hmount := hsound mount (List.mem_of_getElem? hk)
    refine sound_set hsound ht ⟨fun hlasts => ?_, fun hnot => ?_⟩
    · cases hlasts
    · have hwaiting : mount.remembers = false := hnot
      show mount.unsubscribes + (if mount.remembers then 1 else 0) = 0
      rw [hwaiting, hmount.waiting hwaiting]
      rfl
  | left i =>
    rw [Sound, hcases]
    exact hsound

/-- An answer leaves a mount in balance when it is bad, or the mount lasts. -/
theorem balanced_answered_iff {mount : Mount} (hnone : mount.unsubscribes = 0) (ok : Bool) :
    Mount.Balanced { mount with subscription := .answered ok } ↔
      (ok = true → mount.mounted = true) := by
  constructor
  · rintro h rfl
    by_contra hover
    have hone : mount.unsubscribes = 1 := h.succeeded (eq_false_of_ne_true hover) rfl
    omega
  · intro h
    refine ⟨fun hover hgood => ?_, fun _ => hnone⟩
    have hlasts : mount.mounted = true := h (by simpa using hgood)
    exact absurd (hover.symm.trans hlasts) Bool.false_ne_true

/-- The end leaves a mount in balance unless its answer was bad. -/
theorem balanced_ended_iff {mount : Mount} (hnone : mount.unsubscribes = 0) :
    mount.ended.Balanced ↔ mount.subscription ≠ .answered false := by
  constructor
  · intro h hbad
    have hzero : mount.unsubscribes + (if mount.remembers then 1 else 0) = 0 := h.failed hbad
    rw [remembers_of_answered hbad] at hzero
    cases hzero
  · intro hnot
    refine ⟨fun _ hgood => ?_, fun hbad => absurd hbad hnot⟩
    have hremembers : mount.remembers = true := remembers_of_answered hgood
    show mount.unsubscribes + (if mount.remembers then 1 else 0) = 1
    rw [hremembers, hnone]
    rfl

/-- A step keeps the balance exactly when it is timely. -/
theorem step_balanced_iff (hsound : s.Sound) (hbalanced : s.Balanced) {a : Action}
    (h : step s a = some t) : s.Timely a ↔ t.Balanced := by
  have hcases := step_cases h
  cases a with
  | mount socket targetStreamId =>
    obtain ⟨new, ht, hmounted, hwaiting, hnone⟩ := hcases
    refine iff_of_true trivial ?_
    rw [Balanced, ht]
    intro mount hmem
    rcases List.mem_append.mp hmem with hold | hnew
    · exact hbalanced mount hold
    · rw [List.mem_singleton.mp hnew]
      exact ⟨fun hover => absurd (hover.symm.trans hmounted) Bool.false_ne_true, fun _ => hnone⟩
  | goOn k =>
    obtain ⟨mount, hk, hgranted, ht⟩ := hcases
    have hnone := (hsound mount (List.mem_of_getElem? hk)).waiting (by
      rw [Mount.remembers, hgranted])
    rw [balanced_set_iff hbalanced hk ht, balanced_answered_iff hnone, Timely, hk]
    simp
  | acknowledge k ok =>
    obtain ⟨mount, hk, hasked, ht⟩ := hcases
    have hnone := (hsound mount (List.mem_of_getElem? hk)).waiting (by
      rw [Mount.remembers, hasked])
    rw [balanced_set_iff hbalanced hk ht, balanced_answered_iff hnone, Timely, hk]
    simp
  | unmount k =>
    obtain ⟨mount, hk, hmounted, ht⟩ := hcases
    have hnone := (hsound mount (List.mem_of_getElem? hk)).lasting hmounted
    rw [balanced_set_iff hbalanced hk ht, balanced_ended_iff hnone, Timely, hk]
    simp
  | left i =>
    refine iff_of_true trivial ?_
    rw [Balanced, hcases]
    exact hbalanced

theorem initial_sound : initial.Sound := by
  intro mount hmem
  cases hmem

theorem initial_balanced : initial.Balanced := by
  intro mount hmem
  cases hmem

/-- The mounts of a run are in balance all the way exactly when every good answer comes while its
mount lasts, and no mount ends after a bad answer has come. -/
theorem balanced_iff_timely (actions : List Action) :
    AllSteps step (fun _ _ t => t.Balanced) initial actions ↔
      AllSteps step (fun s a _ => s.Timely a) initial actions := by
  refine (allSteps_iff (I := fun s => s.Sound ∧ s.Balanced) ?_ ?_
    ⟨initial_sound, initial_balanced⟩).symm
  · exact fun s a t hs h => step_balanced_iff hs.1 hs.2 h
  · exact fun s a t hs htimely h =>
      ⟨step_sound hs.1 h, (step_balanced_iff hs.1 hs.2 h).mp htimely⟩

/-- A row is unmounted before the server has answered. -/
def leftEarly : List Action :=
  [.mount "http://localhost:3001/streams|" (some "7"), .unmount 0, .acknowledge 0 true]

/-- Another row's subscription is refused. -/
def refusedRow : List Action :=
  [.mount "http://localhost:3001/streams|" (some "7"), .acknowledge 0 false, .unmount 0]

/-- The first leaves a room behind, and the second leaves a room that it never had. -/
theorem not_balanced_rows :
    ((run step initial leftEarly).map fun s => s.all.map Mount.unsubscribes) = some [0] ∧
      ¬AllSteps step (fun _ _ t => t.Balanced) initial leftEarly ∧
      ((run step initial refusedRow).map fun s => s.all.map Mount.unsubscribes) = some [1] ∧
      ¬AllSteps step (fun _ _ t => t.Balanced) initial refusedRow := by
  decide

end Mounts
end App
end XStreamRoll
