/-
A map whose entries are served for a while.

An entry is written with the last instant at which it is served, or with none if it
is served for ever.  Writing a key again replaces its entry, so a later write can
also shorten what is left of it.
-/
import Mathlib.Logic.Function.Basic
import Mathlib.Order.Lattice

namespace XStreamRoll

structure TtlEntry (Value Time : Type*) where
  value : Value
  last : Option Time
deriving DecidableEq, Repr

structure TtlCache (Key Value Time : Type*) where
  entries : Key → Option (TtlEntry Value Time)

namespace TtlCache

variable {Key Value Time : Type*} [DecidableEq Key] [LinearOrder Time]

def empty : TtlCache Key Value Time := ⟨fun _ => none⟩

def set (key : Key) (value : Value) (last : Option Time) (c : TtlCache Key Value Time) :
    TtlCache Key Value Time :=
  ⟨Function.update c.entries key (some ⟨value, last⟩)⟩

omit [DecidableEq Key] in
/-- The value under the key, if its time has not passed. -/
def get (now : Time) (key : Key) (c : TtlCache Key Value Time) : Option Value :=
  (c.entries key).bind fun entry =>
    if ∀ last ∈ entry.last, now ≤ last then some entry.value else none

theorem get_set_of_ne {key key' : Key} (h : key' ≠ key) (now : Time) (value : Value)
    (last : Option Time) (c : TtlCache Key Value Time) :
    (c.set key value last).get now key' = c.get now key' := by
  simp only [get, set, Function.update_of_ne h]

theorem get_set_self (now : Time) (key : Key) (value : Value) (last : Option Time)
    (c : TtlCache Key Value Time) :
    (c.set key value last).get now key = if ∀ t ∈ last, now ≤ t then some value else none := by
  simp only [get, set, Function.update_self, Option.bind_some]

omit [DecidableEq Key] in
/-- What is served now was served before, if nothing was written since. -/
theorem get_of_later {now now' : Time} (hle : now ≤ now') {key : Key} {value : Value}
    {c : TtlCache Key Value Time} (h : c.get now' key = some value) : c.get now key = some value := by
  obtain ⟨entry, hentry, hserved⟩ := Option.bind_eq_some_iff.mp h
  split at hserved
  · next hlast =>
    rw [get, hentry, Option.bind_some, if_pos fun last hmem => le_trans hle (hlast last hmem)]
    exact hserved
  · cases hserved

/-- What was written up to an instant is served until then and not after. -/
theorem get_set_until (now : Time) (key : Key) (value : Value) (last : Time)
    (c : TtlCache Key Value Time) :
    (c.set key value (some last)).get now key = if now ≤ last then some value else none := by
  rw [get_set_self]
  simp only [Option.mem_some_iff, forall_eq']

end TtlCache

end XStreamRoll
