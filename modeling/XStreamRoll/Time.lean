/-
JavaScript dates and Postgres timestamps, as far as the repository reads and
writes them.

A `Date` holds a whole number of milliseconds since the epoch.  A Postgres
`timestamptz` holds microseconds, so reading a column into a `Date` drops the
microseconds, and `toISOString` prints what is left.
-/
import Mathlib.Order.Lattice
import Mathlib.Data.Int.Order.Basic

namespace XStreamRoll

/-- A `Date`, by its `getTime()`: milliseconds since the epoch, in UTC. -/
structure Date where
  getTime : Int
deriving DecidableEq, Repr

namespace Date

theorem getTime_injective : Function.Injective Date.getTime := by
  rintro ⟨a⟩ ⟨b⟩ h
  exact congrArg Date.mk h

/-- Dates are compared by `getTime()`. -/
instance : LinearOrder Date := LinearOrder.lift' Date.getTime getTime_injective

theorem le_iff {a b : Date} : a ≤ b ↔ a.getTime ≤ b.getTime := Iff.rfl

theorem lt_iff {a b : Date} : a < b ↔ a.getTime < b.getTime := Iff.rfl

/-- The date so many milliseconds later. -/
def plus (d : Date) (ms : Nat) : Date := ⟨d.getTime + ms⟩

/-- The delay that `setTimeout` waits when asked for so many milliseconds: one that does not
fit in 31 bits is taken for 1. -/
def timeoutDelay (ms : Nat) : Nat := if ms < 1 ∨ 2147483647 < ms then 1 else ms

/-- Decimal digits of `n`, with zeros in front up to the width. -/
def pad (width n : Nat) : String :=
  "".pushn '0' (width - (toString n).length) ++ toString n

/-- Year, month and day of the `days`-th day after 1970-01-01 in the proleptic
Gregorian calendar.  Years are counted from March, which puts the leap day
last, in eras of 400 years. -/
def civilFromDays (days : Int) : Int × Nat × Nat :=
  let z := days + 719468
  let era := z / 146097
  let doe := (z % 146097).toNat
  let yoe := (doe - doe / 1460 + doe / 36524 - doe / 146096) / 365
  let doy := doe - (365 * yoe + yoe / 4 - yoe / 100)
  let mp := (5 * doy + 2) / 153
  let day := doy - (153 * mp + 2) / 5 + 1
  let month := if mp < 10 then mp + 3 else mp - 9
  let year := (yoe : Int) + era * 400
  (if month ≤ 2 then year + 1 else year, month, day)

/-- `toISOString` writes years 0 to 9999 with four digits and any other year with
a sign and six. -/
def isoYear (year : Int) : String :=
  if 0 ≤ year ∧ year ≤ 9999 then pad 4 year.toNat
  else (if year < 0 then "-" else "+") ++ pad 6 year.natAbs

def toISOString (d : Date) : String :=
  let days := d.getTime / 86400000
  let ms := (d.getTime % 86400000).toNat
  let (year, month, day) := civilFromDays days
  isoYear year ++ "-" ++ pad 2 month ++ "-" ++ pad 2 day ++ "T" ++
    pad 2 (ms / 3600000) ++ ":" ++ pad 2 (ms / 60000 % 60) ++ ":" ++
    pad 2 (ms / 1000 % 60) ++ "." ++ pad 3 (ms % 1000) ++ "Z"

theorem pad_toList (width n : Nat) : (pad width n).toList =
    List.replicate (width - (toString n).length) '0' ++ Nat.toDigits 10 n := by
  have hzeros : ∀ k, ("".pushn '0' k).toList = List.replicate k '0' := by
    intro k
    rw [String.pushn_eq_repeat_push]
    induction k with
    | zero => rfl
    | succ k ih => simp [Nat.repeat, ih, List.replicate_succ']
  rw [pad, String.toList_append, hzeros]
  show _ ++ (Nat.repr n).toList = _
  rw [Nat.toList_repr]

theorem isDigit_of_mem_pad {width n : Nat} {c : Char} (h : c ∈ (pad width n).toList) :
    c.isDigit = true := by
  rw [pad_toList, List.mem_append] at h
  rcases h with hzero | hdigit
  · rw [List.eq_of_mem_replicate hzero]
    rfl
  · exact Nat.isDigit_of_mem_toDigits (by decide) (by decide) hdigit

theorem quote_not_mem_pad (width n : Nat) : '"' ∉ (pad width n).toList := by
  intro h
  cases isDigit_of_mem_pad h

/-- A padded number reads back as itself. -/
theorem ofDigitChars_pad (width n : Nat) : Nat.ofDigitChars 10 (pad width n).toList 0 = n := by
  rw [pad_toList, Nat.ofDigitChars_append, Nat.ofDigitChars_replicate_zero, Nat.mul_zero]
  exact Nat.ofDigitChars_toDigits (by decide) (by decide)

/-- The parts of an ISO text. -/
theorem toISOString_eq (d : Date) :
    d.toISOString =
      (let date := civilFromDays (d.getTime / 86400000)
      let ms := (d.getTime % 86400000).toNat
      isoYear date.1 ++ "-" ++ pad 2 date.2.1 ++ "-" ++ pad 2 date.2.2 ++ "T" ++
        pad 2 (ms / 3600000) ++ ":" ++ pad 2 (ms / 60000 % 60) ++ ":" ++
        pad 2 (ms / 1000 % 60) ++ "." ++ pad 3 (ms % 1000) ++ "Z") := by
  delta toISOString
  rfl

/-- An ISO text needs no escapes in JSON. -/
theorem quote_not_mem_toISOString (d : Date) : '"' ∉ d.toISOString.toList := by
  have hyear : ∀ year, '"' ∉ (isoYear year).toList := by
    intro year
    unfold isoYear
    split
    · exact quote_not_mem_pad _ _
    · rw [String.toList_append, List.mem_append, not_or]
      refine ⟨?_, quote_not_mem_pad _ _⟩
      split <;> decide
  rw [toISOString_eq]
  simp only [String.toList_append, List.mem_append, not_or]
  simp [hyear, quote_not_mem_pad]

example : toISOString ⟨1709210096007⟩ = "2024-02-29T12:34:56.007Z" := by decide +kernel

end Date

/-- A Postgres `timestamptz`: microseconds since the epoch. -/
structure Timestamptz where
  micros : Int
deriving DecidableEq, Repr

theorem Timestamptz.micros_injective : Function.Injective Timestamptz.micros := by
  rintro ⟨a⟩ ⟨b⟩ h
  exact congrArg Timestamptz.mk h

instance : LinearOrder Timestamptz :=
  LinearOrder.lift' Timestamptz.micros Timestamptz.micros_injective

theorem Timestamptz.le_iff {a b : Timestamptz} : a ≤ b ↔ a.micros ≤ b.micros := Iff.rfl

theorem Timestamptz.lt_iff {a b : Timestamptz} : a < b ↔ a.micros < b.micros := Iff.rfl

/-- The driver reads a `timestamptz` column into a `Date`, which has no room for
the microseconds. -/
def Timestamptz.toDate (t : Timestamptz) : Date := ⟨t.micros / 1000⟩

/-- The instant a `Date` denotes. -/
def Date.toTimestamptz (d : Date) : Timestamptz := ⟨1000 * d.getTime⟩

theorem Timestamptz.toDate_toTimestamptz_le (t : Timestamptz) : t.toDate.toTimestamptz ≤ t := by
  rw [Timestamptz.le_iff]
  simp only [Timestamptz.toDate, Date.toTimestamptz]
  omega

@[simp] theorem Date.toTimestamptz_toDate (d : Date) : d.toTimestamptz.toDate = d := by
  cases d with
  | mk ms =>
    simp only [Timestamptz.toDate, Date.toTimestamptz, Date.mk.injEq]
    omega

/-- The round trip through a `Date` is exact on whole milliseconds only. -/
theorem Timestamptz.toDate_toTimestamptz_eq_iff (t : Timestamptz) :
    t.toDate.toTimestamptz = t ↔ t.micros % 1000 = 0 := by
  cases t with
  | mk micros =>
    simp only [Timestamptz.toDate, Date.toTimestamptz, Timestamptz.mk.injEq]
    omega

end XStreamRoll
