/-
The SDK's retry helper.

`withRetry` calls a function until it succeeds, fails for good or has used up its attempts,
and sleeps between two calls for a time that doubles up to a ceiling.  The doubling is
`baseDelay * 2 ** (attempt - 1)` in floating point.  A power from `2 ** 1024` on is
`Infinity`, and `0 * Infinity` is `NaN`.

A setting is an integer that a number can hold.  Sums of settings are exact here, which the
source's are below `2 ^ 53`.  `fn` and `shouldRetry` are functions of the attempt, which a
run asks each of at most once.
-/
import Mathlib.Data.Rat.Floor
import Mathlib.Algebra.Order.Floor.Semiring
import Mathlib.Data.List.Basic

namespace XStreamRoll
namespace Sdk

/-! ## Numbers -/

/-- The first power of two that no finite number reaches. -/
def maxExponent : Nat := 1024

def overflow : Nat := 2 ^ maxExponent

theorem lt_overflow {n : Nat} (h : n < 2 ^ 16) : n < overflow :=
  lt_of_lt_of_le h (Nat.pow_le_pow_right Nat.two_pos (by decide))

/-- A number that is not negative, or none. -/
inductive Number
  | finite (n : Nat)
  | infinity
  | nan
  deriving DecidableEq

namespace Number

def ofNat (n : Nat) : Number := if n < overflow then .finite n else .infinity

/-- `n * b` -/
def mul (n : Nat) : Number → Number
  | .finite m => ofNat (n * m)
  | .infinity => if n = 0 then .nan else .infinity
  | .nan => .nan

/-- `Math.min(n, b)` -/
def min (n : Nat) : Number → Number
  | .finite m => .finite (Nat.min n m)
  | .infinity => .finite n
  | .nan => .nan

/-- `b + n` -/
def add (n : Nat) : Number → Number
  | .finite m => .finite (m + n)
  | .infinity => .infinity
  | .nan => .nan

end Number

/-- An integer that a number can hold. -/
structure Milliseconds where
  value : Int
  value_lt : value < overflow

/-- A draw of `Math.random()`. -/
structure Draw where
  value : Rat
  value_nonneg : 0 ≤ value
  value_lt : value < 1

/-- `Math.floor(Math.random() * jitter)` -/
def Draw.scale (jitter : Nat) (draw : Draw) : Nat := ⌊draw.value * jitter⌋₊

theorem Draw.scale_le (jitter : Nat) (draw : Draw) : draw.scale jitter ≤ jitter := by
  refine Nat.floor_le_of_le ?_
  have hjitter : (0 : Rat) ≤ jitter := Nat.cast_nonneg jitter
  calc draw.value * jitter ≤ 1 * jitter :=
        mul_le_mul_of_nonneg_right (le_of_lt draw.value_lt) hjitter
    _ = jitter := one_mul _

/-! ## The options -/

/-- What `defaultShouldRetry` looks at in an error. -/
structure ErrorShape where
  isTypeError : Bool
  /-- A `status` that is a number. -/
  status : Option Int

def defaultRetryStatuses : List Int := [408, 425, 429, 500, 502, 503, 504]

def defaultShouldRetry (err : ErrorShape) : Bool :=
  err.isTypeError || err.status.any (· ∈ defaultRetryStatuses)

structure RetryOptions (ε : Type) where
  maxAttempts : Option Int := none
  baseDelayMs : Option Milliseconds := none
  maxDelayMs : Option Milliseconds := none
  jitterMs : Option Milliseconds := none
  shouldRetry : Option (ε → Nat → Bool) := none

/-- The constants at the head of `withRetry`. -/
structure RetrySettings (ε : Type) where
  maxAttempts : Nat
  maxAttempts_pos : 1 ≤ maxAttempts
  baseDelay : Nat
  maxDelay : Nat
  maxDelay_lt : maxDelay < overflow
  jitter : Nat
  shouldRetry : ε → Nat → Bool

/-- `Math.max(least, option ?? default)` -/
def atLeast (least default : Nat) (option : Option Milliseconds) : Nat :=
  max least ((option.map Milliseconds.value).getD default).toNat

theorem atLeast_lt {least default : Nat} (hleast : least < overflow) (hdefault : default < overflow)
    (option : Option Milliseconds) : atLeast least default option < overflow := by
  refine Nat.max_lt.mpr ⟨hleast, ?_⟩
  cases option with
  | none => exact hdefault
  | some setting =>
    have hvalue := setting.value_lt
    have hpos := Nat.zero_lt_of_lt hleast
    show setting.value.toNat < overflow
    omega

namespace RetryOptions

variable {ε : Type}

theorem maxAttempts_pos (option : Option Int) : 1 ≤ (max 1 (option.getD 3)).toNat := by
  omega

theorem maxDelay_lt (base max : Option Milliseconds) :
    atLeast (atLeast 0 200 base) 5000 max < overflow :=
  atLeast_lt (atLeast_lt (lt_overflow (by decide)) (lt_overflow (by decide)) base)
    (lt_overflow (by decide)) max

def settings (shape : ε → ErrorShape) (options : RetryOptions ε) : RetrySettings ε where
  maxAttempts := (max 1 (options.maxAttempts.getD 3)).toNat
  maxAttempts_pos := maxAttempts_pos options.maxAttempts
  baseDelay := atLeast 0 200 options.baseDelayMs
  maxDelay := atLeast (atLeast 0 200 options.baseDelayMs) 5000 options.maxDelayMs
  maxDelay_lt := maxDelay_lt options.baseDelayMs options.maxDelayMs
  jitter := atLeast 0 100 options.jitterMs
  shouldRetry := options.shouldRetry.getD fun err _ => defaultShouldRetry (shape err)

end RetryOptions

/-! ## The loop -/

/-- What a run has done: the attempts that `fn` was called with, the calls of `onRetry`, and the
times it slept. -/
structure RetryTrace (ε : Type) where
  calls : List Nat := []
  onRetry : List (ε × Nat × Number) := []
  sleeps : List Number := []

namespace RetrySettings

variable {T ε : Type}

/-- `baseDelay * 2 ** (attempt - 1)` -/
def expo (attempt : Nat) (settings : RetrySettings ε) : Number :=
  Number.mul settings.baseDelay (Number.ofNat (2 ^ (attempt - 1)))

def delay (draw : Draw) (attempt : Nat) (settings : RetrySettings ε) : Number :=
  ((settings.expo attempt).min settings.maxDelay).add (draw.scale settings.jitter)

/-- The iterations from `attempt` on.  A thrown `undefined` is `none`. -/
def loop (random : Nat → Draw) (fn : Nat → Except ε T) (settings : RetrySettings ε)
    (attempt : Nat) (lastErr : Option ε) (trace : RetryTrace ε) :
    RetryTrace ε × Except (Option ε) T :=
  if attempt ≤ settings.maxAttempts then
    let calls := trace.calls ++ [attempt]
    match fn attempt with
    | .ok value => ({ trace with calls }, .ok value)
    | .error err =>
      if attempt ≥ settings.maxAttempts ∨ settings.shouldRetry err attempt = false then
        ({ trace with calls }, .error (some err))
      else
        let delay := settings.delay (random attempt) attempt
        loop random fn settings (attempt + 1) (some err)
          { calls
            onRetry := trace.onRetry ++ [(err, attempt, delay)]
            sleeps := trace.sleeps ++ [delay] }
  else (trace, .error lastErr)
termination_by settings.maxAttempts + 1 - attempt

/-! ## What a run does -/

/-- The outcome of `fn` ends the loop whatever the attempts that are left. -/
def stops (fn : Nat → Except ε T) (attempt : Nat) (settings : RetrySettings ε) : Bool :=
  match fn attempt with
  | .ok _ => true
  | .error err => !settings.shouldRetry err attempt

/-- The first success or failure for good, or else the last of the attempts. -/
def lastAttempt (fn : Nat → Except ε T) (settings : RetrySettings ε) : Nat :=
  ((List.range' 1 (settings.maxAttempts - 1)).find? fun attempt =>
    settings.stops fn attempt).getD settings.maxAttempts

/-- A value is returned, and the last error thrown again. -/
def rethrow : Except ε T → Except (Option ε) T
  | .ok value => .ok value
  | .error err => .error (some err)

/-- The ceiling of the attempt's delay, without the jitter. -/
def backoff (attempt : Nat) (settings : RetrySettings ε) : Nat :=
  min settings.maxDelay (settings.baseDelay * 2 ^ (attempt - 1))

variable {random : Nat → Draw} {fn : Nat → Except ε T} {settings : RetrySettings ε}

theorem lastAttempt_spec (fn : Nat → Except ε T) (settings : RetrySettings ε) :
    1 ≤ settings.lastAttempt fn ∧ settings.lastAttempt fn ≤ settings.maxAttempts ∧
      (∀ i, 1 ≤ i → i < settings.lastAttempt fn → settings.stops fn i = false) ∧
      (settings.lastAttempt fn = settings.maxAttempts ∨
        settings.stops fn (settings.lastAttempt fn) = true) := by
  have hpos := settings.maxAttempts_pos
  rw [lastAttempt]
  cases hfind : (List.range' 1 (settings.maxAttempts - 1)).find? fun attempt =>
      settings.stops fn attempt with
  | none =>
    refine ⟨hpos, le_refl _, fun i hi hlt => ?_, .inl rfl⟩
    rw [Option.getD_none] at hlt
    exact eq_false_of_ne_true (List.find?_eq_none.mp hfind i (List.mem_range'_1.mpr (by omega)))
  | some k =>
    obtain ⟨hstops, before, after, hsplit, hbefore⟩ := List.find?_eq_some_iff_append.mp hfind
    have hk := List.mem_range'_1.mp (List.mem_of_find?_eq_some hfind)
    refine ⟨hk.1, by rw [Option.getD_some]; omega, fun i hi hlt => ?_, .inr hstops⟩
    have hmem : i ∈ List.range' 1 (settings.maxAttempts - 1) := List.mem_range'_1.mpr (by
      rw [Option.getD_some] at hlt
      omega)
    have hsorted : (List.range' 1 (settings.maxAttempts - 1)).Pairwise (· < ·) :=
      List.pairwise_lt_range'
    rw [hsplit] at hmem hsorted
    rcases List.mem_append.mp hmem with hin | hin
    · simpa using hbefore i hin
    · -- From `k` on the attempts are not below it.
      rw [Option.getD_some] at hlt
      rcases List.mem_cons.mp hin with rfl | hin
      · exact absurd hlt (lt_irrefl i)
      · have hlater := (List.pairwise_cons.mp (List.pairwise_append.mp hsorted).2.1).1 i hin
        omega

/-- From an attempt up to the last one, each but the last is followed by a sleep. -/
theorem loop_eq {k attempt : Nat} (hmax : k ≤ settings.maxAttempts)
    (hbefore : ∀ i, attempt ≤ i → i < k → settings.stops fn i = false)
    (hlast : k = settings.maxAttempts ∨ settings.stops fn k = true) (hle : attempt ≤ k)
    (lastErr : Option ε) (trace : RetryTrace ε) :
    ∃ onRetry,
      settings.loop random fn attempt lastErr trace =
        ({ calls := trace.calls ++ List.range' attempt (k + 1 - attempt)
           onRetry
           sleeps := trace.sleeps ++
            (List.range' attempt (k - attempt)).map fun i => settings.delay (random i) i },
          rethrow (fn k)) := by
  obtain ⟨left, rfl⟩ := Nat.exists_eq_add_of_le hle
  induction left generalizing attempt lastErr trace with
  | zero =>
    rw [Nat.add_zero] at hmax hlast
    rw [loop, if_pos hmax]
    simp only [Nat.add_zero, Nat.sub_self, Nat.add_sub_cancel_left, List.range'_zero, List.map_nil,
      List.append_nil, List.range'_one]
    cases houtcome : fn attempt with
    | ok value => exact ⟨trace.onRetry, rfl⟩
    | error err =>
      have hends : attempt ≥ settings.maxAttempts ∨ settings.shouldRetry err attempt = false := by
        rcases hlast with heq | hstops
        · exact .inl (ge_of_eq heq)
        · rw [stops, houtcome] at hstops
          exact .inr (by simpa using hstops)
      simp only [if_pos hends]
      exact ⟨trace.onRetry, rfl⟩
  | succ left ih =>
    have hstops := hbefore attempt (le_refl _) (by omega)
    rw [stops] at hstops
    cases houtcome : fn attempt with
    | ok value => simp [houtcome] at hstops
    | error err =>
      rw [houtcome] at hstops
      have hretry : ¬(attempt ≥ settings.maxAttempts ∨
          settings.shouldRetry err attempt = false) := by
        rintro (hge | hfalse)
        · omega
        · simp [hfalse] at hstops
      have heq : attempt + (left + 1) = attempt + 1 + left := by omega
      rw [heq] at hmax hbefore hlast ⊢
      obtain ⟨onRetry, hrest⟩ := ih (some err)
        { calls := trace.calls ++ [attempt]
          onRetry := trace.onRetry ++ [(err, attempt, settings.delay (random attempt) attempt)]
          sleeps := trace.sleeps ++ [settings.delay (random attempt) attempt] }
        hmax (fun i hi => hbefore i (Nat.le_of_succ_le hi)) hlast (Nat.le_add_right _ _)
      have hcalls :
          attempt + 1 + left + 1 - attempt = (attempt + 1 + left + 1 - (attempt + 1)) + 1 := by
        omega
      have hsleeps : attempt + 1 + left - attempt = (attempt + 1 + left - (attempt + 1)) + 1 := by
        omega
      refine ⟨onRetry, ?_⟩
      rw [loop, if_pos (by omega), houtcome]
      simp only [if_neg hretry]
      rw [hrest, hcalls, hsleeps, List.range'_succ, List.range'_succ, List.map_cons,
        List.append_assoc, List.append_assoc]
      rfl

/-! ## The delays -/

theorem pow_lt_overflow_iff {n : Nat} : 2 ^ n < overflow ↔ n < maxExponent :=
  Nat.pow_lt_pow_iff_right (by decide)

/-- The ceiling holds where the doubling gives a number. -/
theorem min_expo {attempt : Nat} (h : 0 < settings.baseDelay ∨ attempt ≤ maxExponent) :
    (settings.expo attempt).min settings.maxDelay = .finite (settings.backoff attempt) := by
  have hceiling := settings.maxDelay_lt
  have hpos : 0 < maxExponent := by decide
  rw [expo, Number.ofNat]
  split
  · next hpow =>
    rw [Number.mul, Number.ofNat]
    split
    · rfl
    · next hproduct =>
      rw [backoff, Nat.min_eq_left (le_trans (le_of_lt hceiling) (Nat.not_lt.mp hproduct))]
      rfl
  · next hpow =>
    have hlarge : ¬attempt - 1 < maxExponent := fun hlt => hpow (pow_lt_overflow_iff.mpr hlt)
    have hbase : 0 < settings.baseDelay := h.resolve_right (by omega)
    have hproduct : overflow ≤ settings.baseDelay * 2 ^ (attempt - 1) :=
      le_trans (Nat.not_lt.mp hpow) (Nat.le_mul_of_pos_left _ hbase)
    rw [Number.mul, if_neg (Nat.pos_iff_ne_zero.mp hbase), backoff,
      Nat.min_eq_left (le_trans (le_of_lt hceiling) hproduct)]
    rfl

theorem delay_eq {attempt : Nat} (h : 0 < settings.baseDelay ∨ attempt ≤ maxExponent)
    (draw : Draw) :
    settings.delay draw attempt =
      .finite (settings.backoff attempt + draw.scale settings.jitter) := by
  rw [delay, min_expo h]
  rfl

/-- Without a base the power overflows before the product can be zero. -/
theorem delay_nan {attempt : Nat} (hbase : settings.baseDelay = 0) (h : maxExponent < attempt)
    (draw : Draw) : settings.delay draw attempt = .nan := by
  have hpow : ¬2 ^ (attempt - 1) < overflow := by
    rw [pow_lt_overflow_iff]
    omega
  rw [delay, expo, Number.ofNat, if_neg hpow, hbase]
  rfl

/-- The `i`-th sleep is a time between the ceiling and the ceiling with all of the jitter. -/
def SleepsWithin (k : Nat) (sleeps : List Number) (settings : RetrySettings ε) : Prop :=
  ∀ i, 1 ≤ i → i < k → ∃ ms, sleeps[i - 1]? = some (.finite ms) ∧ settings.backoff i ≤ ms ∧
    ms ≤ settings.backoff i + settings.jitter

/-- A run that calls `fn` up to `k`, ends as that call did, and sleeps in between. -/
structure Accounted (fn : Nat → Except ε T) (k : Nat) (settings : RetrySettings ε)
    (run : RetryTrace ε × Except (Option ε) T) : Prop where
  calls : run.1.calls = List.range' 1 k
  outcome : run.2 = rethrow (fn k)
  sleeps_length : run.1.sleeps.length = k - 1
  sleeps_within : settings.SleepsWithin k run.1.sleeps

/-- Every time is as it should be unless the doubling of nothing goes on for too long. -/
theorem sleepsWithin_iff {k : Nat} {sleeps : List Number}
    (hsleeps : sleeps = (List.range' 1 (k - 1)).map fun i => settings.delay (random i) i) :
    settings.SleepsWithin k sleeps ↔ 0 < settings.baseDelay ∨ k ≤ maxExponent + 1 := by
  have hget : ∀ i, 1 ≤ i → i < k → sleeps[i - 1]? = some (settings.delay (random i) i) := by
    intro i hi hlt
    have hindex : (List.range' 1 (k - 1))[i - 1]? = some i := by
      rw [List.getElem?_range' (by omega)]
      congr 1
      omega
    rw [hsleeps, List.getElem?_map, hindex]
    rfl
  constructor
  · intro hwithin
    by_contra hnot
    obtain ⟨hbase, hk⟩ := not_or.mp hnot
    have hlt : maxExponent + 1 < k := Nat.not_le.mp hk
    obtain ⟨ms, hms, -⟩ := hwithin (maxExponent + 1) (by omega) hlt
    rw [hget (maxExponent + 1) (by omega) hlt,
      delay_nan (Nat.eq_zero_of_not_pos hbase) (Nat.lt_succ_self _)] at hms
    cases hms
  · intro h i hi hlt
    have hi' : 0 < settings.baseDelay ∨ i ≤ maxExponent := h.imp_right fun hk => by omega
    refine ⟨settings.backoff i + (random i).scale settings.jitter, ?_, Nat.le_add_right _ _,
      Nat.add_le_add_left (Draw.scale_le _ _) _⟩
    rw [hget i hi hlt, delay_eq hi']

end RetrySettings

def withRetry {T ε : Type} (shape : ε → ErrorShape) (random : Nat → Draw)
    (fn : Nat → Except ε T) (options : RetryOptions ε) : RetryTrace ε × Except (Option ε) T :=
  (options.settings shape).loop random fn 1 none {}

open RetrySettings

section Run

variable {T ε : Type} (shape : ε → ErrorShape) (random : Nat → Draw) (fn : Nat → Except ε T)
  (options : RetryOptions ε)

/-- All of a run but the values of the delays. -/
theorem withRetry_eq :
    ∃ onRetry,
      withRetry shape random fn options =
        ({ calls := List.range' 1 ((options.settings shape).lastAttempt fn)
           onRetry
           sleeps := (List.range' 1 ((options.settings shape).lastAttempt fn - 1)).map fun i =>
            (options.settings shape).delay (random i) i },
          rethrow (fn ((options.settings shape).lastAttempt fn))) := by
  obtain ⟨hpos, hmax, hbefore, hlast⟩ := lastAttempt_spec fn (options.settings shape)
  obtain ⟨onRetry, hrun⟩ := loop_eq hmax hbefore hlast hpos none {}
  exact ⟨onRetry, hrun⟩

end Run

theorem zero_lt_overflow : (0 : Int) < overflow := Int.natCast_pos.mpr (lt_overflow (by decide))

theorem leastDraw_nonneg : (0 : Rat) ≤ 0 := le_refl 0

theorem leastDraw_lt : (0 : Rat) < 1 := zero_lt_one

def leastDraw : Draw where
  value := 0
  value_nonneg := leastDraw_nonneg
  value_lt := leastDraw_lt

/-- No delay at all, and more attempts than there are powers of two. -/
def eagerOptions : RetryOptions ErrorShape where
  maxAttempts := some 1026
  baseDelayMs := some ⟨0, zero_lt_overflow⟩

/-- The network never answers. -/
def unreachable : Nat → Except ErrorShape Unit := fun _ => .error ⟨true, none⟩

theorem lastAttempt_unreachable : (eagerOptions.settings id).lastAttempt unreachable = 1026 := by
  have hnone : (List.range' 1 1025).find? (fun attempt =>
      (eagerOptions.settings id).stops unreachable attempt) = none :=
    List.find?_eq_none.mpr fun _ _ => Bool.false_ne_true
  exact congrArg (·.getD 1026) hnone

end Sdk
end XStreamRoll
