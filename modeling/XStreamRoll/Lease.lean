/-
A table of leases: at most one row for a key, held by an owner under a token
until it expires.

Four operations write the table.  A claim takes the row over when it is free,
expired, or already the owner's.  An extension and a drop name the row by owner
and token, and an extension also needs the row unexpired.  The last operation
drops every row of an owner.

Tokens are what makes a lease safe to hold across a delay.  If every claim
brings a token that no earlier claim used, a pair of owner and token that has
lost its row never gets it back, and nothing that still presents the pair can
touch the row of its successor.
-/
import Mathlib.Logic.Function.Basic
import Mathlib.Order.Lattice
import XStreamRoll.Transition

namespace XStreamRoll
namespace Lease

open Transition

structure Row (Owner Token Time : Type) where
  owner : Owner
  token : Token
  expiry : Time
deriving DecidableEq, Repr

abbrev Table (Key Owner Token Time : Type) := Key → Option (Row Owner Token Time)

inductive Op (Key Owner Token Time : Type) where
  | claim (key : Key) (row : Row Owner Token Time)
  | extend (key : Key) (owner : Owner) (token : Token) (expiry : Time)
  | drop (key : Key) (owner : Owner) (token : Token)
  | dropAll (owner : Owner)
deriving DecidableEq

variable {Key Owner Token Time : Type}

/-- Whose operation it is. -/
def Op.owner : Op Key Owner Token Time → Owner
  | .claim _ row => row.owner
  | .extend _ owner _ _ => owner
  | .drop _ owner _ => owner
  | .dropAll owner => owner

/-- The row of `key` belongs to `owner` under `token`, expired or not. -/
def Holds (t : Table Key Owner Token Time) (key : Key) (owner : Owner) (token : Token) : Prop :=
  ∃ row, t key = some row ∧ row.owner = owner ∧ row.token = token

theorem Holds.unique {t : Table Key Owner Token Time} {key : Key} {o o' : Owner} {k k' : Token}
    (h : Holds t key o k) (h' : Holds t key o' k') : o = o' ∧ k = k' := by
  obtain ⟨row, hrow, rfl, rfl⟩ := h
  obtain ⟨row', hrow', rfl, rfl⟩ := h'
  rw [hrow, Option.some.injEq] at hrow'
  subst hrow'
  exact ⟨rfl, rfl⟩

theorem holds_congr {t t' : Table Key Owner Token Time} {key : Key} (h : t' key = t key)
    (owner : Owner) (token : Token) : Holds t' key owner token ↔ Holds t key owner token := by
  rw [Holds, Holds, h]

section Update

variable [DecidableEq Key]

theorem holds_update_ne (t : Table Key Owner Token Time) {key key' : Key} (h : key ≠ key')
    (row : Option (Row Owner Token Time)) (owner : Owner) (token : Token) :
    Holds (Function.update t key' row) key owner token ↔ Holds t key owner token :=
  holds_congr (Function.update_of_ne h row t) owner token

theorem holds_update_some {t : Table Key Owner Token Time} {key : Key}
    {row : Row Owner Token Time} {owner : Owner} {token : Token} :
    Holds (Function.update t key (some row)) key owner token ↔
      row.owner = owner ∧ row.token = token := by
  simp [Holds]

theorem not_holds_update_none (t : Table Key Owner Token Time) (key : Key) (owner : Owner)
    (token : Token) : ¬Holds (Function.update t key none) key owner token := by
  simp [Holds]

end Update

section Operations

variable [LinearOrder Time]

/-- The row of `key` belongs to `owner` under `token` and has not expired. -/
def Live (now : Time) (t : Table Key Owner Token Time) (key : Key) (owner : Owner)
    (token : Token) : Prop :=
  ∃ row, t key = some row ∧ row.owner = owner ∧ row.token = token ∧ now < row.expiry

/-- A claim of `owner` would be granted. -/
def Free (now : Time) (t : Table Key Owner Token Time) (key : Key) (owner : Owner) : Prop :=
  ∀ row, t key = some row → row.expiry ≤ now ∨ row.owner = owner

theorem Live.holds {now : Time} {t : Table Key Owner Token Time} {key : Key} {owner : Owner}
    {token : Token} (h : Live now t key owner token) : Holds t key owner token := by
  obtain ⟨row, hrow, howner, htoken, -⟩ := h
  exact ⟨row, hrow, howner, htoken⟩

variable [DecidableEq Key] [DecidableEq Owner] [DecidableEq Token]

/-- One operation at time `now`: whether it wrote a row, and the table after it.
For `dropAll` nobody looks at the answer. -/
def apply (now : Time) (t : Table Key Owner Token Time) :
    Op Key Owner Token Time → Bool × Table Key Owner Token Time
  | .claim key row =>
    match t key with
    | none => (true, Function.update t key (some row))
    | some old =>
      if old.expiry ≤ now ∨ old.owner = row.owner then (true, Function.update t key (some row))
      else (false, t)
  | .extend key owner token expiry =>
    match t key with
    | none => (false, t)
    | some old =>
      if old.owner = owner ∧ old.token = token ∧ now < old.expiry then
        (true, Function.update t key (some { old with expiry := expiry }))
      else (false, t)
  | .drop key owner token =>
    match t key with
    | none => (false, t)
    | some old =>
      if old.owner = owner ∧ old.token = token then (true, Function.update t key none)
      else (false, t)
  | .dropAll owner =>
    (true, fun key => match t key with
      | none => none
      | some old => if old.owner = owner then none else some old)

/-! ## When an operation is granted, and what it writes then -/

theorem claim_granted {now : Time} {t : Table Key Owner Token Time} {key : Key}
    {row : Row Owner Token Time} (h : Free now t key row.owner) :
    apply now t (.claim key row) = (true, Function.update t key (some row)) := by
  rw [apply]
  cases hrow : t key with
  | none => rfl
  | some old =>
    show (if old.expiry ≤ now ∨ old.owner = row.owner then _ else _) = _
    rw [if_pos (h old hrow)]

theorem claim_refused {now : Time} {t : Table Key Owner Token Time} {key : Key}
    {row : Row Owner Token Time} (h : ¬Free now t key row.owner) :
    apply now t (.claim key row) = (false, t) := by
  rw [apply]
  cases hrow : t key with
  | none =>
    apply absurd _ h
    intro old hold
    rw [hrow] at hold
    cases hold
  | some old =>
    show (if old.expiry ≤ now ∨ old.owner = row.owner then _ else _) = _
    rw [if_neg]
    intro hfree
    apply h
    intro old' hold'
    rw [hrow, Option.some.injEq] at hold'
    exact hold' ▸ hfree

theorem extend_granted {now : Time} {t : Table Key Owner Token Time} {key : Key} {owner : Owner}
    {token : Token} (h : Live now t key owner token) (expiry : Time) :
    apply now t (.extend key owner token expiry) =
      (true, Function.update t key (some ⟨owner, token, expiry⟩)) := by
  obtain ⟨old, hold, rfl, rfl, hlive⟩ := h
  simp only [apply, hold, hlive, and_self, if_true]

theorem extend_refused {now : Time} {t : Table Key Owner Token Time} {key : Key} {owner : Owner}
    {token : Token} (h : ¬Live now t key owner token) (expiry : Time) :
    apply now t (.extend key owner token expiry) = (false, t) := by
  rw [apply]
  cases hrow : t key with
  | none => rfl
  | some old =>
    show (if old.owner = owner ∧ old.token = token ∧ now < old.expiry then _ else _) = _
    rw [if_neg]
    rintro ⟨howner, htoken, hlive⟩
    exact h ⟨old, hrow, howner, htoken, hlive⟩

theorem drop_granted {now : Time} {t : Table Key Owner Token Time} {key : Key} {owner : Owner}
    {token : Token} (h : Holds t key owner token) :
    apply now t (.drop key owner token) = (true, Function.update t key none) := by
  obtain ⟨old, hold, rfl, rfl⟩ := h
  simp only [apply, hold, and_self, if_true]

theorem drop_refused {now : Time} {t : Table Key Owner Token Time} {key : Key} {owner : Owner}
    {token : Token} (h : ¬Holds t key owner token) :
    apply now t (.drop key owner token) = (false, t) := by
  rw [apply]
  cases hrow : t key with
  | none => rfl
  | some old =>
    show (if old.owner = owner ∧ old.token = token then _ else _) = _
    rw [if_neg]
    rintro ⟨howner, htoken⟩
    exact h ⟨old, hrow, howner, htoken⟩

theorem claim_granted_iff {now : Time} {t : Table Key Owner Token Time} {key : Key}
    {row : Row Owner Token Time} :
    (apply now t (.claim key row)).1 = true ↔ Free now t key row.owner := by
  constructor
  · intro hok
    by_contra hfree
    rw [claim_refused hfree] at hok
    cases hok
  · intro hfree
    rw [claim_granted hfree]

theorem extend_granted_iff {now : Time} {t : Table Key Owner Token Time} {key : Key}
    {owner : Owner} {token : Token} {expiry : Time} :
    (apply now t (.extend key owner token expiry)).1 = true ↔ Live now t key owner token := by
  constructor
  · intro hok
    by_contra hlive
    rw [extend_refused hlive] at hok
    cases hok
  · intro hlive
    rw [extend_granted hlive]

theorem drop_granted_iff {now : Time} {t : Table Key Owner Token Time} {key : Key}
    {owner : Owner} {token : Token} :
    (apply now t (.drop key owner token)).1 = true ↔ Holds t key owner token := by
  constructor
  · intro hok
    by_contra hholds
    rw [drop_refused hholds] at hok
    cases hok
  · intro hholds
    rw [drop_granted hholds]

/-! ## What each operation leaves in the table -/

theorem dropAll_eq_some {now : Time} {t : Table Key Owner Token Time} {owner : Owner}
    {key : Key} {row : Row Owner Token Time} :
    (apply now t (.dropAll owner)).2 key = some row ↔ t key = some row ∧ row.owner ≠ owner := by
  simp only [apply]
  cases hrow : t key with
  | none => simp
  | some old =>
    show (if old.owner = owner then none else some old) = some row ↔ _
    by_cases howner : old.owner = owner
    · rw [if_pos howner]
      constructor
      · intro h
        cases h
      · rintro ⟨h, hne⟩
        rw [Option.some.injEq] at h
        exact absurd (h ▸ howner) hne
    · rw [if_neg howner, Option.some.injEq]
      constructor
      · intro h
        exact ⟨h, h ▸ howner⟩
      · exact fun h => h.1

/-- A claim by the pair is the only operation that gives it the row. -/
theorem Holds.of_apply {now : Time} {t : Table Key Owner Token Time}
    {op : Op Key Owner Token Time} {key : Key} {owner : Owner} {token : Token}
    (h : Holds (apply now t op).2 key owner token) :
    Holds t key owner token ∨
      ∃ row, op = .claim key row ∧ row.owner = owner ∧ row.token = token := by
  cases op with
  | claim key' row =>
    by_cases hfree : Free now t key' row.owner
    · rw [claim_granted hfree] at h
      by_cases hkey : key = key'
      · subst hkey
        exact .inr ⟨row, rfl, holds_update_some.mp h⟩
      · exact .inl ((holds_update_ne t hkey _ owner token).mp h)
    · rw [claim_refused hfree] at h
      exact .inl h
  | extend key' owner' token' expiry =>
    by_cases hlive : Live now t key' owner' token'
    · rw [extend_granted hlive] at h
      by_cases hkey : key = key'
      · subst hkey
        obtain ⟨rfl, rfl⟩ := holds_update_some.mp h
        exact .inl hlive.holds
      · exact .inl ((holds_update_ne t hkey _ owner token).mp h)
    · rw [extend_refused hlive] at h
      exact .inl h
  | drop key' owner' token' =>
    by_cases hholds : Holds t key' owner' token'
    · rw [drop_granted hholds] at h
      by_cases hkey : key = key'
      · subst hkey
        exact absurd h (not_holds_update_none t key owner token)
      · exact .inl ((holds_update_ne t hkey _ owner token).mp h)
    · rw [drop_refused hholds] at h
      exact .inl h
  | dropAll owner' =>
    obtain ⟨row, hrow, howner, htoken⟩ := h
    obtain ⟨hold, -⟩ := dropAll_eq_some.mp hrow
    exact .inl ⟨row, hold, howner, htoken⟩

theorem not_holds_after_drop (now : Time) (t : Table Key Owner Token Time) (key : Key)
    (owner : Owner) (token : Token) :
    ¬Holds (apply now t (.drop key owner token)).2 key owner token := by
  by_cases hholds : Holds t key owner token
  · rw [drop_granted hholds]
    exact not_holds_update_none t key owner token
  · rw [drop_refused hholds]
    exact hholds

theorem not_holds_after_dropAll (now : Time) (t : Table Key Owner Token Time) (key : Key)
    (owner : Owner) (token : Token) :
    ¬Holds (apply now t (.dropAll owner)).2 key owner token := by
  rintro ⟨row, hrow, howner, -⟩
  exact (dropAll_eq_some.mp hrow).2 howner

/-- A granted claim with another token takes the row away from the pair. -/
theorem not_holds_after_claim {now : Time} {t : Table Key Owner Token Time} {key : Key}
    {row : Row Owner Token Time} (hok : (apply now t (.claim key row)).1 = true) (owner : Owner)
    {token : Token} (hne : row.token ≠ token) :
    ¬Holds (apply now t (.claim key row)).2 key owner token := by
  rw [claim_granted (claim_granted_iff.mp hok)]
  intro h
  exact hne (holds_update_some.mp h).2

end Operations

/-! ## Tokens that are never used twice -/

/-- A table beside the tokens its claims have used so far. -/
structure Book (Key Owner Token Time : Type) where
  table : Table Key Owner Token Time
  used : List Token
  covered : ∀ key row, table key = some row → row.token ∈ used

theorem Book.holds_used {b : Book Key Owner Token Time} {key : Key} {owner : Owner}
    {token : Token} (h : Holds b.table key owner token) : token ∈ b.used := by
  obtain ⟨row, hrow, -, rfl⟩ := h
  exact b.covered key row hrow

/-- An operation of a history: when it runs, and what it is. -/
abbrev Event (Key Owner Token Time : Type) := Time × Op Key Owner Token Time

variable [LinearOrder Time] [DecidableEq Key] [DecidableEq Owner] [DecidableEq Token]

/-- The token that an operation brings in. -/
def Op.brings : Op Key Owner Token Time → List Token
  | .claim _ row => [row.token]
  | _ => []

theorem covered_apply {t : Table Key Owner Token Time} {used : List Token}
    (h : ∀ key row, t key = some row → row.token ∈ used) (now : Time)
    (op : Op Key Owner Token Time) (key : Key) (row : Row Owner Token Time)
    (hrow : (apply now t op).2 key = some row) : row.token ∈ op.brings ++ used := by
  have hholds : Holds (apply now t op).2 key row.owner row.token := ⟨row, hrow, rfl, rfl⟩
  rcases hholds.of_apply with ⟨old, hold, -, htoken⟩ | ⟨row', rfl, -, htoken⟩
  · exact List.mem_append_right _ (htoken ▸ h key old hold)
  · exact List.mem_append_left _ (by rw [← htoken]; exact List.mem_singleton.mpr rfl)

def Book.step (b : Book Key Owner Token Time) (e : Event Key Owner Token Time) :
    Option (Book Key Owner Token Time) :=
  if ∀ k ∈ e.2.brings, k ∉ b.used then
    some ⟨(apply e.1 b.table e.2).2, e.2.brings ++ b.used, covered_apply b.covered e.1 e.2⟩
  else none

/-- The pair has had its turn: a claim used its token, and the row is not its own. -/
def Book.Spent (b : Book Key Owner Token Time) (key : Key) (owner : Owner) (token : Token) : Prop :=
  token ∈ b.used ∧ ¬Holds b.table key owner token

theorem Book.Spent.step {b b' : Book Key Owner Token Time} {e : Event Key Owner Token Time}
    {key : Key} {owner : Owner} {token : Token} (h : b.Spent key owner token)
    (hs : b.step e = some b') : b'.Spent key owner token := by
  rw [Book.step] at hs
  split at hs
  · next hfresh =>
    rw [Option.some.injEq] at hs
    subst hs
    refine ⟨List.mem_append_right _ h.1, ?_⟩
    intro hholds
    rcases hholds.of_apply with hbefore | ⟨row, hop, -, htoken⟩
    · exact h.2 hbefore
    · apply hfresh token _ h.1
      rw [hop, ← htoken]
      exact List.mem_singleton.mpr rfl
  · cases hs

/-- A spent pair stays spent. -/
theorem Book.Spent.run {b b' : Book Key Owner Token Time} {es : List (Event Key Owner Token Time)}
    {key : Key} {owner : Owner} {token : Token} (h : b.Spent key owner token)
    (hr : run Book.step b es = some b') : b'.Spent key owner token :=
  run_invariant (I := fun b => b.Spent key owner token) (fun _ _ _ h hs => h.step hs) h hr

/-- A spent pair can neither extend nor drop anything. -/
theorem Book.Spent.refused {b : Book Key Owner Token Time} {key : Key} {owner : Owner}
    {token : Token} (h : b.Spent key owner token) (now expiry : Time) :
    apply now b.table (.extend key owner token expiry) = (false, b.table) ∧
      apply now b.table (.drop key owner token) = (false, b.table) :=
  ⟨extend_refused (fun hlive => h.2 hlive.holds) expiry, drop_refused h.2⟩

/-! ## Leases as their owners know them -/

/-- The token and the expiry that an owner last obtained for a key. -/
abbrev Tenure (Key Owner Token Time : Type) := Key → Owner → Option (Token × Time)

namespace Tenure

/-- The token under which the owner knows to hold the key. -/
def token (b : Tenure Key Owner Token Time) (key : Key) (owner : Owner) : Option Token :=
  (b key owner).map Prod.fst

def claim (b : Tenure Key Owner Token Time) (key : Key) (row : Row Owner Token Time) :
    Tenure Key Owner Token Time :=
  fun k o => if k = key ∧ o = row.owner then some (row.token, row.expiry) else b k o

/-- Only the owner's current token moves its expiry. -/
def extend (b : Tenure Key Owner Token Time) (key : Key) (owner : Owner) (token : Token)
    (expiry : Time) : Tenure Key Owner Token Time :=
  fun k o => if (k = key ∧ o = owner) ∧ b.token k o = some token then some (token, expiry)
    else b k o

def drop (b : Tenure Key Owner Token Time) (key : Key) (owner : Owner) (token : Token) :
    Tenure Key Owner Token Time :=
  fun k o => if (k = key ∧ o = owner) ∧ b.token k o = some token then none else b k o

def dropAll (b : Tenure Key Owner Token Time) (owner : Owner) : Tenure Key Owner Token Time :=
  fun k o => if o = owner then none else b k o

omit [LinearOrder Time] [DecidableEq Token] in
theorem token_claim (b : Tenure Key Owner Token Time) (key : Key) (row : Row Owner Token Time)
    (k : Key) (o : Owner) : (b.claim key row).token k o =
      if k = key ∧ o = row.owner then some row.token else b.token k o := by
  rw [token, claim]
  split <;> rfl

omit [LinearOrder Time] in
/-- An extension leaves the token as it is. -/
theorem token_extend (b : Tenure Key Owner Token Time) (key : Key) (owner : Owner) (token : Token)
    (expiry : Time) (k : Key) (o : Owner) :
    (b.extend key owner token expiry).token k o = b.token k o := by
  rw [Tenure.token, extend]
  split
  · next h => exact h.2.symm
  · rfl

omit [LinearOrder Time] in
theorem token_drop (b : Tenure Key Owner Token Time) (key : Key) (owner : Owner) (token : Token)
    (k : Key) (o : Owner) : (b.drop key owner token).token k o =
      if (k = key ∧ o = owner) ∧ b.token k o = some token then none else b.token k o := by
  rw [Tenure.token, drop]
  split <;> rfl

omit [LinearOrder Time] [DecidableEq Key] [DecidableEq Token] in
theorem token_dropAll (b : Tenure Key Owner Token Time) (owner : Owner) (k : Key) (o : Owner) :
    (b.dropAll owner).token k o = if o = owner then none else b.token k o := by
  rw [token, dropAll]
  split <;> rfl

/-- What the owner knows after the answer to an operation. -/
def note (b : Tenure Key Owner Token Time) (ok : Bool) :
    Op Key Owner Token Time → Tenure Key Owner Token Time
  | .claim key row => if ok then b.claim key row else b
  | .extend key owner token expiry => if ok then b.extend key owner token expiry else b
  | .drop key owner token => if ok then b.drop key owner token else b
  | .dropAll owner => b.dropAll owner

omit [LinearOrder Time] in
theorem token_note_extend (b : Tenure Key Owner Token Time) (ok : Bool) (key : Key) (owner : Owner)
    (token : Token) (expiry : Time) (k : Key) (o : Owner) :
    (b.note ok (.extend key owner token expiry)).token k o = b.token k o := by
  cases ok with
  | false => rfl
  | true => exact b.token_extend ..

omit [LinearOrder Time] in
theorem token_note_drop (b : Tenure Key Owner Token Time) (ok : Bool) (key : Key) (owner : Owner)
    {token : Token} {k : Key} {o : Owner} (h : b.token k o ≠ some token) :
    (b.note ok (.drop key owner token)).token k o = b.token k o := by
  cases ok with
  | false => rfl
  | true => exact (b.token_drop ..).trans (if_neg fun hc => h hc.2)

omit [LinearOrder Time] in
/-- Owners learn nothing from the operations of others. -/
theorem token_note_of_ne (b : Tenure Key Owner Token Time) (ok : Bool)
    (op : Op Key Owner Token Time) (k : Key) {o : Owner} (h : o ≠ op.owner) :
    (b.note ok op).token k o = b.token k o := by
  cases op with
  | claim key row =>
    cases ok with
    | false => rfl
    | true => exact (b.token_claim ..).trans (if_neg fun hc => h hc.2)
  | extend key owner token expiry => exact b.token_note_extend ..
  | drop key owner token =>
    cases ok with
    | false => rfl
    | true => exact (b.token_drop ..).trans (if_neg fun hc => h hc.1.2)
  | dropAll owner => exact (b.token_dropAll ..).trans (if_neg h)

end Tenure

/-- Until a lease runs out, the row is the one its owner obtained. -/
def Kept (now : Time) (t : Table Key Owner Token Time) (b : Tenure Key Owner Token Time) : Prop :=
  ∀ key owner token expiry, b key owner = some (token, expiry) → now < expiry →
    t key = some ⟨owner, token, expiry⟩

omit [DecidableEq Key] [DecidableEq Owner] [DecidableEq Token] in
theorem Kept.advance {now now' : Time} {t : Table Key Owner Token Time}
    {b : Tenure Key Owner Token Time} (h : Kept now t b) (hle : now ≤ now') : Kept now' t b :=
  fun key owner token expiry hb hlt => h key owner token expiry hb (lt_of_le_of_lt hle hlt)

omit [DecidableEq Token] in
theorem Kept.claim {now : Time} {t : Table Key Owner Token Time} {b : Tenure Key Owner Token Time}
    (h : Kept now t b) {key : Key} {row : Row Owner Token Time} (hfree : Free now t key row.owner) :
    Kept now (Function.update t key (some row)) (b.claim key row) := by
  intro k o token expiry hb hlt
  rw [Tenure.claim] at hb
  by_cases hk : k = key
  · subst hk
    rw [Function.update_self]
    by_cases ho : o = row.owner
    · rw [if_pos ⟨rfl, ho⟩, Option.some.injEq, Prod.mk.injEq] at hb
      obtain ⟨rfl, rfl⟩ := hb
      rw [ho]
    · -- Another owner's unexpired lease would have refused the claim.
      rw [if_neg (fun hc => ho hc.2)] at hb
      have hrow := h k o token expiry hb hlt
      rcases hfree _ hrow with hexpired | hown
      · exact absurd hlt (not_lt_of_ge hexpired)
      · exact absurd hown ho
  · rw [Function.update_of_ne hk]
    rw [if_neg (fun hc => hk hc.1)] at hb
    exact h k o token expiry hb hlt

theorem Kept.extend {now : Time} {t : Table Key Owner Token Time} {b : Tenure Key Owner Token Time}
    (h : Kept now t b) {key : Key} {owner : Owner} {token : Token}
    (hlive : Live now t key owner token) (expiry : Time) :
    Kept now (Function.update t key (some ⟨owner, token, expiry⟩))
      (b.extend key owner token expiry) := by
  obtain ⟨row, hrow, hro, hrt, -⟩ := hlive
  intro k o token' expiry' hb hlt
  rw [Tenure.extend] at hb
  by_cases hk : k = key
  · subst hk
    rw [Function.update_self]
    by_cases hmatch : o = owner ∧ b.token k o = some token
    · rw [if_pos ⟨⟨rfl, hmatch.1⟩, hmatch.2⟩, Option.some.injEq, Prod.mk.injEq] at hb
      obtain ⟨rfl, rfl⟩ := hb
      rw [hmatch.1]
    · rw [if_neg (fun hc => hmatch ⟨hc.1.2, hc.2⟩)] at hb
      -- The row is this lease's own, so the extension was of this lease.
      have hold := h k o token' expiry' hb hlt
      rw [hrow, Option.some.injEq] at hold
      subst hold
      exact absurd ⟨hro, by rw [Tenure.token, hb]; exact congrArg some hrt⟩ hmatch
  · rw [Function.update_of_ne hk]
    rw [if_neg (fun hc => hk hc.1.1)] at hb
    exact h k o token' expiry' hb hlt

theorem Kept.drop {now : Time} {t : Table Key Owner Token Time} {b : Tenure Key Owner Token Time}
    (h : Kept now t b) {key : Key} {owner : Owner} {token : Token}
    (hholds : Holds t key owner token) :
    Kept now (Function.update t key none) (b.drop key owner token) := by
  obtain ⟨row, hrow, hro, hrt⟩ := hholds
  intro k o token' expiry' hb hlt
  rw [Tenure.drop] at hb
  by_cases hk : k = key
  · subst hk
    by_cases hmatch : o = owner ∧ b.token k o = some token
    · rw [if_pos ⟨⟨rfl, hmatch.1⟩, hmatch.2⟩] at hb
      cases hb
    · rw [if_neg (fun hc => hmatch ⟨hc.1.2, hc.2⟩)] at hb
      have hold := h k o token' expiry' hb hlt
      rw [hrow, Option.some.injEq] at hold
      subst hold
      exact absurd ⟨hro, by rw [Tenure.token, hb]; exact congrArg some hrt⟩ hmatch
  · rw [Function.update_of_ne hk]
    rw [if_neg (fun hc => hk hc.1.1)] at hb
    exact h k o token' expiry' hb hlt

/-- What owners know stays true when each of them notes the answers it gets. -/
theorem Kept.apply {now : Time} {t : Table Key Owner Token Time} {b : Tenure Key Owner Token Time}
    (h : Kept now t b) (op : Op Key Owner Token Time) :
    Kept now (Lease.apply now t op).2 (b.note (Lease.apply now t op).1 op) := by
  cases op with
  | claim key row =>
    by_cases hfree : Free now t key row.owner
    · rw [claim_granted hfree]
      exact h.claim hfree
    · rw [claim_refused hfree]
      exact h
  | extend key owner token expiry =>
    by_cases hlive : Live now t key owner token
    · rw [extend_granted hlive]
      exact h.extend hlive expiry
    · rw [extend_refused hlive]
      exact h
  | drop key owner token =>
    by_cases hholds : Holds t key owner token
    · rw [drop_granted hholds]
      exact h.drop hholds
    · rw [drop_refused hholds]
      exact h
  | dropAll owner =>
    intro k o token expiry hb hlt
    rw [Tenure.note, Tenure.dropAll] at hb
    split at hb
    · cases hb
    · next hne => exact dropAll_eq_some.mpr ⟨h k o token expiry hb hlt, hne⟩

end Lease
end XStreamRoll
