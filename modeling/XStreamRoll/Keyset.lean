/-
Keyset pagination over a list in strictly ascending order of a key.

A page is the first `limit` elements after a cursor.  The cursor of the next page
is made from the last element of a full page, and a short page is the last one.
Making a cursor may lose precision or fail.  If it never goes past its element,
the walk over all pages gives the list exactly when it is exact at every element
that ends a full page.
-/
import Mathlib.Order.Lattice
import Mathlib.Data.List.Basic

namespace XStreamRoll
namespace Keyset

variable {α κ : Type*} [LinearOrder κ] (key : α → κ)

/-- What comes after the cursor: everything, for the first page. -/
def after (l : List α) : Option κ → List α
  | none => l
  | some c => l.filter fun x => decide (c < key x)

def page (limit : Nat) (l : List α) (c : Option κ) : List α := (after key l c).take limit

/-- Fetch pages until a short one, at most `fuel` of them.  The inner `none` is a
walk that stops at a cursor it cannot make. -/
def walk (next : α → Option κ) (limit : Nat) (l : List α) : Nat → Option κ →
    Option (Option (List α))
  | 0, _ => none
  | fuel + 1, c =>
    let rows := page key limit l c
    if rows.length < limit then some (some rows)
    else
      match rows.getLast? with
      | none => some none
      | some x =>
        match next x with
        | none => some none
        | some c => (walk next limit l fuel (some c)).map (Option.map (rows ++ ·))

/-- The cursor is exact at every element that ends a full page. -/
def Exact (next : α → Option κ) (limit : Nat) (l : List α) : Prop :=
  ∀ i x, l[(i + 1) * limit - 1]? = some x → next x = some (key x)

variable {key}

/-- After the key of an element come the elements after it. -/
theorem after_key {l pre post : List α} {x : α}
    (hsorted : l.Pairwise fun a b => key a < key b) (hl : l = pre ++ x :: post) :
    after key l (some (key x)) = post := by
  subst hl
  obtain ⟨-, hpost, hcross⟩ := List.pairwise_append.mp hsorted
  obtain ⟨hx, -⟩ := List.pairwise_cons.mp hpost
  have hbefore : ∀ a ∈ pre, ¬key x < key a := fun a ha =>
    not_lt_of_gt (hcross a ha x List.mem_cons_self)
  rw [after, List.filter_append, List.filter_eq_nil_iff.mpr (by simpa using hbefore),
    List.nil_append, List.filter_cons_of_neg (by simp), List.filter_eq_self]
  intro b hb
  exact decide_eq_true (hx b hb)

/-- What comes after a cursor is the end of the list, and the rest is at or before it. -/
theorem after_suffix {l : List α} (hsorted : l.Pairwise fun a b => key a < key b) (c : κ) :
    ∃ pre, l = pre ++ after key l (some c) ∧ ∀ x ∈ pre, key x ≤ c := by
  induction l with
  | nil => exact ⟨[], rfl, fun x hx => by cases hx⟩
  | cons y l ih =>
    obtain ⟨hy, hl⟩ := List.pairwise_cons.mp hsorted
    by_cases hlt : c < key y
    · -- Everything from here on is after the cursor.
      refine ⟨[], ?_, fun x hx => by cases hx⟩
      rw [List.nil_append, after, eq_comm, List.filter_eq_self]
      intro b hb
      rcases List.mem_cons.mp hb with rfl | hb
      · exact decide_eq_true hlt
      · exact decide_eq_true (lt_trans hlt (hy b hb))
    · obtain ⟨pre, hpre, hle⟩ := ih hl
      refine ⟨y :: pre, ?_, ?_⟩
      · have hskip : after key (y :: l) (some c) = after key l (some c) := by
          rw [after, after, List.filter_cons_of_neg (by simpa using hlt)]
        rw [hskip, List.cons_append, ← hpre]
      · intro x hx
        rcases List.mem_cons.mp hx with rfl | hx
        · exact not_lt.mp hlt
        · exact hle x hx

/-- A full page, its last element, and what remains. -/
theorem full_page {s : List α} {limit : Nat} (hpos : 0 < limit) (hfull : limit ≤ s.length) :
    ∃ pre x, s.take limit = pre ++ [x] ∧ (s.take limit).getLast? = some x ∧
      s = pre ++ x :: s.drop limit ∧ s[limit - 1]? = some x := by
  have hlength : (s.take limit).length = limit := by
    rw [List.length_take]
    omega
  have hne : s.take limit ≠ [] := by
    intro hnil
    rw [hnil, List.length_nil] at hlength
    omega
  have hsplit := List.dropLast_concat_getLast hne
  refine ⟨(s.take limit).dropLast, (s.take limit).getLast hne, hsplit.symm,
    List.getLast?_eq_some_getLast hne, ?_, ?_⟩
  · conv_lhs => rw [← List.take_append_drop limit s, ← hsplit, List.append_assoc]
    rfl
  · have hlast := List.getLast?_eq_getElem? (l := s.take limit)
    rw [List.getLast?_eq_some_getLast hne, hlength, List.getElem?_take,
      if_pos (by omega)] at hlast
    exact hlast.symm

omit [LinearOrder κ] in
theorem exact_short {next : α → Option κ} {limit : Nat} {s : List α}
    (hshort : s.length < limit) : Exact key next limit s := by
  intro i x hx
  have hlt := (List.getElem?_eq_some_iff.mp hx).1
  have hle : limit ≤ (i + 1) * limit := Nat.le_mul_of_pos_left limit (Nat.succ_pos i)
  omega

omit [LinearOrder κ] in
theorem exact_full_iff {next : α → Option κ} {limit : Nat} {s : List α} {x : α}
    (hpos : 0 < limit) (hx : s[limit - 1]? = some x) :
    Exact key next limit s ↔ next x = some (key x) ∧ Exact key next limit (s.drop limit) := by
  have hindex : ∀ i, limit + ((i + 1) * limit - 1) = (i + 1 + 1) * limit - 1 := by
    intro i
    have hle : limit ≤ (i + 1) * limit := Nat.le_mul_of_pos_left limit (Nat.succ_pos i)
    rw [Nat.add_mul (i + 1) 1 limit]
    omega
  constructor
  · intro h
    refine ⟨h 0 x (by rw [Nat.zero_add, Nat.one_mul]; exact hx), ?_⟩
    intro i y hy
    rw [List.getElem?_drop, hindex] at hy
    exact h (i + 1) y hy
  · rintro ⟨hfirst, hrest⟩ i y hy
    cases i with
    | zero =>
      rw [Nat.zero_add, Nat.one_mul, hx, Option.some.injEq] at hy
      exact hy ▸ hfirst
    | succ i =>
      rw [← hindex, ← List.getElem?_drop] at hy
      exact hrest i y hy

section Walk

variable {next : α → Option κ} {limit : Nat} {l : List α}

theorem walk_short {c : Option κ} (hshort : (after key l c).length < limit) (fuel : Nat) :
    walk key next limit l (fuel + 1) c = some (some (after key l c)) := by
  have hpage : page key limit l c = after key l c :=
    List.take_of_length_le (Nat.le_of_lt hshort)
  rw [walk, hpage]
  exact if_pos hshort

theorem walk_full {c : Option κ} (hfull : limit ≤ (after key l c).length) {x : α}
    (hx : ((after key l c).take limit).getLast? = some x) (fuel : Nat) :
    walk key next limit l (fuel + 1) c = match next x with
      | none => some none
      | some c' => (walk key next limit l fuel (some c')).map
          (Option.map ((after key l c).take limit ++ ·)) := by
  have hlength : ¬(page key limit l c).length < limit := by
    rw [page, List.length_take]
    omega
  rw [walk]
  show (if (page key limit l c).length < limit then _ else _) = _
  rw [if_neg hlength]
  show (match (page key limit l c).getLast? with | none => _ | some x => _) = _
  rw [page, hx]

/-- A walk that comes to an end starts with its first page. -/
theorem walk_starts {fuel : Nat} {c : Option κ} {r : List α}
    (h : walk key next limit l fuel c = some (some r)) : page key limit l c <+: r := by
  cases fuel with
  | zero => cases h
  | succ fuel =>
    rw [walk] at h
    split at h
    · rw [Option.some.injEq, Option.some.injEq] at h
      exact h ▸ List.prefix_rfl
    · split at h
      · cases h
      · split at h
        · cases h
        · obtain ⟨rest, -, hrest⟩ := Option.map_eq_some_iff.mp h
          obtain ⟨tail, -, rfl⟩ := Option.map_eq_some_iff.mp hrest
          exact List.prefix_append ..

/-- A walk collects elements of the list. -/
theorem walk_subset {fuel : Nat} {c : Option κ} {r : List α}
    (h : walk key next limit l fuel c = some (some r)) : r ⊆ l := by
  have hpage : ∀ c, page key limit l c ⊆ l := by
    intro c x hx
    have hafter := List.mem_of_mem_take hx
    cases c with
    | none => exact hafter
    | some c => exact (List.mem_filter.mp hafter).1
  induction fuel generalizing c r with
  | zero => cases h
  | succ fuel ih =>
    rw [walk] at h
    split at h
    · rw [Option.some.injEq, Option.some.injEq] at h
      exact h ▸ hpage c
    · split at h
      · cases h
      · split at h
        · cases h
        · obtain ⟨rest, hr, hrest⟩ := Option.map_eq_some_iff.mp h
          obtain ⟨tail, rfl, rfl⟩ := Option.map_eq_some_iff.mp hrest
          exact List.append_subset.mpr ⟨hpage c, ih hr⟩

/-- With exact cursors the walk collects everything after its cursor. -/
theorem walk_complete (hsorted : l.Pairwise fun a b => key a < key b) (hpos : 0 < limit)
    {pre s : List α} {c : Option κ} (hl : l = pre ++ s) (hc : after key l c = s)
    (hexact : Exact key next limit s) : ∃ fuel, walk key next limit l fuel c = some (some s) := by
  induction hn : s.length using Nat.strongRecOn generalizing pre s c with
  | _ n ih =>
    by_cases hshort : s.length < limit
    · exact ⟨1, by rw [walk_short (by rw [hc]; exact hshort) 0, hc]⟩
    · have hfull : limit ≤ s.length := Nat.not_lt.mp hshort
      obtain ⟨mid, x, htake, hlast, hs, hx⟩ := full_page hpos hfull
      obtain ⟨hnext, hrest⟩ := (exact_full_iff hpos hx).mp hexact
      have hl' : l = (pre ++ mid) ++ x :: s.drop limit := by
        rw [hl, List.append_assoc, ← hs]
      have hafter : after key l (some (key x)) = s.drop limit := after_key hsorted hl'
      have hsmaller : (s.drop limit).length < n := by
        rw [List.length_drop]
        omega
      have hrejoin : l = (pre ++ s.take limit) ++ s.drop limit := by
        rw [List.append_assoc, List.take_append_drop, ← hl]
      obtain ⟨fuel, hfuel⟩ := ih _ hsmaller hrejoin hafter hrest rfl
      refine ⟨fuel + 1, ?_⟩
      rw [walk_full (by rw [hc]; exact hfull) (by rw [hc]; exact hlast), hnext]
      simp only [hfuel, hc, Option.map_some, List.take_append_drop]

/-- A walk that collects exactly what comes after its cursor made exact cursors. -/
theorem exact_of_walk (hsorted : l.Pairwise fun a b => key a < key b) (hpos : 0 < limit)
    (hnext : ∀ x ∈ l, ∀ c, next x = some c → c ≤ key x) {fuel : Nat} {pre s : List α} {c : Option κ}
    (hl : l = pre ++ s) (hc : after key l c = s)
    (h : walk key next limit l fuel c = some (some s)) : Exact key next limit s := by
  induction fuel generalizing pre s c with
  | zero => cases h
  | succ fuel ih =>
    by_cases hshort : s.length < limit
    · exact exact_short hshort
    · have hfull : limit ≤ s.length := Nat.not_lt.mp hshort
      obtain ⟨mid, x, htake, hlast, hs, hx⟩ := full_page hpos hfull
      rw [walk_full (by rw [hc]; exact hfull) (by rw [hc]; exact hlast), hc] at h
      cases hcur : next x with
      | none =>
        rw [hcur] at h
        cases h
      | some c' =>
        rw [hcur] at h
        obtain ⟨r, hr, hrest⟩ := Option.map_eq_some_iff.mp h
        obtain ⟨tail, rfl, happend⟩ := Option.map_eq_some_iff.mp hrest
        have htail : tail = s.drop limit := by
          have hboth : s.take limit ++ tail = s.take limit ++ s.drop limit := by
            rw [happend, List.take_append_drop]
          exact List.append_cancel_left hboth
        have hl' : l = (pre ++ mid) ++ x :: s.drop limit := by
          rw [hl, List.append_assoc, ← hs]
        have hx' : x ∈ l := by
          rw [hl']
          simp
        rcases lt_or_eq_of_le (hnext x hx' c' hcur) with hlt | heq
        · -- The next page starts at or before `x`, which is not after the cursor's page.
          exfalso
          have hmem : x ∈ after key l (some c') := by
            rw [after, List.mem_filter]
            exact ⟨hx', decide_eq_true hlt⟩
          obtain ⟨y, rest, hy⟩ := List.exists_cons_of_ne_nil (List.ne_nil_of_mem hmem)
          have hyx : key y ≤ key x := by
            have hsub : (after key l (some c')).Pairwise fun a b => key a < key b :=
              hsorted.filter _
            rw [hy] at hsub hmem
            rcases List.mem_cons.mp hmem with rfl | hin
            · exact le_refl _
            · exact le_of_lt ((List.pairwise_cons.mp hsub).1 x hin)
          have hstart : page key limit l (some c') <+: tail := walk_starts hr
          obtain ⟨limit', rfl⟩ := Nat.exists_eq_succ_of_ne_zero (Nat.ne_of_gt hpos)
          rw [page, hy, List.take_succ_cons] at hstart
          have hin : y ∈ tail := hstart.subset List.mem_cons_self
          have hafterx : ∀ b ∈ s.drop (limit' + 1), key x < key b := by
            have hsuffix : (x :: s.drop (limit' + 1)).Pairwise fun a b => key a < key b := by
              rw [hl'] at hsorted
              exact (List.pairwise_append.mp hsorted).2.1
            exact (List.pairwise_cons.mp hsuffix).1
          exact absurd (hafterx y (htail ▸ hin)) (not_lt_of_ge hyx)
        · subst heq
          apply (exact_full_iff hpos hx).mpr
          refine ⟨hcur, ?_⟩
          have hrejoin : l = (pre ++ s.take limit) ++ s.drop limit := by
            rw [List.append_assoc, List.take_append_drop, ← hl]
          exact ih hrejoin (after_key hsorted hl') (htail ▸ hr)

/-- The walk from the first page collects the list exactly when every cursor it needs
is exact. -/
theorem walk_eq_iff (hsorted : l.Pairwise fun a b => key a < key b) (hpos : 0 < limit)
    (hnext : ∀ x ∈ l, ∀ c, next x = some c → c ≤ key x) :
    (∃ fuel, walk key next limit l fuel none = some (some l)) ↔ Exact key next limit l := by
  constructor
  · rintro ⟨fuel, h⟩
    exact exact_of_walk hsorted hpos hnext (List.nil_append l).symm rfl h
  · exact walk_complete hsorted hpos (List.nil_append l).symm rfl

end Walk

end Keyset
end XStreamRoll
