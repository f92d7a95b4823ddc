/-
Tables whose key comes from a sequence.

A table is its rows in the order of their insertion, and the next value of the sequence
behind the key.  A key is given out once: an INSERT takes the next value, an UPDATE does not
touch the key, and a DELETE does not return it.  A `Map` that is filled under a counter is
such a table as well.

`image` is a table seen through a function of its rows, such as one that forgets a column.
Statements whose conditions do not look at what is forgotten commute with it.
-/
import Mathlib.Data.Int.Order.Basic
import Mathlib.Order.SuccPred.Basic
import XStreamRoll.Lists

namespace XStreamRoll

/-- Rows with a key, and the next value of its sequence. -/
structure Table (ρ : Type*) {κ : Type*} [Preorder κ] (key : ρ → κ) where
  rows : List ρ
  nextId : κ
  primaryKey : (rows.map key).Nodup
  sequence : ∀ row ∈ rows, key row < nextId

/-- A table whose key is an integer. -/
abbrev IntTable (ρ : Type*) (key : ρ → Int) := @Table ρ Int Int.instLinearOrder.toPreorder key

namespace Table

variable {ρ ρ' κ : Type*} [Preorder κ] {key : ρ → κ} {key' : ρ' → κ}

/-! ## Statements -/

def empty (nextId : κ) : Table ρ key := ⟨[], nextId, List.nodup_nil, List.forall_mem_nil _⟩

/-- `INSERT …`, of a row that is known up to its key. -/
def insert [SuccOrder κ] [NoMaxOrder κ] (new : κ → ρ) (hnew : ∀ id, key (new id) = id)
    (T : Table ρ key) : Table ρ key where
  rows := T.rows ++ [new T.nextId]
  nextId := Order.succ T.nextId
  primaryKey := nodup_concat T.primaryKey fun row hrow => by
    rw [hnew]
    exact ne_of_lt (T.sequence row hrow)
  sequence := by
    rw [List.forall_mem_append, List.forall_mem_singleton, hnew]
    exact ⟨fun row hrow => lt_trans (T.sequence row hrow) (Order.lt_succ _), Order.lt_succ _⟩

/-- An `INSERT` that a constraint refuses has taken its value of the sequence. -/
def skip [SuccOrder κ] [NoMaxOrder κ] (T : Table ρ key) : Table ρ key where
  rows := T.rows
  nextId := Order.succ T.nextId
  primaryKey := T.primaryKey
  sequence := fun row hrow => lt_trans (T.sequence row hrow) (Order.lt_succ _)

/-- `UPDATE … WHERE p` of other columns than the key. -/
def modify (p : ρ → Bool) (f : ρ → ρ) (hf : ∀ row, key (f row) = key row) (T : Table ρ key) :
    Table ρ key where
  rows := T.rows.map fun row => if p row then f row else row
  nextId := T.nextId
  primaryKey := by
    have same : ∀ row, key (if p row then f row else row) = key row := by
      intro row
      split
      · exact hf row
      · rfl
    rw [List.map_map]
    exact (List.map_congr_left fun row _ => same row) ▸ T.primaryKey
  sequence := by
    intro row hrow
    obtain ⟨old, hold, rfl⟩ := List.mem_map.mp hrow
    split
    · rw [hf]
      exact T.sequence old hold
    · exact T.sequence old hold

/-- `DELETE … WHERE p`. -/
def delete (p : ρ → Bool) (T : Table ρ key) : Table ρ key where
  rows := T.rows.filter fun row => !p row
  nextId := T.nextId
  primaryKey := T.primaryKey.sublist (List.filter_sublist.map _)
  sequence := fun row hrow => T.sequence row (List.mem_of_mem_filter hrow)

/-- The rows seen through a function that keeps the key. -/
def image (g : ρ → ρ') (hg : ∀ row, key' (g row) = key row) (T : Table ρ key) :
    Table ρ' key' where
  rows := T.rows.map g
  nextId := T.nextId
  primaryKey := by
    rw [List.map_map]
    exact (List.map_congr_left fun row _ => hg row) ▸ T.primaryKey
  sequence := by
    intro row hrow
    obtain ⟨old, hold, rfl⟩ := List.mem_map.mp hrow
    rw [hg]
    exact T.sequence old hold

@[ext] theorem ext {T T' : Table ρ key} (hrows : T.rows = T'.rows) (hnext : T.nextId = T'.nextId) :
    T = T' := by
  cases T
  cases T'
  cases hrows
  cases hnext
  rfl

@[simp] theorem nextId_modify {T : Table ρ key} {p : ρ → Bool} {f : ρ → ρ}
    {hf : ∀ row, key (f row) = key row} : (T.modify p f hf).nextId = T.nextId := rfl

@[simp] theorem nextId_delete {T : Table ρ key} {p : ρ → Bool} :
    (T.delete p).nextId = T.nextId := rfl

/-! ## Which rows there are -/

theorem eq_of_key {T : Table ρ key} {row row' : ρ} (h : row ∈ T.rows) (h' : row' ∈ T.rows)
    (same : key row = key row') : row = row' :=
  List.inj_on_of_nodup_map T.primaryKey h h' same

theorem mem_insert [SuccOrder κ] [NoMaxOrder κ] {T : Table ρ key} {new : κ → ρ}
    (hnew : ∀ id, key (new id) = id) {row : ρ} :
    row ∈ (T.insert new hnew).rows ↔ row ∈ T.rows ∨ row = new T.nextId := by
  rw [insert, List.mem_append, List.mem_singleton]

theorem mem_modify {T : Table ρ key} {p : ρ → Bool} {f : ρ → ρ} {hf : ∀ row, key (f row) = key row}
    {row : ρ} : row ∈ (T.modify p f hf).rows ↔
      (row ∈ T.rows ∧ p row = false) ∨ ∃ old ∈ T.rows, p old = true ∧ row = f old := by
  rw [modify, List.mem_map]
  constructor
  · rintro ⟨old, hold, rfl⟩
    split
    · next hp => exact .inr ⟨old, hold, hp, rfl⟩
    · next hp => exact .inl ⟨hold, Bool.eq_false_iff.mpr hp⟩
  · rintro (⟨hrow, hp⟩ | ⟨old, hold, hp, rfl⟩)
    · exact ⟨row, hrow, by rw [hp, if_neg Bool.false_ne_true]⟩
    · exact ⟨old, hold, if_pos hp⟩

theorem mem_delete {T : Table ρ key} {p : ρ → Bool} {row : ρ} :
    row ∈ (T.delete p).rows ↔ row ∈ T.rows ∧ p row = false := by
  rw [delete, List.mem_filter, Bool.not_eq_true']

/-! ## Rows that a statement leaves alone -/

/-- An UPDATE that applies to no row. -/
theorem modify_none {T : Table ρ key} {p : ρ → Bool} {f : ρ → ρ}
    (hf : ∀ row, key (f row) = key row) (none : ∀ row ∈ T.rows, p row = false) :
    T.modify p f hf = T := by
  apply ext
  · rw [modify]
    conv_rhs => rw [← List.map_id T.rows]
    apply List.map_congr_left
    intro row hrow
    rw [none row hrow, if_neg Bool.false_ne_true, id]
  · rfl

theorem delete_none {T : Table ρ key} {p : ρ → Bool} (none : ∀ row ∈ T.rows, p row = false) :
    T.delete p = T := by
  apply ext
  · rw [delete, List.filter_eq_self]
    intro row hrow
    rw [none row hrow, Bool.not_false]
  · rfl

theorem filter_insert [SuccOrder κ] [NoMaxOrder κ] {T : Table ρ key} {new : κ → ρ}
    (hnew : ∀ id, key (new id) = id) {q : ρ → Bool} (apart : q (new T.nextId) = false) :
    (T.insert new hnew).rows.filter q = T.rows.filter q := by
  rw [insert, List.filter_append, List.filter_singleton, apart, Bool.cond_false, List.append_nil]

theorem filter_modify {T : Table ρ key} {p : ρ → Bool} {f : ρ → ρ}
    (hf : ∀ row, key (f row) = key row) {q : ρ → Bool}
    (apart : ∀ row ∈ T.rows, p row = true → q row = false ∧ q (f row) = false) :
    (T.modify p f hf).rows.filter q = T.rows.filter q :=
  filter_map_ite apart

theorem filter_delete {T : Table ρ key} {p q : ρ → Bool}
    (apart : ∀ row ∈ T.rows, p row = true → q row = false) :
    (T.delete p).rows.filter q = T.rows.filter q := by
  rw [delete, List.filter_filter]
  apply List.filter_congr
  intro row hrow
  cases hp : p row with
  | false => simp
  | true => simp [apart row hrow hp]

/-! ## Tables seen through a function -/

variable {g : ρ → ρ'} {hg : ∀ row, key' (g row) = key row}

@[simp] theorem rows_image {T : Table ρ key} : (T.image g hg).rows = T.rows.map g := rfl

@[simp] theorem nextId_image {T : Table ρ key} : (T.image g hg).nextId = T.nextId := rfl

theorem image_insert [SuccOrder κ] [NoMaxOrder κ] {T : Table ρ key} {new : κ → ρ}
    (hnew : ∀ id, key (new id) = id) {new' : κ → ρ'} (hnew' : ∀ id, key' (new' id) = id)
    (same : ∀ id, new' id = g (new id)) :
    (T.image g hg).insert new' hnew' = (T.insert new hnew).image g hg := by
  apply ext
  · simp [insert, same]
  · rfl

theorem image_modify {T : Table ρ key} {p : ρ → Bool} {f : ρ → ρ}
    (hf : ∀ row, key (f row) = key row) {p' : ρ' → Bool} {f' : ρ' → ρ'}
    (hf' : ∀ row, key' (f' row) = key' row) (blind : ∀ row ∈ T.rows, p' (g row) = p row)
    (commutes : ∀ row, p row = true → f' (g row) = g (f row)) :
    (T.image g hg).modify p' f' hf' = (T.modify p f hf).image g hg := by
  apply ext
  · simp only [modify, rows_image, List.map_map]
    apply List.map_congr_left
    intro row hrow
    rw [Function.comp_apply, Function.comp_apply, blind row hrow]
    by_cases hp : p row = true
    · rw [if_pos hp, if_pos hp, commutes row hp]
    · rw [if_neg hp, if_neg hp]
  · rfl

theorem image_delete {T : Table ρ key} {p : ρ → Bool} {p' : ρ' → Bool}
    (blind : ∀ row ∈ T.rows, p' (g row) = p row) :
    (T.image g hg).delete p' = (T.delete p).image g hg := by
  apply ext
  · simp only [delete, rows_image, List.filter_map]
    apply congrArg
    apply List.filter_congr
    intro row hrow
    rw [Function.comp_apply, blind row hrow]
  · rfl

/-! ## Rows by their keys -/

variable [DecidableEq κ]

/-- `SELECT … WHERE id = $1`. -/
def find (id : κ) (T : Table ρ key) : Option ρ := T.rows.find? fun row => key row = id

theorem find_eq_some_iff {T : Table ρ key} {id : κ} {row : ρ} :
    T.find id = some row ↔ row ∈ T.rows ∧ key row = id := by
  constructor
  · intro h
    exact ⟨List.mem_of_find?_eq_some h, by simpa using List.find?_some h⟩
  · rintro ⟨hrow, rfl⟩
    exact find?_of_nodup T.primaryKey hrow

/-- A condition beside the key. -/
theorem find?_and {T : Table ρ key} {id : κ} {q : ρ → Bool} :
    T.rows.find? (fun row => decide (key row = id) && q row) = (T.find id).filter q := by
  cases hfind : T.find id with
  | none =>
    rw [Option.filter_none, List.find?_eq_none]
    intro row hrow both
    rw [Bool.and_eq_true, decide_eq_true_eq] at both
    have absent := List.find?_eq_none.mp hfind row hrow
    exact absent (decide_eq_true both.1)
  | some row =>
    obtain ⟨hrow, hkey⟩ := find_eq_some_iff.mp hfind
    have only : ∀ other ∈ T.rows, key other = id → other = row :=
      fun other hother hid => eq_of_key hother hrow (hid.trans hkey.symm)
    by_cases hq : q row = true
    · rw [Option.filter_some, if_pos hq]
      cases hfound : T.rows.find? (fun row => decide (key row = id) && q row) with
      | none =>
        have absent := List.find?_eq_none.mp hfound row hrow
        simp [hkey, hq] at absent
      | some other =>
        have both := List.find?_some hfound
        rw [Bool.and_eq_true, decide_eq_true_eq] at both
        rw [only other (List.mem_of_find?_eq_some hfound) both.1]
    · rw [Option.filter_some, if_neg hq, List.find?_eq_none]
      intro other hother both
      rw [Bool.and_eq_true, decide_eq_true_eq] at both
      exact hq (only other hother both.1 ▸ both.2)

theorem find_insert [SuccOrder κ] [NoMaxOrder κ] {T : Table ρ key} {new : κ → ρ}
    (hnew : ∀ id, key (new id) = id) {id : κ} :
    (T.insert new hnew).find id = if id = T.nextId then some (new T.nextId) else T.find id := by
  ext row
  split
  · next same =>
    subst same
    rw [find_eq_some_iff, mem_insert hnew, Option.some.injEq]
    constructor
    · rintro ⟨hold | rfl, hkey⟩
      · exact absurd hkey (ne_of_lt (T.sequence row hold))
      · rfl
    · rintro rfl
      exact ⟨.inr rfl, hnew _⟩
  · next other =>
    rw [find_eq_some_iff, find_eq_some_iff, mem_insert hnew]
    constructor
    · rintro ⟨hold | rfl, hkey⟩
      · exact ⟨hold, hkey⟩
      · exact absurd (hkey.symm.trans (hnew _)) other
    · rintro ⟨hold, hkey⟩
      exact ⟨.inl hold, hkey⟩

theorem find_modify {T : Table ρ key} {p : ρ → Bool} {f : ρ → ρ}
    {hf : ∀ row, key (f row) = key row} {id : κ} :
    (T.modify p f hf).find id = (T.find id).map fun row => if p row then f row else row := by
  ext row
  rw [find_eq_some_iff, Option.map_eq_some_iff, modify, List.mem_map]
  constructor
  · rintro ⟨⟨old, hold, rfl⟩, hkey⟩
    refine ⟨old, find_eq_some_iff.mpr ⟨hold, ?_⟩, rfl⟩
    split at hkey
    · rw [← hkey, hf]
    · exact hkey
  · rintro ⟨old, hfind, rfl⟩
    obtain ⟨hold, hkey⟩ := find_eq_some_iff.mp hfind
    refine ⟨⟨old, hold, rfl⟩, ?_⟩
    split
    · rw [hf, hkey]
    · exact hkey

theorem find_delete {T : Table ρ key} {p : ρ → Bool} {id : κ} :
    (T.delete p).find id = (T.find id).filter fun row => !p row := by
  ext row
  rw [find_eq_some_iff, mem_delete, Option.filter_eq_some_iff, find_eq_some_iff,
    Bool.not_eq_true']
  constructor
  · rintro ⟨⟨hrow, hp⟩, hkey⟩
    exact ⟨⟨hrow, hkey⟩, hp⟩
  · rintro ⟨⟨hrow, hkey⟩, hp⟩
    exact ⟨⟨hrow, hp⟩, hkey⟩

theorem find_image {T : Table ρ key} {id : κ} : (T.image g hg).find id = (T.find id).map g := by
  rw [find, find, rows_image, List.find?_map]
  congr 2
  funext row
  rw [Function.comp_apply, hg]

/-! ## What stays true of a key -/

variable {γ : Type*}

/-- The keys that had been given out have no other rows than they had, up to columns that
are not looked at. -/
structure Evolves (column : ρ → γ) (T T' : Table ρ key) : Prop where
  nextId : T.nextId ≤ T'.nextId
  rows : ∀ id < T.nextId, ∀ row, T'.find id = some row →
    ∃ old, T.find id = some old ∧ column old = column row

variable {column : ρ → γ}

theorem Evolves.refl (T : Table ρ key) : T.Evolves column T :=
  ⟨le_refl _, fun _ _ row h => ⟨row, h, rfl⟩⟩

theorem evolves_insert [SuccOrder κ] [NoMaxOrder κ] {T : Table ρ key} {new : κ → ρ}
    (hnew : ∀ id, key (new id) = id) :
    T.Evolves column (T.insert new hnew) where
  nextId := Order.le_succ _
  rows := by
    intro id hid row h
    rw [find_insert hnew, if_neg (ne_of_lt hid)] at h
    exact ⟨row, h, rfl⟩

theorem evolves_skip [SuccOrder κ] [NoMaxOrder κ] {T : Table ρ key} :
    T.Evolves column T.skip where
  nextId := Order.le_succ _
  rows := fun _ _ row h => ⟨row, h, rfl⟩

theorem evolves_modify {T : Table ρ key} {p : ρ → Bool} {f : ρ → ρ}
    (hf : ∀ row, key (f row) = key row) (same : ∀ row, column row = column (f row)) :
    T.Evolves column (T.modify p f hf) where
  nextId := le_refl _
  rows := by
    intro id _ row h
    rw [find_modify, Option.map_eq_some_iff] at h
    obtain ⟨old, hold, rfl⟩ := h
    refine ⟨old, hold, ?_⟩
    split
    · exact same old
    · rfl

theorem evolves_delete {T : Table ρ key} {p : ρ → Bool} : T.Evolves column (T.delete p) where
  nextId := le_refl _
  rows := by
    intro id _ row h
    rw [find_delete, Option.filter_eq_some_iff] at h
    exact ⟨row, h.1, rfl⟩

/-- The key has been given out, and the column of its row has the value, as long as there is
a row. -/
def Knows (column : ρ → γ) (value : γ) (id : κ) (T : Table ρ key) : Prop :=
  id < T.nextId ∧ ∀ row, T.find id = some row → column row = value

theorem Knows.of_find {id : κ} {T : Table ρ key} {row : ρ} (h : T.find id = some row) :
    T.Knows column (column row) id := by
  obtain ⟨hmem, rfl⟩ := find_eq_some_iff.mp h
  refine ⟨T.sequence row hmem, ?_⟩
  intro row' h'
  rw [h, Option.some.injEq] at h'
  rw [h']

/-- What is not written stays known. -/
theorem Knows.evolve {value : γ} {id : κ} {T T' : Table ρ key} (h : T.Knows column value id)
    (evolves : T.Evolves column T') : T'.Knows column value id := by
  refine ⟨lt_of_lt_of_le h.1 evolves.nextId, ?_⟩
  intro row hrow
  obtain ⟨old, hold, same⟩ := evolves.rows id h.1 row hrow
  exact same ▸ h.2 old hold

end Table
end XStreamRoll
