/-
Idr/Lib/Table.lean

Tables of a database as lists of rows.

A table is the list of its rows in the order in which they were inserted.
`insertRow` inserts unless a present row conflicts, `updateWhere` rewrites
the rows that meet a condition, and `upsertRow` is an insert that falls
back to an update.  A key is unique when no two rows share it
(`UniqueBy`); then looking a row up by its key finds the row
(`UniqueBy.find?_key`), and each kind of write keeps the key unique.

Nothing here names the program.
-/
import Idr.Lib.Except

namespace Idr

universe u v w

variable {ε : Type u} {ρ κ : Type v}

/-! ### Writes -/

/-- `INSERT`, refused with `e` when a row conflicts. -/
@[grind =]
def insertRow (conflict : ρ → Bool) (e : ε) (row : ρ) (rows : List ρ) : Except ε (List ρ) :=
  if rows.any conflict = true then .error e else .ok (rows ++ [row])

/-- `INSERT`, left out when a row conflicts. -/
@[grind =]
def insertOrIgnore (conflict : ρ → Bool) (row : ρ) (rows : List ρ) : List ρ :=
  if rows.any conflict = true then rows else rows ++ [row]

/-- `UPDATE … WHERE`. -/
@[grind =]
def updateWhere (p : ρ → Bool) (f : ρ → ρ) (rows : List ρ) : List ρ :=
  rows.map fun row => if p row = true then f row else row

/-- `INSERT`, and where a row with the key is there already, the update of that row. -/
@[grind =]
def upsertRow (same : ρ → Bool) (update : ρ → Except ε ρ) (row : ρ) (rows : List ρ) :
    Except ε (List ρ) :=
  match rows.find? same with
  | none => .ok (rows ++ [row])
  | some old => do
    let new ← update old
    .ok (updateWhere same (fun _ => new) rows)

theorem insertRow_eq_ok {conflict : ρ → Bool} {e : ε} {row : ρ} {rows rows' : List ρ} :
    insertRow conflict e row rows = .ok rows' ↔
      (∀ r ∈ rows, conflict r = false) ∧ rows' = rows ++ [row] := by
  unfold insertRow
  split
  case isTrue hconflict =>
    obtain ⟨r, hr, hconflict⟩ := List.any_eq_true.mp hconflict
    constructor
    · intro h
      cases h
    · rintro ⟨h, -⟩
      rw [h r hr] at hconflict
      cases hconflict
  case isFalse hconflict =>
    rw [List.any_eq_true] at hconflict
    simp only [Except.ok.injEq, eq_comm (a := rows ++ [row])]
    refine (and_iff_right ?_).symm
    intro r hr
    exact Bool.eq_false_iff.mpr fun h => hconflict ⟨r, hr, h⟩

theorem subset_insertOrIgnore {conflict : ρ → Bool} {row r : ρ} {rows : List ρ} (h : r ∈ rows) :
    r ∈ insertOrIgnore conflict row rows := by
  unfold insertOrIgnore
  split
  · exact h
  · exact List.mem_append_left _ h

theorem upsertRow_eq_ok {same : ρ → Bool} {update : ρ → Except ε ρ} {row : ρ}
    {rows rows' : List ρ} (h : upsertRow same update row rows = .ok rows') :
    (∀ r ∈ rows, same r = false) ∧ rows' = rows ++ [row] ∨
      ∃ old new, rows.find? same = some old ∧ update old = .ok new ∧
        rows' = updateWhere same (fun _ => new) rows := by
  unfold upsertRow at h
  rcases e : rows.find? same with _ | old <;> rw [e] at h
  · left
    simp only [Except.ok.injEq] at h
    refine ⟨fun r hr => ?_, h.symm⟩
    exact Bool.eq_false_iff.mpr (List.find?_eq_none.mp e r hr)
  · right
    simp only [bind_eq_ok, Except.ok.injEq] at h
    obtain ⟨new, hnew, rfl⟩ := h
    exact ⟨old, new, rfl, hnew, rfl⟩

theorem mem_updateWhere {p : ρ → Bool} {f : ρ → ρ} {rows : List ρ} {row : ρ} :
    row ∈ updateWhere p f rows ↔
      (row ∈ rows ∧ p row = false) ∨ ∃ old ∈ rows, p old = true ∧ row = f old := by
  simp only [updateWhere, List.mem_map]
  constructor
  · rintro ⟨old, hold, rfl⟩
    split
    case isTrue hp => exact .inr ⟨old, hold, hp, rfl⟩
    case isFalse hp => exact .inl ⟨hold, Bool.eq_false_iff.mpr hp⟩
  · rintro (⟨hrow, hp⟩ | ⟨old, hold, hp, rfl⟩)
    · exact ⟨row, hrow, by simp [hp]⟩
    · exact ⟨old, hold, by simp [hp]⟩

/-- A property of all rows outlives an insert of a row with the property. -/
theorem forall_mem_insert {P : ρ → Prop} {row : ρ} {rows : List ρ} (h : ∀ r ∈ rows, P r)
    (hrow : P row) : ∀ r ∈ rows ++ [row], P r := by
  intro r hr
  rcases List.mem_append.mp hr with hr | hr
  · exact h r hr
  · rw [List.mem_singleton.mp hr]
    exact hrow

/-- A property of all rows outlives an update that keeps it. -/
theorem forall_mem_updateWhere {P : ρ → Prop} {p : ρ → Bool} {f : ρ → ρ} {rows : List ρ}
    (h : ∀ r ∈ rows, P r) (hf : ∀ r ∈ rows, p r = true → P (f r)) :
    ∀ r ∈ updateWhere p f rows, P r := by
  intro r hr
  rcases mem_updateWhere.mp hr with ⟨hr, -⟩ | ⟨old, hold, hp, rfl⟩
  · exact h r hr
  · exact hf old hold hp

/-! ### Unique keys -/

/-- No two rows share the key. -/
def UniqueBy (key : ρ → κ) (rows : List ρ) : Prop :=
  rows.Pairwise fun a b => key a ≠ key b

theorem UniqueBy.nil (key : ρ → κ) : UniqueBy key [] :=
  List.Pairwise.nil

theorem UniqueBy.insert {key : ρ → κ} {row : ρ} {rows : List ρ} (h : UniqueBy key rows)
    (hrow : ∀ r ∈ rows, key r ≠ key row) : UniqueBy key (rows ++ [row]) := by
  refine List.pairwise_append.mpr ⟨h, List.pairwise_singleton _ _, ?_⟩
  intro r hr r' hr'
  rw [List.mem_singleton.mp hr']
  exact hrow r hr

/-- Where every row with the key conflicts, the key stays unique. -/
theorem UniqueBy.insertOrIgnore {key : ρ → κ} {conflict : ρ → Bool} {row : ρ} {rows : List ρ}
    (h : UniqueBy key rows) (hconflict : ∀ r ∈ rows, key r = key row → conflict r = true) :
    UniqueBy key (insertOrIgnore conflict row rows) := by
  unfold Idr.insertOrIgnore
  split
  case isTrue => exact h
  case isFalse hnone =>
    refine h.insert fun r hr hkey => hnone ?_
    exact List.any_eq_true.mpr ⟨r, hr, hconflict r hr hkey⟩

theorem UniqueBy.updateWhere {key : ρ → κ} {rows : List ρ} (h : UniqueBy key rows)
    {p : ρ → Bool} {f : ρ → ρ} (hf : ∀ r ∈ rows, p r = true → key (f r) = key r) :
    UniqueBy key (updateWhere p f rows) := by
  have hkey : ∀ r ∈ rows, key (if p r = true then f r else r) = key r := by
    intro r hr
    split
    case isTrue hp => exact hf r hr hp
    case isFalse => rfl
  refine List.pairwise_map.mpr (h.imp_of_mem ?_)
  intro a b ha hb hab
  rwa [hkey a ha, hkey b hb]

/-- Rows with the same key are the same row. -/
theorem UniqueBy.eq {key : ρ → κ} {rows : List ρ} (h : UniqueBy key rows) {a b : ρ}
    (ha : a ∈ rows) (hb : b ∈ rows) (hkey : key a = key b) : a = b := by
  induction rows with
  | nil => cases ha
  | cons r rows ih =>
    obtain ⟨hr, hrows⟩ := List.pairwise_cons.mp h
    rcases List.mem_cons.mp ha with rfl | ha' <;> rcases List.mem_cons.mp hb with rfl | hb'
    · rfl
    · exact absurd hkey (hr b hb')
    · exact absurd hkey.symm (hr a ha')
    · exact ih hrows ha' hb'

/-- Looking a row up by its key finds it. -/
theorem UniqueBy.find?_key [DecidableEq κ] {key : ρ → κ} {rows : List ρ} (h : UniqueBy key rows)
    {k : κ} {row : ρ} : rows.find? (fun r => key r = k) = some row ↔ row ∈ rows ∧ key row = k := by
  constructor
  · intro hfind
    exact ⟨List.mem_of_find?_eq_some hfind, by simpa using List.find?_some hfind⟩
  · rintro ⟨hrow, rfl⟩
    rcases e : rows.find? (fun r => key r = key row) with _ | found
    · exact absurd (List.find?_eq_none.mp e row hrow) (by simp)
    · have hkey : key found = key row := by simpa using List.find?_some e
      rw [h.eq (List.mem_of_find?_eq_some e) hrow hkey]

end Idr
