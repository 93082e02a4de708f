import Mathlib.Data.List.Nodup

set_option autoImplicit false

/-! Columns written by a unit of work that loaded a row, assigned to its attributes and flushed:
a column is part of the UPDATE only when its new value differs from the loaded one. Rows looked up
by their primary key, and queries that may find one row at most. -/

namespace Orm

variable {α : Type}

/-- `flushColumn` for a type whose values the language compares with an equality of its own. -/
def flushWith (eq : α → α → Bool) (row loaded assigned : α) : α :=
  if eq assigned loaded then row else assigned

variable [DecidableEq α]

/-- The column after a flush: `row` is what it holds in the database by then, `loaded` what the
unit of work read and `assigned` what it assigned. -/
def flushColumn (row loaded assigned : α) : α := if assigned = loaded then row else assigned

theorem flushColumn_cases (row loaded assigned : α) :
    assigned = loaded ∧ flushColumn row loaded assigned = row ∨
      assigned ≠ loaded ∧ flushColumn row loaded assigned = assigned := by
  by_cases h : assigned = loaded
  · exact Or.inl ⟨h,if_pos h⟩
  · exact Or.inr ⟨h,if_neg h⟩

theorem flushColumn_eq {row loaded assigned x : α} (h : flushColumn row loaded assigned = x)
    (hne : assigned ≠ x) : row = x := by
  rcases flushColumn_cases row loaded assigned with ⟨_,hkept⟩ | ⟨_,hnew⟩
  · exact hkept.symm.trans h
  · exact absurd (hnew.symm.trans h) hne

section Rows

variable {ρ κ : Type} {key : ρ → κ} {rows : List ρ} {row other : ρ}

theorem eq_of_key (h : (rows.map key).Nodup) (hrow : row ∈ rows) (hother : other ∈ rows)
    (hkey : key row = key other) : row = other := List.inj_on_of_nodup_map h hrow hother hkey

/-- Rows that are rewritten under their keys keep them apart. -/
theorem nodup_of_update {f : ρ → ρ} (h : (rows.map key).Nodup) (hf : ∀ r, key (f r) = key r) :
    ((rows.map f).map key).Nodup := by
  have hkeys : (rows.map f).map key = rows.map key := by
    rw [List.map_map]
    exact List.map_congr_left fun r _ => hf r
  rwa [hkeys]

theorem nodup_of_insert (h : (rows.map key).Nodup) (hnew : key row ∉ rows.map key) :
    ((rows ++ [row]).map key).Nodup := by
  rw [List.map_append,List.map_singleton]
  refine List.nodup_append.mpr ⟨h,List.nodup_singleton _,?_⟩
  rintro _ hold _ hrow rfl
  rw [List.mem_singleton.mp hrow] at hold
  exact hnew hold

/-- A query that determines the primary key finds the row that meets it. -/
theorem find?_eq_some (h : (rows.map key).Nodup) {query : ρ → Bool} {k : κ}
    (hquery : ∀ r, query r = true → key r = k) :
    rows.find? query = some row ↔ row ∈ rows ∧ query row = true := by
  constructor
  · intro hfound
    exact ⟨List.mem_of_find?_eq_some hfound,List.find?_some hfound⟩
  · rintro ⟨hrow,hmeets⟩
    cases hfound : rows.find? query with
    | none => exact absurd hmeets (List.find?_eq_none.mp hfound row hrow)
    | some found =>
      have hkey : key found = key row :=
        (hquery found (List.find?_some hfound)).trans (hquery row hmeets).symm
      rw [eq_of_key h (List.mem_of_find?_eq_some hfound) hrow hkey]

end Rows

section Single
variable {ρ ε : Type} {multiple : ε} {rows : List ρ}

/-- The row of a query that must not find several. -/
def oneOrNone (multiple : ε) : List ρ → Except ε (Option ρ)
  | [] => .ok none
  | [row] => .ok (some row)
  | _ :: _ :: _ => .error multiple

theorem oneOrNone_of_length_le (h : rows.length ≤ 1) : oneOrNone multiple rows = .ok rows.head? := by
  match rows,h with
  | [],_ => rfl
  | [row],_ => rfl

theorem oneOrNone_of_lt_length (h : 1 < rows.length) : oneOrNone multiple rows = .error multiple := by
  match rows,h with
  | _ :: _ :: _,_ => rfl

theorem oneOrNone_isOk_iff : (∃ found, oneOrNone multiple rows = .ok found) ↔ rows.length ≤ 1 := by
  constructor
  · rintro ⟨found,hfound⟩
    match rows,hfound with
    | [],_ => simp
    | [row],_ => simp
  · exact fun h => ⟨_,oneOrNone_of_length_le h⟩

end Single

end Orm
