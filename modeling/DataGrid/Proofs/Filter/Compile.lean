import DataGrid.Proofs.Filter.Condition

/-!
# The compiled condition

The values of both parts of a condition are bound in the same style, so that
they can always be put together: only the parts themselves can fail.  A search
that does not fail has the texts of all columns that can be filtered.
-/

namespace DataGrid.Filter

open Sql

/-- The names of the values of a column condition and of a search. -/
def valueNames (column found : Fragment) : List String :=
  numberedNames columnStem column.values.length ++
    numberedNames searchStem found.values.length

@[simp]
theorem length_valueNames (column found : Fragment) :
    (valueNames column found).length =
      column.values.length + found.values.length := by
  simp [valueNames]

theorem nodup_valueNames (column found : Fragment) :
    (valueNames column found).Nodup := by
  apply (nodup_numberedNames _ _).append (nodup_numberedNames _ _)
  exact disjoint_numberedNames rfl rfl (by decide) _ _

/-- The statement of a column condition and of a search. -/
def compiled (style : Style) (column found : Fragment) : Statement where
  sql :=
    s!"({column.write style columnStem} AND {found.write style searchStem})"
  params := .withNames (valueNames column found)
    (column.values ++ found.values) style

theorem compile_eq (context : Context) (filters : List Filter)
    (search : String) :
    compile context filters search = (do
      let column ← columnCondition context filters
      let found ← searchCondition context search
      pure (compiled context.style column found)) := by
  rw [compile, columnStatement_eq_map, searchStatement_eq_map]
  cases columnCondition context filters with
  | error error => rfl
  | ok column =>
      cases searchCondition context search with
      | error error => rfl
      | ok found =>
          simp only [ok_bind, Except.map, Fragment.statement, Fragment.params,
            Params.append_number, pure_eq_ok]
          rfl

theorem compile_eq_ok_iff {context : Context} {filters : List Filter}
    {search : String} {condition : Statement} :
    compile context filters search = .ok condition ↔
      ∃ column found, columnCondition context filters = .ok column ∧
        searchCondition context search = .ok found ∧
        condition = compiled context.style column found := by
  rw [compile_eq]
  constructor
  · intro compiles
    obtain ⟨column, columns, compiles⟩ := (bind_eq_ok_iff _ _ _).mp compiles
    obtain ⟨found, searches, compiles⟩ := (bind_eq_ok_iff _ _ _).mp compiles
    exact ⟨column, found, columns, searches, (Except.ok.inj compiles).symm⟩
  · rintro ⟨column, found, columns, searches, rfl⟩
    rw [columns, searches]
    rfl

/-- The columns that a search looks at are those that can be filtered, with
their texts. -/
theorem forall₂_searched {context : Context} {columns : List Column}
    {found : List (Column × String)}
    (succeeds : searched context columns = .ok found) :
    List.Forall₂ (fun column searched => searched.1 = column ∧
      context.textExpression column = .ok searched.2)
      (columns.filter Column.canFilter) found := by
  induction columns generalizing found with
  | nil =>
      obtain rfl := Except.ok.inj succeeds
      exact .nil
  | cons column rest ih =>
      rw [searched] at succeeds
      split at succeeds
      · rename_i filterable
        obtain ⟨expression, text_eq, succeeds⟩ :=
          (bind_eq_ok_iff _ _ _).mp succeeds
        obtain ⟨others, later, succeeds⟩ := (bind_eq_ok_iff _ _ _).mp succeeds
        obtain rfl := Except.ok.inj succeeds
        rw [List.filter_cons_of_pos filterable]
        exact .cons ⟨rfl, text_eq⟩ (ih later)
      · rename_i other
        rw [List.filter_cons_of_neg other]
        exact ih succeeds

end DataGrid.Filter
