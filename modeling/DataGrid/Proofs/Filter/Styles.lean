import DataGrid.Proofs.Filter.Compile

/-!
# Conditions in both binding styles

Filters, a search and a selection write their conditions with sinks of their
own.  What they write are fragments that do not depend on the binding style: it
comes in with the sink, and changes the placeholders alone.
-/

namespace DataGrid.Filter

open Sql

def Context.inStyle (context : Context) (style : Style) : Context :=
  { context with style }

variable (context : Context) (style : Style)

theorem clause_inStyle (filter : Filter) :
    clause (context.inStyle style) filter = clause context filter :=
  rfl

theorem clauses_inStyle (filters : List Filter) :
    clauses (context.inStyle style) filters = clauses context filters := by
  induction filters with
  | nil => rfl
  | cons filter rest ih => rw [clauses, clauses, clause_inStyle, ih]

theorem searched_inStyle (columns : List Column) :
    searched (context.inStyle style) columns = searched context columns := by
  induction columns with
  | nil => rfl
  | cons column rest ih =>
      have expression : (context.inStyle style).textExpression column =
          context.textExpression column :=
        rfl
      rw [searched, searched, expression, ih]

theorem columnCondition_inStyle (filters : List Filter) :
    columnCondition (context.inStyle style) filters =
      columnCondition context filters := by
  rw [columnCondition, columnCondition, clauses_inStyle]

theorem searchCondition_inStyle (search : String) :
    searchCondition (context.inStyle style) search =
      searchCondition context search := by
  have columns : (context.inStyle style).columns = context.columns :=
    rfl
  rw [searchCondition, searchCondition, columns, searched_inStyle]
  rfl

/-- The condition of filters and that of a search, put together. -/
def conjunction (column found : Fragment) : Fragment :=
  .text "(" :: (column ++ .text " AND " :: (found ++ [.text ")"]))

theorem values_conjunction (column found : Fragment) :
    (conjunction column found).values = column.values ++ found.values := by
  simp [conjunction]

theorem fill_conjunction (column found : Fragment)
    {placeholders more : List String}
    (enough : placeholders.length = column.values.length)
    (enoughMore : more.length = found.values.length) :
    (conjunction column found).fill (placeholders ++ more) =
      s!"({column.fill placeholders} AND {found.fill more})" := by
  have closed : Fragment.fill (found ++ [.text ")"]) more =
      found.fill more ++ ")" := by
    have back := found.fill_append [.text ")"] enoughMore []
    simpa [Fragment.fill] using back
  rw [conjunction, Fragment.fill, Fragment.fill_append _ _ enough,
    Fragment.fill, closed]
  simp [String.append_assoc, toString]

theorem compiled_agree (column found : Fragment) :
    AgreeInStyles (valueNames column found) (column.values ++ found.values)
      (compiled .positional column found) (compiled .named column found) := by
  rw [← values_conjunction]
  apply Fragment.agreeInStyles_of_fill (conjunction column found)
    (fun style => compiled style column found)
  · simp [values_conjunction]
  · intro style
    rw [valueNames, marks_append, fill_conjunction _ _ (by simp) (by simp),
      ← Fragment.write_eq_fill, ← Fragment.write_eq_fill]
    rfl
  · intro style
    rw [values_conjunction]
    rfl

/-- The values of a selection are its ids. -/
theorem values_selectionCondition (ids : List String) :
    (selectionCondition context ids).values = ids.map Value.ofRowId := by
  cases ids with
  | nil => rfl
  | cons id rest =>
      rw [selectionCondition, Fragment.values_between, Fragment.values_join,
        List.flatMap_map, List.map_eq_flatMap]
      · rfl
      · simp

/-- The values that filters and a search bind are those of their conditions. -/
theorem params_columnStatement (filters : List Filter) :
    (columnStatement (context.inStyle .positional) filters).map
        Statement.params =
      (columnCondition context filters).map fun condition =>
        .positional condition.values := by
  rw [columnStatement_eq_map, columnCondition_inStyle]
  cases columnCondition context filters <;> rfl

theorem params_searchStatement (search : String) :
    (searchStatement (context.inStyle .positional) search).map
        Statement.params =
      (searchCondition context search).map fun condition =>
        .positional condition.values := by
  rw [searchStatement_eq_map, searchCondition_inStyle]
  cases searchCondition context search <;> rfl

/-- Filters and a search, and likewise a selection of ids, are compiled to the
same statement in both binding styles, or fail with the same error in both.
The values of the filters come first, and each part numbers its own. -/
theorem compile_agrees_in_styles :
    (∀ filters search,
      (∃ error,
        compile (context.inStyle .positional) filters search =
          .error error ∧
        compile (context.inStyle .named) filters search = .error error) ∨
      ∃ column found names positional named,
        (columnStatement (context.inStyle .positional) filters).map
          Statement.params = .ok (.positional column) ∧
        (searchStatement (context.inStyle .positional) search).map
          Statement.params = .ok (.positional found) ∧
        names = numberedNames columnStem column.length ++
          numberedNames searchStem found.length ∧
        names.Nodup ∧
        compile (context.inStyle .positional) filters search =
          .ok positional ∧
        compile (context.inStyle .named) filters search = .ok named ∧
        AgreeInStyles names (column ++ found) positional named) ∧
    ∀ ids : List String,
      (numberedNames idStem ids.length).Nodup ∧
      AgreeInStyles (numberedNames idStem ids.length) (ids.map Value.ofRowId)
        (compileSelection (context.inStyle .positional) ids)
        (compileSelection (context.inStyle .named) ids) := by
  constructor
  · intro filters search
    have compiles (style : Style) := compile_eq (context.inStyle style)
      filters search
    simp only [columnCondition_inStyle, searchCondition_inStyle] at compiles
    rw [compiles, compiles, params_columnStatement, params_searchStatement]
    cases columnCondition context filters with
    | error error => exact .inl ⟨error, rfl, rfl⟩
    | ok column =>
        cases searchCondition context search with
        | error error => exact .inl ⟨error, rfl, rfl⟩
        | ok found =>
            exact .inr ⟨column.values, found.values, valueNames column found,
              _, _, rfl, rfl, rfl, nodup_valueNames column found, rfl, rfl,
              compiled_agree column found⟩
  · intro ids
    refine ⟨nodup_numberedNames idStem ids.length, ?_⟩
    have agree := (selectionCondition context ids).statement_agreeInStyles
      idStem
    rw [values_selectionCondition, List.length_map] at agree
    rw [compileSelection_eq_statement, compileSelection_eq_statement]
    exact agree

end DataGrid.Filter
