import DataGrid.Proofs.Filter.Compile
import DataGrid.Proofs.Filter.Shape
import DataGrid.Proofs.Table.Consistent
import DataGrid.Sorting

/-!
# Columns without influence

A condition depends on the columns that can be filtered, and an order on those
that can be sorted.  What the other columns are called, hold or show is in
neither: two registries that offer the same columns give the same results.
-/

namespace DataGrid

namespace Columns

variable {columns others : Columns} {keep : Column → Bool}

/-- Among the columns that are kept, a key finds its column when that one is
kept, because no other column has the key. -/
theorem get?_filter (distinct : (columns.map Column.key).Nodup)
    (keep : Column → Bool) (key : String) :
    get? (columns.filter keep) key = (columns.get? key).filter keep := by
  induction columns with
  | nil => rfl
  | cons first rest ih =>
      obtain ⟨notLater, restDistinct⟩ := List.nodup_cons.mp distinct
      have later := ih restDistinct
      by_cases named : first.key = key
      · have found : get? (first :: rest) key = some first :=
          List.find?_cons_of_pos (by simpa using named)
        rw [found]
        cases kept : keep first with
        | true =>
            rw [List.filter_cons_of_pos kept, Option.filter_some, if_pos kept]
            exact List.find?_cons_of_pos (by simpa using named)
        | false =>
            have absent : get? rest key = none :=
              get?_eq_none_iff.mpr (named ▸ notLater)
            rw [List.filter_cons_of_neg (by simp [kept]), later, absent]
            simp [Option.filter, kept]
      · have skipped : get? (first :: rest) key = get? rest key :=
          List.find?_cons_of_neg (by simpa using named)
        rw [skipped, ← later]
        cases kept : keep first with
        | true =>
            rw [List.filter_cons_of_pos kept]
            exact List.find?_cons_of_neg (by simpa using named)
        | false => rw [List.filter_cons_of_neg (by simp [kept])]

/-- Registries that keep the same columns give the same column to a key, as far
as they keep it. -/
theorem get?_eq_of_filter_eq (distinct : (columns.map Column.key).Nodup)
    (otherDistinct : (others.map Column.key).Nodup)
    (same : columns.filter keep = others.filter keep) (key : String) :
    (columns.get? key).filter keep = (others.get? key).filter keep := by
  rw [← get?_filter distinct, same, get?_filter otherDistinct]

theorem nodup_filter (distinct : (columns.map Column.key).Nodup)
    (keep : Column → Bool) :
    ((columns.filter keep).map Column.key).Nodup :=
  distinct.sublist (List.filter_sublist.map Column.key)

end Columns

namespace Filter

variable {context : Context} {columns others : Columns}

/-- Texts, types and values of a column are the same in every registry. -/
theorem clause_eq_of_get?_eq
    (same : ∀ key, (columns.get? key).filter Column.canFilter =
      (others.get? key).filter Column.canFilter) (filter : Filter) :
    clause { context with columns := columns } filter =
      clause { context with columns := others } filter := by
  unfold clause
  simp only [same]
  rfl

theorem clauses_eq_of_get?_eq
    (same : ∀ key, (columns.get? key).filter Column.canFilter =
      (others.get? key).filter Column.canFilter) (filters : List Filter) :
    clauses { context with columns := columns } filters =
      clauses { context with columns := others } filters := by
  induction filters with
  | nil => rfl
  | cons filter rest ih =>
      rw [clauses, clauses, clause_eq_of_get?_eq same, ih]

/-- A search looks only at the columns that can be filtered. -/
theorem searched_filter (context : Context) (columns others given : Columns) :
    searched { context with columns := columns }
        (given.filter Column.canFilter) =
      searched { context with columns := others } given := by
  induction given with
  | nil => rfl
  | cons column rest ih =>
      rw [searched.eq_def { context with columns := others }]
      dsimp only
      split
      · rename_i filterable
        rw [List.filter_cons_of_pos filterable, searched, if_pos filterable,
          ih]
        rfl
      · rename_i other
        rw [List.filter_cons_of_neg other, ih]

/-- Registries with the same columns that can be filtered give the same
condition, or the same error. -/
theorem compile_eq_of_filter_eq
    (distinct : (columns.map Column.key).Nodup)
    (otherDistinct : (others.map Column.key).Nodup)
    (same : columns.filter Column.canFilter =
      others.filter Column.canFilter)
    (filters : List Filter) (search : String) :
    compile { context with columns := columns } filters search =
      compile { context with columns := others } filters search := by
  have conditions : columnCondition { context with columns := columns }
      filters = columnCondition { context with columns := others }
        filters := by
    rw [columnCondition, columnCondition, clauses_eq_of_get?_eq
      (Columns.get?_eq_of_filter_eq distinct otherDistinct same)]
  have places : searched { context with columns := columns } columns =
      searched { context with columns := others } others := by
    rw [← searched_filter context others columns columns, same,
      searched_filter context others others others]
  have searches : searchCondition { context with columns := columns } search =
      searchCondition { context with columns := others } search := by
    unfold searchCondition
    rw [places]
    rfl
  rw [compile_eq, compile_eq, conditions, searches]

end Filter

/-- Registries with the same columns that can be sorted give the same order. -/
theorem SortOrder.orderBy_eq_of_filter_eq {columns others : Columns}
    (distinct : (columns.map Column.key).Nodup)
    (otherDistinct : (others.map Column.key).Nodup)
    (same : columns.filter Column.canSort = others.filter Column.canSort)
    (sort : SortOrder) (source : Source) (sortable : Bool) :
    sort.orderBy columns source sortable =
      sort.orderBy others source sortable := by
  unfold orderBy
  rw [Columns.get?_eq_of_filter_eq distinct otherDistinct same]

/-- Without the columns that cannot be filtered every request has the condition
or the error that it has with them, and without those that cannot be sorted
every order is the same. -/
theorem Columns.compile_orderBy_pruned {columns given : Columns}
    (built : pushAll [] given = .ok columns) :
    (∀ (context : Filter.Context) (filters : List Filter) (search : String),
      Filter.compile
          { context with columns := columns.filter Column.canFilter }
          filters search =
        Filter.compile { context with columns := columns } filters search) ∧
      ∀ (sort : SortOrder) (source : Source) (sortable : Bool),
        sort.orderBy (columns.filter Column.canSort) source sortable =
          sort.orderBy columns source sortable := by
  have distinct : (columns.map Column.key).Nodup :=
    nodup_of_pushAll (by simp) built
  constructor
  · intro context
    exact Filter.compile_eq_of_filter_eq (nodup_filter distinct _) distinct
      (by rw [List.filter_filter]; simp)
  · exact SortOrder.orderBy_eq_of_filter_eq (nodup_filter distinct _) distinct
      (by rw [List.filter_filter]; simp)

namespace Demo

/-- People with two columns that no filter and no search reaches: a password
that stays internal although it is marked as filterable, and a button. -/
def guardedColumns : Columns := [
  { key := "name", header := "Name" },
  { key := "password", header := "Password", internal := true },
  { key := "edit", header := "Edit" }]

theorem guarded_compile_orderBy_pruned :
    Columns.pushAll [] guardedColumns = .ok guardedColumns ∧
      guardedColumns.filter Column.canFilter =
        [{ key := "name", header := "Name" }] ∧
      Filter.compile
          { Filter.peopleContext with
            columns := guardedColumns.filter Column.canFilter }
          [⟨"password", some "startsWith", .scalar "a"⟩] "ann" =
        Filter.compile
          { Filter.peopleContext with columns := guardedColumns }
          [⟨"password", some "startsWith", .scalar "a"⟩] "ann" ∧
      SortOrder.orderBy ⟨"password", .ascending⟩
          (guardedColumns.filter Column.canSort) (draft 50).source true =
        SortOrder.orderBy ⟨"password", .ascending⟩ guardedColumns
          (draft 50).source true := by
  have built : Columns.pushAll [] guardedColumns = .ok guardedColumns := rfl
  obtain ⟨conditions, orders⟩ := Columns.compile_orderBy_pruned built
  exact ⟨built, rfl, conditions Filter.peopleContext _ _, orders _ _ _⟩

end Demo

end DataGrid
