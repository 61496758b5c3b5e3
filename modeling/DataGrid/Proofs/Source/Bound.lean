import DataGrid.Proofs.Filter.Compile
import DataGrid.Proofs.Source.Lookup
import DataGrid.Proofs.Source.Statements

/-!
# Values behind those of a source

A statement binds the values of its source first and those of its condition
behind them.  A condition is compiled in the style of the source, which is left
open by a source without values, so the two can always be put together.  The
names that conditions give to their values do not meet each other, and meet
those of a source only where the source numbers its values in the same way.
-/

namespace DataGrid

open Sql

namespace Sql.Params

/-- The names of the values that have names. -/
def names (params : Params) : List String :=
  params.entries.filterMap Prod.fst

theorem names_positional (values : List Value) :
    (positional values).names = [] := by
  simp [names, entries]

theorem names_named (values : List (String × Value)) :
    (named values).names = values.map Prod.fst := by
  simp [names, entries]

theorem names_append {first second both : Params}
    (appended : first.append second = .ok both) :
    both.names = first.names ++ second.names := by
  rw [names, entries_append appended, List.filterMap_append]
  rfl

/-- Placeholders have names exactly where there are names already. -/
theorem style_eq_named_iff (params : Params) :
    params.style = .named ↔ params.names ≠ [] := by
  rcases params with values | _ | ⟨entry, rest⟩
  · simp [style, names_positional]
  · simp [style, names_named]
  · simp [style, names_named]

end Sql.Params

namespace Source

/-- The stems of the names that statements number their values with. -/
def stems : List String :=
  [Filter.columnStem, Filter.searchStem, Filter.idStem, rowStem]

/-- A name that a statement may give to one of its values. -/
def Numbered (name : String) : Prop :=
  ∃ stem ∈ stems, ∃ number, name = placeholderName stem number

/-- Values as conditions bind them: in a style, and where it names them, under
numbered names that are all different. -/
structure Binds (style : Style) (names : List String) (values : List Value)
    (params : Params) : Prop where
  length_eq : names.length = values.length
  nodup : names.Nodup
  numbered : ∀ name ∈ names, Numbered name
  params_eq : params = .withNames names values style

theorem numbered_of_mem {stem : String} (known : stem ∈ stems) {count : Nat}
    {name : String} (member : name ∈ numberedNames stem count) :
    Numbered name := by
  obtain ⟨number, -, rfl⟩ := List.mem_map.mp member
  exact ⟨stem, known, number, rfl⟩

/-- Values that are numbered with one stem are bound as in a condition. -/
theorem binds_number (style : Style) {stem : String} (known : stem ∈ stems)
    (values : List Value) :
    Binds style (numberedNames stem values.length) values
      (.number style stem values) where
  length_eq := length_numberedNames stem values.length
  nodup := nodup_numberedNames stem values.length
  numbered _ := numbered_of_mem known
  params_eq := Params.number_eq_withNames style stem values

theorem binds_compiled (style : Style) (column found : Fragment) :
    Binds style (Filter.valueNames column found)
      (column.values ++ found.values)
      (Filter.compiled style column found).params where
  length_eq := by simp
  nodup := Filter.nodup_valueNames column found
  numbered name member := by
    rcases List.mem_append.mp member with inColumns | inSearch
    · exact numbered_of_mem (by simp [stems]) inColumns
    · exact numbered_of_mem (by simp [stems]) inSearch
  params_eq := rfl

/-- A statement carries the values of its source and behind them others, all in
the style of the source.  No name is bound twice, unless the source does it or
has a name that statements number their values with. -/
structure Carries (source : Source) (more : Params)
    (statement : Statement) : Prop where
  style_eq : statement.params.style = source.style
  entries_eq : statement.params.entries =
    source.params.entries ++ more.entries
  values_eq : statement.params.values = source.params.values ++ more.values
  nodup_names : source.params.names.Nodup →
    (∀ name ∈ source.params.names, ¬ Numbered name) →
      statement.params.names.Nodup

variable {source : Source} {names : List String} {values : List Value}
  {more : Params}

/-- Either all names are given to the values or none. -/
theorem Binds.names_sublist {style : Style}
    (binds : Binds style names values more) : more.names.Sublist names := by
  rw [binds.params_eq]
  cases style with
  | positional =>
      rw [Params.withNames, Params.names_positional]
      exact List.nil_sublist names
  | named =>
      rw [Params.withNames, Params.names_named,
        List.map_fst_zip (Nat.le_of_eq binds.length_eq)]

theorem Binds.names_positional
    (binds : Binds .positional names values more) : more.names = [] := by
  rw [binds.params_eq]
  exact Params.names_positional values

/-- Values in the style of a source can be bound behind its own. -/
theorem Binds.exists_append (binds : Binds source.style names values more) :
    ∃ both, source.params.append more = .ok both := by
  rw [binds.params_eq]
  exact source.params.exists_append_withNames names values

theorem Binds.style_append (binds : Binds source.style names values more)
    {both : Params} (appended : source.params.append more = .ok both) :
    both.style = source.style := by
  have both_iff := both.style_eq_named_iff
  have own_iff := source.params.style_eq_named_iff
  rw [Params.names_append appended] at both_iff
  cases style_eq : source.style with
  | named =>
      have given := own_iff.mp style_eq
      exact both_iff.mpr (List.append_ne_nil_of_left_ne_nil given _)
  | positional =>
      rw [style_eq] at binds
      have open_ : source.params.style ≠ .named := by
        rw [show source.params.style = .positional from style_eq]
        decide
      have none := not_ne_iff.mp (own_iff.not.mp open_)
      rw [none, binds.names_positional, List.append_nil] at both_iff
      cases both_eq : both.style with
      | positional => rfl
      | named => exact absurd rfl (both_iff.mp both_eq)

theorem Binds.carries (binds : Binds source.style names values more)
    {both : Params} (appended : source.params.append more = .ok both)
    (sql : String) : source.Carries more { sql, params := both } where
  style_eq := binds.style_append appended
  entries_eq := Params.entries_append appended
  values_eq := Params.values_append appended
  nodup_names distinct unnumbered := by
    rw [Params.names_append appended]
    refine distinct.append (binds.names_sublist.nodup binds.nodup) ?_
    intro name own other
    exact unnumbered name own
      (binds.numbered name (binds.names_sublist.subset other))

theorem Binds.exists_statement (binds : Binds source.style names values more)
    (sql : String) :
    ∃ statement, source.statement sql more = .ok statement ∧
      source.Carries more statement := by
  obtain ⟨both, appended⟩ := binds.exists_append
  refine ⟨_, ?_, binds.carries appended sql⟩
  rw [Source.statement, appended]
  rfl

/-- Every lookup of a row can be stated. -/
theorem exists_rowStatement (source : Source)
    (conditions : List (String × Value)) :
    ∃ statement, source.rowStatement conditions = .ok statement ∧
      source.Carries (.number source.style rowStem (conditions.map Prod.snd))
        statement := by
  have known : rowStem ∈ stems := by simp [stems]
  have binds := binds_number source.style known (conditions.map Prod.snd)
  rw [rowStatement_eq, Fragment.params, values_keyCondition]
  exact binds.exists_statement _

/-- The condition of some request on a table with this source, or of some
selection of its rows. -/
def Compiled (source : Source) (condition : Statement) : Prop :=
  ∃ context : Filter.Context, context.style = source.style ∧
    ((∃ filters search,
      Filter.compile context filters search = .ok condition) ∨
      ∃ ids, Filter.compileSelection context ids = condition)

theorem Compiled.binds {condition : Statement}
    (compiled : source.Compiled condition) :
    ∃ names values, Binds source.style names values condition.params := by
  obtain ⟨context, style_eq, ⟨filters, search, compiles⟩ | ⟨ids, rfl⟩⟩ :=
    compiled
  · obtain ⟨column, found, -, -, rfl⟩ := Filter.compile_eq_ok_iff.mp compiles
    rw [style_eq]
    exact ⟨_, _, binds_compiled source.style column found⟩
  · have known : Filter.idStem ∈ stems := by simp [stems]
    rw [← style_eq, Filter.compileSelection_eq_statement]
    exact ⟨_, _, binds_number context.style known _⟩

/-- Every statement on a source can be stated, and carries the values of the
source and behind them those of the condition: the statements of a page and of
a count, under whatever filters and search can be compiled and under a selection
of ids, and the lookup of a row under any columns and values. -/
theorem statements_carry_values (source : Source) :
    (∀ condition, source.Compiled condition →
      (∀ orderBy, ∃ statement,
        source.pageStatement condition orderBy = .ok statement ∧
          source.Carries condition.params statement) ∧
      ∃ statement, source.countStatement condition = .ok statement ∧
        source.Carries condition.params statement) ∧
    ∀ conditions : List (String × Value), ∃ statement,
      source.rowStatement conditions = .ok statement ∧
        source.Carries
          (.number source.style rowStem (conditions.map Prod.snd)) statement ∧
        statement.params.values =
          source.params.values ++ conditions.map Prod.snd := by
  constructor
  · intro condition compiled
    obtain ⟨names, values, binds⟩ := compiled.binds
    exact ⟨fun orderBy => binds.exists_statement _,
      binds.exists_statement _⟩
  · intro conditions
    obtain ⟨statement, stated, carries⟩ := source.exists_rowStatement conditions
    refine ⟨statement, stated, carries, ?_⟩
    rw [carries.values_eq, Params.values_number]

theorem not_numbered_of_notMem {name : String} (plain : '_' ∉ name.toList) :
    ¬ Numbered name := by
  rintro ⟨stem, -, number, rfl⟩
  simp [placeholderName] at plain

end Source

namespace Demo

/-- The people of one group, which is bound by name. -/
def groupSource : Source :=
  .ofClauses "*" "people" "groupid = :groupid"
    (.named [("groupid", .integer 7)])

def groupContext : Filter.Context where
  columns := [{ key := "name", header := "Name" }]
  source := groupSource
  types := []
  fullText := []
  dialect := .sqlite
  style := .named
  dateFormat := ""
  timezone := "UTC"

/-- A source that is prepared for named values but has none. -/
def openSource : Source :=
  .ofClauses "*" "people" "" (.named [])

end Demo

namespace Source

/-- The group is bound in front of a filter and a search, and a lookup in a
source without values is positional. -/
theorem group_statements_carry_values :
    (∃ condition page, Demo.groupSource.Compiled condition ∧
      Demo.groupSource.params.names.Nodup ∧
      (∀ name ∈ Demo.groupSource.params.names, ¬ Numbered name) ∧
      Demo.groupSource.pageStatement condition "" = .ok page ∧
      page.params.entries = [(some "groupid", .integer 7),
        (some "filter_0", .text "%Ann%"),
        (some "global_filter_0", .text "%lee%")] ∧
      page.params.names.Nodup) ∧
    ∃ row, Demo.openSource.rowStatement [("id", .integer 1)] = .ok row ∧
      row.params.style = .positional ∧ row.params.values = [.integer 1] := by
  obtain ⟨condition, compiles, entries_eq⟩ : ∃ condition,
      Filter.compile Demo.groupContext
        [⟨"name", some "contains", .scalar "Ann"⟩] "lee" = .ok condition ∧
      condition.params.entries = [(some "filter_0", .text "%Ann%"),
        (some "global_filter_0", .text "%lee%")] :=
    ⟨_, rfl, by decide +kernel⟩
  have compiled : Demo.groupSource.Compiled condition :=
    ⟨Demo.groupContext, rfl, .inl ⟨_, _, compiles⟩⟩
  have distinct : Demo.groupSource.params.names.Nodup := by decide +kernel
  have unnumbered (name : String)
      (member : name ∈ Demo.groupSource.params.names) : ¬ Numbered name := by
    obtain rfl : name = "groupid" := by
      simpa [Demo.groupSource, ofClauses, Params.names_named] using member
    exact not_numbered_of_notMem (by decide)
  obtain ⟨page, stated, carries⟩ :=
    ((statements_carry_values Demo.groupSource).1 condition compiled).1 ""
  obtain ⟨row, lookup, carriesId, values_eq⟩ :=
    (statements_carry_values Demo.openSource).2 [("id", .integer 1)]
  refine ⟨⟨condition, page, compiled, distinct, unnumbered, stated, ?_,
    carries.nodup_names distinct unnumbered⟩, row, lookup,
    carriesId.style_eq, values_eq⟩
  rw [carries.entries_eq, entries_eq]
  rfl

end Source

end DataGrid
