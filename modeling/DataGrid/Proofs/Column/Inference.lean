import DataGrid.Column.Inference
import DataGrid.Proofs.Engine.Run
import DataGrid.Proofs.Table.Consistent
import Mathlib.Data.List.Nodup

/-!
# Types of columns from a schema

Finding the types of columns never fails, and remembers what it has been told
about a table, a failure included.  With an engine whose answers depend on the
table alone this cannot be seen in the types: each column has the one that
looking up this column alone would find.  What can be seen is that every table
is asked for once.
-/

namespace DataGrid

open Program

namespace Columns

theorem neverFails_typeOf (source : Source) (known : KnownTables)
    (column : Column) : NeverFails (typeOf source known column) := by
  unfold typeOf
  split
  · exact neverFails_pure _
  · exact neverFails_pure _
  · unfold declarationsOf
    split
    · exact neverFails_bind (neverFails_pure _) fun _ => neverFails_pure _
    · refine neverFails_bind ?_ fun _ => neverFails_pure _
      exact neverFails_bind (neverFails_attempt _) fun _ => neverFails_pure _

/-- Whatever the engine answers, the columns are found to have some types. -/
theorem neverFails_typesFrom (source : Source) (known : KnownTables)
    (columns : Columns) : NeverFails (typesFrom source known columns) := by
  induction columns generalizing known with
  | nil => exact neverFails_pure []
  | cons column rest ih =>
      refine neverFails_bind (neverFails_typeOf source known column) ?_
      intro found
      exact neverFails_bind (ih found.2) fun _ => neverFails_pure _

end Columns

/-- What an engine answers about the columns of each table. -/
abbrev Schema := String → Except EngineFailure (List ColumnDeclaration)

namespace Schema

variable {α β : Type} (schema : Schema)

/-- The question for a table with the schema's answer. -/
def event (table : String) : Event :=
  ⟨.declarations table, schema table⟩

/-- Whenever a table is asked for, the answer is the schema's. -/
def Answers (events : List Event) : Prop :=
  ∀ table answer, ⟨.declarations table, answer⟩ ∈ events →
    answer = schema table

/-- With the schema's answers a program has a single run: its events are those
of some tables, and it ends with a value. -/
def Settles (program : Program α) (tables : List String) (value : α) : Prop :=
  ∀ events outcome, Runs program events outcome ∧ schema.Answers events ↔
    events = tables.map schema.event ∧ outcome = .ok value

variable {schema}

theorem answers_map (tables : List String) :
    schema.Answers (tables.map schema.event) := by
  intro table answer member
  obtain ⟨other, -, same⟩ := List.mem_map.mp member
  obtain ⟨⟨⟩, same⟩ := Event.mk.inj same
  exact (eq_of_heq same).symm

theorem answers_append_iff (first rest : List Event) :
    schema.Answers (first ++ rest) ↔
      schema.Answers first ∧ schema.Answers rest := by
  simp only [Answers, List.mem_append]
  constructor
  · intro answers
    exact ⟨fun table answer member => answers table answer (.inl member),
      fun table answer member => answers table answer (.inr member)⟩
  · rintro ⟨early, late⟩ table answer (member | member)
    · exact early table answer member
    · exact late table answer member

theorem settles_pure (value : α) : schema.Settles (pure value) [] value := by
  intro events outcome
  rw [runs_pure_iff]
  constructor
  · exact And.left
  · rintro ⟨rfl, rfl⟩
    exact ⟨⟨rfl, rfl⟩, answers_map []⟩

theorem settles_attempt (table : String) :
    schema.Settles (attempt (.declarations table)) [table]
      (schema table) := by
  intro events outcome
  rw [attempt, runs_ask_iff]
  constructor
  · rintro ⟨⟨answer, rest, rfl, ends⟩, answers⟩
    obtain ⟨rfl, rfl⟩ := (runs_done_iff _ _ _).mp ends
    obtain rfl := answers table answer List.mem_cons_self
    exact ⟨rfl, rfl⟩
  · rintro ⟨rfl, rfl⟩
    exact ⟨⟨_, [], rfl, .done _⟩, answers_map [table]⟩

theorem settles_bind {program : Program α} {next : α → Program β}
    {tables more : List String} {middle : α} {value : β}
    (first : schema.Settles program tables middle)
    (rest : schema.Settles (next middle) more value) :
    schema.Settles (program >>= next) (tables ++ more) value := by
  intro events outcome
  rw [runs_bind_iff, List.map_append]
  constructor
  · rintro ⟨⟨error, fails, rfl⟩ | ⟨found, early, late, rfl, runs, continues⟩,
      answers⟩
    · obtain ⟨-, impossible⟩ := (first _ _).mp ⟨fails, answers⟩
      cases impossible
    · obtain ⟨answered, later⟩ := (answers_append_iff _ _).mp answers
      obtain ⟨rfl, same⟩ := (first _ _).mp ⟨runs, answered⟩
      obtain rfl := Except.ok.inj same
      obtain ⟨rfl, rfl⟩ := (rest _ _).mp ⟨continues, later⟩
      exact ⟨rfl, rfl⟩
  · rintro ⟨rfl, rfl⟩
    obtain ⟨runs, answered⟩ := (first _ _).mpr ⟨rfl, rfl⟩
    obtain ⟨continues, later⟩ := (rest _ _).mpr ⟨rfl, rfl⟩
    exact ⟨.inr ⟨middle, _, _, rfl, runs, continues⟩,
      (answers_append_iff _ _).mpr ⟨answered, later⟩⟩

theorem settles_bind_pure {program : Program α} {tables : List String}
    {middle : α} (first : schema.Settles program tables middle)
    (change : α → β) :
    schema.Settles (program >>= fun value => pure (change value)) tables
      (change middle) := by
  have both : schema.Settles (program >>= fun value => pure (change value))
      (tables ++ []) (change middle) :=
    settles_bind first (settles_pure (change middle))
  rwa [List.append_nil] at both

variable (schema)

/-- The columns that a table is declared to have; a failure declares none. -/
def declared (table : String) : List ColumnDeclaration :=
  (schema table).toOption.getD []

/-- What is known when some tables have been asked for. -/
def known (asked : List String) : KnownTables :=
  asked.map fun table => (table, schema.declared table)

/-- What the schema says about a column: the type of the first column of its
table that has its name in any letter case. -/
def found? (source : Source) (column : Column) : Option DataType :=
  (source.declarationOf column).bind fun (table, name) =>
    ((schema.declared table).find? fun declaration =>
      Text.lower declaration.name == Text.lower name).map fun declaration =>
        .ofDeclaration name declaration.sqlType

/-- The type of a column by itself: the declared one, else what the schema says,
else unknown. -/
def typeOf (source : Source) (column : Column) : DataType :=
  (column.dataType.or (schema.found? source column)).getD .unknown

variable {schema}

theorem lookup_known (asked : List String) (table : String) :
    (schema.known asked).lookup table =
      if table ∈ asked then some (schema.declared table) else none := by
  induction asked with
  | nil => rfl
  | cons other rest ih =>
      rw [known, List.map_cons, List.lookup_cons]
      by_cases same : table = other
      · simp [same]
      · rw [beq_eq_false_iff_ne.mpr same]
        simpa [same, known] using ih

end Schema

namespace Source

/-- The table in which the type of a column is looked up, unless it is
declared. -/
def neededTable? (source : Source) (column : Column) : Option String :=
  if column.dataType.isSome then none
  else (source.declarationOf column).map Prod.fst

/-- The table that a column needs, unless it has been asked for. -/
def newTables (source : Source) (asked : List String) (column : Column) :
    List String :=
  (source.neededTable? column).toList.filter (· ∉ asked)

/-- The tables that some columns need besides those that have been asked for:
each of them once, in the order in which they are first needed. -/
def neededTables (source : Source) (asked : List String) (columns : Columns) :
    List String :=
  ((columns.filterMap source.neededTable?).filter (· ∉ asked)).eraseDups

variable {source : Source} {asked : List String}

theorem newTables_of_none {column : Column}
    (settled : source.neededTable? column = none) :
    source.newTables asked column = [] := by
  rw [newTables, settled]
  rfl

theorem newTables_of_mem {column : Column} {table : String}
    (needed : source.neededTable? column = some table) (old : table ∈ asked) :
    source.newTables asked column = [] := by
  simp [newTables, needed, old]

theorem newTables_of_notMem {column : Column} {table : String}
    (needed : source.neededTable? column = some table) (new : table ∉ asked) :
    source.newTables asked column = [table] := by
  simp [newTables, needed, new]

/-- What the first column needs is not asked for again. -/
theorem neededTables_cons (column : Column) (columns : Columns) :
    source.neededTables asked (column :: columns) =
      source.newTables asked column ++
        source.neededTables (source.newTables asked column ++ asked)
          columns := by
  cases needed : source.neededTable? column with
  | none => simp [newTables_of_none needed, neededTables, needed]
  | some table =>
      by_cases old : table ∈ asked
      · simp [newTables_of_mem needed old, neededTables, needed, old]
      · have once (other : String) :
            (!other == table && decide (other ∉ asked)) =
              decide (other ∉ [table] ++ asked) := by
          by_cases same : other = table <;> simp [same]
        rw [newTables_of_notMem needed old, neededTables,
          List.filterMap_cons_some needed,
          List.filter_cons_of_pos (by simpa using old), List.eraseDups_cons,
          List.filter_filter]
        simp only [once]
        rfl

/-- No table is needed twice. -/
theorem nodup_neededTables (source : Source) (asked : List String)
    (columns : Columns) : (source.neededTables asked columns).Nodup := by
  induction columns generalizing asked with
  | nil => exact .nil
  | cons column rest ih =>
      rw [neededTables_cons]
      refine List.Nodup.append ?_ (ih _) fun table first later => ?_
      · unfold newTables
        exact (Option.toList_nodup _).filter _
      · simp [neededTables, first] at later

end Source

namespace Schema

variable {schema : Schema} {source : Source} {asked : List String}

/-- A table that is known is not asked for again. -/
theorem settles_declarationsOf_known {table : String} (old : table ∈ asked) :
    schema.Settles (Columns.declarationsOf (schema.known asked) table) []
      (schema.declared table, schema.known asked) := by
  rw [Columns.declarationsOf, lookup_known, if_pos old]
  exact settles_pure _

theorem settles_declarationsOf_new {table : String} (new : table ∉ asked) :
    schema.Settles (Columns.declarationsOf (schema.known asked) table) [table]
      (schema.declared table, schema.known (table :: asked)) := by
  rw [Columns.declarationsOf, lookup_known, if_neg new]
  exact settles_bind_pure (settles_attempt table) fun answer =>
    (answer.toOption.getD [], (table, answer.toOption.getD []) ::
      schema.known asked)

theorem typeOf_eq_typeIn {table name : String} {column : Column}
    (undeclared : column.dataType = none)
    (located : source.declarationOf column = some (table, name)) :
    schema.typeOf source column = typeIn (schema.declared table) name := by
  have found_eq : schema.found? source column =
      ((schema.declared table).find? fun declaration =>
        Text.sameLetters declaration.name name).map fun declaration =>
          .ofDeclaration name declaration.sqlType := by
    rw [found?, located]
    rfl
  rw [typeOf, undeclared, found_eq, typeIn]
  generalize (schema.declared table).find? _ = declaration
  cases declaration with
  | none => rfl
  | some declaration =>
      simp only [Option.map_some, Option.none_or, Option.getD_some]

/-- Whatever is known, a column has the type that it has by itself.  The table
that it needs is known afterwards. -/
theorem settles_typeOf (column : Column) :
    schema.Settles (Columns.typeOf source (schema.known asked) column)
      (source.newTables asked column)
      (schema.typeOf source column,
        schema.known (source.newTables asked column ++ asked)) := by
  unfold Columns.typeOf
  split
  · rename_i declared declared_eq
    have settled : source.neededTable? column = none := by
      simp [Source.neededTable?, declared_eq]
    have type_eq : schema.typeOf source column = declared := by
      simp [typeOf, declared_eq]
    rw [Source.newTables_of_none settled, type_eq]
    exact settles_pure _
  · rename_i undeclared nowhere
    have settled : source.neededTable? column = none := by
      simp [Source.neededTable?, nowhere]
    have type_eq : schema.typeOf source column = .unknown := by
      simp [typeOf, undeclared, found?, nowhere]
    rw [Source.newTables_of_none settled, type_eq]
    exact settles_pure _
  · rename_i table name undeclared located
    have needed : source.neededTable? column = some table := by
      simp [Source.neededTable?, undeclared, located]
    rw [typeOf_eq_typeIn undeclared located]
    by_cases old : table ∈ asked
    · rw [Source.newTables_of_mem needed old]
      exact settles_bind_pure (settles_declarationsOf_known old) fun found =>
        (typeIn found.1 name, found.2)
    · rw [Source.newTables_of_notMem needed old]
      exact settles_bind_pure (settles_declarationsOf_new old) fun found =>
        (typeIn found.1 name, found.2)

theorem settles_typesFrom (columns : Columns) :
    schema.Settles (Columns.typesFrom source (schema.known asked) columns)
      (source.neededTables asked columns)
      (columns.map fun column =>
        (column.key, schema.typeOf source column)) := by
  induction columns generalizing asked with
  | nil => exact settles_pure []
  | cons column rest ih =>
      rw [Source.neededTables_cons]
      exact settles_bind (settles_typeOf column)
        (settles_bind_pure ih fun types =>
          (column.key, schema.typeOf source column) :: types)

theorem lookup_types (columns : Columns) (type : Column → DataType)
    (key : String) :
    (columns.map fun column => (column.key, type column)).lookup key =
      (columns.get? key).map type := by
  induction columns with
  | nil => rfl
  | cons column rest ih =>
      rw [List.map_cons, List.lookup_cons]
      by_cases same : key = column.key
      · simp [Columns.get?, same]
      · have different : column.key ≠ key := fun equal => same equal.symm
        rw [beq_eq_false_iff_ne.mpr same, Columns.get?,
          List.find?_cons_of_neg (by simpa using different)]
        exact ih

/-- With an engine whose answers depend on the table alone, finding the types of
columns has a single run, and this does not fail.  Each column is found to have
the type that it has by itself, whatever was asked for the columns in front of
it.  The engine is asked once for each table that a column without a declared
type needs, in the order in which these columns come, and for nothing else. -/
theorem runs_types_iff (schema : Schema) (source : Source)
    (columns : Columns) :
    let tables := (columns.filterMap source.neededTable?).eraseDups
    let types : ColumnTypes := columns.map fun column =>
      (column.key, schema.typeOf source column)
    (∀ events outcome,
      Runs (columns.types source) events outcome ∧ schema.Answers events ↔
        events = tables.map schema.event ∧ outcome = .ok types) ∧
      tables.Nodup ∧
      ((columns.map Column.key).Nodup → ∀ column ∈ columns,
        types.lookup column.key = some (schema.typeOf source column)) := by
  intro tables types
  have tables_eq : source.neededTables [] columns = tables := by
    simp [Source.neededTables, tables]
  have settles : schema.Settles (columns.types source) tables types := by
    rw [← tables_eq]
    exact @settles_typesFrom schema source [] columns
  refine ⟨settles, tables_eq ▸ source.nodup_neededTables [] columns, ?_⟩
  intro distinct column member
  rw [lookup_types, Columns.get?_key distinct member, Option.map_some]

end Schema

namespace Demo

/-- People and their teams, of which the teams have no declared columns. -/
def teamSource : Source :=
  .ofClauses "*" "people p JOIN teams t ON t.id = p.team" "" (.positional [])

def teamColumns : Columns :=
  [{ key := "timejoined", header := "Joined",
      expression := some "p.timejoined" },
    { key := "team", header := "Team", expression := some "t.name" },
    { key := "age", header := "Age", expression := some "x.age",
      dataType := some .number },
    { key := "name", header := "Name", expression := some "p.NAME" },
    { key := "note", header := "Note", expression := some "notes.body" }]

/-- The notes cannot be looked at. -/
def teamSchema : Schema
  | "people" => .ok [⟨"name", "VARCHAR(80)"⟩, ⟨"TimeJoined", "INTEGER"⟩]
  | "notes" => .error { kind := .schema, message := "locked" }
  | _ => .ok []

end Demo

namespace Schema

/-- Five columns need three tables, of which one fails and one is empty. -/
theorem team_runs_types :
    (Demo.teamColumns.map Column.key).Nodup ∧
      (∃ events outcome,
        Runs (Columns.types Demo.teamColumns Demo.teamSource) events outcome ∧
          events = ["people", "teams", "notes"].map Demo.teamSchema.event ∧
          outcome = .ok [("timejoined", .timestamp), ("team", .unknown),
            ("age", .number), ("name", .text), ("note", .unknown)]) ∧
      (Demo.teamColumns.map fun column =>
        (column.key, Demo.teamSchema.typeOf Demo.teamSource column)).lookup
          "name" = some .text := by
  have distinct : (Demo.teamColumns.map Column.key).Nodup := by decide
  obtain ⟨settles, -, found⟩ :=
    runs_types_iff Demo.teamSchema Demo.teamSource Demo.teamColumns
  have tables_eq :
      (Demo.teamColumns.filterMap Demo.teamSource.neededTable?).eraseDups =
        ["people", "teams", "notes"] := by
    decide +kernel
  have types_eq : (Demo.teamColumns.map fun column =>
      (column.key, Demo.teamSchema.typeOf Demo.teamSource column)) =
        [("timejoined", .timestamp), ("team", .unknown), ("age", .number),
          ("name", .text), ("note", .unknown)] := by
    decide +kernel
  rw [tables_eq, types_eq] at settles
  obtain ⟨runs, -⟩ := (settles _ _).mpr ⟨rfl, rfl⟩
  have name := found distinct _ (List.mem_of_getElem? (i := 3) rfl)
  refine ⟨distinct, ⟨_, _, runs, rfl, rfl⟩, name.trans ?_⟩
  decide +kernel

end Schema

end DataGrid
