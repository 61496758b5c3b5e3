import DataGrid.Proofs.Decimal.Integer
import DataGrid.Proofs.Dispatch.Deletes
import DataGrid.Proofs.Filter.Styles

/-!
# Rows and the values that address them

Statements address a row by a value made of the text of its id, and an id that
names an integer becomes that integer.  The text can be read back from the
value as long as it is the integer's decimal; ids that spell one integer in two
ways address one and the same row.
-/

namespace DataGrid

namespace Decimal

/-- The text names an integer of sixty-four bits without being its decimal. -/
def Respelled (text : String) : Prop :=
  (readInteger text).isSome = true ∧ isSpelledOtherwise text.toList = true

/-- Two texts name one integer of sixty-four bits. -/
def NameOne (first second : String) : Prop :=
  ∃ value, readInteger first = some value ∧ readInteger second = some value

theorem not_respelled_decimal (value : Int) :
    ¬ Respelled (String.ofList (Json.integerText value)) := by
  rintro ⟨-, otherwise⟩
  rw [String.toList_ofList] at otherwise
  have decimal := (spells_integerText value).integerText_eq_iff.mp rfl
  simp [decimal] at otherwise

end Decimal

namespace Sql.Value

/-- A value that addresses a row, read back as the text of the row's id. -/
def idText? : Value → Option String
  | .integer value => some (String.ofList (Json.integerText value))
  | .text value => some value
  | _ => none

theorem idText?_ofRowId_iff (id : String) :
    (ofRowId id).idText? = some id ↔ ¬ Decimal.Respelled id := by
  unfold ofRowId Decimal.Respelled
  cases read : Decimal.readInteger id with
  | none => simp [idText?]
  | some value =>
      have spells := (Decimal.readCharacters_eq_some_iff.mp read).2
      have text_eq : String.ofList (Json.integerText value) = id ↔
          Json.integerText value = id.toList := by
        rw [← String.toList_inj, String.toList_ofList]
      simp [idText?, text_eq, spells.integerText_eq_iff]

theorem ofRowId_eq_iff (id other : String) :
    ofRowId id = ofRowId other ↔ id = other ∨ Decimal.NameOne id other := by
  unfold ofRowId Decimal.NameOne
  have differ (reads : Decimal.readInteger id ≠ Decimal.readInteger other) :
      id ≠ other :=
    fun same => reads (congrArg Decimal.readInteger same)
  cases read : Decimal.readInteger id with
  | none =>
      cases otherRead : Decimal.readInteger other with
      | none => simp
      | some otherValue => simp [differ (by simp [read, otherRead])]
  | some value =>
      cases otherRead : Decimal.readInteger other with
      | none => simp [differ (by simp [read, otherRead])]
      | some otherValue =>
          have values_eq (same : id = other) : value = otherValue := by
            subst same
            exact Option.some.inj (read.symm.trans otherRead)
          simp only [integer.injEq, Option.some.injEq, exists_eq_left']
          exact ⟨fun same => .inr same.symm,
            fun same => same.elim values_eq Eq.symm⟩

end Sql.Value

/-- The values that tell rows apart: texts that are not empty, and integers of
sixty-four bits. -/
inductive Json.IsKey : Json → Prop
  | text {value : String} (nonempty : value ≠ "") : IsKey (.text value)
  | integer {value : Int} (fits : Decimal.fits value = true) :
      IsKey (.ofInt value)

namespace Row

/-- The statements that address a row by its id bind a value for it: a condition
that rows are selected, a lookup, a change and a removal. -/
structure Addresses (id : String) (value : Sql.Value) : Prop where
  selects : ∀ (context : Filter.Context) (ids : List String) (index : Nat),
    ids[index]? = some id →
      (Filter.compileSelection context ids).params.values[index]? = some value
  looksUp : ∀ (table : Table) (statement : Sql.Statement),
    table.lookup (.single id) = .ok statement →
      statement.params.values.getLast? = some value
  changes : ∀ (physical : String) (values : List (String × Sql.Value))
    (style : Sql.Style),
    (Sql.Sink.statement style Table.formStem
      (Table.writeUpdate physical id values)).params.values.getLast? =
        some value
  removes : ∀ (physical : String) (style : Sql.Style),
    (Sql.Sink.statement style Table.formStem
      (Table.writeDelete physical id)).params.values = [value]

theorem addresses_ofRowId (id : String) : Addresses id (.ofRowId id) where
  selects context ids index here := by
    rw [Filter.compileSelection_eq_statement, Sql.Fragment.statement,
      Sql.Fragment.params, Sql.Params.values_number,
      Filter.values_selectionCondition,
      List.getElem?_map, here]
    rfl
  looksUp table statement stated := by
    have values_eq := (Source.rowStatement_spec (by simp) stated).2
    rw [values_eq, List.map_singleton, List.getLast?_concat]
  changes physical values style := by
    rw [(Table.puts_writeUpdate physical id values).statement_eq,
      Sql.Fragment.statement, Sql.Fragment.params, Sql.Params.values_number,
      Table.values_updateFragment, List.getLast?_concat]
  removes physical style := by
    rw [(Table.puts_writeDelete physical id).statement_eq]
    exact Table.values_deleteFragment physical id style

theorem id?_of_key {row : Row} {key : Json}
    (cell : Json.Fields.get? row "id" = some key) (isKey : key.IsKey) :
    row.id? = some key.plain := by
  rw [id?, cell, Option.bind_some]
  cases isKey with
  | text nonempty =>
      unfold Json.rowId?
      split <;> simp_all
  | integer fits => rfl

/-- Rows whose ids are texts or integers are addressed by values.  The id is
read back from its value unless it is a text that names an integer without being
its decimal, and two rows are addressed by one value when their ids are the same
or name one integer. -/
theorem addressed_exactly {row other : Row} {key otherKey : Json}
    (cell : Json.Fields.get? row "id" = some key) (isKey : key.IsKey)
    (otherCell : Json.Fields.get? other "id" = some otherKey)
    (otherIsKey : otherKey.IsKey) :
    ∃ id otherId value otherValue,
      row.id? = some id ∧ other.id? = some otherId ∧
      Addresses id value ∧ Addresses otherId otherValue ∧
      (value.idText? = some id ↔
        ¬ ∃ text, key = .text text ∧ Decimal.Respelled text) ∧
      (value = otherValue ↔ id = otherId ∨ Decimal.NameOne id otherId) := by
  refine ⟨_, _, _, _, id?_of_key cell isKey, id?_of_key otherCell otherIsKey,
    addresses_ofRowId _, addresses_ofRowId _, ?_, Sql.Value.ofRowId_eq_iff _ _⟩
  rw [Sql.Value.idText?_ofRowId_iff]
  cases isKey with
  | text nonempty => simp [Json.plain]
  | @integer value fits =>
      have decimal := Decimal.not_respelled_decimal value
      simpa [Json.ofInt, Json.plain, Json.toText, Json.characters,
        Json.Number.characters] using decimal

/-- Agents by their numbers: the two rows have different ids, and one value
addresses both of them. -/
theorem agents_addressed_exactly :
    let agent : Row := [("id", .text "007")]
    let counted : Row := [("id", .ofInt 7)]
    Json.Fields.get? agent "id" = some (.text "007") ∧
      Json.IsKey (.text "007") ∧
      Json.Fields.get? counted "id" = some (.ofInt 7) ∧
      Json.IsKey (.ofInt 7) ∧
      ∃ value, agent.id? = some "007" ∧ counted.id? = some "7" ∧
        Addresses "007" value ∧ Addresses "7" value ∧
        value.idText? ≠ some "007" := by
  intro agent counted
  have cell : Json.Fields.get? agent "id" = some (.text "007") := rfl
  have otherCell : Json.Fields.get? counted "id" = some (.ofInt 7) := rfl
  have isKey : Json.IsKey (.text "007") := .text (by decide)
  have otherIsKey : Json.IsKey (.ofInt 7) := .integer (by decide)
  refine ⟨cell, isKey, otherCell, otherIsKey, ?_⟩
  obtain ⟨id, otherId, value, otherValue, id_eq, otherId_eq, addresses,
    otherAddresses, readBack, together⟩ :=
    addressed_exactly cell isKey otherCell otherIsKey
  have named : agent.id? = some "007" := by decide +kernel
  have otherNamed : counted.id? = some "7" := by decide +kernel
  obtain rfl := Option.some.inj (named.symm.trans id_eq)
  obtain rfl := Option.some.inj (otherNamed.symm.trans otherId_eq)
  have respelled : Decimal.Respelled "007" := by
    constructor <;> decide +kernel
  have one : Decimal.NameOne "007" "7" :=
    ⟨7, by decide +kernel, by decide +kernel⟩
  obtain rfl := together.mpr (.inr one)
  refine ⟨value, named, otherNamed, addresses, otherAddresses, ?_⟩
  exact fun back => readBack.mp back ⟨_, rfl, respelled⟩

/-- Not every id is read back from the value that addresses its row. -/
theorem not_forall_idText? :
    ¬ ∀ (row : Row) (key : Json) (id : String),
      Json.Fields.get? row "id" = some key → key.IsKey → row.id? = some id →
        (Sql.Value.ofRowId id).idText? = some id := by
  intro claimed
  have back := claimed [("id", .text "007")] (.text "007") "007" rfl
    (.text (by decide)) (by decide +kernel)
  exact absurd back (by decide +kernel)

end Row

end DataGrid
