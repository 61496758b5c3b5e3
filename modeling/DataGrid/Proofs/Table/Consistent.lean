import DataGrid.Demo
import DataGrid.Proofs.Outcome
import Mathlib.Data.List.Nodup

/-!
# Which descriptions can be built

A table is built from its description by checks in a row, in between of which
the description is completed: actions get ids, addresses and labels, and the
order gets a column.  The checks accept exactly the descriptions that are
consistent, and what is built is the completed description.
-/

namespace DataGrid

/-- An item can be put behind others without coming twice when none of them has
its key. -/
theorem nodup_map_snoc_iff {α κ : Type} (key : α → κ) (items : List α)
    (item : α) :
    ((items ++ [item]).map key).Nodup ↔
      (items.map key).Nodup ∧ key item ∉ items.map key := by
  rw [List.map_append, List.map_singleton, ← List.concat_eq_append,
    List.nodup_concat, and_comm]

namespace Columns

variable {columns extended : Columns} {column : Column}

theorem get?_eq_none_iff {key : String} :
    columns.get? key = none ↔ key ∉ columns.map Column.key := by
  simp [get?]

/-- A column is found under its key when no other column has it. -/
theorem get?_key (distinct : (columns.map Column.key).Nodup)
    (member : column ∈ columns) : columns.get? column.key = some column := by
  induction columns with
  | nil => exact absurd member List.not_mem_nil
  | cons first rest ih =>
      obtain ⟨notLater, restDistinct⟩ := List.nodup_cons.mp distinct
      rcases List.mem_cons.mp member with rfl | later
      · simp [get?]
      · have different : first.key ≠ column.key := fun same =>
          notLater (same ▸ List.mem_map_of_mem later)
        rw [get?, List.find?_cons_of_neg (by simpa using different)]
        exact ih restDistinct later

theorem isSome_get?_iff {key : String} :
    (columns.get? key).isSome = true ↔ key ∈ columns.map Column.key := by
  rw [Option.isSome_iff_ne_none, ne_eq, get?_eq_none_iff, not_not]

/-- A column can be added when its key is neither blank nor taken. -/
theorem push_eq_ok_iff :
    columns.push column = .ok extended ↔
      Text.allBlank column.key = false ∧
        column.key ∉ columns.map Column.key ∧
        extended = columns ++ [column] := by
  unfold push
  split
  · rename_i blank
    simp [blank]
  split
  · rename_i taken
    simp [isSome_get?_iff.mp taken]
  · rename_i named free
    simp [named, isSome_get?_iff.not.mp free, eq_comm]

/-- Columns can be added one after another when all keys are different and none
of the new ones is blank.  They keep their order. -/
theorem pushAll_eq_ok_iff {given : List Column}
    (distinct : (columns.map Column.key).Nodup) :
    columns.pushAll given = .ok extended ↔
      (∀ column ∈ given, Text.allBlank column.key = false) ∧
        ((columns ++ given).map Column.key).Nodup ∧
        extended = columns ++ given := by
  induction given generalizing columns with
  | nil => simpa [pushAll, distinct] using eq_comm
  | cons column rest ih =>
      rw [pushAll, bind_eq_ok_iff, List.forall_mem_cons, List.append_cons]
      constructor
      · rintro ⟨pushed, first, others⟩
        obtain ⟨named, free, rfl⟩ := push_eq_ok_iff.mp first
        have longer := (nodup_map_snoc_iff _ _ _).mpr ⟨distinct, free⟩
        obtain ⟨othersNamed, different, rfl⟩ := (ih longer).mp others
        exact ⟨⟨named, othersNamed⟩, different, rfl⟩
      · rintro ⟨⟨named, othersNamed⟩, different, rfl⟩
        have longer : ((columns ++ [column]).map Column.key).Nodup :=
          (List.map_append ▸ different).of_append_left
        have free := ((nodup_map_snoc_iff _ _ _).mp longer).2
        exact ⟨_, push_eq_ok_iff.mpr ⟨named, free, rfl⟩,
          (ih longer).mpr ⟨othersNamed, different, rfl⟩⟩

theorem nodup_of_pushAll {given : List Column}
    (distinct : (columns.map Column.key).Nodup)
    (pushes : columns.pushAll given = .ok extended) :
    (extended.map Column.key).Nodup := by
  obtain ⟨-, different, rfl⟩ := (pushAll_eq_ok_iff distinct).mp pushes
  exact different

theorem pushAll_nil_eq_ok_iff {given : List Column} :
    pushAll [] given = .ok extended ↔
      (∀ column ∈ given, Text.allBlank column.key = false) ∧
        (given.map Column.key).Nodup ∧ extended = given := by
  have distinct : (List.map Column.key []).Nodup := .nil
  simpa using pushAll_eq_ok_iff distinct

end Columns

/-- The names of all fields of a form are identifiers. -/
def Form.Identifies (form : Form) : Prop :=
  ∀ field ∈ form.fields, Text.isIdentifier field.name = true

theorem Form.check_eq_ok_iff {form : Form} :
    form.check = .ok () ↔ form.Identifies := by
  unfold check Identifies
  split
  · rename_i field found
    have among := List.mem_of_find?_eq_some found
    have invalid := List.find?_some found
    simp only [reduceCtorEq, false_iff]
    intro valid
    simp [valid field among] at invalid
  · rename_i missing
    simpa using missing

/-- A table finds a form under every id that one of its forms has. -/
theorem Table.exists_form {table : Table} {id : String}
    (known : id ∈ table.forms.map Form.id) :
    ∃ form ∈ table.forms, table.form id = .ok form ∧ form.id = id := by
  unfold form
  split
  · rename_i form found
    have same := List.find?_some found
    exact ⟨form, List.mem_of_find?_eq_some found, rfl, by simpa using same⟩
  · rename_i missing
    simp only [List.find?_eq_none, List.mem_map] at missing known
    obtain ⟨form, among, same⟩ := known
    exact absurd (by simpa using same) (missing form among)

namespace TableDraft

/-- Forms that are put among others, sorted by their ids. -/
def insertForms (forms given : List Form) : List Form :=
  given.foldl (fun sorted form => insertForm form sorted) forms

theorem perm_insertForm (form : Form) (forms : List Form) :
    (insertForm form forms).Perm (form :: forms) := by
  induction forms with
  | nil => exact .refl _
  | cons other rest ih =>
      unfold insertForm
      split
      · exact .refl _
      · exact (ih.cons other).trans (.swap form other rest)

theorem perm_insertForms (forms given : List Form) :
    (insertForms forms given).Perm (forms ++ given) := by
  induction given generalizing forms with
  | nil => simp [insertForms]
  | cons form rest ih =>
      have step : (insertForms (insertForm form forms) rest).Perm
          (form :: forms ++ rest) :=
        (ih _).trans ((perm_insertForm form forms).append_right rest)
      exact step.trans List.perm_middle.symm

theorem any_id_iff {forms : List Form} {id : String} :
    forms.any (·.id == id) = true ↔ id ∈ forms.map Form.id := by
  simp

/-- Forms pass their checks when all ids are different and all names of fields
are identifiers. -/
theorem checkedForms_eq_ok_iff {forms given checked : List Form}
    (distinct : (forms.map Form.id).Nodup) :
    checkedForms forms given = .ok checked ↔
      (∀ form ∈ given, form.Identifies) ∧
        ((forms ++ given).map Form.id).Nodup ∧
        checked = insertForms forms given := by
  induction given generalizing forms with
  | nil => simpa [checkedForms, insertForms, distinct] using eq_comm
  | cons form rest ih =>
      -- The form is put somewhere among the others, which is all the same to
      -- the ids being different.
      have moved : (insertForm form forms).Perm (forms ++ [form]) :=
        (perm_insertForm form forms).trans
          (List.perm_append_singleton form forms).symm
      have inserted : ((insertForm form forms).map Form.id).Nodup ↔
          ((forms ++ [form]).map Form.id).Nodup :=
        (moved.map _).nodup_iff
      have all : ((insertForm form forms ++ rest).map Form.id).Nodup ↔
          ((forms ++ [form] ++ rest).map Form.id).Nodup :=
        ((moved.append_right rest).map _).nodup_iff
      simp only [checkedForms, throw_eq_error, error_bind]
      rw [bind_eq_ok_iff, List.forall_mem_cons, List.append_cons, ← all]
      constructor
      · rintro ⟨⟨⟩, checks, others⟩
        split at others
        · cases others
        · rename_i free
          rw [any_id_iff] at free
          have longer := inserted.mpr
            ((nodup_map_snoc_iff _ _ _).mpr ⟨distinct, free⟩)
          obtain ⟨othersCheck, different, rfl⟩ := (ih longer).mp others
          exact ⟨⟨Form.check_eq_ok_iff.mp checks, othersCheck⟩, different, rfl⟩
      · rintro ⟨⟨checks, othersCheck⟩, different, rfl⟩
        have longer : ((insertForm form forms).map Form.id).Nodup :=
          (List.map_append ▸ different).of_append_left
        have free := ((nodup_map_snoc_iff _ _ _).mp (inserted.mp longer)).2
        refine ⟨(), Form.check_eq_ok_iff.mpr checks, ?_⟩
        rw [if_neg (any_id_iff.not.mpr free)]
        exact (ih longer).mpr ⟨othersCheck, different, rfl⟩

theorem checkedForms_nil_eq_ok_iff {given checked : List Form} :
    checkedForms [] given = .ok checked ↔
      (∀ form ∈ given, form.Identifies) ∧ (given.map Form.id).Nodup ∧
        checked = insertForms [] given := by
  have distinct : (List.map Form.id []).Nodup := .nil
  simpa using checkedForms_eq_ok_iff distinct

/-- The actions of a description, numbered from some number on, with what they
leave out. -/
def completedFrom (baseUrl : String) (number : Nat)
    (actions : List RowAction) : List RowAction :=
  (actions.zipIdx number).map fun (action, number) =>
    completeAction baseUrl number action

/-- The form that an action opens is among some forms. -/
def Links (forms : List Form) (action : RowAction) : Prop :=
  ∀ link ∈ action.form, link.formId ∈ forms.map Form.id

/-- An action passes its checks when its id is not taken and the form that it
opens exists. -/
theorem checkedActions_cons_eq_ok_iff {baseUrl : String} {forms : List Form}
    {actions rest checked : List RowAction} {action added : RowAction}
    (completed : completeAction baseUrl (actions.length + 1) action = added) :
    checkedActions baseUrl forms actions (action :: rest) = .ok checked ↔
      added.id ∉ actions.map RowAction.id ∧ Links forms action ∧
        checkedActions baseUrl forms (actions ++ [added]) rest =
          .ok checked := by
  have opens : added.form = action.form := completed ▸ rfl
  have taken_iff : actions.any (·.id == added.id) = true ↔
      added.id ∈ actions.map RowAction.id := by
    simp
  simp only [checkedActions, throw_eq_error, error_bind, completed, opens]
  by_cases taken : added.id ∈ actions.map RowAction.id
  · rw [if_pos (taken_iff.mpr taken)]
    simp [taken]
  rw [if_neg (taken_iff.not.mpr taken), and_iff_right taken]
  cases opened : action.form with
  | none => simp [Links, opened]
  | some link =>
      have found_iff : (!forms.any (·.id == link.formId)) = true ↔
          link.formId ∉ forms.map Form.id := by
        simp
      have links_iff : Links forms action ↔
          link.formId ∈ forms.map Form.id := by
        simp [Links, opened]
      rw [links_iff]
      dsimp only
      split
      · rename_i missing
        simp [found_iff.mp missing]
      · rename_i found
        rw [found_iff, not_not] at found
        rw [and_iff_right found]

/-- Actions pass their checks when the ids that they have or get are different
and the forms that they open exist.  They keep their order. -/
theorem checkedActions_eq_ok_iff {baseUrl : String} {forms : List Form}
    {actions given checked : List RowAction}
    (distinct : (actions.map RowAction.id).Nodup) :
    checkedActions baseUrl forms actions given = .ok checked ↔
      (∀ action ∈ given, Links forms action) ∧
        ((actions ++ completedFrom baseUrl (actions.length + 1) given).map
          RowAction.id).Nodup ∧
        checked =
          actions ++ completedFrom baseUrl (actions.length + 1) given := by
  induction given generalizing actions with
  | nil => simpa [checkedActions, completedFrom, distinct] using eq_comm
  | cons action rest ih =>
      let added := completeAction baseUrl (actions.length + 1) action
      have completed_eq :
          actions ++ completedFrom baseUrl (actions.length + 1)
              (action :: rest) =
            actions ++ [added] ++
              completedFrom baseUrl ((actions ++ [added]).length + 1) rest := by
        simp [completedFrom, added]
      rw [checkedActions_cons_eq_ok_iff (rfl : _ = added),
        List.forall_mem_cons, completed_eq]
      constructor
      · rintro ⟨free, linked, others⟩
        have longer := (nodup_map_snoc_iff _ _ _).mpr ⟨distinct, free⟩
        obtain ⟨othersLinked, different, rfl⟩ := (ih longer).mp others
        exact ⟨⟨linked, othersLinked⟩, different, rfl⟩
      · rintro ⟨⟨linked, othersLinked⟩, different, rfl⟩
        have longer : ((actions ++ [added]).map RowAction.id).Nodup :=
          (List.map_append ▸ different).of_append_left
        have free := ((nodup_map_snoc_iff _ _ _).mp longer).2
        exact ⟨free, linked, (ih longer).mpr ⟨othersLinked, different, rfl⟩⟩

theorem checkedActions_nil_eq_ok_iff {baseUrl : String} {forms : List Form}
    {given checked : List RowAction} :
    checkedActions baseUrl forms [] given = .ok checked ↔
      (∀ action ∈ given, Links forms action) ∧
        ((completedFrom baseUrl 1 given).map RowAction.id).Nodup ∧
        checked = completedFrom baseUrl 1 given := by
  have distinct : (List.map RowAction.id []).Nodup := .nil
  simpa using checkedActions_eq_ok_iff distinct

/-- The ids that the actions have, or get from their places. -/
def actionIds (draft : TableDraft) : List String :=
  (draft.actions.zipIdx 1).map fun (action, number) =>
    if action.id = "" then s!"action-{number}" else action.id

/-- A description that has all that a table needs, and in which nothing that has
to be found by its name is missing or comes twice. -/
structure Consistent (draft : TableDraft) : Prop where
  named : Text.allBlank draft.id = false
  pageSize_pos : 0 < draft.pageSize
  columns_ne_nil : draft.columns ≠ []
  columns_named : ∀ column ∈ draft.columns, Text.allBlank column.key = false
  columns_distinct : (draft.columns.map Column.key).Nodup
  sort_known : ∀ sort ∈ draft.sortDefault,
    sort.column ∈ draft.columns.map Column.key
  fields_valid : ∀ form ∈ draft.forms, ∀ field ∈ form.fields,
    Text.isIdentifier field.name = true
  forms_distinct : (draft.forms.map Form.id).Nodup
  actions_distinct : draft.actionIds.Nodup
  actions_linked : ∀ action ∈ draft.actions, ∀ link ∈ action.form,
    link.formId ∈ draft.forms.map Form.id

/-- The table that a description is about, when its first column is known. -/
def completed (draft : TableDraft) (first : Column) : Table where
  id := draft.id
  source := draft.source
  columns := draft.columns
  actions := completedFrom draft.baseUrl 1 draft.actions
  hook := draft.hook
  detailPanel := draft.detailPanel
  fullText := draft.fullText
  forms := insertForms [] draft.forms
  sortDefault := draft.sortDefault.getD (defaultSort first)
  pageSize := draft.pageSize
  pageSizeOptions := draft.pageSizeOptions
  initialPage := max draft.initialPage 0
  baseUrl := draft.baseUrl
  dateFormat := draft.dateFormat
  flags := draft.flags

variable {draft : TableDraft} {table : Table}

theorem map_id_completedFrom (draft : TableDraft) :
    (completedFrom draft.baseUrl 1 draft.actions).map RowAction.id =
      draft.actionIds := by
  simp [completedFrom, actionIds, completeAction, Function.comp_def]

theorem mem_map_id_insertForms {id : String} :
    id ∈ (insertForms [] draft.forms).map Form.id ↔
      id ∈ draft.forms.map Form.id :=
  ((perm_insertForms [] draft.forms).map Form.id).mem_iff

theorem checkedSort_eq_ok_iff {columns : Columns} {first : Column}
    {sort : SortOrder} :
    draft.checkedSort columns first = .ok sort ↔
      (∀ given ∈ draft.sortDefault, given.column ∈ columns.map Column.key) ∧
        sort = draft.sortDefault.getD (defaultSort first) := by
  unfold checkedSort
  cases draft.sortDefault with
  | none => simp [eq_comm]
  | some given =>
      simp only [Option.mem_some_iff, forall_eq', Option.getD_some,
        ← Columns.isSome_get?_iff]
      split
      · rename_i known
        simp [known, eq_comm]
      · rename_i unknown
        simp [unknown]

/-- A description is built when it is consistent, and what is built is what it
describes. -/
theorem build_eq_ok_iff :
    draft.build = .ok table ↔ draft.Consistent ∧
      ∃ first ∈ draft.columns.head?, table = draft.completed first := by
  unfold build
  simp only [throw_eq_error, error_bind]
  constructor
  · intro built
    split at built
    · cases built
    rename_i named
    split at built
    · cases built
    rename_i sized
    obtain ⟨columns, pushed, built⟩ := (bind_eq_ok_iff _ _ _).mp built
    obtain ⟨columnsNamed, distinct, rfl⟩ :=
      Columns.pushAll_nil_eq_ok_iff.mp pushed
    split at built
    · cases built
    rename_i first head
    obtain ⟨sort, sorted, built⟩ := (bind_eq_ok_iff _ _ _).mp built
    obtain ⟨forms, formed, built⟩ := (bind_eq_ok_iff _ _ _).mp built
    obtain ⟨actions, acted, built⟩ := (bind_eq_ok_iff _ _ _).mp built
    obtain rfl := Except.ok.inj built
    obtain ⟨sortKnown, rfl⟩ := checkedSort_eq_ok_iff.mp sorted
    obtain ⟨valid, formsDistinct, rfl⟩ := checkedForms_nil_eq_ok_iff.mp formed
    obtain ⟨linked, actionsDistinct, rfl⟩ :=
      checkedActions_nil_eq_ok_iff.mp acted
    refine ⟨?_, first, head, rfl⟩
    exact {
      named := by simpa using named
      pageSize_pos := by omega
      columns_ne_nil := fun none => by simp [none] at head
      columns_named := columnsNamed
      columns_distinct := distinct
      sort_known := sortKnown
      fields_valid := valid
      forms_distinct := formsDistinct
      actions_distinct := draft.map_id_completedFrom ▸ actionsDistinct
      actions_linked := fun action among link opened =>
        mem_map_id_insertForms.mp (linked action among link opened) }
  · rintro ⟨consistent, first, head, rfl⟩
    have sized := consistent.pageSize_pos
    rw [if_neg (by simp [consistent.named]), if_neg (by omega)]
    refine (bind_eq_ok_iff _ _ _).mpr ⟨_, Columns.pushAll_nil_eq_ok_iff.mpr
      ⟨consistent.columns_named, consistent.columns_distinct, rfl⟩, ?_⟩
    rw [Option.mem_def.mp head]
    refine (bind_eq_ok_iff _ _ _).mpr ⟨_, checkedSort_eq_ok_iff.mpr
      ⟨consistent.sort_known, rfl⟩, ?_⟩
    refine (bind_eq_ok_iff _ _ _).mpr ⟨_, checkedForms_nil_eq_ok_iff.mpr
      ⟨consistent.fields_valid, consistent.forms_distinct, rfl⟩, ?_⟩
    refine (bind_eq_ok_iff _ _ _).mpr ⟨_, checkedActions_nil_eq_ok_iff.mpr
      ⟨fun action among link opened => mem_map_id_insertForms.mpr
          (consistent.actions_linked action among link opened),
        draft.map_id_completedFrom.symm ▸ consistent.actions_distinct,
        rfl⟩, ?_⟩
    rfl

/-- A table has the columns and the completed actions of a description, and
whatever it is asked for by name is there. -/
structure Furnishes (draft : TableDraft) (table : Table) : Prop where
  columns_eq : table.columns = draft.columns
  actions_eq : table.actions =
    (draft.actions.zipIdx 1).map fun (action, number) =>
      completeAction draft.baseUrl number action
  actions_named : ∀ action ∈ table.actions, action.id ≠ ""
  actions_distinct : (table.actions.map RowAction.id).Nodup
  sort_known : ∃ column ∈ table.columns,
    table.columns.get? table.sortDefault.column = some column
  initialPage_nonneg : 0 ≤ table.initialPage
  forms_found : ∀ action ∈ table.actions, ∀ link ∈ action.form,
    ∃ form ∈ draft.forms, table.form link.formId = .ok form ∧
      form.id = link.formId

theorem id_completeAction_ne (baseUrl : String) (number : Nat)
    (action : RowAction) : (completeAction baseUrl number action).id ≠ "" := by
  rw [completeAction]
  split
  · intro empty
    have := congrArg String.toList empty
    simp [toString] at this
  · rename_i given
    simpa using given

theorem Consistent.furnishes (consistent : draft.Consistent) {first : Column}
    (head : first ∈ draft.columns.head?) :
    draft.Furnishes (draft.completed first) where
  columns_eq := rfl
  actions_eq := rfl
  actions_named action member := by
    obtain ⟨⟨given, number⟩, -, rfl⟩ := List.mem_map.mp member
    exact id_completeAction_ne _ _ _
  actions_distinct :=
    draft.map_id_completedFrom.symm ▸ consistent.actions_distinct
  sort_known := by
    have known : (draft.completed first).sortDefault.column ∈
        draft.columns.map Column.key := by
      cases given : draft.sortDefault with
      | none =>
          simpa [completed, given, defaultSort] using
            ⟨first, List.mem_of_head? head, rfl⟩
      | some sort => simpa [completed, given] using
          consistent.sort_known sort given
    obtain ⟨column, found⟩ :=
      Option.isSome_iff_exists.mp (Columns.isSome_get?_iff.mpr known)
    exact ⟨column, List.mem_of_find?_eq_some found, found⟩
  initialPage_nonneg := Int.le_max_right _ _
  forms_found action member link opened := by
    obtain ⟨⟨given, number⟩, among, rfl⟩ := List.mem_map.mp member
    have linked := consistent.actions_linked given
      (List.fst_mem_of_mem_zipIdx among) link opened
    obtain ⟨form, known, found, same⟩ := Table.exists_form
      (show link.formId ∈ (draft.completed first).forms.map Form.id from
        mem_map_id_insertForms.mpr linked)
    exact ⟨form, by simpa using (perm_insertForms _ _).mem_iff.mp known,
      found, same⟩

/-- The checks accept exactly the consistent descriptions.  What is built then
has the columns and the actions of its description in their order, with a
non-empty id of its own for every action; the default order is by one of its
columns, the first page that is shown is not negative, and the form that an
action opens is found. -/
theorem build_succeeds_iff (draft : TableDraft) :
    ((∃ table, draft.build = .ok table) ↔ draft.Consistent) ∧
      ∀ table, draft.build = .ok table → draft.Furnishes table := by
  refine ⟨⟨?_, ?_⟩, ?_⟩
  · rintro ⟨table, built⟩
    exact (build_eq_ok_iff.mp built).1
  · intro consistent
    obtain ⟨first, rest, columns_eq⟩ :=
      List.exists_cons_of_ne_nil consistent.columns_ne_nil
    have head : first ∈ draft.columns.head? := by simp [columns_eq]
    exact ⟨_, build_eq_ok_iff.mpr ⟨consistent, first, head, rfl⟩⟩
  · intro table built
    obtain ⟨consistent, first, head, rfl⟩ := build_eq_ok_iff.mp built
    exact consistent.furnishes head

end TableDraft

namespace Demo

/-- The people with an edit action under the id that the delete action gets. -/
def collidingDraft : TableDraft :=
  { draft 50 with
    actions := [{ kind := .edit, id := "action-2", url := "#" },
      { kind := .delete, url := "#" }] }

end Demo

namespace TableDraft

/-- The table of people can be built, and its order and its forms are found.  It
cannot be built when an id that is given meets one that is made up. -/
theorem people_build_succeeds :
    (∃ table, (Demo.draft 50).build = .ok table ∧
      (Demo.draft 50).Furnishes table) ∧
      ¬ ∃ table, Demo.collidingDraft.build = .ok table := by
  have consistent : (Demo.draft 50).Consistent := {
    named := by decide
    pageSize_pos := by decide
    columns_ne_nil := by decide
    columns_named := by decide
    columns_distinct := by decide
    sort_known := by simp [Demo.draft, Demo.columns]
    fields_valid := by decide
    forms_distinct := by decide
    actions_distinct := by decide +kernel
    actions_linked := by simp [Demo.draft, Demo.personForm] }
  obtain ⟨table, built⟩ := (build_succeeds_iff (Demo.draft 50)).1.mpr consistent
  refine ⟨⟨table, built, (build_succeeds_iff _).2 table built⟩, ?_⟩
  rw [(build_succeeds_iff Demo.collidingDraft).1]
  intro colliding
  exact absurd colliding.actions_distinct (by decide +kernel)

end TableDraft

end DataGrid
