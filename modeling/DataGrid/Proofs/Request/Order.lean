import DataGrid.Proofs.Form.Agreement
import DataGrid.Request
import Mathlib.Data.List.Perm.Basic
import Mathlib.Data.String.Basic
import Mathlib.Order.Basic

/-!
# The order of parameters

Parameters are named, and no name comes twice.  Whatever is looked up among
them does not depend on their order, key fields are put into an order of their
own, and the submitted data hold the same under every name.
-/

namespace DataGrid

/-- Where no name comes twice, what is found under a name does not depend on the
order. -/
theorem lookup_eq_of_perm {β : Type} {fields permuted : List (String × β)}
    (perm : fields.Perm permuted) (nodup : (fields.map Prod.fst).Nodup)
    (name : String) : fields.lookup name = permuted.lookup name := by
  induction perm with
  | nil => rfl
  | cons field perm ih =>
      obtain ⟨first, value⟩ := field
      have rest := ih (List.nodup_cons.mp nodup).2
      rw [List.lookup_cons, List.lookup_cons, rest]
  | swap field other rest =>
      obtain ⟨first, value⟩ := field
      obtain ⟨second, another⟩ := other
      have differ : second ≠ first := by
        simp only [List.map_cons, List.nodup_cons, List.mem_cons] at nodup
        exact fun same => nodup.1 (.inl same)
      by_cases here : name = first
      · have elsewhere : (name == second) = false := by
          simpa [here] using Ne.symm differ
        simp only [List.lookup_cons, elsewhere]
      · have elsewhere : (name == first) = false := by
          simpa using here
        simp only [List.lookup_cons, elsewhere]
  | trans first _ ih ihRest =>
      exact (ih nodup).trans (ihRest ((first.map Prod.fst).nodup nodup))

namespace Request

variable {parameters permuted : Parameters}

/-- Fields of different names can be put into a list in either order. -/
theorem insertField_comm {first second : String} (differ : first ≠ second)
    (value other : String) (fields : List (String × String)) :
    insertField first value (insertField second other fields) =
      insertField second other (insertField first value fields) := by
  induction fields with
  | nil => grind [insertField]
  | cons field rest ih => grind [insertField]

/-- A key field tells the parameter that holds it. -/
theorem eq_of_keyField? {name field : String}
    (held : keyField? name = some field) : name = "rowid[" ++ field ++ "]" := by
  unfold keyField? at held
  simp only at held
  split at held
  · rename_i opens
    obtain ⟨rest, split⟩ := List.isPrefixOf_iff_prefix.mp opens
    rw [← split, List.drop_left] at held
    split at held
    · rename_i closing inner reversed
      obtain rfl := Option.some.inj held
      have closed : rest = inner.reverse ++ [']'] := by
        rw [← List.reverse_reverse rest, reversed, List.reverse_cons]
      rw [← String.toList_inj, ← split, closed]
      simp
    · simp at held
  · simp at held

/-- What a parameter adds to the key fields. -/
def addKeyField (fields : List (String × String))
    (parameter : String × String) : List (String × String) :=
  match keyField? parameter.1 with
  | some field =>
      if parameter.2.isEmpty then fields
      else insertField field parameter.2 fields
  | none => fields

theorem addKeyField_comm {first second : String × String}
    (differ : first.1 ≠ second.1) (fields : List (String × String)) :
    addKeyField (addKeyField fields first) second =
      addKeyField (addKeyField fields second) first := by
  unfold addKeyField
  cases held : keyField? first.1 with
  | none => rfl
  | some field =>
      cases heldOther : keyField? second.1 with
      | none => rfl
      | some other =>
          have fields_differ : field ≠ other := by
            rintro rfl
            exact differ ((eq_of_keyField? held).trans
              (eq_of_keyField? heldOther).symm)
          simp only
          split
          · rfl
          · split
            · rfl
            · exact insertField_comm fields_differ.symm _ _ _

theorem keyFields_eq_of_perm (perm : parameters.Perm permuted)
    (nodup : (parameters.map Prod.fst).Nodup) :
    keyFields parameters = keyFields permuted := by
  change parameters.foldl addKeyField [] = permuted.foldl addKeyField []
  refine perm.foldl_eq' (fun first member second others fields => ?_) []
  by_cases same : first.1 = second.1
  · obtain rfl := List.inj_on_of_nodup_map nodup member others same
    rfl
  · exact addKeyField_comm same fields

/-- Fields in the order of their names, no name twice. -/
def Sorted (fields : List (String × String)) : Prop :=
  fields.Pairwise fun first second => first.1 < second.1

theorem mem_of_mem_insertField {name value : String}
    {fields : List (String × String)} {field : String × String}
    (member : field ∈ insertField name value fields) :
    field = (name, value) ∨ field ∈ fields := by
  induction fields with
  | nil => simpa [insertField] using member
  | cons first rest ih => grind [insertField]

theorem Sorted.insertField {fields : List (String × String)}
    (sorted : Sorted fields) (name value : String) :
    Sorted (insertField name value fields) := by
  induction fields with
  | nil => simp [Request.insertField, Sorted]
  | cons first rest ih =>
      obtain ⟨least, sorted⟩ := List.pairwise_cons.mp sorted
      rw [Request.insertField]
      split
      · rename_i same
        have equal : first.1 = name := by simpa using same
        exact List.pairwise_cons.mpr ⟨equal ▸ least, sorted⟩
      split
      · rename_i less
        refine List.pairwise_cons.mpr ⟨fun field member => ?_,
          List.pairwise_cons.mpr ⟨least, sorted⟩⟩
        rcases List.mem_cons.mp member with rfl | later
        · exact less
        · exact lt_trans less (least field later)
      · rename_i differ notLess
        refine List.pairwise_cons.mpr ⟨fun field member => ?_, ih sorted⟩
        rcases mem_of_mem_insertField member with rfl | later
        · have other : name ≠ first.1 := fun same => differ (by simp [same])
          exact lt_of_le_of_ne (le_of_not_gt notLess) other.symm
        · exact least field later

theorem sorted_keyFields (parameters : Parameters) :
    Sorted (keyFields parameters) := by
  change Sorted (parameters.foldl addKeyField [])
  refine List.foldlRecOn parameters addKeyField List.Pairwise.nil
    fun fields sorted parameter _ => ?_
  rw [addKeyField]
  split
  · split
    · exact sorted
    · exact sorted.insertField _ _
  · exact sorted

/-- An identity has no key field twice. -/
theorem nodup_names_toRow {identity : RowIdentity}
    (named : identity? parameters = some identity) :
    (Json.Fields.names identity.toRow).Nodup := by
  rw [identity?] at named
  split at named
  · obtain rfl := Option.some.inj named
    simp [RowIdentity.toRow, Json.Fields.names]
  · simp at named
  · obtain rfl := Option.some.inj named
    have sorted := sorted_keyFields parameters
    rw [RowIdentity.toRow, Json.Fields.names, List.map_map]
    exact List.pairwise_map.mpr (sorted.imp ne_of_lt)

theorem identity?_eq_of_perm (perm : parameters.Perm permuted)
    (nodup : (parameters.map Prod.fst).Nodup) :
    identity? parameters = identity? permuted := by
  rw [identity?, identity?, text?, text?, lookup_eq_of_perm perm nodup,
    keyFields_eq_of_perm perm nodup]

/-- The field of the submitted data that a parameter holds, if it has no meaning
of its own. -/
def submitted? (parameter : String × String) : Option (String × Json) :=
  if (keyField? parameter.1).isSome || reserved.contains parameter.1 then none
  else some (parameter.1, .text parameter.2)

theorem names_submitted_sublist (parameters : Parameters) :
    (Json.Fields.names (parameters.filterMap submitted?)).Sublist
      (parameters.map Prod.fst) := by
  induction parameters with
  | nil => exact .slnil
  | cons parameter rest ih =>
      cases held : submitted? parameter with
      | none =>
          rw [List.filterMap_cons_none held]
          exact ih.cons _
      | some field =>
          have named : field.1 = parameter.1 := by
            rw [submitted?] at held
            split at held
            · simp at held
            · obtain rfl := Option.some.inj held
              rfl
          rw [List.filterMap_cons_some held, List.map_cons, ← named]
          exact ih.cons_cons _

theorem dataOf_eq (nodup : (parameters.map Prod.fst).Nodup) :
    (dataOf parameters).fields = parameters.filterMap submitted? :=
  Json.Fields.ofPairs_of_nodup (nodup.sublist (names_submitted_sublist _))

/-- The submitted data hold the same under every name, whatever the order in
which they were submitted. -/
theorem agrees_dataOf (perm : parameters.Perm permuted)
    (nodup : (parameters.map Prod.fst).Nodup) :
    (dataOf parameters).fields.Agrees (dataOf permuted).fields := by
  intro name
  have pairs := perm.filterMap submitted?
  have names := nodup.sublist (names_submitted_sublist parameters)
  rw [dataOf_eq nodup, dataOf_eq ((perm.map Prod.fst).nodup nodup),
    Json.Fields.get?_eq_lookup, Json.Fields.get?_eq_lookup]
  exact lookup_eq_of_perm pairs names name

/-- The requests differ at most in the order of the submitted data. -/
structure Agrees (request other : Request) : Prop where
  rest : other = { request with formData := other.formData }
  data : request.formData.fields.Agrees other.formData.fields
  keys : ∀ identity ∈ request.row, (Json.Fields.names identity.toRow).Nodup

/-- Parameters in another order are refused with the same error, or they make
requests that agree. -/
theorem ofParameters_of_perm (perm : parameters.Perm permuted)
    (nodup : (parameters.map Prod.fst).Nodup) :
    (∃ error, ofParameters parameters = .error error ∧
      ofParameters permuted = .error error) ∨
    ∃ request other, ofParameters parameters = .ok request ∧
      ofParameters permuted = .ok other ∧ request.Agrees other := by
  have lookups := lookup_eq_of_perm perm nodup
  have texts : text? parameters = text? permuted := by
    funext name
    rw [text?, text?, lookups]
  have integers : integer parameters = integer permuted := by
    funext name
    rw [integer, integer, texts]
  unfold ofParameters
  simp only [lookups, texts, integers, identity?_eq_of_perm perm nodup]
  cases RequestAction.ofName
      ((permuted.lookup "table_sql_action").getD "") with
  | error error => exact .inl ⟨error, rfl, rfl⟩
  | ok action =>
  cases filtersOf ((permuted.lookup "filters").getD "") with
  | error error => exact .inl ⟨error, rfl, rfl⟩
  | ok filters =>
  cases integer permuted "page" with
  | error error => exact .inl ⟨error, rfl, rfl⟩
  | ok page =>
  cases integer permuted "page_size" with
  | error error => exact .inl ⟨error, rfl, rfl⟩
  | ok pageSize =>
  exact .inr ⟨_, _, rfl, rfl, {
    rest := rfl
    data := agrees_dataOf perm nodup
    keys := fun identity named => nodup_names_toRow named }⟩

end Request

end DataGrid
