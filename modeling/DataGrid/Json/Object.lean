import DataGrid.Json.Value

/-!
# Objects

What is read into an object has no name twice: a field that is set again keeps
its place and takes the later value.
-/

namespace DataGrid.Json

namespace Fields

def names (fields : Fields) : List String :=
  fields.map Prod.fst

@[simp]
theorem names_nil : names [] = [] :=
  rfl

@[simp]
theorem names_cons (field : String × Json) (rest : Fields) :
    names (field :: rest) = field.1 :: names rest :=
  rfl

theorem names_insert_of_mem {fields : Fields} {name : String}
    (member : name ∈ fields.names) (value : Json) :
    (fields.insert name value).names = fields.names := by
  induction fields with
  | nil => simp at member
  | cons field rest ih =>
      by_cases found : field.1 = name
      · simp [insert, found]
      · have later : name ∈ names rest := by
          simpa [Ne.symm found] using member
        simp [insert, found, ih later]

theorem insert_of_notMem {fields : Fields} {name : String}
    (absent : name ∉ fields.names) (value : Json) :
    fields.insert name value = fields ++ [(name, value)] := by
  induction fields with
  | nil => rfl
  | cons field rest ih =>
      simp only [names_cons, List.mem_cons, not_or] at absent
      simp [insert, Ne.symm absent.1, ih absent.2]

theorem nodup_names_insert {fields : Fields} (nodup : fields.names.Nodup)
    (name : String) (value : Json) :
    (fields.insert name value).names.Nodup := by
  by_cases member : name ∈ fields.names
  · rwa [names_insert_of_mem member]
  · rw [insert_of_notMem member, names, List.map_append, List.nodup_append]
    refine ⟨nodup, by simp, fun known among other added => ?_⟩
    obtain rfl := List.mem_singleton.mp added
    exact fun same => member (same ▸ among)

@[simp]
theorem insertAll_nil (fields : Fields) : fields.insertAll [] = fields :=
  rfl

@[simp]
theorem insertAll_cons (fields : Fields) (field : String × Json)
    (more : Fields) :
    fields.insertAll (field :: more) =
      (fields.insert field.1 field.2).insertAll more :=
  rfl

theorem nodup_names_insertAll {fields : Fields} (nodup : fields.names.Nodup)
    (more : Fields) : (fields.insertAll more).names.Nodup := by
  induction more generalizing fields with
  | nil => exact nodup
  | cons field rest ih => exact ih (nodup_names_insert nodup _ _)

theorem nodup_names_ofPairs (pairs : List (String × Json)) :
    (ofPairs pairs).names.Nodup :=
  nodup_names_insertAll (by simp) pairs

end Fields

/-- Fields of which no two have the same name. -/
structure Object where
  fields : Fields
  nodup : fields.names.Nodup

def Object.ofPairs (pairs : List (String × Json)) : Object where
  fields := .ofPairs pairs
  nodup := Fields.nodup_names_ofPairs pairs

end DataGrid.Json
