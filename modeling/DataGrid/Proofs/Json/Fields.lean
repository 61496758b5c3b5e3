import DataGrid.Json.Object
import Mathlib.Data.List.Nodup

/-!
# Fields of objects

What a field holds after others have been set, and which names there are then.
A list of fields is only looked at through `get?`, so that two lists with the
same answers count as the same object.
-/

namespace DataGrid.Json.Fields

@[simp]
theorem get?_nil (name : String) : get? [] name = none :=
  rfl

theorem get?_cons (field : String × Json) (rest : Fields) (name : String) :
    get? (field :: rest) name =
      if field.1 = name then some field.2 else get? rest name := by
  by_cases found : field.1 = name <;> simp [get?, found]

theorem get?_eq_lookup (fields : Fields) (name : String) :
    get? fields name = fields.lookup name := by
  induction fields with
  | nil => rfl
  | cons field rest ih =>
      obtain ⟨first, value⟩ := field
      rw [get?_cons, ih, List.lookup_cons]
      by_cases here : first = name
      · simp [here]
      · have elsewhere : (name == first) = false := by
          simpa using Ne.symm here
        rw [if_neg here, elsewhere]

theorem get?_eq_none_iff (fields : Fields) (name : String) :
    get? fields name = none ↔ name ∉ fields.names := by
  induction fields with
  | nil => simp
  | cons field rest ih =>
      rw [get?_cons]
      by_cases found : field.1 = name
      · simp [found]
      · simp [found, ih, Ne.symm found]

theorem get?_append (fields more : Fields) (name : String) :
    get? (fields ++ more) name = (get? fields name).or (get? more name) := by
  induction fields with
  | nil => simp
  | cons field rest ih =>
      rw [List.cons_append, get?_cons, get?_cons, ih]
      split <;> rfl

theorem get?_erase_of_ne {name other : String} (different : name ≠ other)
    (fields : Fields) :
    get? (erase fields name) other = get? fields other := by
  induction fields with
  | nil => rfl
  | cons field rest ih =>
      by_cases found : field.1 = name
      · have passed : field.1 ≠ other := found.trans_ne different
        simp [erase, found, get?_cons, different]
      · have kept : erase (field :: rest) name = field :: erase rest name := by
          simp [erase, found]
        rw [kept, get?_cons, get?_cons, ih]

theorem length_erase_of_get? {fields : Fields} {name : String} {value : Json}
    (found : get? fields name = some value) :
    (erase fields name).length + 1 = fields.length := by
  obtain ⟨field, known, -⟩ := Option.map_eq_some_iff.mp found
  have member := List.mem_of_find?_eq_some known
  have named : (field.1 == name) = true := by
    simpa using List.find?_some known
  have nonempty : 0 < fields.length := List.length_pos_of_mem member
  rw [erase, List.length_eraseP_of_mem member named]
  omega

theorem mem_of_get?_eq_some {fields : Fields} {name : String} {value : Json}
    (found : get? fields name = some value) : (name, value) ∈ fields := by
  induction fields with
  | nil => simp at found
  | cons field rest ih =>
      rw [get?_cons] at found
      split at found
      · rename_i same
        obtain rfl := Option.some.inj found
        simp [← same]
      · exact List.mem_cons_of_mem _ (ih found)

/-- Where no name comes twice, a field is what is found under its name. -/
theorem get?_of_mem {fields : Fields} {name : String} {value : Json}
    (nodup : fields.names.Nodup) (member : (name, value) ∈ fields) :
    get? fields name = some value := by
  induction fields with
  | nil => simp at member
  | cons field rest ih =>
      simp only [names_cons, List.nodup_cons] at nodup
      rw [get?_cons]
      rcases List.mem_cons.mp member with here | later
      · simp [← here]
      · have other : field.1 ≠ name := by
          intro same
          apply nodup.1
          rw [same]
          exact List.mem_map_of_mem (f := Prod.fst) later
        rw [if_neg other]
        exact ih nodup.2 later

theorem exists_mem_of_mem_names {fields : Fields} {name : String}
    (known : name ∈ fields.names) : ∃ value, (name, value) ∈ fields := by
  obtain ⟨⟨_, value⟩, member, rfl⟩ := List.mem_map.mp known
  exact ⟨value, member⟩

theorem mem_names_of_mem {fields : Fields} {name : String} {value : Json}
    (member : (name, value) ∈ fields) : name ∈ fields.names :=
  List.mem_map_of_mem (f := Prod.fst) member

/-- Of the fields that are kept, one is found as before. -/
theorem get?_filter {fields : Fields} {name : String} {value : Json}
    (nodup : fields.names.Nodup) (member : (name, value) ∈ fields)
    (keep : String × Json → Bool) :
    get? (fields.filter keep) name =
      if keep (name, value) then some value else none := by
  split
  · rename_i kept
    have keptNodup : (names (fields.filter keep)).Nodup :=
      nodup.sublist (List.filter_sublist.map Prod.fst)
    exact get?_of_mem keptNodup (List.mem_filter.mpr ⟨member, kept⟩)
  · rename_i left
    rw [get?_eq_none_iff]
    intro present
    obtain ⟨other, otherMember⟩ := exists_mem_of_mem_names present
    obtain ⟨otherKnown, otherKept⟩ := List.mem_filter.mp otherMember
    have equal : some other = some value :=
      (get?_of_mem nodup otherKnown).symm.trans (get?_of_mem nodup member)
    obtain rfl := Option.some.inj equal
    exact left otherKept

theorem get?_insert (fields : Fields) (name : String) (value : Json)
    (other : String) :
    get? (fields.insert name value) other =
      if name = other then some value else get? fields other := by
  induction fields with
  | nil => simp [insert, get?_cons]
  | cons field rest ih =>
      by_cases found : field.1 = name
      · simp only [insert, found, beq_self_eq_true, if_true, get?_cons]
        split <;> rfl
      · simp only [insert, beq_eq_false_iff_ne.mpr found, get?_cons,
          Bool.false_eq_true, if_false]
        rw [ih]
        by_cases wanted : field.1 = other
        · have different : name ≠ other := fun same =>
            found (wanted.trans same.symm)
          simp [wanted, different]
        · simp [wanted]

/-- Fields that are there already keep their places. -/
theorem names_insertAll_of_subset {fields more : Fields}
    (known : more.names ⊆ fields.names) :
    (fields.insertAll more).names = fields.names := by
  induction more generalizing fields with
  | nil => rfl
  | cons field rest ih =>
      simp only [names_cons, List.cons_subset] at known
      have kept := names_insert_of_mem known.1 field.2
      rw [insertAll_cons, ih (kept.symm ▸ known.2), kept]

/-- What is set wins over what was there. -/
theorem get?_insertAll {more : Fields} (nodup : more.names.Nodup)
    (fields : Fields) (name : String) :
    get? (fields.insertAll more) name =
      (get? more name).or (get? fields name) := by
  induction more generalizing fields with
  | nil => simp
  | cons field rest ih =>
      simp only [names_cons, List.nodup_cons] at nodup
      rw [insertAll_cons, ih nodup.2, get?_insert, get?_cons]
      by_cases found : field.1 = name
      · have absent : get? rest name = none := by
          rw [get?_eq_none_iff, ← found]
          exact nodup.1
        simp [found, absent]
      · simp [found]

/-- Fields of different names that are set one after another stand in the order
in which they were set. -/
theorem insertAll_eq_append {fields more : Fields}
    (nodup : (fields.names ++ more.names).Nodup) :
    fields.insertAll more = fields ++ more := by
  induction more generalizing fields with
  | nil => simp
  | cons field rest ih =>
      have absent : field.1 ∉ fields.names := by
        intro member
        exact List.disjoint_of_nodup_append nodup member (by simp)
      have moved : fields.insert field.1 field.2 = fields ++ [field] :=
        insert_of_notMem absent field.2
      rw [insertAll_cons, moved, ih (by simpa [names] using nodup)]
      simp

theorem ofPairs_of_nodup {fields : Fields} (nodup : fields.names.Nodup) :
    ofPairs fields = fields :=
  insertAll_eq_append (by simpa using nodup)

theorem mem_of_mem_insert {fields : Fields} {name : String} {value : Json}
    {field : String × Json} (member : field ∈ fields.insert name value) :
    field = (name, value) ∨ field ∈ fields := by
  induction fields with
  | nil => simpa [insert] using member
  | cons first rest ih =>
      simp only [insert] at member
      split at member
      · rcases List.mem_cons.mp member with new | later
        · exact .inl new
        · exact .inr (List.mem_cons_of_mem _ later)
      · rcases List.mem_cons.mp member with here | later
        · exact .inr (here ▸ List.mem_cons_self)
        · exact (ih later).imp_right (List.mem_cons_of_mem _)

theorem mem_of_mem_insertAll {fields more : Fields} {field : String × Json}
    (member : field ∈ fields.insertAll more) :
    field ∈ fields ∨ field ∈ more := by
  induction more generalizing fields with
  | nil => exact .inl member
  | cons first rest ih =>
      rcases ih member with early | late
      · rcases mem_of_mem_insert early with new | old
        · exact .inr (new ▸ List.mem_cons_self)
        · exact .inl old
      · exact .inr (List.mem_cons_of_mem _ late)

/-- Fields with given names, the value of each decided by its name. -/
def ofNames (value : String → Json) (names : List String) : Fields :=
  names.map fun name => (name, value name)

theorem names_ofNames (value : String → Json) (names : List String) :
    (ofNames value names).names = names := by
  simp [ofNames, Fields.names, Function.comp_def]

theorem insert_ofNames_of_mem (value : String → Json) {names : List String}
    {name : String} (member : name ∈ names) :
    (ofNames value names).insert name (value name) = ofNames value names := by
  induction names with
  | nil => simp at member
  | cons first rest ih =>
      by_cases here : first = name
      · simp [ofNames, insert, here]
      · have later : name ∈ rest := by
          simpa [Ne.symm here] using member
        have kept := ih later
        simp only [ofNames] at kept
        simp [ofNames, insert, here, kept]

/-- Setting fields whose values their names decide leaves one of each name, at
the place of the first. -/
theorem insertAll_ofNames (value : String → Json)
    (names more : List String) :
    (ofNames value names.eraseDups).insertAll (ofNames value more) =
      ofNames value (names ++ more).eraseDups := by
  induction more generalizing names with
  | nil => simp [ofNames]
  | cons name rest ih =>
      have step : (ofNames value names.eraseDups).insert name (value name) =
          ofNames value (names ++ [name]).eraseDups := by
        rw [List.eraseDups_append]
        by_cases member : name ∈ names
        · rw [insert_ofNames_of_mem value (List.mem_eraseDups.mpr member)]
          simp [List.removeAll, member]
        · rw [insert_of_notMem]
          · simp [ofNames, List.removeAll, member, List.eraseDups_cons]
          · rw [names_ofNames]
            simpa using member
      have rest := ih (names ++ [name])
      rw [← step, List.append_assoc] at rest
      exact rest

theorem ofPairs_ofNames (value : String → Json) (names : List String) :
    ofPairs (ofNames value names) = ofNames value names.eraseDups :=
  insertAll_ofNames value [] names

end DataGrid.Json.Fields
