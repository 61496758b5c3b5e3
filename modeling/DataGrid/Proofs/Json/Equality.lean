import DataGrid.Proofs.Json.Fields

/-!
# Equality of JSON values

`Json.same` compares values and leaves the order of an object's fields aside.
Every value equals itself, and objects whose fields have different names are
equal when they hold equal values under the same names.
-/

namespace DataGrid.Json

theorem Number.same_refl (number : Number) : number.same number = true := by
  cases number with
  | integer value => simp [Number.same]
  | real value => simp [Number.same, Double.same]

mutual

/-- A value equals itself. -/
@[simp]
theorem same_refl : ∀ value : Json, value.same value = true
  | .null => rfl
  | .bool _ => by simp [same]
  | .number held => by simp [same, held.same_refl]
  | .text _ => by simp [same]
  | .list items => by
      rw [same]
      exact sameItems_refl items
  | .object fields => by
      rw [same]
      exact sameFields_refl fields

theorem sameItems_refl : ∀ items : List Json, sameItems items items = true
  | [] => rfl
  | item :: rest => by
      rw [sameItems, same_refl item, sameItems_refl rest]
      rfl

theorem sameFields_refl :
    ∀ fields : List (String × Json), sameFields fields fields = true
  | [] => rfl
  | (name, value) :: rest => by
      simp only [sameFields, Fields.get?_cons, if_true, Fields.erase,
        beq_self_eq_true, List.eraseP_cons_of_pos]
      rw [same_refl value, sameFields_refl rest]
      rfl

end

theorem sameFields_of_length_ne {fields others : Fields}
    (different : fields.length ≠ others.length) :
    sameFields fields others = false := by
  induction fields generalizing others with
  | nil => cases others <;> simp_all [sameFields]
  | cons field rest ih =>
      obtain ⟨name, value⟩ := field
      rw [sameFields]
      cases found : Fields.get? others name with
      | none => rfl
      | some other =>
          have fewer := Fields.length_erase_of_get? found
          rw [List.length_cons] at different
          simp [ih (by omega : rest.length ≠ (others.erase name).length)]

/-- Objects are equal when they have as many fields, and every field of the
first has an equal value in the second. -/
theorem same_object_iff {fields : Fields} (nodup : fields.names.Nodup)
    (others : Fields) :
    (Json.object fields).same (.object others) = true ↔
      fields.length = others.length ∧
        ∀ field ∈ fields, ∃ other,
          Fields.get? others field.1 = some other ∧
            field.2.same other = true := by
  rw [same]
  induction fields generalizing others with
  | nil => cases others <;> simp [sameFields]
  | cons field rest ih =>
      obtain ⟨name, value⟩ := field
      simp only [Fields.names_cons, List.nodup_cons] at nodup
      rw [sameFields, List.forall_mem_cons]
      cases found : Fields.get? others name with
      | none => simp
      | some other =>
          -- The rest has no field of this name, so that taking it out changes
          -- nothing of what the rest is compared with.
          have kept : ∀ field ∈ rest,
              Fields.get? (Fields.erase others name) field.1 =
                Fields.get? others field.1 := by
            intro field member
            apply Fields.get?_erase_of_ne
            rintro rfl
            exact nodup.1 (List.mem_map_of_mem member)
          have fewer := Fields.length_erase_of_get? found
          have lengths : rest.length = (Fields.erase others name).length ↔
              ((name, value) :: rest).length = others.length := by
            rw [List.length_cons]
            omega
          have later : (∀ field ∈ rest, ∃ other,
              Fields.get? (Fields.erase others name) field.1 = some other ∧
                field.2.same other = true) ↔
              ∀ field ∈ rest, ∃ other,
                Fields.get? others field.1 = some other ∧
                  field.2.same other = true :=
            forall₂_congr fun field member => by rw [kept field member]
          simp only [Bool.and_eq_true, ih nodup.2, lengths, later,
            Option.some.injEq, exists_eq_left']
          exact and_left_comm

theorem sameItems_iff (items others : List Json) :
    sameItems items others = true ↔
      List.Forall₂ (fun item other => item.same other = true)
        items others := by
  induction items generalizing others with
  | nil => cases others <;> simp [sameItems]
  | cons item rest ih => cases others <;> simp [sameItems, ih]

/-- A value that equals no value but itself, in whichever order the two are
compared. -/
def Rigid (value : Json) : Prop :=
  ∀ other : Json, (other.same value = true ↔ other = value) ∧
    (value.same other = true ↔ other = value)

theorem rigid_text (text : String) : (Json.text text).Rigid := by
  intro other
  cases other with
  | text second => exact ⟨by simp [same], by simpa [same] using eq_comm⟩
  | _ => simp [same]

theorem rigid_bool (flag : Bool) : (Json.bool flag).Rigid := by
  intro other
  cases other with
  | bool second => exact ⟨by simp [same], by simpa [same] using eq_comm⟩
  | _ => simp [same]

/-- An object with one field has no order of fields to be left aside. -/
theorem Rigid.object {value : Json} (rigid : value.Rigid) (name : String) :
    (Json.object [(name, value)]).Rigid := by
  intro other
  cases other with
  | object fields =>
      rcases fields with _ | ⟨⟨found, held⟩, _ | ⟨second, rest⟩⟩
      · simp [same, sameFields]
      · by_cases here : found = name
        · simp [same, sameFields, Fields.get?_cons, Fields.erase, here,
            rigid held]
        · simp [same, sameFields, Fields.get?_cons, here, Ne.symm here]
      · simp [same, sameFields_of_length_ne]
  | _ => simp [same]

theorem Rigid.list {value : Json} (rigid : value.Rigid) :
    (Json.list [value]).Rigid := by
  intro other
  cases other with
  | list items =>
      rcases items with _ | ⟨item, _ | ⟨second, rest⟩⟩
      · simp [same, sameItems]
      · simp [same, sameItems, rigid item]
      · simp [same, sameItems]
  | _ => simp [same]

end DataGrid.Json
