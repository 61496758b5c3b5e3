import DataGrid.Selection.Memory
import Mathlib.Data.Finset.Basic
import Mathlib.Data.Finset.SDiff
import Mathlib.Data.List.Sort
import Mathlib.Data.String.Basic

/-!
# Selections as sets

The ids of a selection stand for a set: they are sorted and hold no id twice,
and every change of a selection is the change of a set.
-/

namespace DataGrid.Selection

/-- The ids of a selection, in their order and each of them once, are the
elements of a set. -/
structure Represents (selection : Selection) (set : Finset String) : Prop where
  sorted : selection.ids.Pairwise (· < ·)
  mem_iff : ∀ id, id ∈ selection.ids ↔ id ∈ set

@[simp]
theorem mem_insertId (id other : String) (ids : List String) :
    other ∈ insertId id ids ↔ other = id ∨ other ∈ ids := by
  induction ids with
  | nil => simp [insertId]
  | cons head rest ih =>
      unfold insertId
      split
      · exact List.mem_cons
      split
      · rename_i same
        obtain rfl := beq_iff_eq.mp same
        simp
      · simp only [List.mem_cons, ih]
        exact or_left_comm

theorem sorted_insertId (id : String) {ids : List String}
    (sorted : ids.Pairwise (· < ·)) : (insertId id ids).Pairwise (· < ·) := by
  induction ids with
  | nil => exact List.pairwise_singleton _ _
  | cons head rest ih =>
      obtain ⟨before, restSorted⟩ := List.pairwise_cons.mp sorted
      unfold insertId
      split
      · rename_i first
        refine List.pairwise_cons.mpr ⟨fun other member => ?_, sorted⟩
        rcases List.mem_cons.mp member with rfl | later
        · exact first
        · exact lt_trans first (before other later)
      split
      · exact sorted
      · rename_i notFirst different
        have behind : head < id :=
          lt_of_le_of_ne (not_lt.mp notFirst) fun same =>
            different (beq_iff_eq.mpr same.symm)
        refine List.pairwise_cons.mpr ⟨fun other member => ?_, ih restSorted⟩
        rcases (mem_insertId _ _ _).mp member with rfl | later
        · exact behind
        · exact before other later

theorem mem_insertIds (ids more : List String) (id : String) :
    id ∈ insertIds ids more ↔ id ∈ ids ∨ id ∈ more := by
  induction more generalizing ids with
  | nil => simp [insertIds]
  | cons other rest ih =>
      have step : insertIds ids (other :: rest) =
          insertIds (insertId other ids) rest :=
        rfl
      rw [step, ih, mem_insertId, List.mem_cons, or_assoc, or_left_comm]

theorem sorted_insertIds {ids : List String} (more : List String)
    (sorted : ids.Pairwise (· < ·)) :
    (insertIds ids more).Pairwise (· < ·) := by
  induction more generalizing ids with
  | nil => exact sorted
  | cons other rest ih => exact ih (sorted_insertId other sorted)

variable {selection : Selection} {set : Finset String}

theorem represents_empty : Represents {} ∅ :=
  ⟨.nil, by simp⟩

theorem represents_change (represents : selection.Represents set)
    (selected unselected : List String) (now : Instant) :
    (selection.change selected unselected now).Represents
      ((set ∪ selected.toFinset) \ unselected.toFinset) where
  sorted := (sorted_insertIds selected represents.sorted).filter _
  mem_iff id := by
    simp [change, mem_insertIds, represents.mem_iff]

theorem represents_extend (represents : selection.Represents set)
    (ids : List String) (now : Instant) :
    (selection.extend ids now).Represents (set ∪ ids.toFinset) where
  sorted := sorted_insertIds ids represents.sorted
  mem_iff id := by
    simp [extend, mem_insertIds, represents.mem_iff]

theorem represents_clear (selection : Selection) (now : Instant) :
    (selection.clear now).Represents ∅ where
  sorted := .nil
  mem_iff id := by simp [clear]

/-- A set has only one list of ids. -/
theorem Represents.ids_eq {other : Selection}
    (represents : selection.Represents set)
    (otherRepresents : other.Represents set) : selection.ids = other.ids :=
  represents.sorted.eq_of_mem_iff otherRepresents.sorted fun id =>
    (represents.mem_iff id).trans (otherRepresents.mem_iff id).symm

end DataGrid.Selection

namespace DataGrid.SelectionMap

theorem get_nil (key : SelectionKey) : get [] key = {} :=
  rfl

theorem get_cons (entry : SelectionKey × Selection) (rest : SelectionMap)
    (key : SelectionKey) :
    get (entry :: rest) key =
      if key = entry.1 then entry.2 else get rest key := by
  unfold get
  rw [List.lookup_cons]
  by_cases same : key = entry.1
  · simp [same]
  · simp [same, beq_eq_false_iff_ne.mpr same]

/-- Storing a selection changes what is stored under its key, and nothing
else. -/
theorem get_put (map : SelectionMap) (key other : SelectionKey)
    (selection : Selection) :
    (map.put key selection).get other =
      if other = key then selection else map.get other := by
  induction map with
  | nil => simp only [put, get_cons]
  | cons entry rest ih =>
      unfold put
      split
      · rename_i found
        obtain rfl := beq_iff_eq.mp found
        simp only [get_cons]
        split <;> rfl
      · rename_i different
        rw [get_cons, get_cons, ih]
        by_cases head : other = entry.1
        · have apart : other ≠ key := fun same =>
            different (beq_iff_eq.mpr (head.symm.trans same))
          rw [if_pos head, if_pos head, if_neg apart]
        · rw [if_neg head, if_neg head]

end DataGrid.SelectionMap
