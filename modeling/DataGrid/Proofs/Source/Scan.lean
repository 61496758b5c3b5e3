import DataGrid.Source.Pattern
import Mathlib.Data.List.TakeWhile

/-!
# Going through free SQL

A search looks at a text place by place.  A pattern of items finds something
only where an item can begin, so the search skips whatever holds no such place.
-/

namespace DataGrid.Source

/-- The text is at its end, or goes on with a character that satisfies a
test. -/
def Ended (ends : Char → Bool) (text : List Char) : Prop :=
  ∀ character ∈ text.head?, ends character = true

theorem ended_nil (ends : Char → Bool) : Ended ends [] :=
  fun _ impossible => nomatch impossible

theorem ended_cons {ends : Char → Bool} {character : Char}
    (accepted : ends character = true) (rest : List Char) :
    Ended ends (character :: rest) := by
  simpa [Ended] using accepted

theorem Ended.mono {ends stops : Char → Bool} {text : List Char}
    (ended : Ended ends text)
    (weaker : ∀ character, ends character = true → stops character = true) :
    Ended stops text :=
  fun character member => weaker character (ended character member)

section Runs

variable {stops : Char → Bool} {run text : List Char}

theorem takeUntil_of_ended (ended : Ended stops text) :
    takeUntil stops text = none := by
  cases text with
  | nil => rfl
  | cons character rest =>
      have stopped : stops character = true := ended character rfl
      simp [takeUntil, stopped]

/-- A run is taken whole when the text ends behind it or stops there. -/
theorem takeUntil_append (nonempty : run ≠ [])
    (plain : ∀ character ∈ run, stops character = false)
    (ended : Ended stops text) :
    takeUntil stops (run ++ text) = some (run, text) := by
  have all : ∀ character ∈ run, (!stops character) = true := by
    simpa using plain
  have none_taken : text.takeWhile (!stops ·) = [] := by
    cases text with
    | nil => rfl
    | cons character rest =>
        have stopped : stops character = true := ended character rfl
        simp [stopped]
  have all_dropped : text.dropWhile (!stops ·) = text := by
    cases text with
    | nil => rfl
    | cons character rest =>
        have stopped : stops character = true := ended character rfl
        simp [stopped]
  obtain ⟨first, others, rfl⟩ := List.exists_cons_of_ne_nil nonempty
  unfold takeUntil
  rw [List.takeWhile_append_of_pos all, List.dropWhile_append_of_pos all,
    none_taken, all_dropped, List.append_nil]

end Runs

section Steps

variable (pattern : Pattern) (wanted : String) (ends : Char → Bool)
  (atStart : Bool)

theorem findNamed_eq (characters : List Char) :
    findNamed pattern wanted ends atStart characters =
      match firstFound pattern atStart characters with
      | none => none
      | some (found, []) =>
          if found.accepts wanted ends then some found else none
      | some (found, _ :: rest) =>
          if found.accepts wanted ends then some found
          else findNamed pattern wanted ends false rest := by
  rw [findNamed]
  split <;> rename_i first <;> rw [first]

theorem findNamed_nil :
    findNamed pattern wanted ends atStart [] =
      (pattern atStart []).filter (·.accepts wanted ends) := by
  rw [findNamed_eq, firstFound]
  cases pattern atStart [] with
  | none => rfl
  | some found => simp [Option.filter]

/-- A search takes what it finds at the first place, if that is accepted, and
goes on behind the first character otherwise. -/
theorem findNamed_cons (character : Char) (rest : List Char) :
    findNamed pattern wanted ends atStart (character :: rest) =
      ((pattern atStart (character :: rest)).filter
        (·.accepts wanted ends)).or
        (findNamed pattern wanted ends false rest) := by
  rw [findNamed_eq, firstFound]
  cases pattern atStart (character :: rest) with
  | none =>
      rw [Option.filter_none, Option.none_or, ← findNamed_eq]
  | some found =>
      cases accepted : found.accepts wanted ends <;>
        simp [Option.filter, accepted]

end Steps

section Items

variable (separates : Char → Bool) (item : List Char → Option Found)
  (wanted : String) (ends : Char → Bool)

/-- What a search finds in a text at whose front no item begins. -/
def laterItem (text : List Char) : Option Found :=
  findNamed (atItem separates item) wanted ends false text

/-- What a search finds in a text at whose front an item may begin. -/
def firstItem (text : List Char) : Option Found :=
  ((item text).filter (·.accepts wanted ends)).or
    (laterItem separates item wanted ends text)

theorem laterItem_nil : laterItem separates item wanted ends [] = none := by
  rw [laterItem, findNamed_nil]
  rfl

/-- Behind a separator an item may begin. -/
theorem laterItem_cons (character : Char) (rest : List Char) :
    laterItem separates item wanted ends (character :: rest) =
      if separates character then firstItem separates item wanted ends rest
      else laterItem separates item wanted ends rest := by
  rw [laterItem, findNamed_cons]
  cases separated : separates character <;>
    simp [atItem, separated, firstItem, laterItem]

variable {separates item wanted ends}

theorem laterItem_append_of_plain {run : List Char}
    (plain : ∀ character ∈ run, separates character = false)
    (text : List Char) :
    laterItem separates item wanted ends (run ++ text) =
      laterItem separates item wanted ends text := by
  induction run with
  | nil => rfl
  | cons character run ih =>
      rw [List.forall_mem_cons] at plain
      rw [List.cons_append, laterItem_cons, plain.1, ih plain.2]
      simp

theorem firstItem_of_item_eq_none {text : List Char}
    (none : item text = none) :
    firstItem separates item wanted ends text =
      laterItem separates item wanted ends text := by
  rw [firstItem, none]
  rfl

/-- Behind some separators in a row an item may begin. -/
theorem firstItem_append_of_separators
    (beginsNone : ∀ character rest, separates character = true →
      item (character :: rest) = none)
    {run : List Char} (all : ∀ character ∈ run, separates character = true)
    (text : List Char) :
    firstItem separates item wanted ends (run ++ text) =
      firstItem separates item wanted ends text := by
  induction run with
  | nil => rfl
  | cons character run ih =>
      rw [List.forall_mem_cons] at all
      rw [List.cons_append,
        firstItem_of_item_eq_none (beginsNone _ _ all.1), laterItem_cons,
        all.1, if_pos rfl, ih all.2]

/-- At the beginning of a text an item may begin. -/
theorem findNamed_atStart
    (beginsNone : ∀ character rest, separates character = true →
      item (character :: rest) = none) (text : List Char) :
    findNamed (atItem separates item) wanted ends true text =
      firstItem separates item wanted ends text := by
  cases text with
  | nil =>
      rw [findNamed_nil, firstItem, laterItem_nil]
      simp [atItem]
  | cons character rest =>
      rw [findNamed_cons]
      cases separated : separates character with
      | false =>
          have here : atItem separates item true (character :: rest) =
              item (character :: rest) := by
            simp [atItem, separated]
          rw [here, firstItem, laterItem_cons, separated]
          rfl
      | true =>
          have here : atItem separates item true (character :: rest) =
              item rest := by
            simp [atItem, separated, beginsNone]
          rw [here, firstItem, laterItem_cons, separated,
            beginsNone _ _ separated]
          rfl

end Items

end DataGrid.Source
