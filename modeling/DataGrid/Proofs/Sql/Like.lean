import DataGrid.Proofs.Text.Words
import DataGrid.Sql.Dialect
import DataGrid.Sql.Like

/-!
# What patterns match

A relation says which texts a pattern stands for, and the matcher finds exactly
those.  An escaped text stands for itself, whatever characters it is made of,
and goes on doing so when pattern and text are lowered.
-/

namespace DataGrid.Sql

theorem isWildcard_iff (character : Char) :
    isWildcard character = true ↔
      character.toNat = 92 ∨ character.toNat = 37 ∨ character.toNat = 95 := by
  simp only [isWildcard, Bool.or_eq_true, beq_iff_eq, ← Char.toNat_inj,
    or_assoc]
  rfl

theorem toNat_toLower (character : Char) :
    character.toLower.toNat =
      if 65 ≤ character.toNat ∧ character.toNat ≤ 90 then
        character.toNat + 32
      else character.toNat := by
  unfold Char.toLower
  split
  · rename_i upper
    have low : 65 ≤ character.toNat := UInt32.le_iff_toNat_le.mp upper.1
    have high : character.toNat ≤ 90 := UInt32.le_iff_toNat_le.mp upper.2
    rw [if_pos ⟨low, high⟩]
    change (character.val + 32).toNat = _
    rw [UInt32.toNat_add]
    change (character.toNat + 32) % _ = _
    omega
  · rename_i other
    rw [if_neg]
    rintro ⟨low, high⟩
    exact other
      ⟨UInt32.le_iff_toNat_le.mpr low, UInt32.le_iff_toNat_le.mpr high⟩

/-- Lowering makes no wildcard and spoils none. -/
theorem isWildcard_toLower (character : Char) :
    isWildcard character.toLower = isWildcard character := by
  rw [Bool.eq_iff_iff, isWildcard_iff, isWildcard_iff, toNat_toLower]
  split <;> omega

theorem escapeLike_cons (character : Char) (rest : List Char) :
    escapeLike (character :: rest) =
      (if isWildcard character then ['\\', character] else [character]) ++
        escapeLike rest :=
  rfl

theorem map_toLower_escapeLike (text : List Char) :
    (escapeLike text).map Char.toLower =
      escapeLike (text.map Char.toLower) := by
  induction text with
  | nil => rfl
  | cons character rest ih =>
      rw [List.map_cons, escapeLike_cons, escapeLike_cons, List.map_append, ih,
        isWildcard_toLower]
      split <;> rfl

theorem map_toLower_escapeLike_toList (text : String) :
    (escapeLike text.toList).map Char.toLower =
      escapeLike (Text.lowered text) := by
  rw [map_toLower_escapeLike, Text.lowered_eq]

theorem not_isBlank_of_isWildcard {character : Char}
    (wildcard : isWildcard character = true) :
    Text.isBlank character = false := by
  rcases (isWildcard_iff character).mp wildcard with code | code | code <;>
    simp [Text.isBlank, code]

theorem isEmpty_escapeLike (text : List Char) :
    (escapeLike text).isEmpty = text.isEmpty := by
  cases text with
  | nil => rfl
  | cons character rest =>
      rw [escapeLike_cons]
      split <;> rfl

/-- Escaping makes no words and joins none. -/
theorem runs_escapeLike (text : List Char) :
    Text.runs (escapeLike text) = (Text.runs text).map escapeLike := by
  have pieces : Text.cut Text.isBlank (escapeLike text) =
      (Text.cut Text.isBlank text).map escapeLike := by
    refine Text.cut_flatMap ?_ ?_ text
    · intro character blank
      rw [if_neg]
      intro wildcard
      rw [not_isBlank_of_isWildcard wildcard] at blank
      exact Bool.false_ne_true blank
    · intro character plain written member
      split at member
      · have either : written = '\\' ∨ written = character := by
          simpa using member
        rcases either with rfl | rfl
        · decide
        · exact plain
      · rw [List.mem_singleton.mp member]
        exact plain
  have nonempty : (fun piece : List Char => !piece.isEmpty) ∘ escapeLike =
      fun piece => !piece.isEmpty :=
    funext fun piece => congrArg not (isEmpty_escapeLike piece)
  rw [Text.runs, pieces, List.filter_map, nonempty, Text.runs]

/-- Escaped parts with percent signs between them. -/
def patternOf (parts : List (List Char)) : List Char :=
  ['%'].intercalate (parts.map escapeLike)

@[simp]
theorem patternOf_nil : patternOf [] = [] := by
  simp [patternOf]

@[simp]
theorem patternOf_singleton (part : List Char) :
    patternOf [part] = escapeLike part := by
  simp [patternOf]

theorem patternOf_cons_cons (part next : List Char)
    (parts : List (List Char)) :
    patternOf (part :: next :: parts) =
      escapeLike part ++ '%' :: patternOf (next :: parts) := by
  rw [patternOf, List.map_cons, List.map_cons, List.intercalate_cons_cons]
  simp [patternOf]

theorem map_toLower_patternOf (parts : List (List Char)) :
    (patternOf parts).map Char.toLower =
      patternOf (parts.map (List.map Char.toLower)) := by
  induction parts with
  | nil => simp
  | cons part parts ih =>
      cases parts with
      | nil => simp [map_toLower_escapeLike]
      | cons next parts =>
          rw [patternOf_cons_cons, List.map_append, map_toLower_escapeLike,
            List.map_cons, ih]
          exact (patternOf_cons_cons _ _ _).symm

namespace Like

/-- A text is one of those that a pattern stands for.  A percent sign stands for
any characters, an underscore for any one, and a character behind a backslash
for itself. -/
inductive Matches : List Char → List Char → Prop
  | nil : Matches [] []
  | many (before : List Char) {pattern text : List Char}
      (rest : Matches pattern text) : Matches ('%' :: pattern) (before ++ text)
  | one (character : Char) {pattern text : List Char}
      (rest : Matches pattern text) :
      Matches ('_' :: pattern) (character :: text)
  | escaped (character : Char) {pattern text : List Char}
      (rest : Matches pattern text) :
      Matches ('\\' :: character :: pattern) (character :: text)
  | literal (character : Char) (plain : isWildcard character = false)
      {pattern text : List Char} (rest : Matches pattern text) :
      Matches (character :: pattern) (character :: text)

variable {pattern text : List Char}

theorem matches_nil_iff : Matches [] text ↔ text = [] := by
  constructor
  · intro found
    cases found
    rfl
  · rintro rfl
    exact .nil

/-- What an item of a pattern leaves of a text. -/
def Item.Leaves : Item → List Char → List Char → Prop
  | .literal character, text, rest => text = character :: rest
  | .one, text, rest => ∃ character, text = character :: rest
  | .many, text, rest => rest <:+ text

theorem matches_many_iff :
    Matches ('%' :: pattern) text ↔
      ∃ rest, rest <:+ text ∧ Matches pattern rest := by
  constructor
  · intro found
    cases found with
    | many before rest => exact ⟨_, ⟨before, rfl⟩, rest⟩
    | literal _ plain => exact absurd plain (by decide)
  · rintro ⟨rest, ⟨before, rfl⟩, found⟩
    exact .many before found

theorem matches_one_iff :
    Matches ('_' :: pattern) text ↔
      ∃ rest, (∃ character, text = character :: rest) ∧
        Matches pattern rest := by
  constructor
  · intro found
    cases found with
    | one character rest => exact ⟨_, ⟨character, rfl⟩, rest⟩
    | literal _ plain => exact absurd plain (by decide)
  · rintro ⟨rest, ⟨character, rfl⟩, found⟩
    exact .one character found

theorem not_matches_backslash : ¬ Matches ['\\'] text := by
  intro found
  cases found with
  | literal _ plain => exact absurd plain (by decide)

theorem matches_escaped_iff (character : Char) :
    Matches ('\\' :: character :: pattern) text ↔
      ∃ rest, text = character :: rest ∧ Matches pattern rest := by
  constructor
  · intro found
    cases found with
    | escaped _ rest => exact ⟨_, rfl, rest⟩
    | literal _ plain => exact absurd plain (by decide)
  · rintro ⟨rest, rfl, found⟩
    exact .escaped character found

theorem matches_literal_iff {character : Char}
    (plain : isWildcard character = false) :
    Matches (character :: pattern) text ↔
      ∃ rest, text = character :: rest ∧ Matches pattern rest := by
  constructor
  · intro found
    cases found with
    | many | one | escaped => exact absurd plain (by decide)
    | literal _ _ rest => exact ⟨_, rfl, rest⟩
  · rintro ⟨rest, rfl, found⟩
    exact .literal character plain found

/-- The first item of a pattern leaves a rest of the text for the others. -/
theorem accepts_cons_iff (item : Item) (items : List Item)
    (text : List Char) :
    accepts (item :: items) text = true ↔
      ∃ rest, item.Leaves text rest ∧ accepts items rest = true := by
  cases item with
  | literal wanted =>
      cases text with
      | nil => simp [accepts, Item.Leaves]
      | cons character rest =>
          simp [accepts, Item.Leaves, @eq_comm _ wanted, and_assoc]
  | one =>
      cases text with
      | nil => simp [accepts, Item.Leaves]
      | cons character rest => simp [accepts, Item.Leaves]
  | many =>
      induction text with
      | nil => simp [accepts, Item.Leaves]
      | cons character text ih =>
          rw [accepts, Bool.or_eq_true, ih]
          simp only [Item.Leaves, List.suffix_cons_iff, or_and_right,
            exists_or, exists_eq_left]

/-- The items of a readable pattern accept the texts that it stands for. -/
theorem matches_iff_accepts (pattern text : List Char) :
    Matches pattern text ↔
      ∃ items, read (some '\\') pattern = some items ∧
        accepts items text = true := by
  -- What a pattern leaves is left to its items as well.
  have leaves (item : Item) {pattern : List Char}
      (ih : ∀ text, Matches pattern text ↔
        ∃ items, read (some '\\') pattern = some items ∧
          accepts items text = true) (text : List Char) :
      (∃ rest, item.Leaves text rest ∧ Matches pattern rest) ↔
        ∃ items, (read (some '\\') pattern).map (item :: ·) = some items ∧
          accepts items text = true := by
    cases found : read (some '\\') pattern with
    | none => simp [ih, found]
    | some items => simp [ih, found, accepts_cons_iff]
  fun_induction read (some '\\') pattern generalizing text with
  | case1 =>
      rw [matches_nil_iff]
      cases text <;> simp [accepts]
  | case2 character escape =>
      obtain rfl := Option.some.inj escape
      simp [not_matches_backslash]
  | case3 character escape escaped rest ih =>
      obtain rfl := Option.some.inj escape
      rw [matches_escaped_iff]
      exact leaves (.literal escaped) ih text
  | case4 character rest plain item ih =>
      rw [← leaves item ih text]
      by_cases many : character = '%'
      · have item_eq : item = .many := if_pos many
        rw [item_eq, many]
        exact matches_many_iff
      by_cases one : character = '_'
      · have item_eq : item = .one := (if_neg many).trans (if_pos one)
        rw [item_eq, one]
        exact matches_one_iff
      · have item_eq : item = .literal character :=
          (if_neg many).trans (if_neg one)
        rw [item_eq]
        have backslash : character ≠ '\\' := fun same =>
          plain (congrArg some same)
        exact matches_literal_iff (by simp [isWildcard, backslash, many, one])

/-- The matcher finds the texts that a pattern stands for. -/
theorem isMatch_iff_matches (pattern text : List Char) :
    isMatch (some '\\') pattern text = true ↔ Matches pattern text := by
  rw [isMatch_eq, matches_iff_accepts]
  cases read (some '\\') pattern <;> simp

/-- A percent sign at the end of a pattern stands for whatever is left. -/
theorem matches_many (text : List Char) : Matches ['%'] text :=
  matches_many_iff.mpr ⟨[], List.nil_suffix, .nil⟩

/-- An escaped text in front of a pattern stands for itself. -/
theorem matches_escapeLike_append_iff (escaped : List Char) :
    Matches (escapeLike escaped ++ pattern) text ↔
      ∃ rest, text = escaped ++ rest ∧ Matches pattern rest := by
  induction escaped generalizing text with
  | nil => simp [escapeLike]
  | cons character escaped ih =>
      have step : Matches (escapeLike (character :: escaped) ++ pattern) text ↔
          ∃ rest, text = character :: rest ∧
            Matches (escapeLike escaped ++ pattern) rest := by
        rw [escapeLike_cons]
        cases wildcard : isWildcard character with
        | true => exact matches_escaped_iff character
        | false => exact matches_literal_iff wildcard
      rw [step]
      simp only [ih]
      constructor
      · rintro ⟨_, rfl, rest, rfl, found⟩
        exact ⟨rest, rfl, found⟩
      · rintro ⟨rest, rfl, found⟩
        exact ⟨_, rfl, rest, rfl, found⟩

theorem matches_escapeLike_iff (escaped : List Char) :
    Matches (escapeLike escaped) text ↔ text = escaped := by
  have found : Matches (escapeLike escaped ++ []) text ↔
      ∃ rest, text = escaped ++ rest ∧ Matches [] rest :=
    matches_escapeLike_append_iff escaped
  simpa [matches_nil_iff] using found

theorem matches_escapeLike_many_iff (escaped : List Char) :
    Matches (escapeLike escaped ++ ['%']) text ↔ escaped <+: text := by
  rw [matches_escapeLike_append_iff]
  simp only [matches_many, and_true, @eq_comm _ text]
  rfl

theorem matches_many_escapeLike_iff (escaped : List Char) :
    Matches ('%' :: escapeLike escaped) text ↔ escaped <:+ text := by
  simp [matches_many_iff, matches_escapeLike_iff]

/-- A pattern of words stands for the texts in which they occur in order. -/
theorem matches_patternOf_iff (parts : List (List Char))
    (text : List Char) :
    Matches ('%' :: patternOf parts ++ ['%']) text ↔
      Text.OccurInOrder parts text := by
  have first (part : List Char) {behind : List Char}
      {parts : List (List Char)}
      (ih : ∀ after, Matches behind after ↔ Text.OccurInOrder parts after)
      (text : List Char) :
      Matches ('%' :: (escapeLike part ++ behind)) text ↔
        Text.OccurInOrder (part :: parts) text := by
    simp only [matches_many_iff, matches_escapeLike_append_iff, ih]
    constructor
    · rintro ⟨_, ⟨before, rfl⟩, after, rfl, found⟩
      exact ⟨before, after, (List.append_assoc ..).symm, found⟩
    · rintro ⟨before, after, rfl, found⟩
      exact ⟨part ++ after, ⟨before, (List.append_assoc ..).symm⟩, after, rfl,
        found⟩
  induction parts generalizing text with
  | nil =>
      rw [patternOf_nil, List.singleton_append]
      have all : Matches ['%', '%'] text :=
        matches_many_iff.mpr ⟨text, List.suffix_rfl, matches_many text⟩
      exact iff_of_true all trivial
  | cons part parts ih =>
      cases parts with
      | nil =>
          have behind (after : List Char) :
              Matches ['%'] after ↔ Text.OccurInOrder [] after :=
            iff_of_true (matches_many after) trivial
          rw [patternOf_singleton]
          exact first part behind text
      | cons next parts =>
          rw [patternOf_cons_cons, ← List.cons_append, List.append_assoc]
          exact first part (ih · ) text

theorem matches_anywhere_iff (part text : List Char) :
    Matches ('%' :: escapeLike part ++ ['%']) text ↔ part <:+: text := by
  rw [← Text.occurInOrder_singleton_iff, ← matches_patternOf_iff,
    patternOf_singleton]

/-- A text matches a pattern, both of them lowered. -/
def matchesLowered (pattern text : String) : Bool :=
  isMatch (some '\\') (Text.lowered pattern) (Text.lowered text)

theorem matchesLowered_ofList_iff (pattern : List Char) (text : String) :
    matchesLowered (String.ofList pattern) text = true ↔
      Matches (pattern.map Char.toLower) (Text.lowered text) := by
  rw [matchesLowered, isMatch_iff_matches, Text.lowered_eq (.ofList pattern),
    String.toList_ofList]

example :
    matchesLowered "%50\\%%Off\\\\%" "now 50% and more OFF\\!" = true := by
  decide +kernel

end Like

end DataGrid.Sql
