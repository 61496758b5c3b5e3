import DataGrid.Action.Address
import DataGrid.Proofs.Source.Words
import DataGrid.Proofs.Text.Percent
import Mathlib.Data.List.Infix

/-!
# What becomes of an address

An address can be read in one way as characters and fields, where every name in
braces is a field.  Its expansion keeps the characters and writes something for
each field: the encoded value, or the name in braces when the row has no such
field.  What is written is not read again.
-/

namespace DataGrid

open Source (Word)

namespace Address

/-- A part of an address: a character, or a field by its name in braces. -/
inductive Part
  | plain (character : Char)
  | field (name : Word)

/-- The characters that a name takes in an address. -/
def placeholder (name : Word) : List Char :=
  '\x7b' :: (name.characters ++ ['\x7d'])

def Part.characters : Part → List Char
  | plain character => [character]
  | field name => placeholder name

def written (parts : List Part) : List Char :=
  parts.flatMap Part.characters

/-- What a row shows for a field: its value as a component of an address, or the
name in braces when there is no value. -/
def shown (row : Row) (name : Word) : List Char :=
  match Json.Fields.get? row (String.ofList name.characters) with
  | some value => (Text.percentEncode value.plain).toList
  | none => placeholder name

/-- What becomes of a part: a character stays as it is. -/
def Part.expand (row : Row) : Part → List Char
  | plain character => [character]
  | field name => shown row name

/-- Nowhere do characters of their own spell a name in braces. -/
def Complete (parts : List Part) : Prop :=
  ∀ name : Word, ¬ (placeholder name).map .plain <:+: parts

/-- Parts in which every name in braces is a field. -/
structure Reading where
  parts : List Part
  complete : Complete parts

namespace Reading

/-- The address that is read. -/
def text (reading : Reading) : String :=
  String.ofList (written reading.parts)

def expand (row : Row) (reading : Reading) : String :=
  String.ofList (reading.parts.flatMap (Part.expand row))

end Reading

variable {parts rest : List Part} {name other : Word} {character : Char}

theorem written_cons (part : Part) (rest : List Part) :
    written (part :: rest) = part.characters ++ written rest :=
  List.flatMap_cons

theorem complete_nil : Complete [] := by
  intro name spelled
  rw [List.infix_nil] at spelled
  cases spelled

theorem Complete.tail {part : Part} (complete : Complete (part :: rest)) :
    Complete rest :=
  fun name spelled =>
    complete name (spelled.trans (List.suffix_cons _ _).isInfix)

theorem openingBrace_notMem (name : Word) :
    '\x7b' ∉ name.characters ++ ['\x7d'] := by
  intro member
  rcases List.mem_append.mp member with inside | closing
  · exact absurd (name.plain _ inside) (by decide)
  · exact absurd closing (by decide)

/-- A name is taken up to its closing brace. -/
theorem takeFieldName_append (name : Word) (rest : List Char) :
    takeFieldName (name.characters ++ '\x7d' :: rest) =
      some (name.characters, rest) := by
  have stops : Text.continuesIdentifier '\x7d' = false := by decide
  have taken : (name.characters ++ '\x7d' :: rest).takeWhile
      Text.continuesIdentifier = name.characters := by
    rw [List.takeWhile_append_of_pos name.plain, List.takeWhile_cons_of_neg
      (by simp [stops]), List.append_nil]
  have left : (name.characters ++ '\x7d' :: rest).dropWhile
      Text.continuesIdentifier = '\x7d' :: rest := by
    rw [List.dropWhile_append_of_pos name.plain, List.dropWhile_cons_of_neg
      (by simp [stops])]
  obtain ⟨first, others, name_eq⟩ := List.exists_cons_of_ne_nil name.nonempty
  unfold takeFieldName
  rw [taken, left, name_eq]
  rfl

/-- Only a name with its closing brace is taken. -/
theorem exists_word_of_takeFieldName {characters taken rest : List Char}
    (found : takeFieldName characters = some (taken, rest)) :
    ∃ name : Word, name.characters = taken ∧
      characters = taken ++ '\x7d' :: rest := by
  unfold takeFieldName at found
  split at found
  · rename_i first others remaining front back
    obtain ⟨rfl, rfl⟩ := Prod.mk.inj (Option.some.inj found)
    have plain : ∀ character ∈ first :: others,
        Text.continuesIdentifier character = true := by
      intro character member
      rw [← front] at member
      exact List.mem_takeWhile_imp member
    refine ⟨⟨first :: others, List.cons_ne_nil _ _, plain⟩, rfl, ?_⟩
    rw [← front, ← back, List.takeWhile_append_dropWhile]
  · cases found

/-- A field is expanded, and what is written for it is left behind. -/
theorem expandCharacters_placeholder (row : Row) (name : Word)
    (rest : List Char) :
    expandCharacters row (placeholder name ++ rest) =
      shown row name ++ expandCharacters row rest := by
  rw [placeholder, List.cons_append, List.append_assoc, List.singleton_append,
    expandCharacters, if_pos (beq_self_eq_true _)]
  split
  · rename_i found
    rw [takeFieldName_append] at found
    obtain ⟨rfl, rfl⟩ := Prod.mk.inj (Option.some.inj found)
    rfl
  · rename_i missing
    rw [takeFieldName_append] at missing
    cases missing

/-- A character that begins no name in braces is kept. -/
theorem expandCharacters_plain (row : Row) {rest : List Char}
    (plain : ∀ name : Word, ¬ placeholder name <+: character :: rest) :
    expandCharacters row (character :: rest) =
      character :: expandCharacters row rest := by
  rw [expandCharacters]
  split
  · rename_i opens
    split
    · rename_i taken remaining found
      obtain ⟨name, rfl, rfl⟩ := exists_word_of_takeFieldName found
      refine absurd ⟨remaining, ?_⟩ (plain name)
      simp [placeholder, eq_of_beq opens]
    · rfl
  · rfl

/-- Characters without an opening brace in front of an address are parts of
their own. -/
theorem map_plain_prefix_of_prefix {run : List Char}
    (noBrace : '\x7b' ∉ run) (front : run <+: written parts) :
    run.map .plain <+: parts := by
  induction run generalizing parts with
  | nil => exact List.nil_prefix
  | cons character run ih =>
      cases parts with
      | nil => exact absurd (List.prefix_nil.mp front) (List.cons_ne_nil _ _)
      | cons part rest =>
          rw [written_cons] at front
          simp only [List.mem_cons, not_or] at noBrace
          cases part with
          | plain other =>
              obtain ⟨rfl, behind⟩ := List.cons_prefix_cons.mp front
              exact List.cons_prefix_cons.mpr ⟨rfl, ih noBrace.2 behind⟩
          | field name =>
              obtain ⟨opens, -⟩ := List.cons_prefix_cons.mp front
              exact absurd opens.symm noBrace.1

/-- Where a character stands by itself, no name in braces begins. -/
theorem Complete.not_placeholder_prefix
    (complete : Complete (.plain character :: rest)) (name : Word) :
    ¬ placeholder name <+: character :: written rest := by
  intro front
  obtain ⟨rfl, behind⟩ := List.cons_prefix_cons.mp front
  refine complete name (List.IsPrefix.isInfix ?_)
  exact List.cons_prefix_cons.mpr
    ⟨rfl, map_plain_prefix_of_prefix (openingBrace_notMem name) behind⟩

/-- The expansion goes part by part. -/
theorem expandCharacters_written (row : Row) (complete : Complete parts) :
    expandCharacters row (written parts) =
      parts.flatMap (Part.expand row) := by
  induction parts with
  | nil => rw [written, List.flatMap_nil, expandCharacters, List.flatMap_nil]
  | cons part rest ih =>
      rw [written_cons, List.flatMap_cons]
      cases part with
      | plain character =>
          rw [Part.characters, List.singleton_append, expandCharacters_plain
            row complete.not_placeholder_prefix, ih complete.tail]
          rfl
      | field name =>
          rw [Part.characters, expandCharacters_placeholder, ih complete.tail]
          rfl

/-- Every address can be read. -/
theorem exists_complete (characters : List Char) :
    ∃ parts, Complete parts ∧ written parts = characters := by
  -- A name in braces is shorter than the address that begins with it.
  induction size : characters.length using Nat.strong_induction_on
    generalizing characters with
  | _ size ih =>
  subst size
  by_cases opens : ∃ name : Word, placeholder name <+: characters
  · obtain ⟨name, remaining, rfl⟩ := opens
    obtain ⟨rest, complete, rfl⟩ := ih remaining.length
      (by simp [placeholder]; omega) remaining rfl
    refine ⟨.field name :: rest, fun other spelled => ?_, rfl⟩
    rcases List.infix_cons_iff.mp spelled with front | behind
    · obtain ⟨same, -⟩ := List.cons_prefix_cons.mp front
      cases same
    · exact complete other behind
  · cases characters with
    | nil => exact ⟨[], complete_nil, rfl⟩
    | cons character remaining =>
        obtain ⟨rest, complete, rfl⟩ := ih remaining.length (by simp)
          remaining rfl
        refine ⟨.plain character :: rest, fun name spelled => ?_, rfl⟩
        rcases List.infix_cons_iff.mp spelled with front | behind
        · obtain ⟨tail, parts_eq⟩ := front
          refine opens ⟨name, written tail, ?_⟩
          have texts_eq := congrArg written parts_eq
          simpa [written, Part.characters, List.flatMap_append,
            List.flatMap_map] using texts_eq
        · exact complete name behind

/-- An address begins with one name in braces at most. -/
theorem placeholder_append_inj {tail others : List Char}
    (same : placeholder name ++ tail = placeholder other ++ others) :
    name = other ∧ tail = others := by
  have texts_eq : name.characters ++ '\x7d' :: tail =
      other.characters ++ '\x7d' :: others := by
    simpa [placeholder] using same
  have found := congrArg takeFieldName texts_eq
  rw [takeFieldName_append, takeFieldName_append] at found
  obtain ⟨names_eq, rfl⟩ := Prod.mk.inj (Option.some.inj found)
  cases name
  cases other
  simp_all

/-- An address can be read in one way at most. -/
theorem eq_of_written_eq {others : List Part} (complete : Complete parts)
    (othersComplete : Complete others)
    (same : written parts = written others) : parts = others := by
  induction parts generalizing others with
  | nil =>
      cases others with
      | nil => rfl
      | cons part rest => cases part <;> cases same
  | cons part rest ih =>
      cases others with
      | nil => cases part <;> cases same
      | cons otherPart otherRest =>
          rw [written_cons, written_cons] at same
          have later := ih complete.tail othersComplete.tail
          cases part with
          | plain character =>
              cases otherPart with
              | plain otherCharacter =>
                  obtain ⟨rfl, rest_eq⟩ := List.cons.inj same
                  rw [later rest_eq]
              | field name =>
                  exact absurd ⟨_, same.symm⟩
                    (complete.not_placeholder_prefix name)
          | field name =>
              cases otherPart with
              | plain otherCharacter =>
                  exact absurd ⟨_, same⟩
                    (othersComplete.not_placeholder_prefix name)
              | field other =>
                  obtain ⟨rfl, rest_eq⟩ := placeholder_append_inj same
                  rw [later rest_eq]

theorem Reading.eq_of_text_eq {reading other : Reading}
    (same : reading.text = other.text) : reading = other := by
  have parts_eq := eq_of_written_eq reading.complete other.complete
    (String.ofList_injective same)
  cases reading
  cases other
  exact (mk.injEq _ _ _ _).mpr parts_eq

end Address

/-- An address can be read in exactly one way as characters and fields.  Its
expansion keeps the characters and writes for each field what the row shows for
it.  An encoded value consists of letters, digits and the characters
`* - . _ %` of ASCII, so that it brings in no character with a meaning; it is
read back as the bytes of the value's text, and is what a form sends for it,
with plus signs replaced by encoded spaces. -/
theorem Row.expandAddress_eq_expand (row : Row) (address : String) :
    (∃ reading : Address.Reading,
      (∀ other : Address.Reading, other.text = address ↔ other = reading) ∧
      row.expandAddress address = reading.expand row) ∧
    ∀ text : String,
      (∀ character ∈ (Text.percentEncode text).toList,
        Text.isComponentCharacter character = true) ∧
      (∀ character ∈ Text.reserved,
        character ∉ (Text.percentEncode text).toList) ∧
      Text.percentDecode (Text.percentEncode text).toList =
        text.toUTF8.toList ∧
      Text.percentEncode text = Text.replacePluses (Text.formEncode text) := by
  constructor
  · obtain ⟨parts, complete, written_eq⟩ :=
      Address.exists_complete address.toList
    let reading : Address.Reading := ⟨parts, complete⟩
    have text_eq : reading.text = address := by
      rw [Address.Reading.text, written_eq, String.ofList_toList]
    refine ⟨reading, fun other => ⟨fun same => ?_, ?_⟩, ?_⟩
    · exact Address.Reading.eq_of_text_eq (same.trans text_eq.symm)
    · rintro rfl
      exact text_eq
    · rw [expandAddress, ← written_eq,
        Address.expandCharacters_written row complete]
      rfl
  · intro text
    exact ⟨fun _ => Text.isComponentCharacter_of_mem_percentEncode,
      Text.reserved_notMem_percentEncode text,
      Text.percentDecode_percentEncode text, Text.percentEncode_eq text⟩

end DataGrid
