import DataGrid.Proofs.Source.Words

/-!
# SELECT lists

The items of a SELECT list are qualified columns, some of which are given names,
with commas between them.  A search through the text of a list finds the first
item that goes by the wanted name, because nowhere else can an item begin.
-/

namespace DataGrid.Source

/-- `AS` and a name behind a qualified column. -/
structure Naming where
  gap : Gap
  as_ : AsLetters
  behind : Gap
  name : Word

def Naming.characters (naming : Naming) : List Char :=
  naming.gap.characters ++ (naming.as_.characters ++
    (naming.behind.characters ++ naming.name.characters))

/-- An item of a SELECT list: a qualified column, possibly with a name, and the
white space around it. -/
structure SelectItem where
  before : Blanks
  qualifier : Word
  column : Word
  naming : Option Naming
  after : Blanks

namespace SelectItem

/-- The qualified column of an item. -/
def expression (item : SelectItem) : List Char :=
  item.qualifier.characters ++ '.' :: item.column.characters

def namingCharacters (item : SelectItem) : List Char :=
  (item.naming.map Naming.characters).getD []

def characters (item : SelectItem) : List Char :=
  item.before.characters ++ (item.expression ++ (item.namingCharacters ++
    item.after.characters))

/-- The name that an item is given. -/
def alias? (item : SelectItem) : Option Word :=
  item.naming.map Naming.name

end SelectItem

def listCharacters (items : List SelectItem) : List Char :=
  [','].intercalate (items.map SelectItem.characters)

/-- What stands behind an item of a list: nothing, or a comma and the others. -/
def othersCharacters : List SelectItem → List Char
  | [] => []
  | items => ',' :: listCharacters items

theorem listCharacters_cons (item : SelectItem) (others : List SelectItem) :
    listCharacters (item :: others) =
      item.before.characters ++ (item.expression ++ (item.namingCharacters ++
        (item.after.characters ++ othersCharacters others))) := by
  cases others with
  | nil =>
      simp [listCharacters, othersCharacters, SelectItem.characters]
  | cons next others =>
      simp [listCharacters, othersCharacters, SelectItem.characters,
        List.intercalate_cons_cons]

/-- The text is at its end, or at a comma. -/
abbrev AtComma (text : List Char) : Prop :=
  Ended (· == ',') text

theorem atComma_othersCharacters (items : List SelectItem) :
    AtComma (othersCharacters items) := by
  cases items with
  | nil => exact ended_nil _
  | cons item others => exact ended_cons rfl _

/-- White space up to the end or up to a comma ends an item. -/
theorem Blanks.ended_append (blanks : Blanks) {rest : List Char}
    (atComma : AtComma rest) : Ended endsItem (blanks.characters ++ rest) := by
  cases shape : blanks.characters with
  | nil => exact atComma.mono fun character comma => by simp [endsItem, comma]
  | cons first others =>
      have blank := blanks.blank first (by simp [shape])
      exact ended_cons (by simp [endsItem, blank]) _

theorem Gap.ended_append (gap : Gap) (text : List Char) :
    Ended Text.isBlank (gap.characters ++ text) := by
  obtain ⟨first, others, shape⟩ := List.exists_cons_of_ne_nil gap.nonempty
  rw [shape]
  exact ended_cons (gap.blank first (by simp [shape])) _

theorem isBreak_of_endsItem {character : Char}
    (ends : endsItem character = true) : isBreak character = true := by
  simp only [endsItem, Bool.or_eq_true] at ends
  rcases ends with comma | blank
  · simp [isBreak, comma]
  · exact isBreak_of_isBlank blank

/-- A pattern reads the items of a SELECT list: items begin behind commas and
white space, and an item has its qualified column and goes by a name, if it
goes by any. -/
structure Reads (separates : Char → Bool) (item : List Char → Option Found)
    (name? : SelectItem → Option Word) : Prop where
  comma : separates ',' = true
  blank : ∀ character, Text.isBlank character = true →
    separates character = true
  breaks : ∀ character, separates character = true →
    isBreak character = true
  unqualified : ∀ text, takeQualified text = none → item text = none
  reads : ∀ (entry : SelectItem) (rest : List Char), AtComma rest →
    ∃ behind, Ended endsItem behind ∧
      item (entry.expression ++ (entry.namingCharacters ++
        (entry.after.characters ++ rest))) =
        (name? entry).map fun name =>
          { expression := entry.expression
            name := name.characters
            rest := behind }

section Reading

variable {separates : Char → Bool} {item : List Char → Option Found}
  {name? : SelectItem → Option Word}

theorem Reads.beginsNone (reads : Reads separates item name?)
    (character : Char) (rest : List Char)
    (separated : separates character = true) :
    item (character :: rest) = none :=
  reads.unqualified _ (takeQualified_of_ended
    (ended_cons (isNameBreak_of_isBreak (reads.breaks _ separated)) rest))

theorem Reads.separates_eq_false (reads : Reads separates item name?)
    {character : Char} (plain : isBreak character = false) :
    separates character = false := by
  cases separated : separates character with
  | false => rfl
  | true => simp [reads.breaks _ separated] at plain

variable (wanted : String)

/-- Behind a word that ends without a point, a search goes on. -/
theorem Reads.firstItem_word (reads : Reads separates item name?)
    (word : Word) {rest : List Char} (ended : Ended isBreak rest) :
    firstItem separates item wanted endsItem (word.characters ++ rest) =
      laterItem separates item wanted endsItem rest := by
  rw [firstItem_of_item_eq_none
    (reads.unqualified _ (takeQualified_word word ended))]
  exact laterItem_append_of_plain (fun character member =>
    reads.separates_eq_false (word.isBreak_eq_false character member)) rest

theorem Reads.laterItem_gap (reads : Reads separates item name?) (gap : Gap)
    (text : List Char) :
    laterItem separates item wanted endsItem (gap.characters ++ text) =
      firstItem separates item wanted endsItem text := by
  obtain ⟨first, others, shape⟩ := List.exists_cons_of_ne_nil gap.nonempty
  have blank := gap.blank
  rw [shape, List.forall_mem_cons] at blank
  rw [shape, List.cons_append, laterItem_cons, reads.blank _ blank.1,
    if_pos rfl]
  exact firstItem_append_of_separators reads.beginsNone
    (fun character member => reads.blank _ (blank.2 character member)) text

/-- In what is left of an item behind its column, no item begins. -/
theorem Reads.laterItem_naming (reads : Reads separates item name?)
    (entry : SelectItem) {rest : List Char} (ended : Ended endsItem rest) :
    laterItem separates item wanted endsItem (entry.namingCharacters ++ rest) =
      laterItem separates item wanted endsItem rest := by
  have ended := ended.mono fun _ => isBreak_of_endsItem
  unfold SelectItem.namingCharacters
  cases entry.naming with
  | none => rfl
  | some naming =>
      have behindAs := (naming.behind.ended_append
        (naming.name.characters ++ rest)).mono fun _ => isBreak_of_isBlank
      simp only [Option.map_some, Option.getD_some, Naming.characters,
        List.append_assoc]
      rw [reads.laterItem_gap]
      refine (reads.firstItem_word wanted naming.as_.word behindAs).trans ?_
      rw [reads.laterItem_gap, reads.firstItem_word wanted naming.name ended]

theorem Reads.laterItem_blanks (reads : Reads separates item name?)
    (blanks : Blanks) {rest : List Char} (atComma : AtComma rest) :
    laterItem separates item wanted endsItem (blanks.characters ++ rest) =
      laterItem separates item wanted endsItem rest := by
  obtain ⟨characters, blank⟩ := blanks
  cases characters with
  | nil => rfl
  | cons first others =>
      have ended : Ended isNameBreak rest := atComma.mono fun character comma =>
        isNameBreak_of_isBreak (by simp [isBreak, comma])
      rw [reads.laterItem_gap wanted ⟨⟨first :: others, blank⟩, by simp⟩ rest]
      exact firstItem_of_item_eq_none
        (reads.unqualified _ (takeQualified_of_ended ended))

/-- Where an item begins, a search finds the item if it goes by the wanted name,
and goes on behind it otherwise. -/
theorem Reads.expression_firstItem (reads : Reads separates item name?)
    (entry : SelectItem) {rest : List Char} (atComma : AtComma rest) :
    (firstItem separates item wanted endsItem
      (entry.before.characters ++ (entry.expression ++
        (entry.namingCharacters ++
          (entry.after.characters ++ rest))))).map Found.expression =
      if (name? entry).any fun name => Text.sameLetters name.text wanted then
        some entry.expression
      else (laterItem separates item wanted endsItem rest).map
        Found.expression := by
  rw [firstItem_append_of_separators reads.beginsNone fun character member =>
    reads.blank _ (entry.before.blank character member)]
  -- An item that is refused is passed over whole: no place within it is one
  -- where another item could begin.
  have skipped : laterItem separates item wanted endsItem
      (entry.expression ++ (entry.namingCharacters ++
        (entry.after.characters ++ rest))) =
      laterItem separates item wanted endsItem rest := by
    have plain : ∀ character ∈ entry.expression,
        separates character = false := by
      intro character member
      refine reads.separates_eq_false ?_
      simp only [SelectItem.expression, List.mem_append, List.mem_cons]
        at member
      rcases member with member | rfl | member
      · exact entry.qualifier.isBreak_eq_false character member
      · decide
      · exact entry.column.isBreak_eq_false character member
    rw [laterItem_append_of_plain plain,
      reads.laterItem_naming wanted entry (entry.after.ended_append atComma),
      reads.laterItem_blanks wanted entry.after atComma]
  obtain ⟨behind, ended, found⟩ := reads.reads entry rest atComma
  have accepts (name : Word) :
      Found.accepts ⟨entry.expression, name.characters, behind⟩ wanted
        endsItem = Text.sameLetters name.text wanted := by
    cases behind with
    | nil => simp [Found.accepts, Word.text]
    | cons character behind =>
        have ends : endsItem character = true := ended character rfl
        simp [Found.accepts, Word.text, ends]
  rw [firstItem, found, skipped]
  cases name? entry with
  | none => rfl
  | some name =>
      cases same : Text.sameLetters name.text wanted <;>
        simp [Option.filter, accepts, same]

/-- A search through a SELECT list finds the first item that goes by the wanted
name. -/
theorem Reads.expression_firstItem_list (reads : Reads separates item name?)
    (items : List SelectItem) :
    (firstItem separates item wanted endsItem
      (listCharacters items)).map Found.expression =
      (items.find? fun entry => (name? entry).any fun name =>
        Text.sameLetters name.text wanted).map SelectItem.expression := by
  induction items with
  | nil =>
      have nothing := takeQualified_of_ended (ended_nil isNameBreak)
      change Option.map _ (firstItem _ _ _ _ []) = none
      rw [firstItem_of_item_eq_none (reads.unqualified _ nothing),
        laterItem_nil]
      rfl
  | cons entry others ih =>
      rw [listCharacters_cons, reads.expression_firstItem wanted entry
        (atComma_othersCharacters others), List.find?_cons]
      cases (name? entry).any fun name =>
          Text.sameLetters name.text wanted with
      | true => rfl
      | false =>
          cases others with
          | nil =>
              simp [othersCharacters, laterItem_nil]
          | cons next others =>
              simp only [othersCharacters, laterItem_cons, reads.comma]
              exact ih

end Reading

theorem skipAs_of_atComma {text : List Char} (atComma : AtComma text) :
    skipAs text = none := by
  cases text with
  | nil => rfl
  | cons first rest =>
      have comma : first = ',' := beq_iff_eq.mp (atComma first rfl)
      cases rest with
      | nil => rfl
      | cons second rest => simp [skipAs, comma]

theorem Ended.not_isBlank {text : List Char} (atComma : AtComma text) :
    Ended (!Text.isBlank ·) text :=
  atComma.mono fun character comma => by
    rw [beq_iff_eq.mp comma]
    decide

/-- Behind a column without a name stands no AS. -/
theorem bind_skipAs_blanks (blanks : Blanks) {rest : List Char}
    (atComma : AtComma rest) :
    (skipBlanks (blanks.characters ++ rest)).bind skipAs = none := by
  obtain ⟨characters, blank⟩ := blanks
  cases characters with
  | nil =>
      cases rest with
      | nil => rfl
      | cons character rest =>
          have comma : character = ',' := beq_iff_eq.mp (atComma character rfl)
          rw [comma]
          rfl
  | cons first others =>
      rw [Gap.skipBlanks_append ⟨⟨first :: others, blank⟩, by simp⟩
        (Ended.not_isBlank atComma)]
      exact skipAs_of_atComma atComma

theorem SelectItem.takeQualified (item : SelectItem) {rest : List Char}
    (ended : Ended isNameBreak rest) :
    Source.takeQualified (item.expression ++ rest) =
      some (item.qualifier.characters, item.column.characters, rest) := by
  rw [SelectItem.expression, List.append_assoc, List.cons_append]
  exact takeQualified_append _ _ ended

/-- What stands behind the column of an item ends the column. -/
theorem SelectItem.ended_namingCharacters (item : SelectItem)
    {rest : List Char} (ended : Ended endsItem rest) :
    Ended endsItem (item.namingCharacters ++ rest) := by
  unfold namingCharacters
  cases item.naming with
  | none => exact ended
  | some naming =>
      simp only [Option.map_some, Option.getD_some, Naming.characters,
        List.append_assoc]
      exact (naming.gap.ended_append _).mono fun character blank => by
        simp [endsItem, blank]

/-- Columns with names are read as the items that go by those names. -/
theorem reads_aliasedItem :
    Reads isBreak aliasedItem SelectItem.alias? where
  comma := by decide
  blank _ := isBreak_of_isBlank
  breaks _ := id
  unqualified text none := by
    rw [aliasedItem, none]
    rfl
  reads entry rest atComma := by
    have ended := entry.after.ended_append atComma
    have column := (entry.ended_namingCharacters ended).mono
      fun _ ends => isNameBreak_of_isBreak (isBreak_of_endsItem ends)
    refine ⟨_, ended, ?_⟩
    rw [aliasedItem, entry.takeQualified column]
    simp only [Option.bind_eq_bind, Option.bind_some]
    unfold SelectItem.namingCharacters SelectItem.alias?
    cases entry.naming with
    | none =>
        have stops := bind_skipAs_blanks entry.after atComma
        simp only [Option.map_none, Option.getD_none, List.nil_append]
        rw [← Option.bind_assoc, stops]
        rfl
    | some naming =>
        simp only [Option.map_some, Option.getD_some, Naming.characters,
          List.append_assoc, naming.gap.skipBlanks_append
            (naming.as_.ended_append _),
          Option.bind_some, naming.as_.skipAs_append,
          naming.behind.skipBlanks_append (naming.name.ended_append _),
          naming.name.takeUntil_isBreak
            (ended.mono fun _ => isBreak_of_endsItem), Option.pure_def]
        rfl

/-- Columns are read as the items that show them, with or without names. -/
theorem reads_qualifiedItem :
    Reads (fun character => Text.isBlank character || character == ',')
      qualifiedItem fun entry => some entry.column where
  comma := by decide
  blank _ blank := by simp [blank]
  breaks character separated := by
    simp only [Bool.or_eq_true] at separated
    rcases separated with blank | comma
    · exact isBreak_of_isBlank blank
    · simp [isBreak, comma]
  unqualified text none := by
    rw [qualifiedItem, none]
    rfl
  reads entry rest atComma := by
    have ended := entry.ended_namingCharacters
      (entry.after.ended_append atComma)
    have column := ended.mono
      fun _ ends => isNameBreak_of_isBreak (isBreak_of_endsItem ends)
    refine ⟨_, ended, ?_⟩
    rw [qualifiedItem, entry.takeQualified column]
    rfl

end DataGrid.Source
