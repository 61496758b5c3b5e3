import DataGrid.Proofs.Source.SelectList

/-!
# What keys resolve to

A source whose SELECT list is made of qualified columns, and whose FROM clause
begins with a table and possibly an alias, gives every key an expression: the
column that is given the key's name, else the column of that name, else the key
behind the alias or the table.
-/

namespace DataGrid.Source

/-- An alias behind the table of a FROM clause, with or without AS. -/
structure TableNaming where
  gap : Gap
  as? : Option (AsLetters × Gap)
  name : Word

/-- A FROM clause of one table, possibly with an alias, and the white space
around it. -/
structure FromClause where
  before : Blanks
  table : Word
  naming : Option TableNaming
  after : Blanks

namespace TableNaming

def asCharacters (naming : TableNaming) : List Char :=
  (naming.as?.map fun (letters, gap) =>
    letters.characters ++ gap.characters).getD []

def characters (naming : TableNaming) : List Char :=
  naming.gap.characters ++ (naming.asCharacters ++ naming.name.characters)

end TableNaming

namespace FromClause

def namingCharacters (clause : FromClause) : List Char :=
  (clause.naming.map TableNaming.characters).getD []

/-- The clause without the white space around it. -/
def core (clause : FromClause) : List Char :=
  clause.table.characters ++ clause.namingCharacters

def text (clause : FromClause) : String :=
  String.ofList (clause.before.characters ++ (clause.core ++
    clause.after.characters))

/-- The alias of the table, if it has one that is not a keyword in any case of
its letters. -/
def alias? (clause : FromClause) : Option Word :=
  (clause.naming.map TableNaming.name).filter fun name =>
    !fromKeywords.contains (Text.lower name.text)

/-- The name by which the clause addresses its table. -/
def qualifier (clause : FromClause) : Word :=
  clause.alias?.getD clause.table

end FromClause

def Word.reverse (word : Word) : Word where
  characters := word.characters.reverse
  nonempty := by simpa using word.nonempty
  plain := by simpa using word.plain

/-- White space around a text that begins and ends with words is trimmed. -/
theorem trim_append (before after : Blanks) {text : List Char}
    (begins : Ended (!Text.isBlank ·) text)
    (ends : Ended (!Text.isBlank ·) text.reverse) (nonempty : text ≠ []) :
    Text.trim (String.ofList (before.characters ++ (text ++
      after.characters))) = String.ofList text := by
  have front : Ended (!Text.isBlank ·) (text ++ after.characters) := by
    obtain ⟨first, others, rfl⟩ := List.exists_cons_of_ne_nil nonempty
    exact begins
  have back : ∀ character ∈ after.characters.reverse,
      Text.isBlank character = true := by
    simpa using after.blank
  have dropped := trimStart_append back ends
  rw [Text.trim, String.toList_ofList, trimStart_append before.blank front,
    Text.trimEnd, List.reverse_append]
  change String.ofList (Text.trimStart _).reverse = _
  rw [dropped, List.reverse_reverse]

namespace FromClause

theorem trim_text (clause : FromClause) :
    Text.trim clause.text = String.ofList clause.core := by
  have begins := clause.table.ended_append clause.namingCharacters
  have ends : Ended (!Text.isBlank ·) clause.core.reverse := by
    rw [core, List.reverse_append]
    unfold namingCharacters
    cases clause.naming with
    | none =>
        have last := clause.table.reverse.ended_append []
        rwa [List.append_nil] at last
    | some naming =>
        simp only [Option.map_some, Option.getD_some,
          TableNaming.characters, List.reverse_append, List.append_assoc]
        exact naming.name.reverse.ended_append _
  have nonempty : clause.core ≠ [] := by
    simp [core, clause.table.nonempty]
  exact trim_append clause.before clause.after begins ends nonempty

end FromClause

/-- A word with nothing behind it is not AS followed by a name. -/
theorem skipAs_word (word : Word) : skipAs word.characters = none := by
  have plain := word.isBlank_eq_false
  generalize word.characters = characters at plain
  match characters, plain with
  | [], _ => rfl
  | [_], _ => rfl
  | [_, _], _ => simp [skipAs, skipBlanks]
  | _ :: _ :: third :: rest, plain =>
      have third_plain := plain third (by simp)
      simp [skipAs, skipBlanks, third_plain]

theorem takeUntil_isBreak_word (word : Word) :
    takeUntil isBreak word.characters = some (word.characters, []) := by
  simpa using word.takeUntil_isBreak (ended_nil _)

namespace TableNaming

theorem ended (naming : TableNaming) :
    Ended (!Text.isBlank ·)
      (naming.asCharacters ++ naming.name.characters) := by
  unfold asCharacters
  cases naming.as? with
  | none => exact naming.name.ended
  | some asGap =>
      simp only [Option.map_some, Option.getD_some, List.append_assoc]
      exact asGap.1.ended_append _

/-- An alias is found behind AS, or at once. -/
theorem name_found (naming : TableNaming) :
    ((skipAs (naming.asCharacters ++ naming.name.characters)).bind
        (takeUntil isBreak)).or
      (takeUntil isBreak (naming.asCharacters ++ naming.name.characters)) =
      some (naming.name.characters, []) := by
  unfold asCharacters
  cases naming.as? with
  | none =>
      simp only [Option.map_none, Option.getD_none, List.nil_append,
        skipAs_word, Option.bind_none, Option.none_or,
        takeUntil_isBreak_word]
  | some asGap =>
      simp only [Option.map_some, Option.getD_some, List.append_assoc,
        asGap.1.skipAs_append, asGap.2.skipBlanks_append naming.name.ended,
        Option.bind_some, takeUntil_isBreak_word, Option.some_or]

end TableNaming

/-- The alias is found behind the table. -/
theorem FromClause.tableAlias_core (clause : FromClause) (atStart : Bool) :
    (tableAlias atStart clause.core).map Found.name =
      clause.naming.map fun naming => naming.name.characters := by
  unfold core namingCharacters
  cases clause.naming with
  | none =>
      simp only [Option.map_none, Option.getD_none, List.append_nil]
      rw [tableAlias, takeUntil_isBreak_word]
      rfl
  | some naming =>
      have gap := (naming.gap.ended_append (naming.asCharacters ++
        naming.name.characters)).mono fun _ => isBreak_of_isBlank
      simp only [Option.map_some, Option.getD_some, TableNaming.characters]
      rw [tableAlias, clause.table.takeUntil_isBreak gap]
      simp only [Option.bind_eq_bind, Option.bind_some,
        naming.gap.skipBlanks_append naming.ended, naming.name_found,
        Option.pure_def, Option.map_some]

theorem FromClause.leadingWord_core (clause : FromClause) :
    leadingWord clause.core = some clause.table.characters := by
  unfold core namingCharacters
  cases clause.naming with
  | none =>
      simp only [Option.map_none, Option.getD_none]
      rw [leadingWord, clause.table.takeUntil_isBreak (ended_nil _)]
  | some naming =>
      simp only [Option.map_some, Option.getD_some, TableNaming.characters]
      have ended := naming.gap.ended_append
        (naming.asCharacters ++ naming.name.characters)
      obtain ⟨first, others, shape⟩ :=
        List.exists_cons_of_ne_nil naming.gap.nonempty
      have blank : Text.isBlank first = true :=
        naming.gap.blank first (by simp [shape])
      rw [leadingWord, clause.table.takeUntil_isBreak (ended.mono
        fun _ => isBreak_of_isBlank), shape]
      simp [blank]

/-- A FROM clause addresses its table by the alias, or by its own name when it
has none. -/
theorem qualifier?_of_clause {source : Source} {clause : FromClause}
    (from_eq : source.from_ = clause.text) :
    source.qualifier? = some clause.qualifier.text := by
  have named : (tableAlias true clause.core).map
      (fun found => String.ofList found.name) =
      (clause.naming.map TableNaming.name).map Word.text := by
    rw [← Function.comp_def String.ofList, ← Option.map_map,
      clause.tableAlias_core, Option.map_map, Option.map_map]
    rfl
  rw [qualifier?, from_eq, clause.trim_text, String.toList_ofList]
  simp only [clause.leadingWord_core, named, FromClause.qualifier,
    FromClause.alias?]
  cases clause.naming with
  | none => rfl
  | some naming =>
      have table : String.ofList clause.table.characters =
          clause.table.text :=
        rfl
      by_cases keyword : Text.lower naming.name.text ∈ fromKeywords <;>
        simp [Option.filter, keyword, table]

namespace SelectItem

/-- The item is given the name of a key. -/
def isNamed (key : String) (item : SelectItem) : Bool :=
  item.alias?.any fun name => Text.sameLetters name.text key

/-- The item's column has the name of a key, whatever the item is called. -/
def shows (key : String) (item : SelectItem) : Bool :=
  Text.sameLetters item.column.text key

def text (item : SelectItem) : String :=
  String.ofList item.expression

end SelectItem

/-- The SELECT list of some items. -/
def listText (items : List SelectItem) : String :=
  String.ofList (listCharacters items)

theorem expression_aliased (items : List SelectItem) (key : String) :
    (findNamed aliased key endsItem true (listCharacters items)).map
        Found.expression =
      (items.find? (·.isNamed key)).map SelectItem.expression := by
  rw [aliased, findNamed_atStart reads_aliasedItem.beginsNone]
  exact reads_aliasedItem.expression_firstItem_list key items

theorem expression_qualified (items : List SelectItem) (key : String) :
    (findNamed qualified key endsItem true (listCharacters items)).map
        Found.expression =
      (items.find? (·.shows key)).map SelectItem.expression := by
  rw [qualified, findNamed_atStart reads_qualifiedItem.beginsNone]
  exact reads_qualifiedItem.expression_firstItem_list key items

/-- A key resolves to the column of the first item that is given the key's name;
without such an item to the first column of that name; and without that one to
the key behind the alias of the FROM clause, or behind its table when it has
none.  Letters of ASCII are compared without regard to case. -/
theorem resolveKey_of_words (source : Source) (items : List SelectItem)
    (clause : FromClause) (key : String) :
    resolveKey
        { source with fields := listText items, from_ := clause.text } key =
      match items.find? (·.isNamed key) with
      | some item => item.text
      | none =>
          match items.find? (·.shows key) with
          | some item => item.text
          | none => s!"{clause.qualifier.text}.{key}" := by
  have named := expression_aliased items key
  have shown := expression_qualified items key
  rw [resolveKey, qualifier?_of_clause rfl]
  simp only [listText, String.toList_ofList]
  cases first : items.find? (·.isNamed key) with
  | some item =>
      rw [first, Option.map_some, Option.map_eq_some_iff] at named
      obtain ⟨found, found_eq, expression_eq⟩ := named
      simp only [found_eq, expression_eq, SelectItem.text]
  | none =>
      rw [first, Option.map_none, Option.map_eq_none_iff] at named
      rw [named]
      cases second : items.find? (·.shows key) with
      | some item =>
          rw [second, Option.map_some, Option.map_eq_some_iff] at shown
          obtain ⟨found, found_eq, expression_eq⟩ := shown
          simp only [found_eq, expression_eq, SelectItem.text]
      | none =>
          rw [second, Option.map_none, Option.map_eq_none_iff] at shown
          rw [shown]

end DataGrid.Source
