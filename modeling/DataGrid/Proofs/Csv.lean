import DataGrid.Csv
import Mathlib.Data.List.Basic

/-!
# Reading comma-separated values

A reader goes through a text character by character.  Between quotation marks
every character belongs to the field, and a mark that belongs to it is doubled;
elsewhere a comma ends a field and a line break ends a record.  What is written
down for a table is read back as the same fields.
-/

namespace DataGrid.Csv

/-- A line break is a line feed, a carriage return, or both in a row: the empty
line between the two is skipped like every other. -/
def endsRecord (character : Char) : Bool :=
  character == '\n' || character == '\r'

def endsField (character : Char) : Bool :=
  character == ',' || endsRecord character

/-- Where a reader stands.  The fields of the record so far come with it, and
so do the characters of the field that it is in, in both cases the last one
first. -/
inductive Place
  | start (fields : List String)
  | plain (fields : List String) (field : List Char)
  | quoted (fields : List String) (field : List Char)
  /-- Behind a quotation mark, which ends the field unless it is doubled. -/
  | closed (fields : List String) (field : List Char)

def fieldOf (field : List Char) : String :=
  String.ofList field.reverse

def recordOf (fields : List String) (field : List Char) : List String :=
  (fieldOf field :: fields).reverse

/-- The record that a character ends, if it ends one, and the place behind
it. -/
def leave (fields : List String) (field : List Char) (character : Char) :
    List (List String) × Place :=
  if endsRecord character then ([recordOf fields field], .start [])
  else ([], .start (fieldOf field :: fields))

/-- A reader takes one character.  A quotation mark inside a plain field, and
anything but the end of the field behind a closing one, break the rules. -/
def step : Place → Char → Option (List (List String) × Place)
  | .start fields, character =>
      if fields.isEmpty && endsRecord character then some ([], .start [])
      else if character == '"' then some ([], .quoted fields [])
      else if endsField character then some (leave fields [] character)
      else some ([], .plain fields [character])
  | .plain fields field, character =>
      if endsField character then some (leave fields field character)
      else if character == '"' then none
      else some ([], .plain fields (character :: field))
  | .quoted fields field, character =>
      if character == '"' then some ([], .closed fields field)
      else some ([], .quoted fields (character :: field))
  | .closed fields field, character =>
      if character == '"' then some ([], .quoted fields ('"' :: field))
      else if endsField character then some (leave fields field character)
      else none

/-- The last line may lack its break. -/
def finish : Place → Option (List (List String))
  | .start [] => some []
  | .start fields => some [recordOf fields []]
  | .plain fields field | .closed fields field => some [recordOf fields field]
  | .quoted _ _ => none

def readFrom : Place → List Char → Option (List (List String))
  | place, [] => finish place
  | place, character :: rest => do
      let (ended, next) ← step place character
      (readFrom next rest).map (ended ++ ·)

/-- The records that a text holds, when it keeps to the rules. -/
def read? (text : String) : Option (List (List String)) :=
  readFrom (.start []) text.toList

/-- A writer refuses a record that has not as many fields as the first. -/
def write? (records : List (List String)) : Option String :=
  if records.all (·.length == (records.headD []).length) then
    some (String.ofList (records.flatMap writeRecord))
  else none

theorem isSpecial_eq (character : Char) :
    isSpecial character = (endsField character || character == '"') := by
  unfold isSpecial endsField endsRecord
  grind

theorem beq_quote_of_endsField {character : Char}
    (ends : endsField character = true) : (character == '"') = false := by
  unfold endsField endsRecord at ends
  grind

variable {fields : List String} {field characters rest : List Char}

theorem readFrom_cons {place next : Place} {character : Char}
    (moves : step place character = some ([], next)) :
    readFrom place (character :: rest) = readFrom next rest := by
  simp [readFrom, moves]

theorem readFrom_plain (ordinary : characters.any isSpecial = false) :
    readFrom (.plain fields field) (characters ++ rest) =
      readFrom (.plain fields (characters.reverse ++ field)) rest := by
  induction characters generalizing field with
  | nil => rfl
  | cons character characters ih =>
      rw [List.any_cons, Bool.or_eq_false_iff, isSpecial_eq,
        Bool.or_eq_false_iff] at ordinary
      obtain ⟨⟨noEnd, noQuote⟩, others⟩ := ordinary
      have moves : step (.plain fields field) character =
          some ([], .plain fields (character :: field)) := by
        simp [step, noEnd, noQuote]
      rw [List.cons_append, readFrom_cons moves, ih others]
      simp

/-- Between quotation marks every character is taken, marks in pairs. -/
theorem readFrom_quoted :
    readFrom (.quoted fields field) (characters.flatMap (fun character =>
        if character == '"' then ['"', '"'] else [character]) ++ rest) =
      readFrom (.quoted fields (characters.reverse ++ field)) rest := by
  induction characters generalizing field with
  | nil => rfl
  | cons character characters ih =>
      rw [List.flatMap_cons, List.append_assoc]
      by_cases quote : character = '"'
      · -- The first mark seems to close the field, the second opens it again.
        subst quote
        have closes : step (.quoted fields field) '"' =
            some ([], .closed fields field) :=
          rfl
        have opens : step (.closed fields field) '"' =
            some ([], .quoted fields ('"' :: field)) :=
          rfl
        simp only [beq_self_eq_true, if_true, List.cons_append,
          List.nil_append]
        rw [readFrom_cons closes, readFrom_cons opens, ih]
        simp
      · have moves : step (.quoted fields field) character =
            some ([], .quoted fields (character :: field)) := by
          simp [step, quote]
        have single : (if character == '"' then ['"', '"']
            else [character]) = [character] := by
          simp [quote]
        rw [single, List.singleton_append, readFrom_cons moves, ih]
        simp

theorem readFrom_quote {character : Char}
    (ends : endsField character = true) :
    readFrom (.start fields) (quote characters ++ character :: rest) =
      (readFrom (leave fields characters.reverse character).2 rest).map
        ((leave fields characters.reverse character).1 ++ ·) := by
  have noQuote := beq_quote_of_endsField ends
  have opens : step (.start fields) '"' = some ([], .quoted fields []) := by
    simp [step, endsRecord]
  have closes : step (.quoted fields characters.reverse) '"' =
      some ([], .closed fields characters.reverse) :=
    rfl
  have leaves : step (.closed fields characters.reverse) character =
      some (leave fields characters.reverse character) := by
    simp [step, noQuote, ends]
  rw [quote, List.cons_append, List.cons_append, List.append_assoc,
    readFrom_cons opens, readFrom_quoted, List.append_nil,
    List.singleton_append, readFrom_cons closes, readFrom, leaves]
  rfl

/-- A field without special characters is left with its text, too.  Only an
empty one at the beginning of a line would be no field at all. -/
theorem readFrom_ordinary {character : Char}
    (ends : endsField character = true)
    (ordinary : characters.any isSpecial = false)
    (something : fields ≠ [] ∨ characters ≠ [] ∨ character = ',') :
    readFrom (.start fields) (characters ++ character :: rest) =
      (readFrom (leave fields characters.reverse character).2 rest).map
        ((leave fields characters.reverse character).1 ++ ·) := by
  cases characters with
  | nil =>
      -- Nothing marks an empty field but what ends it, so that it must not look
      -- like an empty line.
      have noBlankLine : (fields.isEmpty && endsRecord character) = false := by
        rcases something with others | full | comma
        · simp [others]
        · exact absurd rfl full
        · simp [comma, endsRecord]
      have noQuote := beq_quote_of_endsField ends
      have leaves : step (.start fields) character =
          some (leave fields [] character) := by
        simp only [step, noBlankLine, noQuote, ends]
        rfl
      rw [List.nil_append, readFrom, leaves]
      rfl
  | cons first others =>
      rw [List.any_cons, Bool.or_eq_false_iff, isSpecial_eq,
        Bool.or_eq_false_iff] at ordinary
      obtain ⟨⟨noEnd, noQuote⟩, ordinary⟩ := ordinary
      have noBreak : endsRecord first = false := by
        rw [endsField, Bool.or_eq_false_iff] at noEnd
        exact noEnd.2
      have begins : step (.start fields) first =
          some ([], .plain fields [first]) := by
        simp [step, noBreak, noQuote, noEnd]
      have leaves : step (.plain fields (first :: others).reverse) character =
          some (leave fields (first :: others).reverse character) := by
        simp [step, ends]
      rw [List.cons_append, readFrom_cons begins, readFrom_plain ordinary,
        ← List.reverse_cons, readFrom, leaves]
      rfl

theorem fieldOf_reverse (written : String) :
    fieldOf written.toList.reverse = written := by
  rw [fieldOf, List.reverse_reverse, String.ofList_toList]

/-- A written field is read back, whatever characters stand in it. -/
theorem readFrom_writeField {written : String} {character : Char}
    (ends : endsField character = true)
    (something : fields ≠ [] ∨ written ≠ "" ∨ character = ',') :
    readFrom (.start fields) (writeField written ++ character :: rest) =
      (readFrom (leave fields written.toList.reverse character).2 rest).map
        ((leave fields written.toList.reverse character).1 ++ ·) := by
  unfold writeField
  split
  · exact readFrom_quote ends
  · rename_i ordinary
    refine readFrom_ordinary ends (Bool.eq_false_iff.mpr ordinary) ?_
    simpa only [ne_eq, String.toList_eq_nil_iff] using something

/-- A reader finds the fields of a record behind those that it already has. -/
theorem readFrom_writeFields {written : List String} (nonempty : written ≠ [])
    (something : fields ≠ [] ∨ written ≠ [""]) :
    readFrom (.start fields) (writeFields written ++ '\n' :: rest) =
      (readFrom (.start []) rest).map
        ((fields.reverse ++ written) :: ·) := by
  induction written generalizing fields with
  | nil => exact absurd rfl nonempty
  | cons first others ih =>
      cases others with
      | nil =>
          rw [writeFields, readFrom_writeField rfl (by simpa using something)]
          simp [leave, endsRecord, recordOf, fieldOf_reverse]
      | cons second others =>
          have unfolded : writeFields (first :: second :: others) =
              writeField first ++ ',' :: writeFields (second :: others) :=
            rfl
          have left : leave fields first.toList.reverse ',' =
              ([], .start (first :: fields)) := by
            rw [leave, fieldOf_reverse]
            rfl
          rw [unfolded, List.append_assoc, List.cons_append,
            readFrom_writeField rfl (.inr (.inr rfl)), left,
            ih (by simp) (.inl (by simp))]
          simp [Function.comp_def]

/-- A record is read back, also the one that would be an empty line. -/
theorem readFrom_writeRecord {written : List String} (nonempty : written ≠ []) :
    readFrom (.start []) (writeRecord written ++ rest) =
      (readFrom (.start []) rest).map (written :: ·) := by
  by_cases blank : written = [""]
  · -- The writer puts marks around the only field, or it would be skipped.
    subst blank
    have marks : writeRecord [""] = quote [] ++ ['\n'] :=
      rfl
    rw [marks, List.append_assoc, List.singleton_append, readFrom_quote rfl]
    rfl
  · have unfolded : writeRecord written = writeFields written ++ ['\n'] := by
      unfold writeRecord
      split
      · exact absurd rfl nonempty
      · exact absurd rfl blank
      · rfl
    rw [unfolded, List.append_assoc, List.singleton_append,
      readFrom_writeFields nonempty (.inr blank)]
    rfl

theorem readFrom_records {records : List (List String)}
    (full : ∀ fields ∈ records, fields ≠ []) :
    readFrom (.start []) (records.flatMap writeRecord) = some records := by
  induction records with
  | nil => rfl
  | cons fields records ih =>
      rw [List.forall_mem_cons] at full
      rw [List.flatMap_cons, readFrom_writeRecord full.1, ih full.2]
      rfl

/-- The export of a table is never refused, and no text in it is lost: read
back, it is the headers of the exported columns and then, for each row, the
texts of its cells in these columns, whatever characters stand in them. -/
theorem read?_ofRows (columns : Columns) (rows : List Row)
    (exports : ∃ column ∈ columns, column.isAction = false) :
    let shown := columns.filter (!·.isAction)
    let table := shown.map (·.header) ::
      rows.map fun row => shown.map fun column => row.cellText column.key
    write? table = some (ofRows columns rows) ∧
      read? (ofRows columns rows) = some table ∧
      table.length = 1 + rows.length := by
  intro shown table
  obtain ⟨column, member, ordinary⟩ := exports
  have shown_ne : shown ≠ [] :=
    List.ne_nil_of_mem (List.mem_filter.mpr ⟨member, by simp [ordinary]⟩)
  have full : ∀ fields ∈ table, fields ≠ [] := by
    intro fields among
    rcases List.mem_cons.mp among with rfl | later
    · simpa using shown_ne
    · obtain ⟨row, -, rfl⟩ := List.mem_map.mp later
      simpa using shown_ne
  have alike : table.all (·.length == (table.headD []).length) = true := by
    simp [table]
  refine ⟨if_pos alike, ?_, by simp [table, Nat.add_comm]⟩
  rw [read?, ofRows, String.toList_ofList]
  exact readFrom_records full

/-- One column whose header and cells hold every special character, and a row
without the cell. -/
theorem notes_read?_ofRows :
    let columns : Columns := [{ key := "note", header := "Note, \"quoted\"" },
      { key := "edit", header := "" }]
    (∃ column ∈ columns, column.isAction = false) ∧
      read? (ofRows columns [[("note", .text "a\r\nb,\"\"")], []]) =
        some [["Note, \"quoted\""], ["a\r\nb,\"\""], [""]] := by
  intro columns
  have exports : ∃ column ∈ columns, column.isAction = false := by
    decide +kernel
  exact ⟨exports, (read?_ofRows columns _ exports).2.1⟩

end DataGrid.Csv
