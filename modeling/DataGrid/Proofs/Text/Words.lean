import DataGrid.Text.Ascii
import DataGrid.Text.Blank
import Mathlib.Data.List.TakeWhile

/-!
# Words

The words of a text are its runs of characters between blanks: a text without
blanks is one word, and a blank parts the words in front of it from those behind
it.  Blanks around a text add no words, and when its other characters are
written out as several, so are its words.  Texts that are joined by a separator
which none of them holds are the pieces of the whole.
-/

namespace DataGrid.Text

/-- The characters of a text without regard to case. -/
def lowered (text : String) : List Char :=
  (lower text).toList

theorem lowered_eq (text : String) :
    lowered text = text.toList.map Char.toLower :=
  String.toList_ofList

theorem toList_join (separator : String) (texts : List String) :
    (join separator texts).toList =
      separator.toList.intercalate (texts.map String.toList) := by
  induction texts with
  | nil => rfl
  | cons text rest ih =>
      cases rest with
      | nil => simp [join]
      | cons next rest =>
          rw [join, String.toList_append, String.toList_append, ih]
          · simp [List.intercalate_cons_cons]
          · simp

theorem cut_eq_cons (isCut : Char → Bool) (characters : List Char) :
    ∃ piece pieces, cut isCut characters = piece :: pieces := by
  cases characters with
  | nil => exact ⟨_, _, rfl⟩
  | cons character rest =>
      unfold cut
      split
      · exact ⟨_, _, rfl⟩
      · split <;> exact ⟨_, _, rfl⟩

/-- A character that is no cut is put in front of the first piece. -/
theorem cut_cons_of_not {isCut : Char → Bool} {character : Char}
    (plain : isCut character = false) {rest piece : List Char}
    {pieces : List (List Char)} (behind : cut isCut rest = piece :: pieces) :
    cut isCut (character :: rest) = (character :: piece) :: pieces := by
  simp [cut, plain, behind]

theorem cut_cons_of_cut {isCut : Char → Bool} {character : Char}
    (cuts : isCut character = true) (rest : List Char) :
    cut isCut (character :: rest) = [] :: cut isCut rest := by
  simp [cut, cuts]

/-- Characters that are no cuts are put in front of the first piece. -/
theorem cut_append_of_not {isCut : Char → Bool} {front : List Char}
    (plain : ∀ character ∈ front, isCut character = false)
    {rest piece : List Char} {pieces : List (List Char)}
    (behind : cut isCut rest = piece :: pieces) :
    cut isCut (front ++ rest) = (front ++ piece) :: pieces := by
  induction front with
  | nil => exact behind
  | cons character front ih =>
      rw [List.forall_mem_cons] at plain
      exact cut_cons_of_not plain.1 (ih plain.2)

/-- Cutting a text in which every character is written out as several, blanks
being left alone, gives the pieces written out in the same way. -/
theorem cut_flatMap {isCut : Char → Bool} {write : Char → List Char}
    (blanks : ∀ character, isCut character = true →
      write character = [character])
    (others : ∀ character, isCut character = false →
      ∀ written ∈ write character, isCut written = false)
    (characters : List Char) :
    cut isCut (characters.flatMap write) =
      (cut isCut characters).map (List.flatMap write) := by
  induction characters with
  | nil => rfl
  | cons character rest ih =>
      rw [List.flatMap_cons]
      cases blank : isCut character with
      | true =>
          rw [blanks character blank, List.singleton_append,
            cut_cons_of_cut blank, cut_cons_of_cut blank, ih]
          rfl
      | false =>
          obtain ⟨piece, pieces, behind⟩ := cut_eq_cons isCut rest
          rw [behind] at ih
          rw [cut_append_of_not (others character blank) ih,
            cut_cons_of_not blank behind]
          rfl

/-- A cut parts the pieces in front of it from those behind it. -/
theorem cut_append_cons {isCut : Char → Bool} {character : Char}
    (cuts : isCut character = true) (front rest : List Char) :
    cut isCut (front ++ character :: rest) =
      cut isCut front ++ cut isCut rest := by
  induction front with
  | nil => exact cut_cons_of_cut cuts rest
  | cons first front ih =>
      rw [List.cons_append]
      cases blank : isCut first with
      | true =>
          rw [cut_cons_of_cut blank, cut_cons_of_cut blank, ih]
          rfl
      | false =>
          obtain ⟨piece, pieces, behind⟩ := cut_eq_cons isCut front
          rw [behind] at ih
          rw [cut_cons_of_not blank ih, cut_cons_of_not blank behind]
          rfl

theorem cut_eq_splitOnP (isCut : Char → Bool) (characters : List Char) :
    cut isCut characters = characters.splitOnP isCut := by
  induction characters with
  | nil => rfl
  | cons character rest ih =>
      rw [List.splitOnP_cons_eq_if_modifyHead, ← ih]
      obtain ⟨piece, pieces, behind⟩ := cut_eq_cons isCut rest
      cases cuts : isCut character <;> simp [cut, cuts, behind]

/-- No piece of a text holds a character at which the text was cut. -/
theorem isCut_eq_false_of_mem_cut {isCut : Char → Bool}
    {characters piece : List Char} (member : piece ∈ cut isCut characters) :
    ∀ character ∈ piece, isCut character = false := by
  induction characters generalizing piece with
  | nil =>
      obtain rfl := List.mem_singleton.mp member
      simp
  | cons first rest ih =>
      cases cuts : isCut first with
      | true =>
          rw [cut_cons_of_cut cuts, List.mem_cons] at member
          rcases member with rfl | member
          · simp
          · exact ih member
      | false =>
          obtain ⟨head, pieces, behind⟩ := cut_eq_cons isCut rest
          rw [cut_cons_of_not cuts behind, List.mem_cons] at member
          rw [behind] at ih
          rcases member with rfl | member
          · exact List.forall_mem_cons.mpr ⟨cuts, ih List.mem_cons_self⟩
          · exact ih (List.mem_cons_of_mem _ member)

theorem notMem_of_mem_splitAt {separator : Char} {text piece : String}
    (member : piece ∈ splitAt separator text) : separator ∉ piece.toList := by
  obtain ⟨characters, found, rfl⟩ := List.mem_map.mp member
  intro inside
  rw [String.toList_ofList] at inside
  simpa using isCut_eq_false_of_mem_cut found separator inside

/-- Texts without a separator that are joined by it are found again. -/
theorem splitAt_join {separator : Char} {texts : List String}
    (nonempty : texts ≠ [])
    (apart : ∀ text ∈ texts, separator ∉ text.toList) :
    splitAt separator (join (String.singleton separator) texts) = texts := by
  rw [splitAt, cut_eq_splitOnP, toList_join, String.toList_singleton,
    ← List.splitOn_eq_splitOnP, List.splitOn_intercalate]
  · simp
  · simpa using apart
  · simpa using nonempty

/-- The runs of characters between blanks. -/
def runs (characters : List Char) : List (List Char) :=
  (cut isBlank characters).filter (!·.isEmpty)

theorem words_eq (text : String) :
    words text = (runs text.toList).map String.ofList :=
  rfl

/-- A blank parts the runs in front of it from those behind it. -/
theorem runs_append_cons {character : Char}
    (blank : isBlank character = true) (front rest : List Char) :
    runs (front ++ character :: rest) = runs front ++ runs rest := by
  rw [runs, cut_append_cons blank, List.filter_append]
  rfl

theorem runs_cons_of_blank {character : Char}
    (blank : isBlank character = true) (rest : List Char) :
    runs (character :: rest) = runs rest :=
  runs_append_cons blank [] rest

theorem runs_of_blanks {blanks : List Char}
    (all : ∀ character ∈ blanks, isBlank character = true) :
    runs blanks = [] := by
  induction blanks with
  | nil => rfl
  | cons character rest ih =>
      rw [List.forall_mem_cons] at all
      rw [runs_cons_of_blank all.1, ih all.2]

theorem runs_trimStart (characters : List Char) :
    runs (trimStart characters) = runs characters := by
  induction characters with
  | nil => rfl
  | cons character rest ih =>
      cases blank : isBlank character with
      | true =>
          rw [runs_cons_of_blank blank, ← ih, trimStart,
            List.dropWhile_cons_of_pos blank]
          rfl
      | false =>
          rw [trimStart, List.dropWhile_cons_of_neg (by simp [blank])]

theorem runs_append_blanks (characters : List Char) {blanks : List Char}
    (all : ∀ character ∈ blanks, isBlank character = true) :
    runs (characters ++ blanks) = runs characters := by
  cases blanks with
  | nil => rw [List.append_nil]
  | cons character rest =>
      rw [List.forall_mem_cons] at all
      rw [runs_append_cons all.1, runs_of_blanks all.2, List.append_nil]

theorem runs_trimEnd (characters : List Char) :
    runs (trimEnd characters) = runs characters := by
  have parts : characters = trimEnd characters ++
      (characters.reverse.takeWhile isBlank).reverse := by
    rw [trimEnd, ← List.reverse_append, List.takeWhile_append_dropWhile,
      List.reverse_reverse]
  have dropped : ∀ character ∈
      (characters.reverse.takeWhile isBlank).reverse,
      isBlank character = true := by
    intro character member
    exact List.mem_takeWhile_imp (List.mem_reverse.mp member)
  rw [← runs_append_blanks (trimEnd characters) dropped, ← parts]

/-- Blanks around a text add no runs. -/
theorem runs_trim (text : String) :
    runs (trim text).toList = runs text.toList := by
  rw [trim, String.toList_ofList, runs_trimEnd, runs_trimStart]

/-- A text is blank when it has no words. -/
theorem words_eq_nil_iff (text : String) :
    words text = [] ↔ allBlank text = true := by
  rw [words_eq, List.map_eq_nil_iff, allBlank]
  generalize text.toList = characters
  induction characters with
  | nil => simp [runs, cut]
  | cons character rest ih =>
      cases blank : isBlank character with
      | true =>
          rw [runs_cons_of_blank blank, ih, List.all_cons, blank, Bool.true_and]
      | false =>
          obtain ⟨piece, pieces, behind⟩ := cut_eq_cons isBlank rest
          rw [runs, cut_cons_of_not blank behind]
          simp [blank]

/-- Parts are found in a text, each behind the one before it. -/
def OccurInOrder : List (List Char) → List Char → Prop
  | [], _ => True
  | part :: parts, text =>
      ∃ before after, text = before ++ part ++ after ∧ OccurInOrder parts after

theorem occurInOrder_singleton_iff (part text : List Char) :
    OccurInOrder [part] text ↔ part <:+: text := by
  simp only [OccurInOrder, and_true, @eq_comm _ text]
  rfl

end DataGrid.Text
