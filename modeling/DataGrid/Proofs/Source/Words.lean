import DataGrid.Proofs.Source.Scan
import DataGrid.Source.Resolve

/-!
# Clauses made of words

The words of a clause are runs of letters, digits and underscores with white
space between them.  A word is taken whole wherever a pattern takes a run of
characters, and the white space in front of it is skipped whole.
-/

namespace DataGrid

namespace Text

theorem continuesIdentifier_iff (character : Char) :
    continuesIdentifier character = true ↔
      (65 ≤ character.toNat ∧ character.toNat ≤ 90) ∨
      (97 ≤ character.toNat ∧ character.toNat ≤ 122) ∨
      (48 ≤ character.toNat ∧ character.toNat ≤ 57) ∨
      character.toNat = 95 := by
  have underscore : character = '_' ↔ character.toNat = 95 := by
    rw [← Char.toNat_inj]
    rfl
  delta continuesIdentifier Char.isAlphanum Char.isAlpha Char.isUpper
    Char.isLower Char.isDigit
  simp only [Bool.or_eq_true, Bool.and_eq_true, decide_eq_true_eq, beq_iff_eq,
    ge_iff_le, UInt32.le_iff_toNat_le, underscore, or_assoc]
  rfl

end Text

namespace Source

theorem isNameBreak_of_continuesIdentifier {character : Char}
    (continues : Text.continuesIdentifier character = true) :
    isNameBreak character = false := by
  have codes := (Text.continuesIdentifier_iff character).mp continues
  have same_code (other : Char) :
      character = other ↔ character.toNat = other.toNat :=
    Char.toNat_inj.symm
  rw [Bool.eq_false_iff]
  intro breaks
  simp [isNameBreak, isBreak, Text.isBlank, same_code] at breaks
  omega

/-- A non-empty run of ASCII letters, digits and underscores. -/
structure Word where
  characters : List Char
  nonempty : characters ≠ []
  plain : ∀ character ∈ characters, Text.continuesIdentifier character = true

/-- White space, of which there may be none. -/
structure Blanks where
  characters : List Char
  blank : ∀ character ∈ characters, Text.isBlank character = true

/-- White space of at least one character. -/
structure Gap extends Blanks where
  nonempty : characters ≠ []

/-- The letters of AS, each of them small or capital. -/
structure AsLetters where
  first : Char
  second : Char
  isA : first = 'a' ∨ first = 'A'
  isS : second = 's' ∨ second = 'S'

namespace Word

variable (word : Word)

def text : String :=
  String.ofList word.characters

theorem isNameBreak_eq_false :
    ∀ character ∈ word.characters, isNameBreak character = false :=
  fun character member =>
    isNameBreak_of_continuesIdentifier (word.plain character member)

theorem isBreak_eq_false :
    ∀ character ∈ word.characters, isBreak character = false := by
  intro character member
  have := word.isNameBreak_eq_false character member
  simp only [isNameBreak, Bool.or_eq_false_iff] at this
  exact this.1

theorem isBlank_eq_false :
    ∀ character ∈ word.characters, Text.isBlank character = false := by
  intro character member
  have := word.isBreak_eq_false character member
  simp only [isBreak, Bool.or_eq_false_iff] at this
  exact this.1.1.1

/-- A word with something behind it does not begin with a blank. -/
theorem ended_append (rest : List Char) :
    Ended (!Text.isBlank ·) (word.characters ++ rest) := by
  obtain ⟨first, others, shape⟩ := List.exists_cons_of_ne_nil word.nonempty
  have plain := word.isBlank_eq_false first (by simp [shape])
  rw [shape]
  exact ended_cons (by simp [plain]) _

theorem ended : Ended (!Text.isBlank ·) word.characters := by
  simpa using word.ended_append []

theorem takeUntil_isBreak {rest : List Char} (ended : Ended isBreak rest) :
    takeUntil isBreak (word.characters ++ rest) =
      some (word.characters, rest) :=
  takeUntil_append word.nonempty word.isBreak_eq_false ended

theorem takeUntil_isNameBreak {rest : List Char}
    (ended : Ended isNameBreak rest) :
    takeUntil isNameBreak (word.characters ++ rest) =
      some (word.characters, rest) :=
  takeUntil_append word.nonempty word.isNameBreak_eq_false ended

end Word

theorem isNameBreak_of_isBreak {character : Char}
    (breaks : isBreak character = true) : isNameBreak character = true := by
  simp [isNameBreak, breaks]

theorem isBreak_of_isBlank {character : Char}
    (blank : Text.isBlank character = true) : isBreak character = true := by
  simp [isBreak, blank]

theorem Ended.isNameBreak {text : List Char} (ended : Ended isBreak text) :
    Ended isNameBreak text :=
  ended.mono fun _ => isNameBreak_of_isBreak

theorem takeQualified_of_ended {text : List Char}
    (ended : Ended isNameBreak text) : takeQualified text = none := by
  rw [takeQualified, takeUntil_of_ended ended]
  rfl

/-- A word that ends without a point is no qualified column. -/
theorem takeQualified_word (word : Word) {rest : List Char}
    (ended : Ended isBreak rest) :
    takeQualified (word.characters ++ rest) = none := by
  rw [takeQualified, word.takeUntil_isNameBreak ended.isNameBreak]
  cases rest with
  | nil => rfl
  | cons character rest =>
      have breaks : isBreak character = true := ended character rfl
      have noPoint : character ≠ '.' := by
        rintro rfl
        exact absurd breaks (by decide)
      simp only [Option.bind_eq_bind, Option.bind_some]
      split
      · rename_i same
        exact absurd (List.cons.inj same).1 noPoint
      · rfl

theorem takeQualified_append (qualifier column : Word) {rest : List Char}
    (ended : Ended isNameBreak rest) :
    takeQualified (qualifier.characters ++ '.' :: (column.characters ++ rest)) =
      some (qualifier.characters, column.characters, rest) := by
  have point : Ended isNameBreak ('.' :: (column.characters ++ rest)) :=
    ended_cons (by decide) _
  rw [takeQualified, qualifier.takeUntil_isNameBreak point]
  simp only [Option.bind_eq_bind, Option.bind_some,
    column.takeUntil_isNameBreak ended, Option.pure_def]

theorem trimStart_append {blanks text : List Char}
    (all : ∀ character ∈ blanks, Text.isBlank character = true)
    (begins : Ended (!Text.isBlank ·) text) :
    Text.trimStart (blanks ++ text) = text := by
  rw [Text.trimStart, List.dropWhile_append_of_pos all]
  cases text with
  | nil => rfl
  | cons character rest =>
      have plain := begins character rfl
      rw [List.dropWhile_cons_of_neg (by simpa using plain)]

theorem Gap.skipBlanks_append (gap : Gap) {text : List Char}
    (begins : Ended (!Text.isBlank ·) text) :
    skipBlanks (gap.characters ++ text) = some text := by
  obtain ⟨first, others, shape⟩ := List.exists_cons_of_ne_nil gap.nonempty
  have blank := gap.blank
  rw [shape, List.forall_mem_cons] at blank
  rw [shape, List.cons_append, skipBlanks, if_pos blank.1,
    trimStart_append blank.2 begins]

namespace AsLetters

def characters (letters : AsLetters) : List Char :=
  [letters.first, letters.second]

theorem skipAs_append (letters : AsLetters) (rest : List Char) :
    skipAs (letters.characters ++ rest) = skipBlanks rest := by
  obtain ⟨first, second, isA, isS⟩ := letters
  rcases isA with rfl | rfl <;> rcases isS with rfl | rfl <;> rfl

/-- The letters of AS are a word. -/
def word (letters : AsLetters) : Word where
  characters := letters.characters
  nonempty := by simp [characters]
  plain := by
    obtain ⟨first, second, isA, isS⟩ := letters
    refine List.forall_mem_cons.mpr ⟨?_, List.forall_mem_singleton.mpr ?_⟩
    · rcases isA with rfl | rfl <;> rfl
    · rcases isS with rfl | rfl <;> rfl

theorem ended_append (letters : AsLetters) (rest : List Char) :
    Ended (!Text.isBlank ·) (letters.characters ++ rest) :=
  letters.word.ended_append rest

end AsLetters

end Source

end DataGrid
