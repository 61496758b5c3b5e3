import DataGrid.Proofs.Outcome
import DataGrid.Sql.Dialect
import DataGrid.Time.Format

/-!
# Pieces of date formats

A date format that a dialect can spell consists of characters that stand for
themselves and of specifiers that the dialect knows.  Its spelling consists of
theirs, and what the specifiers of SQLite stand for when they are displayed can
be read off piece by piece too.
-/

namespace DataGrid.Sql

/-- A piece of a date format that a dialect can spell. -/
inductive FormatPiece (dialect : Dialect)
  | literal (character : Char) (plain : character ≠ '%')
  | specifier (letter : Char) (spelling : String)
      (known : dialect.specifier? letter = some spelling)

namespace FormatPiece

variable {dialect : Dialect}

def text : FormatPiece dialect → List Char
  | literal character _ => [character]
  | specifier letter _ _ => ['%', letter]

def spelled : FormatPiece dialect → List Char
  | literal character _ => if character == '\'' then [] else [character]
  | specifier _ spelling _ => spelling.toList

/-- What a piece stands for when it is displayed. -/
def items : FormatPiece dialect → List Time.Item
  | literal character _ => [.literal [character]]
  | specifier letter _ _ => (Time.letterItems letter).getD []

/-- A format that has a spelling consists of pieces, and its spelling of
theirs. -/
theorem exists_of_respell {format spelling : List Char}
    (spells : dialect.respell format = .ok spelling) :
    ∃ pieces : List (FormatPiece dialect),
      format = pieces.flatMap text ∧ spelling = pieces.flatMap spelled := by
  induction format using Dialect.respell.induct dialect
    generalizing spelling with
  | case1 =>
      obtain rfl := Except.ok.inj spells
      exact ⟨[], rfl, rfl⟩
  | case2 => simp [Dialect.respell] at spells
  | case3 letter rest unknown => simp [Dialect.respell, unknown] at spells
  | case4 letter rest own known ih =>
      simp only [Dialect.respell, known] at spells
      obtain ⟨others, later, spells⟩ := (bind_eq_ok_iff _ _ _).mp spells
      obtain rfl := Except.ok.inj spells
      obtain ⟨pieces, rest_eq, others_eq⟩ := ih later
      refine ⟨specifier letter own known :: pieces, ?_, ?_⟩
      · rw [rest_eq]
        rfl
      · rw [others_eq]
        rfl
  | case5 character rest notLast notFirst ih =>
      -- A percent sign would have been the end of the text or the first
      -- character of a specifier.
      have plain : character ≠ '%' := by
        cases rest with
        | nil => exact fun same => notLast same rfl
        | cons letter rest => exact fun same => notFirst _ _ same rfl
      simp only [Dialect.respell] at spells
      obtain ⟨others, later, spells⟩ := (bind_eq_ok_iff _ _ _).mp spells
      obtain rfl := Except.ok.inj spells
      obtain ⟨pieces, rest_eq, others_eq⟩ := ih later
      refine ⟨literal character plain :: pieces, ?_, ?_⟩
      · rw [rest_eq]
        rfl
      · rw [others_eq, List.flatMap_cons, spelled]
        split <;> rfl

/-- What stands in place of a specifier are letters, digits and percent
signs. -/
theorem plain_specifier {letter : Char} {spelling : String}
    (known : dialect.specifier? letter = some spelling) :
    spelling.toList.all (fun character =>
      character.isAlphanum || character == '%') = true := by
  unfold Dialect.specifier? at known
  split at known <;> cases known <;> decide

/-- A spelling can stand between quotation marks. -/
theorem quote_notMem_spelled (pieces : List (FormatPiece dialect)) :
    '\'' ∉ pieces.flatMap spelled := by
  rw [List.mem_flatMap]
  rintro ⟨piece, -, member⟩
  cases piece with
  | literal character plain =>
      by_cases quote : character = '\''
      · simp [spelled, quote] at member
      · simp [spelled, quote, Ne.symm quote] at member
  | specifier letter spelling known =>
      exact absurd (List.all_eq_true.mp (plain_specifier known) _ member)
        (by decide)

/-- A spelling has a question mark only where the format has one. -/
theorem mark_notMem_spelled {pieces : List (FormatPiece dialect)}
    (plain : '?' ∉ pieces.flatMap text) : '?' ∉ pieces.flatMap spelled := by
  intro member
  obtain ⟨piece, among, member⟩ := List.mem_flatMap.mp member
  cases piece with
  | literal character notPercent =>
      refine plain (List.mem_flatMap.mpr ⟨_, among, ?_⟩)
      by_cases quote : character = '\''
      · simp [spelled, quote] at member
      · simpa [spelled, text, quote] using member
  | specifier letter spelling known =>
      exact absurd (List.all_eq_true.mp (plain_specifier known) _ member)
        (by decide)

end FormatPiece

/-- The specifiers of SQLite and how it spells them. -/
theorem specifier?_sqlite_cases {letter : Char} {spelling : String}
    (known : Dialect.sqlite.specifier? letter = some spelling) :
    letter = 'Y' ∧ spelling = "%Y" ∨ letter = 'm' ∧ spelling = "%m" ∨
      letter = 'd' ∧ spelling = "%d" ∨ letter = 'H' ∧ spelling = "%H" ∨
      letter = 'M' ∧ spelling = "%M" ∨ letter = 'S' ∧ spelling = "%S" ∨
      letter = 's' ∧ spelling = "%S" ∨ letter = 'w' ∧ spelling = "%w" ∨
      letter = '%' ∧ spelling = "%%" := by
  unfold Dialect.specifier? at known
  split at known
  all_goals first | contradiction | (cases known; decide)

namespace FormatPiece

/-- A specifier of SQLite is displayed as its letter alone says. -/
theorem takeSpecifier_of_known {letter : Char} {spelling : String}
    (known : Dialect.sqlite.specifier? letter = some spelling)
    (rest : List Char) :
    Time.takeSpecifier (letter :: rest) =
      some ((Time.letterItems letter).getD [], rest) := by
  rcases specifier?_sqlite_cases known with ⟨rfl, -⟩ | ⟨rfl, -⟩ | ⟨rfl, -⟩ |
    ⟨rfl, -⟩ | ⟨rfl, -⟩ | ⟨rfl, -⟩ | ⟨rfl, -⟩ | ⟨rfl, -⟩ | ⟨rfl, -⟩ <;> rfl

theorem itemsWithin_of_pieces (pieces : List (FormatPiece .sqlite))
    {fuel : Nat} (enough : (pieces.flatMap text).length ≤ fuel) :
    Time.itemsWithin fuel (pieces.flatMap text) =
      some (pieces.flatMap items) := by
  induction pieces generalizing fuel with
  | nil => cases fuel <;> rfl
  | cons piece rest ih =>
      cases piece with
      | literal character plain =>
          rw [List.flatMap_cons, text, List.singleton_append] at enough ⊢
          cases fuel with
          | zero => simp at enough
          | succ fuel =>
              have rest_eq := ih (Nat.le_of_succ_le_succ enough)
              simp [Time.itemsWithin, rest_eq, items]
      | specifier letter spelling known =>
          rw [List.flatMap_cons, text, List.cons_append, List.cons_append,
            List.nil_append] at enough ⊢
          cases fuel with
          | zero => simp at enough
          | succ fuel =>
              have rest_eq := ih
                (Nat.le_of_succ_le (Nat.le_of_succ_le_succ enough))
              simp [Time.itemsWithin, takeSpecifier_of_known known, rest_eq,
                items]

/-- The items of a format are those of its pieces. -/
theorem items?_of_pieces (pieces : List (FormatPiece .sqlite)) :
    Time.items? (pieces.flatMap text) = some (pieces.flatMap items) :=
  itemsWithin_of_pieces pieces (Nat.le_refl _)

end FormatPiece

end DataGrid.Sql
