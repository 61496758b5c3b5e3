import DataGrid.Filter.Number
import DataGrid.Proofs.Decimal.Value

/-!
# The numeral at the front of a text

Of a text that begins with a numeral the longest one is read, and nothing that
stands behind it matters: it is read as it would be read alone.  Where no
numeral stands in front the number is zero.
-/

namespace DataGrid

namespace Decimal

/-- A numeral stands at the front of a text, and no longer one does. -/
structure Leading (front text : List Char) : Prop where
  atFront : front <+: text
  isNumeral : IsNumeral front
  longest : ∀ other, other <+: text → IsNumeral other → other <+: front

/-- A numeral has as many bytes as characters. -/
theorem utf8ByteSize_of_isNumeral {characters : List Char}
    (spelled : IsNumeral characters) :
    (String.ofList characters).utf8ByteSize = characters.length := by
  have small : ∀ character ∈ characters, character.utf8Size = 1 := by
    have marks_small : numeralMarks.all (·.utf8Size == 1) = true := by decide
    intro character member
    rcases isDigit_or_mem_of_mem_isNumeral spelled character member with
      isDigit | mark
    · obtain ⟨-, high⟩ := code_of_isDigit isDigit
      rw [Char.utf8Size_eq_one_iff, UInt32.le_iff_toNat_le]
      exact high.trans (by decide)
    · simpa using List.all_eq_true.mp marks_small character mark
  clear spelled
  induction characters with
  | nil => rfl
  | cons first rest ih =>
      rw [List.forall_mem_cons] at small
      rw [String.ofList_cons, String.utf8ByteSize_append,
        String.utf8ByteSize_singleton, small.1, ih small.2, List.length_cons,
        Nat.add_comm]

/-- A text may be cut behind a numeral at its front, counting bytes. -/
theorem Leading.isValid {front text : List Char}
    (leading : Leading front text) :
    (⟨front.length⟩ : String.Pos.Raw).IsValid (String.ofList text) := by
  obtain ⟨behind, rfl⟩ := leading.atFront
  rw [String.Pos.Raw.isValid_iff_exists_append]
  refine ⟨String.ofList front, String.ofList behind, String.ofList_append, ?_⟩
  apply String.Pos.Raw.ext
  rw [String.byteIdx_rawEndPos, utf8ByteSize_of_isNumeral leading.isNumeral]

namespace Numeral

section Local

variable {α β : Type}

/-- What a step takes off the front of a text it also takes where less stands
behind it. -/
def Local (step : List Char → α × List Char) : Prop :=
  ∀ characters, ∃ front, front ++ (step characters).2 = characters ∧
    ∀ rest, rest <+: (step characters).2 →
      step (front ++ rest) = ((step characters).1, rest)

/-- Take a part off the front of a text, and then another off the rest. -/
def andThen (first : List Char → α × List Char)
    (second : List Char → β × List Char) (characters : List Char) :
    (α × β) × List Char :=
  (((first characters).1, (second (first characters).2).1),
    (second (first characters).2).2)

theorem Local.andThen {first : List Char → α × List Char}
    {second : List Char → β × List Char} (first_local : Local first)
    (second_local : Local second) : Local (andThen first second) := by
  intro characters
  obtain ⟨front, front_eq, again⟩ := first_local characters
  obtain ⟨middle, middle_eq, later⟩ := second_local (first characters).2
  refine ⟨front ++ middle, ?_, ?_⟩
  · change front ++ middle ++ (second (first characters).2).2 = characters
    rw [List.append_assoc, middle_eq, front_eq]
  · intro rest shorter
    have behind : middle ++ rest <+: (first characters).2 := by
      rw [← middle_eq]
      exact (List.prefix_append_right_inj middle).mpr shorter
    unfold Numeral.andThen
    rw [List.append_assoc, again _ behind, later rest shorter]

/-- A step that takes nothing off a text is local there when it takes nothing
off shorter texts either. -/
theorem exists_front_of_nothing {step : List Char → α × List Char}
    {characters : List Char} (nothing : α)
    (none : ∀ rest, rest <+: characters → step rest = (nothing, rest)) :
    ∃ front, front ++ (step characters).2 = characters ∧
      ∀ rest, rest <+: (step characters).2 →
        step (front ++ rest) = ((step characters).1, rest) := by
  rw [none characters List.prefix_rfl]
  exact ⟨[], rfl, none⟩

end Local

/-- A shorter text has the same first character, if it has any. -/
theorem head?_of_shorter {shorter text : List Char}
    (atFront : shorter <+: text) {first : Char}
    (member : first ∈ shorter.head?) : first ∈ text.head? := by
  obtain ⟨behind, rfl⟩ := atFront
  rw [Option.mem_def, List.head?_append, Option.mem_def.mp member,
    Option.some_or]

section Steps

variable {characters : List Char}

theorem local_takeDigits : Local takeDigits := by
  intro characters
  refine ⟨(takeDigits characters).1, takeDigits_eq characters, ?_⟩
  intro rest shorter
  have dropped := List.head?_dropWhile_not Char.isDigit characters
  refine takeDigits_append (fun _ => isDigit_of_mem_takeDigits)
    fun first member => ?_
  have behind : (characters.dropWhile Char.isDigit).head? = some first :=
    head?_of_shorter shorter member
  rw [behind] at dropped
  exact dropped

theorem local_takeSign : Local takeSign := by
  intro characters
  by_cases signed : ∃ first ∈ characters.head?, first = '-' ∨ first = '+'
  · obtain ⟨first, member, rfl | rfl⟩ := signed
    · obtain ⟨rest, rfl⟩ := List.head?_eq_some_iff.mp member
      exact ⟨['-'], rfl, fun _ _ => rfl⟩
    · obtain ⟨rest, rfl⟩ := List.head?_eq_some_iff.mp member
      exact ⟨['+'], rfl, fun _ _ => rfl⟩
  · refine exists_front_of_nothing false fun rest shorter =>
      takeSign_of_head? fun first member => ?_
    rw [← not_or]
    exact fun sign => signed ⟨first, head?_of_shorter shorter member, sign⟩

theorem local_takeFraction : Local takeFraction := by
  intro characters
  by_cases pointed : '.' ∈ characters.head?
  · obtain ⟨rest, rfl⟩ := List.head?_eq_some_iff.mp pointed
    obtain ⟨front, front_eq, again⟩ := local_takeDigits rest
    exact ⟨'.' :: front, congrArg ('.' :: ·) front_eq, again⟩
  · refine exists_front_of_nothing [] fun rest shorter =>
      takeFraction_of_head? fun first member => ?_
    rintro rfl
    exact pointed (head?_of_shorter shorter member)

/-- The exponent at the front of a text, and the rest. -/
def exponentStep (characters : List Char) : (Bool × List Char) × List Char :=
  (((takeExponent characters).1, (takeExponent characters).2.1),
    (takeExponent characters).2.2)

/-- A sign and digits, as behind the marker of an exponent. -/
def signedDigits : List Char → (Bool × List Char) × List Char :=
  andThen takeSign takeDigits

theorem exponentStep_cons (marker : Char) (rest : List Char) :
    exponentStep (marker :: rest) =
      if (marker = 'e' ∨ marker = 'E') ∧ (signedDigits rest).1.2 ≠ [] then
        signedDigits rest
      else ((false, []), marker :: rest) := by
  have digits_eq : (signedDigits rest).1.2 =
      (takeDigits (takeSign rest).2).1 := rfl
  unfold exponentStep takeExponent
  by_cases marks : marker = 'e' ∨ marker = 'E'
  · have marked : (marker == 'e' || marker == 'E') = true := by
      simpa using marks
    cases digits : (takeDigits (takeSign rest).2).1 with
    | nil => simp [marked, digits_eq, digits]
    | cons digit more =>
        simp [marks, marked, digits, signedDigits, andThen]
  · have unmarked : (marker == 'e' || marker == 'E') = false := by
      simpa using marks
    simp [marks, unmarked]

/-- Where no digits are taken, none are taken off a shorter text. -/
theorem signedDigits_of_shorter {shorter text : List Char}
    (atFront : shorter <+: text) (none : (signedDigits text).1.2 = []) :
    (signedDigits shorter).1.2 = [] := by
  have unsigned : (takeSign shorter).2 <+: (takeSign text).2 := by
    obtain ⟨behind, rfl⟩ := atFront
    unfold takeSign
    split
    · exact List.prefix_append _ _
    · exact List.prefix_append _ _
    · rename_i noMinus noPlus
      cases shorter with
      | nil => exact List.nil_prefix
      | cons first rest =>
          have plain : first ≠ '-' ∧ first ≠ '+' :=
            ⟨fun minus => noMinus rest (by rw [minus]),
              fun plus => noPlus rest (by rw [plus])⟩
          simp [plain]
  have plain : ∀ first ∈ (takeSign shorter).2.head?,
      first.isDigit = false := by
    intro first member
    obtain ⟨rest, text_eq⟩ :=
      List.head?_eq_some_iff.mp (head?_of_shorter unsigned member)
    change (takeDigits (takeSign text).2).1 = [] at none
    rw [text_eq, takeDigits, List.takeWhile_cons] at none
    simpa using none
  change (takeDigits (takeSign shorter).2).1 = []
  rw [takeDigits_of_head? plain]

theorem local_exponentStep : Local exponentStep := by
  intro characters
  match characters with
  | [] =>
      refine exists_front_of_nothing (false, []) fun rest shorter => ?_
      rw [List.prefix_nil.mp shorter]
      rfl
  | marker :: behind =>
      by_cases taken :
          (marker = 'e' ∨ marker = 'E') ∧ (signedDigits behind).1.2 ≠ []
      · obtain ⟨front, front_eq, again⟩ :=
          local_takeSign.andThen local_takeDigits behind
        rw [exponentStep_cons, if_pos taken]
        refine ⟨marker :: front, congrArg (marker :: ·) front_eq, ?_⟩
        intro rest shorter
        have same : signedDigits (front ++ rest) =
            ((signedDigits behind).1, rest) := again rest shorter
        rw [List.cons_append, exponentStep_cons, same, if_pos taken]
      · refine exists_front_of_nothing (false, []) fun rest shorter => ?_
        cases rest with
        | nil => rfl
        | cons first others =>
            obtain ⟨rfl, atFront⟩ := List.cons_prefix_cons.mp shorter
            rw [exponentStep_cons, if_neg]
            rintro ⟨marks, some_digits⟩
            exact taken ⟨marks, fun none =>
              some_digits (signedDigits_of_shorter atFront none)⟩

/-- The parts of a numeral at the front of a text, and the rest. -/
def partsStep :
    List Char → (((Bool × List Char) × List Char) × Bool × List Char) ×
      List Char :=
  andThen (andThen (andThen takeSign takeDigits) takeFraction) exponentStep

theorem local_partsStep : Local partsStep :=
  ((local_takeSign.andThen local_takeDigits).andThen local_takeFraction).andThen
    local_exponentStep

/-- The numeral that parts make up, if there is a digit among them. -/
def ofParts (parts : ((Bool × List Char) × List Char) × Bool × List Char) :
    Option Numeral :=
  if parts.1.1.2.isEmpty && parts.1.2.isEmpty then none
  else some {
    negative := parts.1.1.1
    whole := parts.1.1.2
    fraction := parts.1.2
    exponentNegative := parts.2.1
    exponent := parts.2.2 }

theorem take_eq (characters : List Char) :
    take characters =
      (ofParts (partsStep characters).1).map (·, (partsStep characters).2) := by
  unfold take ofParts partsStep andThen exponentStep
  dsimp only
  split
  · rfl
  · rfl

end Steps

variable {characters rest : List Char} {numeral : Numeral}

/-- What is taken off the front of a text is the numeral that it is read as
alone. -/
theorem exists_read?_of_take (taken : take characters = some (numeral, rest)) :
    ∃ front, front ++ rest = characters ∧ read? front = some numeral := by
  rw [take_eq, Option.map_eq_some_iff] at taken
  obtain ⟨_, made, same⟩ := taken
  obtain ⟨rfl, rfl⟩ := Prod.mk.inj same
  obtain ⟨front, front_eq, again⟩ := local_partsStep characters
  refine ⟨front, front_eq, ?_⟩
  have alone := again [] List.nil_prefix
  rw [List.append_nil] at alone
  rw [read?, take_eq, alone, made]
  rfl

/-- Of the numerals at the front of a text the longest is taken. -/
theorem leading_of_take (taken : take characters = some (numeral, rest)) :
    ∃ front, Leading front characters ∧ read? front = some numeral := by
  obtain ⟨front, rfl, reads⟩ := exists_read?_of_take taken
  refine ⟨front, ⟨List.prefix_append _ _, ?_, ?_⟩, reads⟩
  · exact isSome_read?_iff.mp (by rw [reads]; rfl)
  · -- What is left behind the one taken is left behind every other one as well.
    rintro other ⟨behind, other_eq⟩ spelled
    obtain ⟨_, left, takenOther, ends⟩ :=
      take_append_of_isNumeral spelled behind
    rw [other_eq, taken] at takenOther
    obtain ⟨-, rfl⟩ := Prod.mk.inj (Option.some.inj takenOther)
    obtain ⟨middle, rfl⟩ := ends
    rw [← List.append_assoc] at other_eq
    exact ⟨middle, List.append_cancel_right other_eq⟩

/-- A numeral is taken off a text exactly when one stands at its front. -/
theorem isSome_take_iff (characters : List Char) :
    (take characters).isSome = true ↔
      ∃ front, front <+: characters ∧ IsNumeral front := by
  constructor
  · intro some_taken
    obtain ⟨⟨numeral, rest⟩, taken⟩ := Option.isSome_iff_exists.mp some_taken
    obtain ⟨front, spelled, front_eq⟩ := isNumeral_of_take taken
    exact ⟨front, ⟨rest, front_eq⟩, spelled⟩
  · rintro ⟨front, ⟨behind, rfl⟩, spelled⟩
    obtain ⟨numeral, rest, taken, -⟩ := take_append_of_isNumeral spelled behind
    rw [taken]
    rfl

end Numeral

end Decimal

namespace Filter

open Decimal

/-- When a numeral stands at the front of a text, behind its white space, the
number of the text is that of the longest one, which is read on its own, is
rounded to its value and ends between two characters; otherwise it is zero. -/
theorem leadingNumber_longest (text : String) :
    ((∃ front, front <+: Text.trimStart text.toList ∧ IsNumeral front) →
      ∃ front numeral, Leading front (Text.trimStart text.toList) ∧
        Numeral.read? front = some numeral ∧
        leadingNumber text = numeral.toDouble ∧
        numeral.RoundsTo numeral.toDouble ∧
        (⟨front.length⟩ : String.Pos.Raw).IsValid
          (String.ofList (Text.trimStart text.toList))) ∧
    ((¬ ∃ front, front <+: Text.trimStart text.toList ∧ IsNumeral front) →
      leadingNumber text = .zero) := by
  rw [← Numeral.isSome_take_iff, leadingNumber]
  cases taken : Numeral.take (Text.trimStart text.toList) with
  | none => simp
  | some pair =>
      obtain ⟨numeral, rest⟩ := pair
      obtain ⟨front, leading, reads⟩ := Numeral.leading_of_take taken
      simp only [Option.isSome_some, forall_const, not_true_eq_false,
        false_implies, and_true]
      exact ⟨front, numeral, leading, reads, rfl,
        Numeral.roundsTo_toDouble taken, leading.isValid⟩

/-- An age is read off the front of a text; a word names no number. -/
theorem leadingNumber_years :
    (∃ front numeral, Leading front "18 years".toList ∧
      Numeral.read? front = some numeral ∧
      leadingNumber " 18 years" = numeral.toDouble) ∧
    leadingNumber "years" = .zero := by
  have digits : Digits ['1', '8'] := ⟨by decide, by simp⟩
  have spelled : IsNumeral ['1', '8'] := .parts .none (.whole digits) .none
  constructor
  · obtain ⟨front, numeral, leading, reads, same, -⟩ :=
      (leadingNumber_longest " 18 years").1
        ⟨['1', '8'], ⟨" years".toList, by decide⟩, spelled⟩
    exact ⟨front, numeral, leading, reads, same⟩
  · refine (leadingNumber_longest "years").2 ?_
    rw [← Numeral.isSome_take_iff]
    decide

end Filter

end DataGrid
