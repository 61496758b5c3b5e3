import DataGrid.Decimal.Numeral
import DataGrid.Proofs.Decimal.Integer
import Mathlib.Data.List.Infix
import Mathlib.Data.List.TakeWhile

/-!
# The grammar of numerals

A numeral is a sign, a magnitude and an exponent, of which only the magnitude
has to be there.  What is taken from the front of a text is a numeral, and no
numeral at the front is longer.  A text is read as a numeral exactly when it is
one.
-/

namespace DataGrid.Decimal

/-- Digits, of which there is at least one. -/
structure Digits (characters : List Char) : Prop where
  nonempty : characters ≠ []
  all : ∀ character ∈ characters, character.isDigit = true

inductive Sign : List Char → Prop
  | none : Sign []
  | plus : Sign ['+']
  | minus : Sign ['-']

/-- Digits, a point behind which there may be more of them, or digits behind a
point. -/
inductive Magnitude : List Char → Prop
  | whole {digits : List Char} (digits_all : Digits digits) : Magnitude digits
  | pointed {whole fraction : List Char} (whole_all : Digits whole)
      (fraction_all : ∀ digit ∈ fraction, digit.isDigit = true) :
      Magnitude (whole ++ '.' :: fraction)
  | fraction {digits : List Char} (digits_all : Digits digits) :
      Magnitude ('.' :: digits)

/-- A marker with digits behind it, which may have a sign. -/
inductive Exponent : List Char → Prop
  | none : Exponent []
  | marked {marker : Char} {sign digits : List Char}
      (marks : marker = 'e' ∨ marker = 'E') (signed : Sign sign)
      (digits_all : Digits digits) :
      Exponent (marker :: (sign ++ digits))

/-- A decimal numeral. -/
inductive IsNumeral : List Char → Prop
  | parts {sign magnitude exponent : List Char} (signed : Sign sign)
      (measured : Magnitude magnitude) (scaled : Exponent exponent) :
      IsNumeral (sign ++ (magnitude ++ exponent))

/-- A digit is no sign. -/
theorem Digits.exists_cons {digits : List Char} (all : Digits digits) :
    ∃ first others, digits = first :: others ∧ first ≠ '-' ∧ first ≠ '+' := by
  obtain ⟨first, others, rfl⟩ := List.exists_cons_of_ne_nil all.nonempty
  have first_isDigit := all.all first List.mem_cons_self
  refine ⟨first, others, rfl, ?_, ?_⟩ <;>
    · rintro rfl
      cases first_isDigit

namespace Numeral

variable {characters digits rest : List Char}

section Digits

theorem takeDigits_eq (characters : List Char) :
    (takeDigits characters).1 ++ (takeDigits characters).2 = characters :=
  List.takeWhile_append_dropWhile

theorem isDigit_of_mem_takeDigits {digit : Char}
    (member : digit ∈ (takeDigits characters).1) : digit.isDigit = true :=
  List.mem_takeWhile_imp member

theorem takeDigits_suffix (characters : List Char) :
    (takeDigits characters).2 <:+ characters :=
  List.dropWhile_suffix _

/-- Digits at the front are taken with those that follow them. -/
theorem takeDigits_append_of_all
    (all : ∀ digit ∈ digits, digit.isDigit = true) (rest : List Char) :
    takeDigits (digits ++ rest) =
      (digits ++ (takeDigits rest).1, (takeDigits rest).2) := by
  rw [takeDigits, List.takeWhile_append_of_pos all,
    List.dropWhile_append_of_pos all]
  rfl

theorem takeDigits_cons_of_not {character : Char}
    (other : character.isDigit = false) (rest : List Char) :
    takeDigits (character :: rest) = ([], character :: rest) := by
  rw [takeDigits, List.takeWhile_cons_of_neg (by simp [other]),
    List.dropWhile_cons_of_neg (by simp [other])]

theorem takeDigits_of_head?
    (plain : ∀ first ∈ characters.head?, first.isDigit = false) :
    takeDigits characters = ([], characters) := by
  cases characters with
  | nil => rfl
  | cons first rest => exact takeDigits_cons_of_not (plain first rfl) rest

/-- Digits are taken up to what is none. -/
theorem takeDigits_append (all : ∀ digit ∈ digits, digit.isDigit = true)
    (stops : ∀ next ∈ rest.head?, next.isDigit = false) :
    takeDigits (digits ++ rest) = (digits, rest) := by
  rw [takeDigits_append_of_all all, takeDigits_of_head? stops, List.append_nil]

end Digits

section Sign

theorem exists_sign (characters : List Char) :
    ∃ sign, Sign sign ∧ sign ++ (takeSign characters).2 = characters := by
  unfold takeSign
  split
  · exact ⟨_, .minus, rfl⟩
  · exact ⟨_, .plus, rfl⟩
  · exact ⟨_, .none, rfl⟩

/-- A sign is taken from what does not begin with a sign itself. -/
theorem takeSign_append {sign : List Char} (signed : Sign sign)
    {first : Char} (noMinus : first ≠ '-') (noPlus : first ≠ '+')
    (rest : List Char) :
    (takeSign (sign ++ first :: rest)).2 = first :: rest := by
  cases signed with
  | none => simp [takeSign, noMinus, noPlus]
  | plus => rfl
  | minus => rfl

theorem takeSign_of_head?
    (plain : ∀ first ∈ characters.head?, first ≠ '-' ∧ first ≠ '+') :
    takeSign characters = (false, characters) := by
  cases characters with
  | nil => rfl
  | cons first rest =>
      obtain ⟨noMinus, noPlus⟩ := plain first rfl
      simp [takeSign, noMinus, noPlus]

end Sign

theorem takeFraction_suffix (characters : List Char) :
    (takeFraction characters).2 <:+ characters := by
  unfold takeFraction
  split
  · exact (takeDigits_suffix _).trans (List.suffix_cons _ _)
  · exact List.suffix_rfl

theorem takeFraction_of_head?
    (plain : ∀ first ∈ characters.head?, first ≠ '.') :
    takeFraction characters = ([], characters) := by
  cases characters with
  | nil => rfl
  | cons first rest => simp [takeFraction, plain first rfl]

section Exponent

theorem exists_exponent (characters : List Char) :
    ∃ exponent, Exponent exponent ∧
      exponent ++ (takeExponent characters).2.2 = characters := by
  unfold takeExponent
  split
  · rename_i marker rest
    split
    · rename_i marks
      obtain ⟨sign, signed, sign_eq⟩ := exists_sign rest
      have digits_eq := takeDigits_eq (takeSign rest).2
      dsimp only
      split
      · exact ⟨_, .none, rfl⟩
      · rename_i some_digits
        refine ⟨_, .marked (by simpa using marks) signed
          ⟨by simpa using some_digits,
            fun _ => isDigit_of_mem_takeDigits⟩, ?_⟩
        rw [List.cons_append, List.append_assoc, digits_eq, sign_eq]
    · exact ⟨_, .none, rfl⟩
  · exact ⟨_, .none, rfl⟩

theorem takeExponent_suffix (characters : List Char) :
    (takeExponent characters).2.2 <:+ characters := by
  obtain ⟨exponent, -, eq⟩ := exists_exponent characters
  exact ⟨exponent, eq⟩

/-- An exponent is taken whole, perhaps with digits that follow it. -/
theorem takeExponent_append {marker : Char} {sign : List Char}
    (marks : marker = 'e' ∨ marker = 'E') (signed : Sign sign)
    (digits_all : Digits digits) (behind : List Char) :
    (takeExponent (marker :: (sign ++ (digits ++ behind)))).2.2 <:+
      behind := by
  obtain ⟨first, others, rfl, noMinus, noPlus⟩ := digits_all.exists_cons
  have unsigned := takeSign_append signed noMinus noPlus (others ++ behind)
  have taken := takeDigits_append_of_all digits_all.all behind
  have marked : (marker == 'e' || marker == 'E') = true := by simpa using marks
  rw [takeExponent, if_pos marked]
  simp only [List.cons_append] at unsigned taken ⊢
  simp only [unsigned, taken]
  simpa using takeDigits_suffix behind

end Exponent

section Magnitude

/-- What is left behind digits and a fraction. -/
def behindMagnitude (characters : List Char) : List Char :=
  (takeFraction (takeDigits characters).2).2

/-- There are digits in front of a point or behind it. -/
def HasDigits (characters : List Char) : Prop :=
  (takeDigits characters).1 ≠ [] ∨
    (takeFraction (takeDigits characters).2).1 ≠ []

theorem behindMagnitude_suffix (characters : List Char) :
    behindMagnitude characters <:+ characters :=
  (takeFraction_suffix _).trans (takeDigits_suffix _)

theorem exists_magnitude (has : HasDigits characters) :
    ∃ magnitude, Magnitude magnitude ∧
      magnitude ++ behindMagnitude characters = characters := by
  have whole_eq := takeDigits_eq characters
  have whole_all : ∀ digit ∈ (takeDigits characters).1,
      digit.isDigit = true :=
    fun _ => isDigit_of_mem_takeDigits
  unfold behindMagnitude
  unfold HasDigits at has
  generalize takeDigits characters = taken at whole_eq whole_all has ⊢
  obtain ⟨whole, rest⟩ := taken
  dsimp only at whole_eq whole_all has ⊢
  subst whole_eq
  unfold takeFraction at has ⊢
  split at has
  · rename_i behind
    have fraction_eq := takeDigits_eq behind
    have fraction_all : ∀ digit ∈ (takeDigits behind).1,
        digit.isDigit = true :=
      fun _ => isDigit_of_mem_takeDigits
    by_cases some_whole : whole = []
    · subst some_whole
      have digits : Digits (takeDigits behind).1 := ⟨by simpa using has,
        fraction_all⟩
      exact ⟨_, .fraction digits, by simp [fraction_eq]⟩
    · exact ⟨_, .pointed ⟨some_whole, whole_all⟩ fraction_all,
        by simp [fraction_eq]⟩
  · have digits : Digits whole := ⟨by simpa using has, whole_all⟩
    exact ⟨_, .whole digits, rfl⟩

/-- A magnitude at the front is taken, with what could still belong to it. -/
theorem behindMagnitude_append {magnitude : List Char}
    (measured : Magnitude magnitude) (behind : List Char) :
    HasDigits (magnitude ++ behind) ∧
      (behindMagnitude (magnitude ++ behind) = behindMagnitude behind ∨
        behindMagnitude (magnitude ++ behind) = (takeDigits behind).2) := by
  unfold HasDigits behindMagnitude
  cases measured with
  | whole digits =>
      rw [takeDigits_append_of_all digits.all]
      exact ⟨.inl (List.append_ne_nil_of_left_ne_nil digits.nonempty _),
        .inl rfl⟩
  | pointed digits fraction_all =>
      rw [List.append_assoc, takeDigits_append_of_all digits.all,
        List.cons_append, takeDigits_cons_of_not rfl, takeFraction,
        takeDigits_append_of_all fraction_all]
      exact ⟨.inl (List.append_ne_nil_of_left_ne_nil digits.nonempty _),
        .inr rfl⟩
  | fraction digits =>
      rw [List.cons_append, takeDigits_cons_of_not rfl, takeFraction,
        takeDigits_append_of_all digits.all]
      exact ⟨.inr (List.append_ne_nil_of_left_ne_nil digits.nonempty _),
        .inr rfl⟩

/-- In front of what is neither a digit nor a point, a magnitude ends. -/
theorem behindMagnitude_append_cons {magnitude : List Char}
    (measured : Magnitude magnitude) {next : Char}
    (noDigit : next.isDigit = false) (noPoint : next ≠ '.')
    (rest : List Char) :
    behindMagnitude (magnitude ++ next :: rest) = next :: rest := by
  have none_taken := takeDigits_cons_of_not noDigit rest
  rcases (behindMagnitude_append measured (next :: rest)).2 with same | same
  · rw [same, behindMagnitude, none_taken]
    simp [takeFraction, noPoint]
  · rw [same, none_taken]

/-- A magnitude begins with a digit or a point, and so with no sign. -/
theorem exists_cons_of_magnitude {magnitude : List Char}
    (measured : Magnitude magnitude) :
    ∃ first others, magnitude = first :: others ∧ first ≠ '-' ∧
      first ≠ '+' := by
  cases measured with
  | whole digits => exact digits.exists_cons
  | pointed digits fraction_all =>
      obtain ⟨first, others, rfl, noMinus, noPlus⟩ := digits.exists_cons
      exact ⟨first, _, rfl, noMinus, noPlus⟩
  | fraction digits => exact ⟨_, _, rfl, by decide, by decide⟩

end Magnitude

/-- A numeral is taken when there are digits behind the sign. -/
theorem take_eq_some_iff :
    (∃ numeral, take characters = some (numeral, rest)) ↔
      HasDigits (takeSign characters).2 ∧
        (takeExponent (behindMagnitude (takeSign characters).2)).2.2 =
          rest := by
  have split_eq : take characters =
      if (takeDigits (takeSign characters).2).1.isEmpty &&
        (takeFraction (takeDigits (takeSign characters).2).2).1.isEmpty
      then none
      else some (_, (takeExponent
        (behindMagnitude (takeSign characters).2)).2.2) := rfl
  rw [split_eq, HasDigits]
  split
  · rename_i nothing
    rw [Bool.and_eq_true, List.isEmpty_iff, List.isEmpty_iff] at nothing
    simp [nothing]
  · rename_i something
    rw [Bool.and_eq_true, List.isEmpty_iff, List.isEmpty_iff,
      not_and_or] at something
    rw [and_iff_right something]
    simp

/-- What is taken is a numeral. -/
theorem isNumeral_of_take {numeral : Numeral}
    (taken : take characters = some (numeral, rest)) :
    ∃ front, IsNumeral front ∧ front ++ rest = characters := by
  obtain ⟨has, rfl⟩ := take_eq_some_iff.mp ⟨numeral, taken⟩
  obtain ⟨sign, signed, sign_eq⟩ := exists_sign characters
  obtain ⟨magnitude, measured, magnitude_eq⟩ := exists_magnitude has
  obtain ⟨exponent, scaled, exponent_eq⟩ :=
    exists_exponent (behindMagnitude (takeSign characters).2)
  refine ⟨_, .parts signed measured scaled, ?_⟩
  rw [List.append_assoc, List.append_assoc, exponent_eq, magnitude_eq, sign_eq]

/-- No numeral at the front of a text is longer than the one that is taken. -/
theorem take_append_of_isNumeral {front : List Char}
    (spelled : IsNumeral front) (behind : List Char) :
    ∃ numeral rest, take (front ++ behind) = some (numeral, rest) ∧
      rest <:+ behind := by
  obtain @⟨sign, magnitude, exponent, signed, measured, scaled⟩ := spelled
  have unsigned : (takeSign (sign ++ (magnitude ++ exponent) ++ behind)).2 =
      magnitude ++ (exponent ++ behind) := by
    obtain ⟨first, others, rfl, noMinus, noPlus⟩ :=
      exists_cons_of_magnitude measured
    simpa using takeSign_append signed noMinus noPlus
      (others ++ (exponent ++ behind))
  obtain ⟨has, left⟩ := behindMagnitude_append measured (exponent ++ behind)
  obtain ⟨numeral, taken⟩ := take_eq_some_iff.mpr ⟨unsigned.symm ▸ has, rfl⟩
  refine ⟨numeral, _, taken, ?_⟩
  rw [unsigned]
  cases scaled with
  | none =>
      refine (takeExponent_suffix _).trans ?_
      rcases left with same | same <;> rw [same]
      · exact behindMagnitude_suffix _
      · exact takeDigits_suffix _
  | marked marks signed digits_all =>
      rw [List.cons_append, List.append_assoc, behindMagnitude_append_cons
        measured]
      · exact takeExponent_append marks signed digits_all behind
      · rcases marks with rfl | rfl <;> rfl
      · rcases marks with rfl | rfl <;> decide

/-- A text is read as a numeral exactly when it is one. -/
theorem isSome_read?_iff :
    (read? characters).isSome = true ↔ IsNumeral characters := by
  constructor
  · intro reads
    unfold read? at reads
    split at reads
    · rename_i numeral taken
      obtain ⟨front, spelled, front_eq⟩ := isNumeral_of_take taken
      rw [List.append_nil] at front_eq
      exact front_eq ▸ spelled
    · cases reads
  · intro spelled
    obtain ⟨numeral, rest, taken, left⟩ := take_append_of_isNumeral spelled []
    obtain rfl := List.suffix_nil.mp left
    rw [List.append_nil] at taken
    simp [read?, taken]

end Numeral

/-- Texts that count as numbers without being numerals, in any case of their
letters: the names of infinity, and of what is not a number. -/
def numberNames : List String :=
  ["inf", "infinity", "nan"]

/-- A number that is given by its name, perhaps with a sign. -/
inductive IsNamed : List Char → Prop
  | parts {sign name : List Char} (signed : Sign sign)
      (known : Text.lower (String.ofList name) ∈ numberNames) :
      IsNamed (sign ++ name)

/-- A name begins with no sign, and has a letter that no numeral has. -/
theorem letters_of_mem_numberNames {name : List Char}
    (known : Text.lower (String.ofList name) ∈ numberNames) :
    (∃ first others, name = first :: others ∧ first ≠ '-' ∧ first ≠ '+') ∧
      ∃ letter ∈ name, letter.toLower = 'n' := by
  have every : ∀ letters ∈ numberNames.map String.toList,
      letters.head? ≠ some '-' ∧ letters.head? ≠ some '+' ∧
        letters ≠ [] ∧ 'n' ∈ letters := by
    decide
  have among : name.map Char.toLower ∈ numberNames.map String.toList := by
    simpa [Text.lower] using List.mem_map_of_mem (f := String.toList) known
  obtain ⟨noMinus, noPlus, nonempty, member⟩ := every _ among
  obtain ⟨first, others, rfl⟩ : ∃ first others, name = first :: others :=
    List.exists_cons_of_ne_nil (by simpa using nonempty)
  refine ⟨⟨first, others, rfl, ?_, ?_⟩, List.mem_map.mp member⟩
  · rintro rfl
    exact noMinus rfl
  · rintro rfl
    exact noPlus rfl

theorem isNamed_iff (characters : List Char) :
    IsNamed characters ↔
      Text.lower (String.ofList (Numeral.takeSign characters).2) ∈
        numberNames := by
  constructor
  · rintro ⟨signed, known⟩
    obtain ⟨⟨first, others, rfl, noMinus, noPlus⟩, -⟩ :=
      letters_of_mem_numberNames known
    rwa [Numeral.takeSign_append signed noMinus noPlus]
  · intro known
    obtain ⟨sign, signed, sign_eq⟩ := Numeral.exists_sign characters
    exact sign_eq ▸ .parts signed known

/-- A text names a number when it is a numeral or one of the names. -/
theorem namesNumber_iff (text : String) :
    namesNumber text = true ↔
      IsNumeral text.toList ∨ IsNamed text.toList := by
  rw [namesNumber, Bool.or_eq_true, Numeral.isSome_read?_iff, isNamed_iff]
  simp [numberNames, or_assoc]

theorem toLower_ne_of_isDigit {digit : Char}
    (isDigit : digit.isDigit = true) : digit.toLower ≠ 'n' := by
  obtain ⟨-, high⟩ := code_of_isDigit isDigit
  have same : digit.toLower = digit := by
    unfold Char.toLower
    refine dif_neg fun upper => ?_
    have low : 0x41 ≤ digit.toNat := UInt32.le_iff_toNat_le.mp upper.1
    omega
  rw [same]
  rintro rfl
  cases isDigit

/-- The characters that may stand in a numeral besides digits. -/
def numeralMarks : List Char :=
  ['+', '-', '.', 'e', 'E']

/-- A numeral is made of digits, signs, points and the markers of exponents. -/
theorem isDigit_or_mem_of_mem_isNumeral {characters : List Char}
    (spelled : IsNumeral characters) :
    ∀ character ∈ characters,
      character.isDigit = true ∨ character ∈ numeralMarks := by
  have sign_known {sign : List Char} (signed : Sign sign) :
      ∀ character ∈ sign,
        character.isDigit = true ∨ character ∈ numeralMarks := by
    cases signed with
    | none => exact List.forall_mem_nil _
    | plus => exact List.forall_mem_singleton.mpr (by decide)
    | minus => exact List.forall_mem_singleton.mpr (by decide)
  have digits_known {digits : List Char}
      (all : ∀ digit ∈ digits, digit.isDigit = true) :
      ∀ character ∈ digits,
        character.isDigit = true ∨ character ∈ numeralMarks :=
    fun digit member => .inl (all digit member)
  obtain ⟨signed, measured, scaled⟩ := spelled
  simp only [List.forall_mem_append]
  refine ⟨sign_known signed, ?_, ?_⟩
  · cases measured with
    | whole digits => exact digits_known digits.all
    | pointed digits fraction_all =>
        simp only [List.forall_mem_append, List.forall_mem_cons]
        exact ⟨digits_known digits.all, by decide, digits_known fraction_all⟩
    | fraction digits =>
        exact List.forall_mem_cons.mpr ⟨by decide, digits_known digits.all⟩
  · cases scaled with
    | none => simp
    | marked marks exponentSigned digits =>
        simp only [List.forall_mem_append, List.forall_mem_cons]
        refine ⟨?_, sign_known exponentSigned, digits_known digits.all⟩
        rcases marks with rfl | rfl <;> decide

/-- None of the characters of a numeral is the letter that all names have. -/
theorem toLower_ne_of_mem_isNumeral {characters : List Char}
    (spelled : IsNumeral characters) :
    ∀ character ∈ characters, character.toLower ≠ 'n' := by
  have marks_ne : numeralMarks.all (·.toLower != 'n') = true := by decide
  intro character member
  rcases isDigit_or_mem_of_mem_isNumeral spelled character member with
    isDigit | mark
  · exact toLower_ne_of_isDigit isDigit
  · simpa using List.all_eq_true.mp marks_ne character mark

theorem not_isNamed_of_isNumeral {characters : List Char}
    (spelled : IsNumeral characters) : ¬ IsNamed characters := by
  rintro ⟨signed, known⟩
  obtain ⟨-, letter, member, same⟩ := letters_of_mem_numberNames known
  exact toLower_ne_of_mem_isNumeral spelled letter
    (List.mem_append_right _ member) same

end DataGrid.Decimal
