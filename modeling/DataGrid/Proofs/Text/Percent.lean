import DataGrid.Json.Token
import DataGrid.Text.Percent
import Mathlib.Data.List.Basic

/-!
# Reading percent encoding

A percent sign with two hexadecimal digits behind it stands for one byte.  The
encoding of a component is read back as the bytes of the text, uses no character
that has a meaning in an address, and is the form encoding of the text with its
plus signs written as encoded spaces.
-/

namespace DataGrid.Text

/-- The bytes that a text with percent signs stands for.  A percent sign without
two digits behind it stands for itself, like every other character. -/
def percentDecode : List Char → List UInt8
  | '%' :: high :: low :: rest =>
      match Json.hexValue high, Json.hexValue low with
      | some high, some low =>
          UInt8.ofNat (high * 16 + low) :: percentDecode rest
      | _, _ => UInt8.ofNat 0x25 :: percentDecode (high :: low :: rest)
  | character :: rest =>
      String.utf8EncodeChar character ++ percentDecode rest
  | [] => []

/-- The characters that may stand in a component. -/
def isComponentCharacter (character : Char) : Bool :=
  character.isAlphanum || character == '*' || character == '-' ||
    character == '.' || character == '_' || character == '%'

/-- A byte as forms are sent: like a component, but a space is a plus sign. -/
def formByte (byte : UInt8) : List Char :=
  if byte = 0x20 then ['+'] else percentByte byte

/-- A text as forms are sent. -/
def formEncode (text : String) : String :=
  String.ofList (text.toUTF8.toList.flatMap formByte)

def replacePlus (character : Char) : List Char :=
  if character = '+' then ['%', '2', '0'] else [character]

/-- A text with every plus sign replaced by an encoded space. -/
def replacePluses (text : String) : String :=
  String.ofList (text.toList.flatMap replacePlus)

theorem hexValue_hexDigit : ∀ value < 16,
    Json.hexValue (hexDigit value) = some value := by
  decide

theorem isAlphanum_hexDigit : ∀ value < 16,
    (hexDigit value).isAlphanum = true := by
  decide

/-- The bytes that stand for themselves are characters of ASCII, and neither
percent signs nor plus signs. -/
theorem byte_of_isPlainByte {byte : UInt8} (plain : isPlainByte byte = true) :
    byte.toNat < 128 ∧ Char.ofNat byte.toNat ≠ '%' ∧
      Char.ofNat byte.toNat ≠ '+' := by
  have every : ∀ code < 256, isPlainByte (UInt8.ofNat code) = true →
      code < 128 ∧ Char.ofNat code ≠ '%' ∧ Char.ofNat code ≠ '+' := by
    decide +kernel
  have small : byte.toNat < 256 := byte.toNat_lt
  have same : UInt8.ofNat byte.toNat = byte := UInt8.ofNat_toNat
  exact every byte.toNat small (same.symm ▸ plain)

theorem utf8EncodeChar_of_lt {byte : UInt8} (small : byte.toNat < 128) :
    String.utf8EncodeChar (Char.ofNat byte.toNat) = [byte] := by
  have valid : byte.toNat.isValidChar := .inl (by omega)
  have code : (Char.ofNat byte.toNat).val.toNat = byte.toNat := by
    rw [Char.ofNat, dif_pos valid]
    rfl
  simp [String.utf8EncodeChar, code, show byte.toNat ≤ 127 by omega]

theorem percentDecode_cons_of_ne {character : Char}
    (other : character ≠ '%') (rest : List Char) :
    percentDecode (character :: rest) =
      String.utf8EncodeChar character ++ percentDecode rest :=
  percentDecode.eq_2 character rest fun _ _ _ same _ => other same

/-- A byte is read back wherever it is written. -/
theorem percentDecode_percentByte_append (byte : UInt8) (rest : List Char) :
    percentDecode (percentByte byte ++ rest) = byte :: percentDecode rest := by
  unfold percentByte
  split
  · rename_i plain
    obtain ⟨small, noPercent, -⟩ := byte_of_isPlainByte plain
    rw [List.singleton_append, percentDecode_cons_of_ne noPercent,
      utf8EncodeChar_of_lt small]
    rfl
  · have small : byte.toNat < 256 := byte.toNat_lt
    have high := hexValue_hexDigit (byte.toNat / 16) (by omega)
    have low := hexValue_hexDigit (byte.toNat % 16) (by omega)
    have parts : byte.toNat / 16 * 16 + byte.toNat % 16 = byte.toNat := by
      omega
    simp only [List.cons_append, List.nil_append, percentDecode, high, low,
      parts, UInt8.ofNat_toNat]

/-- What is encoded is read back as the bytes of the text. -/
theorem percentDecode_percentEncode (text : String) :
    percentDecode (percentEncode text).toList = text.toUTF8.toList := by
  rw [percentEncode, String.toList_ofList]
  induction text.toUTF8.toList with
  | nil => rfl
  | cons byte rest ih =>
      rw [List.flatMap_cons, percentDecode_percentByte_append, ih]

theorem isComponentCharacter_of_mem_percentByte {byte : UInt8}
    {character : Char} (member : character ∈ percentByte byte) :
    isComponentCharacter character = true := by
  unfold percentByte at member
  split at member
  · rename_i plain
    obtain rfl := List.mem_singleton.mp member
    unfold isPlainByte at plain
    unfold isComponentCharacter
    rw [plain]
    rfl
  · have small : byte.toNat < 256 := byte.toNat_lt
    simp only [List.mem_cons, List.not_mem_nil, or_false] at member
    obtain rfl | rfl | rfl := member
    · rfl
    · simp [isComponentCharacter,
        isAlphanum_hexDigit (byte.toNat / 16) (by omega)]
    · simp [isComponentCharacter,
        isAlphanum_hexDigit (byte.toNat % 16) (by omega)]

theorem isComponentCharacter_of_mem_percentEncode {text : String}
    {character : Char} (member : character ∈ (percentEncode text).toList) :
    isComponentCharacter character = true := by
  rw [percentEncode, String.toList_ofList, List.mem_flatMap] at member
  obtain ⟨byte, -, written⟩ := member
  exact isComponentCharacter_of_mem_percentByte written

/-- The characters that divide an address, stand for spaces or enclose the name
of a field. -/
def reserved : List Char :=
  ['\x7b', '\x7d', '/', '?', '&', '#', '+']

theorem reserved_notMem_percentEncode (text : String) :
    ∀ character ∈ reserved, character ∉ (percentEncode text).toList := by
  intro character among member
  have excluded : reserved.all (!isComponentCharacter ·) = true := by
    decide
  have allowed := isComponentCharacter_of_mem_percentEncode member
  simpa [allowed] using List.all_eq_true.mp excluded character among

/-- No byte but a space is sent with a plus sign. -/
theorem flatMap_formByte (byte : UInt8) :
    (formByte byte).flatMap replacePlus = percentByte byte := by
  unfold formByte
  split
  · rename_i space
    rw [space]
    rfl
  · have kept : ∀ character ∈ percentByte byte,
        replacePlus character = [character] := by
      intro character member
      refine if_neg fun plus => ?_
      have allowed := isComponentCharacter_of_mem_percentByte member
      rw [plus] at allowed
      exact absurd allowed (by decide)
    rw [List.flatMap_congr kept]
    exact List.flatMap_singleton' _

/-- A component is what a form sends, with its plus signs replaced. -/
theorem percentEncode_eq (text : String) :
    percentEncode text = replacePluses (formEncode text) := by
  rw [replacePluses, formEncode, String.toList_ofList, List.flatMap_assoc,
    List.flatMap_congr fun byte _ => flatMap_formByte byte]
  rfl

end DataGrid.Text
