import DataGrid.Json.Reader
import DataGrid.Json.Writer

/-!
# Lists of texts as JSON

A list of texts is written between brackets with each text quoted, and is read
back as the same texts.  Quoting goes character by character: each one is
written in a way that stands for one unit, and the unit stands for it.
-/

namespace DataGrid.Json

/-- Some characters are read as one unit, which means a character. -/
structure Stands (written : List Char) (unit : Unit16) (character : Char) :
    Prop where
  taken : ∀ rest, takeUnits (written ++ rest) =
    (takeUnits rest).map fun taken => (unit :: taken.1, taken.2)
  meant : ∀ units, ofUnits (unit :: units) =
    (ofUnits units).map (character :: ·)

theorem stands_short {letter character : Char} (notHex : letter ≠ 'u')
    (short : shortEscape letter = some character) :
    Stands ['\\', letter] (.plain character) character where
  taken rest := by
    have taken := takeUnits.eq_4 letter rest fun _ _ _ _ _ same =>
      absurd same notHex
    rw [short] at taken
    simp only [List.cons_append, List.nil_append, taken]
    cases takeUnits rest <;> rfl
  meant _ := rfl

theorem hexFour_small : ∀ code < 0x20,
    hexFour '0' '0' (Text.smallHexDigit (code / 16))
      (Text.smallHexDigit (code % 16)) = some code := by
  decide

theorem stands_hex {character : Char} (small : character.toNat < 0x20) :
    Stands ['\\', 'u', '0', '0', Text.smallHexDigit (character.toNat / 16),
        Text.smallHexDigit (character.toNat % 16)]
      (.escaped character.toNat) character where
  taken rest := by
    have code := hexFour_small character.toNat small
    simp only [List.cons_append, List.nil_append, takeUnits, code]
    cases takeUnits rest <;> rfl
  meant units := by
    have notSurrogate : character.toNat < 0xD800 := by omega
    rw [ofUnits.eq_def]
    simp [notSurrogate, Char.ofNat_toNat]

theorem stands_itself {character : Char} (large : ¬ character.toNat < 0x20)
    (noQuote : character ≠ '"') (noBackslash : character ≠ '\\') :
    Stands [character] (.plain character) character where
  taken rest := by
    have taken := takeUnits.eq_5 character rest noQuote
      (fun _ _ _ _ _ same => absurd same noBackslash)
      (fun _ _ same => absurd same noBackslash)
    simp only [List.cons_append, List.nil_append, taken, large, decide_false,
      beq_eq_false_iff_ne.mpr noBackslash, Bool.or_self]
    cases takeUnits rest <;> rfl
  meant _ := rfl

/-- However a character is escaped, one unit stands for it. -/
theorem exists_stands_escapeCharacter (character : Char) :
    ∃ unit, Stands (escapeCharacter character) unit character := by
  have of_code {code : Nat} (same : character.toNat = code) :
      character = Char.ofNat code := by
    rw [← same, Char.ofNat_toNat]
  unfold escapeCharacter
  split
  · exact ⟨_, stands_short (by decide) rfl⟩
  · exact ⟨_, stands_short (by decide) rfl⟩
  · exact ⟨_, stands_short (by decide) rfl⟩
  · exact ⟨_, stands_short (by decide) rfl⟩
  · exact ⟨_, stands_short (by decide) rfl⟩
  rename_i noQuote noBackslash _ _ _
  split
  · rename_i backspace
    exact ⟨_, stands_short (by decide) (by rw [of_code backspace]; rfl)⟩
  split
  · rename_i formFeed
    exact ⟨_, stands_short (by decide) (by rw [of_code formFeed]; rfl)⟩
  split
  · rename_i small
    exact ⟨_, stands_hex small⟩
  · rename_i large
    exact ⟨_, stands_itself large noQuote noBackslash⟩

theorem exists_units (letters : List Char) :
    ∃ units, ofUnits units = some letters ∧
      ∀ rest, takeUnits (letters.flatMap escapeCharacter ++ '"' :: rest) =
        some (units, rest) := by
  induction letters with
  | nil => exact ⟨[], rfl, fun rest => rfl⟩
  | cons character letters ih =>
      obtain ⟨unit, stands⟩ := exists_stands_escapeCharacter character
      obtain ⟨units, meant, taken⟩ := ih
      refine ⟨unit :: units, by rw [stands.meant, meant]; rfl, fun rest => ?_⟩
      rw [List.flatMap_cons, List.append_assoc, stands.taken, taken]
      rfl

/-- A quoted text is one token, and its text is the one that was quoted. -/
theorem takeToken_quoted (text : String) (rest : List Char) :
    takeToken '"' (text.toList.flatMap escapeCharacter ++ '"' :: rest) =
      some (.text (some text), rest) := by
  obtain ⟨units, meant, taken⟩ := exists_units text.toList
  have text_eq : (ofUnits units).map String.ofList = some text := by
    rw [meant, Option.map_some, String.ofList_toList]
  simp only [takeToken, taken, Option.bind_eq_bind, Option.bind_some, text_eq]
  rfl

/-- Some characters are read as some tokens, given as many steps as there are
characters or more. -/
def Tokenized (characters : List Char) (tokens : List Token) : Prop :=
  ∀ fuel, characters.length ≤ fuel →
    tokensWithin fuel characters = some tokens

theorem tokenized_nil : Tokenized [] [] := by
  intro fuel _
  rw [tokensWithin]

variable {characters : List Char} {tokens : List Token}

theorem tokenized_cons {character : Char} {taken rest : List Char}
    {token : Token} (notBlank : isSpace character = false)
    (takes : takeToken character taken = some (token, rest))
    (shorter : rest.length ≤ taken.length) (tokenized : Tokenized rest tokens) :
    Tokenized (character :: taken) (token :: tokens) := by
  intro fuel enough
  rw [List.length_cons] at enough
  cases fuel with
  | zero => omega
  | succ fuel =>
      have behind := tokenized fuel (by omega)
      simp [tokensWithin, notBlank, takes, behind]

theorem tokenized_quoted (text : String)
    (tokenized : Tokenized characters tokens) :
    Tokenized (quoted text ++ characters) (.text (some text) :: tokens) := by
  have split : quoted text ++ characters =
      '"' :: (text.toList.flatMap escapeCharacter ++ '"' :: characters) := by
    simp [quoted]
  rw [split]
  exact tokenized_cons rfl (takeToken_quoted text characters)
    (by simp; omega) tokenized

/-- The tokens between the brackets of a list of texts. -/
def textTokens : List String → List Token
  | [] => []
  | [only] => [.text (some only)]
  | first :: rest => .text (some first) :: .comma :: textTokens rest

theorem tokenized_texts (texts : List String)
    (tokenized : Tokenized characters tokens) :
    Tokenized (itemCharacters (texts.map .text) ++ characters)
      (textTokens texts ++ tokens) := by
  induction texts with
  | nil => exact tokenized
  | cons first rest ih =>
      cases rest with
      | nil => exact tokenized_quoted first tokenized
      | cons next rest =>
          have comma := tokenized_cons (rfl : isSpace ',' = false) rfl
            (Nat.le_refl _) ih
          have split : itemCharacters ((first :: next :: rest).map .text) ++
              characters = quoted first ++ ',' ::
                (itemCharacters ((next :: rest).map .text) ++ characters) := by
            simp [itemCharacters, Json.characters]
          rw [split]
          exact tokenized_quoted first comma

theorem tokens_textList (texts : List String) :
    Json.tokens (Json.list (texts.map .text)).characters =
      some (.openList :: (textTokens texts ++ [.closeList])) := by
  have closed : Tokenized [']'] [.closeList] :=
    tokenized_cons rfl rfl (Nat.le_refl _) tokenized_nil
  have whole : Tokenized ('[' :: (itemCharacters (texts.map .text) ++ [']']))
      (.openList :: (textTokens texts ++ [.closeList])) :=
    tokenized_cons rfl rfl (Nat.le_refl _) (tokenized_texts texts closed)
  rw [Json.characters, List.cons_append]
  exact whole _ (Nat.le_refl _)

/-- Texts come behind the items that a list already has. -/
theorem build_texts (first : String) (rest : List String) (mayClose : Bool)
    (before : List Json) :
    build (.value mayClose [.list before])
        (textTokens (first :: rest) ++ [.closeList]) =
      some (.list (before.reverse ++ (first :: rest).map .text)) := by
  induction rest generalizing first mayClose before with
  | nil => simp [textTokens, build, step, scalar?]
  | cons next rest ih =>
      have split : textTokens (first :: next :: rest) =
          .text (some first) :: .comma :: textTokens (next :: rest) :=
        rfl
      rw [split]
      simp only [List.cons_append, build, step, scalar?, Option.map_some,
        Option.bind_eq_bind, Option.bind_some]
      rw [ih next false (.text first :: before)]
      simp

/-- A list of texts is read back, whatever characters stand in the texts. -/
theorem read?_toText_textList (texts : List String) :
    read? (Json.list (texts.map .text)).toText =
      some (.list (texts.map .text)) := by
  rw [read?, toText, String.toList_ofList, tokens_textList]
  cases texts with
  | nil => rfl
  | cons first rest => exact build_texts first rest true []

end DataGrid.Json
