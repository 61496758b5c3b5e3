import DataGrid.Proofs.Source.Words

/-!
# Searching tables by their aliases

A token is a run of characters that a search takes whole: a word, a word in
braces, a qualified column, a sign.  A search for an alias goes from token to
token, because what it finds within a token is what it has found at the token's
beginning: the name that stands behind the token.
-/

namespace DataGrid.Source

/-- A run of characters without white space, commas and parentheses. -/
structure Token where
  characters : List Char
  nonempty : characters ≠ []
  unbroken : ∀ character ∈ characters, isBreak character = false

def Word.token (word : Word) : Token where
  characters := word.characters
  nonempty := word.nonempty
  unbroken := word.isBreak_eq_false

/-- The name that stands behind a token, and what stands behind the name. -/
def nameBehind (text : List Char) : Option (List Char × List Char) :=
  (skipBlanks text).bind fun rest =>
    ((skipAs rest).bind (takeUntil isBreak)).or (takeUntil isBreak rest)

/-- The table to which a search for a name leads. -/
def tableFor (wanted : String) (text : List Char) : Option (List Char) :=
  (findNamed tableAlias wanted Text.isBlank false text).map Found.expression

/-- A name with a text behind it is the one that is wanted. -/
def isWanted (wanted : String) (name behind : List Char) : Bool :=
  Found.accepts ⟨[], name, behind⟩ wanted Text.isBlank

/-- The letters of a name are those of the wanted one. -/
def isCalled (wanted : String) (name : List Char) : Bool :=
  Text.sameLetters (String.ofList name) wanted

variable {wanted : String}

theorem isWanted_nil (name : List Char) :
    isWanted wanted name [] = isCalled wanted name :=
  rfl

theorem isWanted_cons (name : List Char) (next : Char) (rest : List Char) :
    isWanted wanted name (next :: rest) =
      (Text.isBlank next && isCalled wanted name) :=
  rfl

theorem isWanted_of_not_isCalled {name : List Char}
    (other : isCalled wanted name = false) (behind : List Char) :
    isWanted wanted name behind = false := by
  cases behind with
  | nil => rw [isWanted_nil, other]
  | cons next rest => rw [isWanted_cons, other, Bool.and_false]

section Steps

theorem findNamed_tableAlias_atStart (wanted : String) (atStart : Bool)
    (text : List Char) :
    findNamed tableAlias wanted Text.isBlank atStart text =
      findNamed tableAlias wanted Text.isBlank false text := by
  cases text with
  | nil => rw [findNamed_nil, findNamed_nil]; rfl
  | cons character rest => rw [findNamed_cons, findNamed_cons]; rfl

theorem tableAlias_of_ended (atStart : Bool) {text : List Char}
    (ended : Ended isBreak text) : tableAlias atStart text = none := by
  rw [tableAlias, takeUntil_of_ended ended]
  rfl

theorem tableFor_nil : tableFor wanted [] = none := by
  rw [tableFor, findNamed_nil, tableAlias_of_ended _ (ended_nil _)]
  rfl

/-- No table begins at a character between tokens. -/
theorem tableFor_break {character : Char} (breaks : isBreak character = true)
    (rest : List Char) :
    tableFor wanted (character :: rest) = tableFor wanted rest := by
  rw [tableFor, findNamed_cons, tableAlias_of_ended _ (ended_cons breaks rest)]
  rfl

theorem tableAlias_append (atStart : Bool) {run rest : List Char}
    (nonempty : run ≠ [])
    (unbroken : ∀ character ∈ run, isBreak character = false)
    (ended : Ended isBreak rest) :
    tableAlias atStart (run ++ rest) =
      (nameBehind rest).map fun (name, behind) => ⟨run, name, behind⟩ := by
  rw [tableAlias, takeUntil_append nonempty unbroken ended, nameBehind]
  simp only [Option.bind_eq_bind, Option.bind_some, Option.pure_def]
  cases skipBlanks rest with
  | none => rfl
  | some named =>
      simp only [Option.bind_some]
      cases ((skipAs named).bind (takeUntil isBreak)).or
        (takeUntil isBreak named) <;> rfl

/-- A search takes a token when the wanted name stands behind it, and goes on
behind the token otherwise. -/
theorem tableFor_run {run rest : List Char} (nonempty : run ≠ [])
    (unbroken : ∀ character ∈ run, isBreak character = false)
    (ended : Ended isBreak rest) :
    tableFor wanted (run ++ rest) =
      if (nameBehind rest).any fun (name, behind) =>
          isWanted wanted name behind then
        some run
      else tableFor wanted rest := by
  induction run with
  | nil => exact absurd rfl nonempty
  | cons character run ih =>
      have here := tableAlias_append false nonempty unbroken ended
      rw [List.cons_append] at here ⊢
      rw [tableFor, findNamed_cons, here]
      have later : (findNamed tableAlias wanted Text.isBlank false
          (run ++ rest)).map Found.expression =
          tableFor wanted (run ++ rest) :=
        rfl
      have accepts (name behind : List Char) :
          Found.accepts ⟨character :: run, name, behind⟩ wanted
            Text.isBlank = isWanted wanted name behind :=
        rfl
      -- Within the token the same name stands behind, so it is refused again.
      have refused (none : (nameBehind rest).any (fun (name, behind) =>
          isWanted wanted name behind) = false) :
          tableFor wanted (run ++ rest) = tableFor wanted rest := by
        by_cases single : run = []
        · rw [single, List.nil_append]
        · rw [List.forall_mem_cons] at unbroken
          rw [ih single unbroken.2, none]
          simp
      cases named : nameBehind rest with
      | none =>
          rw [named] at refused
          simpa [later] using refused rfl
      | some pair =>
          obtain ⟨name, behind⟩ := pair
          rw [named] at refused
          cases is : isWanted wanted name behind with
          | true => simp [Option.filter, accepts, is]
          | false =>
              simpa [Option.filter, accepts, is, later] using
                refused (by simp [is])

end Steps

namespace Token

variable {token next : Token} {rest behind : List Char}

theorem tableFor_append (ended : Ended isBreak rest) :
    tableFor wanted (token.characters ++ rest) =
      if (nameBehind rest).any fun (name, behind) =>
          isWanted wanted name behind then
        some token.characters
      else tableFor wanted rest :=
  tableFor_run token.nonempty token.unbroken ended

/-- The last token has no name behind it. -/
theorem tableFor_last : tableFor wanted token.characters = none := by
  have last := @tableFor_append wanted token [] (ended_nil isBreak)
  rw [List.append_nil, tableFor_nil] at last
  exact last

/-- A token at a comma has no name behind it. -/
theorem tableFor_comma (rest : List Char) :
    tableFor wanted (token.characters ++ ',' :: ' ' :: rest) =
      tableFor wanted rest := by
  rw [tableFor_append (ended_cons (by decide) _), tableFor_break (by decide),
    tableFor_break (by decide)]
  rfl

/-- The token is AS in some case of its letters. -/
def isAs (token : Token) : Bool :=
  (skipAs (token.characters ++ [' '])).isSome

theorem isBlank_eq_false (token : Token) :
    ∀ character ∈ token.characters, Text.isBlank character = false := by
  intro character member
  have unbroken := token.unbroken character member
  simp only [isBreak, Bool.or_eq_false_iff] at unbroken
  exact unbroken.1.1.1

/-- AS has two letters. -/
theorem isAs_eq_false_of_length (more : 2 < token.characters.length) :
    token.isAs = false := by
  have plain := token.isBlank_eq_false
  unfold isAs
  match token.characters, more, plain with
  | first :: second :: third :: others, _, plain =>
      have third_plain := plain third (by simp)
      simp [skipAs, skipBlanks, third_plain]

theorem ended_append (token : Token) (rest : List Char) :
    Ended (!isBreak ·) (token.characters ++ rest) := by
  obtain ⟨first, others, shape⟩ := List.exists_cons_of_ne_nil token.nonempty
  have plain := token.unbroken first (by simp [shape])
  rw [shape]
  exact ended_cons (by simp [plain]) _

theorem skipBlanks_cons (token : Token) (rest : List Char) :
    skipBlanks (' ' :: (token.characters ++ rest)) =
      some (token.characters ++ rest) := by
  have begins : Ended (!Text.isBlank ·) (token.characters ++ rest) :=
    (token.ended_append rest).mono fun character plain => by
      simp only [isBreak, Bool.not_or, Bool.and_eq_true] at plain
      exact plain.1.1.1
  exact Gap.skipBlanks_append ⟨⟨[' '], by simp [Text.isBlank]⟩, by simp⟩ begins

theorem takeUntil_append (token : Token) (ended : Ended isBreak rest) :
    takeUntil isBreak (token.characters ++ rest) =
      some (token.characters, rest) :=
  Source.takeUntil_append token.nonempty token.unbroken ended

theorem skipAs_append (notAs : token.isAs = false)
    (ended : Ended isBreak rest) :
    skipAs (token.characters ++ rest) = none := by
  obtain ⟨characters, nonempty, unbroken⟩ := token
  match characters with
  | [] => exact absurd rfl nonempty
  | [first] =>
      cases rest with
      | nil => rfl
      | cons second others =>
          have breaks : isBreak second = true := ended second rfl
          have letters : second ≠ 's' ∧ second ≠ 'S' ∧ second ≠ 'ſ' := by
            refine ⟨?_, ?_, ?_⟩ <;>
            · rintro rfl
              exact absurd breaks (by decide)
          simp [skipAs, letters]
  | [first, second] =>
      have blank : skipBlanks [' '] = some [] := rfl
      simp only [isAs, List.cons_append, List.nil_append, skipAs, blank]
        at notAs
      simp only [List.cons_append, List.nil_append, skipAs]
      split at notAs
      · cases notAs
      · rename_i noLetters
        rw [if_neg noLetters]
  | first :: second :: third :: others =>
      have noBlank := isBlank_eq_false ⟨_, nonempty, unbroken⟩ third (by simp)
      simp [skipAs, skipBlanks, noBlank]

/-- The name behind a token and a blank is the next token. -/
theorem nameBehind_blank (notAs : next.isAs = false)
    (ended : Ended isBreak behind) :
    nameBehind (' ' :: (next.characters ++ behind)) =
      some (next.characters, behind) := by
  rw [nameBehind, skipBlanks_cons, Option.bind_some,
    skipAs_append notAs ended, Option.bind_none, Option.none_or,
    takeUntil_append next ended]

/-- The name behind a token and AS is the token behind AS. -/
theorem nameBehind_as (letters : AsLetters) (ended : Ended isBreak behind) :
    nameBehind (' ' :: (letters.characters ++ ' ' ::
      (next.characters ++ behind))) = some (next.characters, behind) := by
  rw [nameBehind]
  rw [show skipBlanks (' ' :: (letters.characters ++ ' ' ::
    (next.characters ++ behind))) = some (letters.characters ++ ' ' ::
      (next.characters ++ behind)) from skipBlanks_cons letters.word.token _]
  rw [Option.bind_some, letters.skipAs_append, skipBlanks_cons,
    Option.bind_some, takeUntil_append next ended, Option.some_or]

/-- A search goes on at the next token when that one is not called as
wanted. -/
theorem tableFor_blank (notAs : next.isAs = false)
    (other : isCalled wanted next.characters = false)
    (ended : Ended isBreak behind) :
    tableFor wanted (token.characters ++ ' ' :: (next.characters ++ behind)) =
      tableFor wanted (next.characters ++ behind) := by
  rw [tableFor_append (ended_cons (by decide) _),
    nameBehind_blank notAs ended, tableFor_break (by decide)]
  simp [isWanted_of_not_isCalled other]

/-- A table is taken when its alias is wanted. -/
theorem tableFor_alias (notAs : next.isAs = false)
    (ended : Ended isBreak behind) :
    tableFor wanted (token.characters ++ ' ' :: (next.characters ++ behind)) =
      if isWanted wanted next.characters behind then some token.characters
      else tableFor wanted (next.characters ++ behind) := by
  rw [tableFor_append (ended_cons (by decide) _),
    nameBehind_blank notAs ended, tableFor_break (by decide)]
  simp

theorem tableFor_as (letters : AsLetters) (notAs : next.isAs = false)
    (ended : Ended isBreak behind) :
    tableFor wanted (token.characters ++ ' ' :: (letters.characters ++ ' ' ::
        (next.characters ++ behind))) =
      if isWanted wanted next.characters behind then some token.characters
      else tableFor wanted (next.characters ++ behind) := by
  rw [tableFor_append (ended_cons (by decide) _), nameBehind_as letters ended,
    tableFor_break (by decide)]
  have behindAs :=
    @tableFor_alias wanted letters.word.token next behind notAs ended
  change tableFor wanted (letters.characters ++ _) = _ at behindAs
  rw [behindAs]
  cases is : isWanted wanted next.characters behind <;> simp [is]

end Token

end DataGrid.Source
