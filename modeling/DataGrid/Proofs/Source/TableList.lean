import DataGrid.Proofs.Source.Tokens
import DataGrid.Proofs.Sql.Like
import Mathlib.Data.List.Nodup

/-!
# FROM clauses of several tables

A FROM clause lists tables with aliases, each behind a comma or joined under a
condition.  A search for an alias finds its table unless a comma stands directly
behind the alias: only white space and the end of the clause end a name there.
-/

namespace DataGrid

namespace Text

theorem continuesIdentifier_toLower (character : Char) :
    continuesIdentifier character.toLower = continuesIdentifier character := by
  rw [Bool.eq_iff_iff, continuesIdentifier_iff, continuesIdentifier_iff,
    Sql.toNat_toLower]
  split <;> omega

/-- A text with the letters of a word is a word. -/
theorem continuesIdentifier_of_sameLetters {text word : String}
    (same : sameLetters text word = true)
    (plain : ∀ character ∈ word.toList, continuesIdentifier character = true) :
    ∀ character ∈ text.toList, continuesIdentifier character = true := by
  intro character member
  have letters : text.toList.map Char.toLower =
      word.toList.map Char.toLower :=
    String.ofList_injective (beq_iff_eq.mp same)
  have lowered : character.toLower ∈ word.toList.map Char.toLower :=
    letters ▸ List.mem_map_of_mem member
  obtain ⟨other, otherMember, lower_eq⟩ := List.mem_map.mp lowered
  rw [← continuesIdentifier_toLower, ← lower_eq, continuesIdentifier_toLower]
  exact plain other otherMember

end Text

namespace Source

/-- The words with a meaning of their own in a FROM clause. -/
def Word.isReserved (word : Word) : Bool :=
  ("as" :: fromKeywords).contains (Text.lower word.text)

/-- A table with an alias, with or without AS; the table may stand in
braces. -/
structure TableItem where
  table : Word
  braced : Bool
  as? : Option AsLetters
  name : Word

/-- An equation of two qualified columns. -/
structure JoinCondition where
  left : Word
  leftColumn : Word
  right : Word
  rightColumn : Word

/-- How a table follows the one in front of it. -/
inductive Link
  | comma
  | join (condition : JoinCondition)

/-- A FROM clause of some tables. -/
structure TableList where
  first : TableItem
  others : List (Link × TableItem)

/-- A word of given letters. -/
def Word.ofLetters (letters : List Char) (nonempty : letters ≠ [])
    (plain : letters.all Text.continuesIdentifier = true) : Word :=
  ⟨letters, nonempty, List.all_eq_true.mp plain⟩

def joinWord : Word :=
  .ofLetters ['J', 'O', 'I', 'N'] (by decide) (by decide)

def onWord : Word :=
  .ofLetters ['O', 'N'] (by decide) (by decide)

def equals : Token where
  characters := ['=']
  nonempty := by decide
  unbroken character member := by
    rw [List.mem_singleton.mp member]
    rfl

/-- A word in braces. -/
def bracedToken (word : Word) : Token where
  characters := '\x7b' :: (word.characters ++ ['\x7d'])
  nonempty := by simp
  unbroken := by
    have open_ : isBreak '\x7b' = false := by decide
    have close : isBreak '\x7d' = false := by decide
    simpa [or_imp, forall_and, open_, close] using word.isBreak_eq_false

/-- A column with its qualifier. -/
def qualifiedToken (qualifier column : Word) : Token where
  characters := qualifier.characters ++ '.' :: column.characters
  nonempty := by simp
  unbroken := by
    have point : isBreak '.' = false := by decide
    simpa [or_imp, forall_and, point] using
      ⟨qualifier.isBreak_eq_false, column.isBreak_eq_false⟩

namespace TableItem

def token (item : TableItem) : Token :=
  if item.braced then bracedToken item.table else item.table.token

def asCharacters (item : TableItem) : List Char :=
  (item.as?.map fun letters => letters.characters ++ [' ']).getD []

def characters (item : TableItem) : List Char :=
  item.token.characters ++ ' ' :: (item.asCharacters ++ item.name.characters)

end TableItem

/-- The text ` ON left.column = right.column`. -/
def JoinCondition.characters (condition : JoinCondition) : List Char :=
  ' ' :: (onWord.characters ++ ' ' ::
    ((qualifiedToken condition.left condition.leftColumn).characters ++
      ' ' :: (equals.characters ++ ' ' ::
        (qualifiedToken condition.right condition.rightColumn).characters)))

/-- The text of the tables behind the first one. -/
def followingCharacters : List (Link × TableItem) → List Char
  | [] => []
  | (.comma, item) :: rest =>
      ',' :: ' ' :: (item.characters ++ followingCharacters rest)
  | (.join condition, item) :: rest =>
      ' ' :: (joinWord.characters ++ ' ' :: (item.characters ++
        (condition.characters ++ followingCharacters rest)))

/-- The tables go on with a comma. -/
def atLink : List (Link × TableItem) → Bool
  | (.comma, _) :: _ => true
  | _ => false

/-- Tables with whether a comma stands directly behind their aliases.  Behind
the alias of a joined table stands its condition. -/
def placedFollowing : List (Link × TableItem) → List (TableItem × Bool)
  | [] => []
  | (.comma, item) :: rest => (item, atLink rest) :: placedFollowing rest
  | (.join _, item) :: rest => (item, false) :: placedFollowing rest

namespace TableList

def text (clause : TableList) : String :=
  String.ofList (clause.first.characters ++ followingCharacters clause.others)

def placed (clause : TableList) : List (TableItem × Bool) :=
  (clause.first, atLink clause.others) :: placedFollowing clause.others

def items (clause : TableList) : List TableItem :=
  clause.placed.map Prod.fst

end TableList

/-- A text that an alias may be asked for by: a word that is not reserved. -/
structure IsName (wanted : String) : Prop where
  plain : ∀ character ∈ wanted.toList,
    Text.continuesIdentifier character = true
  unreserved : ("as" :: fromKeywords).contains (Text.lower wanted) = false

section Names

variable {wanted : String}

theorem IsName.of_sameLetters {word : Word}
    (unreserved : word.isReserved = false)
    (same : Text.sameLetters word.text wanted = true) : IsName wanted where
  plain := by
    have swapped : Text.sameLetters wanted word.text = true := by
      rw [Text.sameLetters, beq_iff_eq] at same ⊢
      exact same.symm
    exact Text.continuesIdentifier_of_sameLetters swapped
      (by simpa [Word.text] using word.plain)
  unreserved := by
    rw [← beq_iff_eq.mp same]
    exact unreserved

theorem IsName.not_isCalled_of_mem (isName : IsName wanted) {name : List Char}
    {character : Char} (member : character ∈ name)
    (odd : Text.continuesIdentifier character = false) :
    isCalled wanted name = false := by
  rw [Bool.eq_false_iff]
  intro called
  have plain := Text.continuesIdentifier_of_sameLetters called isName.plain
    character (by simpa using member)
  rw [odd] at plain
  cases plain

theorem IsName.not_isCalled_of_isReserved (isName : IsName wanted) {word : Word}
    (reserved : word.isReserved = true) :
    isCalled wanted word.characters = false := by
  rw [Bool.eq_false_iff]
  intro called
  have unreserved := isName.unreserved
  rw [← beq_iff_eq.mp called] at unreserved
  change word.isReserved = false at unreserved
  rw [reserved] at unreserved
  cases unreserved

theorem skipAs_pair {first second : Char}
    (skips : (skipAs [first, second, ' ']).isSome = true) :
    (first = 'a' ∨ first = 'A') ∧
      (second = 's' ∨ second = 'S' ∨ second = 'ſ') := by
  rw [skipAs] at skips
  split at skips
  · rename_i letters
    simpa [or_assoc] using letters
  · cases skips

/-- A word that is not reserved is not AS. -/
theorem Word.isAs_token {word : Word} (unreserved : word.isReserved = false) :
    word.token.isAs = false := by
  by_cases more : 2 < word.characters.length
  · exact Token.isAs_eq_false_of_length more
  rw [Bool.eq_false_iff]
  intro as_
  obtain ⟨characters, nonempty, plain⟩ := word
  rcases characters with _ | ⟨first, _ | ⟨second, _ | ⟨third, others⟩⟩⟩
  · exact nonempty rfl
  · change (skipAs [first, ' ']).isSome = true at as_
    simp [skipAs] at as_
  · obtain ⟨isA, isS⟩ := skipAs_pair as_
    have noLong : second ≠ 'ſ' := by
      rintro rfl
      exact absurd (plain 'ſ' (by simp)) (by decide)
    simp only [noLong, or_false] at isS
    change ("as" :: fromKeywords).contains
      (Text.lower (String.ofList [first, second])) = false at unreserved
    obtain rfl | rfl := isA <;> obtain rfl | rfl := isS <;>
      exact absurd unreserved (by decide +kernel)
  · exact more (by simp)

theorem isAs_bracedToken (word : Word) : (bracedToken word).isAs = false :=
  Token.isAs_eq_false_of_length (by
    have nonempty := List.length_pos_iff.mpr word.nonempty
    simp only [bracedToken, List.length_cons, List.length_append,
      List.length_nil]
    omega)

theorem isAs_qualifiedToken (qualifier column : Word) :
    (qualifiedToken qualifier column).isAs = false :=
  Token.isAs_eq_false_of_length (by
    have nonempty := List.length_pos_iff.mpr qualifier.nonempty
    have columnNonempty := List.length_pos_iff.mpr column.nonempty
    simp only [qualifiedToken, List.length_cons, List.length_append]
    omega)

variable (isName : IsName wanted)

include isName in
theorem IsName.not_isCalled_bracedToken (word : Word) :
    isCalled wanted (bracedToken word).characters = false :=
  isName.not_isCalled_of_mem List.mem_cons_self (by decide)

include isName in
theorem IsName.not_isCalled_qualifiedToken (qualifier column : Word) :
    isCalled wanted (qualifiedToken qualifier column).characters = false :=
  isName.not_isCalled_of_mem (List.mem_append_right _ List.mem_cons_self)
    (by decide)

include isName in
/-- Within a join condition nothing is found. -/
theorem IsName.tableFor_condition (condition : JoinCondition) (token : Token)
    {rest : List Char} (ended : Ended isBreak rest) :
    tableFor wanted (token.characters ++ (condition.characters ++ rest)) =
      tableFor wanted
        ((qualifiedToken condition.right condition.rightColumn).characters ++
          rest) := by
  have blank (text : List Char) : Ended isBreak (' ' :: text) :=
    ended_cons (by decide) text
  have on_ : isCalled wanted onWord.token.characters = false :=
    isName.not_isCalled_of_isReserved (by decide +kernel)
  have equals_ : isCalled wanted equals.characters = false :=
    isName.not_isCalled_of_mem List.mem_cons_self (by decide)
  simp only [JoinCondition.characters, List.cons_append, List.append_assoc]
  refine (Token.tableFor_blank (show onWord.token.isAs = false from rfl)
    on_ (blank _)).trans ?_
  rw [Token.tableFor_blank (isAs_qualifiedToken _ _)
      (isName.not_isCalled_qualifiedToken _ _) (blank _),
    Token.tableFor_blank rfl equals_ (blank _),
    Token.tableFor_blank (isAs_qualifiedToken _ _)
      (isName.not_isCalled_qualifiedToken _ _) ended]

/-- A table is found when its alias is wanted and may end there, and what stands
behind the alias otherwise. -/
theorem TableItem.tableFor_characters (item : TableItem)
    (unreserved : item.name.isReserved = false) {behind : List Char}
    (ended : Ended isBreak behind) :
    tableFor wanted (item.characters ++ behind) =
      if isWanted wanted item.name.characters behind then
        some item.token.characters
      else tableFor wanted (item.name.characters ++ behind) := by
  have notAs := Word.isAs_token unreserved
  simp only [characters, asCharacters, List.cons_append, List.append_assoc]
  cases item.as? with
  | none => exact Token.tableFor_alias notAs ended
  | some letters =>
      simp only [Option.map_some, Option.getD_some, List.append_assoc,
        List.singleton_append]
      exact Token.tableFor_as letters notAs ended

end Names

/-- A table that is listed has an alias of its own: neither is reserved, and
the table does not go by the wanted name. -/
structure TableItem.Apart (wanted : String) (item : TableItem) : Prop where
  name : item.name.isReserved = false
  table : item.table.isReserved = false
  apart : isCalled wanted item.table.characters = false

section Lists

variable {wanted : String}

theorem ended_followingCharacters (others : List (Link × TableItem)) :
    Ended isBreak (followingCharacters others) := by
  match others with
  | [] => exact ended_nil _
  | (.comma, item) :: rest => exact ended_cons (by decide) _
  | (.join condition, item) :: rest => exact ended_cons (by decide) _

/-- An alias ends where no comma follows. -/
theorem isWanted_followingCharacters (name : List Char)
    (others : List (Link × TableItem)) :
    isWanted wanted name (followingCharacters others) =
      (!atLink others && isCalled wanted name) := by
  match others with
  | [] => rfl
  | (.comma, item) :: rest => rfl
  | (.join condition, item) :: rest => rfl

theorem JoinCondition.ended_append (condition : JoinCondition)
    (rest : List Char) : Ended isBreak (condition.characters ++ rest) :=
  ended_cons (by decide) _

theorem JoinCondition.isWanted_append (condition : JoinCondition)
    (name rest : List Char) :
    isWanted wanted name (condition.characters ++ rest) =
      isCalled wanted name :=
  rfl

theorem TableItem.isAs_token {item : TableItem}
    (unreserved : item.table.isReserved = false) :
    item.token.isAs = false := by
  unfold token
  split
  · exact isAs_bracedToken _
  · exact Word.isAs_token unreserved

theorem TableItem.not_isCalled_token {item : TableItem}
    (isName : IsName wanted)
    (apart : isCalled wanted item.table.characters = false) :
    isCalled wanted item.token.characters = false := by
  unfold token
  split
  · exact isName.not_isCalled_bracedToken _
  · exact apart

/-- A search goes on at a table that does not go by the wanted name. -/
theorem TableItem.tableFor_blank (item : TableItem) (isName : IsName wanted)
    (apart : item.Apart wanted) {token : Token} {behind : List Char} :
    tableFor wanted (token.characters ++ ' ' :: (item.characters ++ behind)) =
      tableFor wanted (item.characters ++ behind) := by
  simp only [characters, List.append_assoc, List.cons_append]
  exact Token.tableFor_blank (isAs_token apart.table)
    (not_isCalled_token isName apart.apart) (ended_cons (by decide) _)

/-- The alias of a listed table is the wanted one, and it may end where it
does. -/
def isFound (wanted : String) (entry : TableItem × Bool) : Bool :=
  !entry.2 && isCalled wanted entry.1.name.characters

/-- Among the tables behind a token, the first one is found whose alias is
wanted and has no comma directly behind it. -/
theorem tableFor_followingCharacters (isName : IsName wanted)
    (others : List (Link × TableItem))
    (apart : ∀ entry ∈ placedFollowing others, entry.1.Apart wanted)
    (token : Token) :
    tableFor wanted (token.characters ++ followingCharacters others) =
      ((placedFollowing others).find? (isFound wanted)).map
        (·.1.token.characters) := by
  induction others generalizing token with
  | nil =>
      rw [followingCharacters, List.append_nil, Token.tableFor_last]
      rfl
  | cons linked rest ih =>
      obtain ⟨link, item⟩ := linked
      have ended := ended_followingCharacters rest
      cases link with
      | comma =>
          rw [placedFollowing, List.forall_mem_cons] at apart
          obtain ⟨here, later⟩ := apart
          rw [followingCharacters, placedFollowing, Token.tableFor_comma,
            item.tableFor_characters here.name ended,
            isWanted_followingCharacters, List.find?_cons]
          have goesOn := ih later item.name.token
          change tableFor wanted (item.name.characters ++ _) = _ at goesOn
          rw [goesOn]
          cases found : !atLink rest && isCalled wanted item.name.characters <;>
            simp [isFound, found]
      | join condition =>
          rw [placedFollowing, List.forall_mem_cons] at apart
          obtain ⟨here, later⟩ := apart
          have join_ : isCalled wanted joinWord.token.characters = false :=
            isName.not_isCalled_of_isReserved (by decide +kernel)
          have onward := ih later
            (qualifiedToken condition.right condition.rightColumn)
          rw [followingCharacters, placedFollowing, List.find?_cons]
          refine (Token.tableFor_blank
            (show joinWord.token.isAs = false from rfl) join_
            (ended_cons (by decide) _)).trans ?_
          refine (item.tableFor_blank isName here).trans ?_
          rw [item.tableFor_characters here.name
            (condition.ended_append _), condition.isWanted_append]
          have atName := isName.tableFor_condition condition item.name.token
            ended
          change tableFor wanted (item.name.characters ++ _) = _ at atName
          rw [atName, onward]
          cases found : isCalled wanted item.name.characters <;>
            simp [isFound, found]

theorem TableList.tableFor_text (clause : TableList) (isName : IsName wanted)
    (apart : ∀ entry ∈ clause.placed, entry.1.Apart wanted) :
    tableFor wanted clause.text.toList =
      (clause.placed.find? (isFound wanted)).map (·.1.token.characters) := by
  rw [placed, List.forall_mem_cons] at apart
  obtain ⟨here, later⟩ := apart
  have onward := tableFor_followingCharacters isName clause.others later
    clause.first.name.token
  change tableFor wanted (clause.first.name.characters ++ _) = _ at onward
  rw [text, String.toList_ofList, placed, List.find?_cons,
    clause.first.tableFor_characters here.name (ended_followingCharacters _),
    isWanted_followingCharacters, onward]
  cases found : !atLink clause.others &&
      isCalled wanted clause.first.name.characters <;>
    simp [isFound, found]

end Lists

section Braces

def isBrace (character : Char) : Bool :=
  character == '\x7b' || character == '\x7d'

theorem dropWhile_isBrace {name : List Char} (nonempty : name ≠ [])
    (plain : ∀ character ∈ name, Text.continuesIdentifier character = true)
    (rest : List Char) :
    (name ++ rest).dropWhile isBrace = name ++ rest := by
  obtain ⟨first, others, rfl⟩ := List.exists_cons_of_ne_nil nonempty
  have noBrace : isBrace first = false := by
    rw [Bool.eq_false_iff]
    intro brace
    have first_plain := plain first List.mem_cons_self
    simp only [isBrace, Bool.or_eq_true, beq_iff_eq] at brace
    obtain rfl | rfl := brace <;> exact absurd first_plain (by decide)
  rw [List.cons_append, List.dropWhile_cons_of_neg (by simp [noBrace])]

theorem stripBraces_eq (name : List Char) :
    stripBraces name =
      ((name.dropWhile isBrace).reverse.dropWhile isBrace).reverse :=
  rfl

theorem stripBraces_of_plain {name : List Char}
    (plain : ∀ character ∈ name, Text.continuesIdentifier character = true) :
    stripBraces name = name := by
  by_cases nonempty : name = []
  · rw [nonempty]
    rfl
  have front := dropWhile_isBrace nonempty plain []
  have back := dropWhile_isBrace (show name.reverse ≠ [] by simpa)
    (by simpa) []
  rw [List.append_nil] at front back
  rw [stripBraces_eq, front, back, List.reverse_reverse]

theorem stripBraces_bracedToken (word : Word) :
    stripBraces (bracedToken word).characters = word.characters := by
  have front := dropWhile_isBrace word.nonempty word.plain ['\x7d']
  have back := dropWhile_isBrace
    (show word.characters.reverse ≠ [] by simpa using word.nonempty)
    (by simpa using word.plain) []
  rw [List.append_nil] at back
  rw [stripBraces_eq, bracedToken, List.dropWhile_cons_of_pos (by decide),
    front, List.reverse_append, List.reverse_singleton, List.singleton_append,
    List.dropWhile_cons_of_pos (by decide), back, List.reverse_reverse]

/-- A table is read without its braces. -/
theorem TableItem.stripBraces_token (item : TableItem) :
    stripBraces item.token.characters = item.table.characters := by
  unfold token
  split
  · exact stripBraces_bracedToken _
  · exact stripBraces_of_plain item.table.plain

end Braces

/-- No table and no alias of a clause is reserved, no two aliases have the same
letters, and no alias has those of a table. -/
structure TableList.Plain (clause : TableList) : Prop where
  tables : ∀ item ∈ clause.items, item.table.isReserved = false
  names : ∀ item ∈ clause.items, item.name.isReserved = false
  distinct : (clause.items.map (Text.lower ·.name.text)).Nodup
  apart : ∀ item ∈ clause.items, ∀ other ∈ clause.items,
    Text.lower other.table.text ≠ Text.lower item.name.text

namespace TableList

variable {clause : TableList} {item : TableItem} {followed : Bool}
  {qualifier : String}

theorem mem_items (listed : (item, followed) ∈ clause.placed) :
    item ∈ clause.items :=
  List.mem_map_of_mem listed

/-- Of the aliases only one is called as wanted. -/
theorem Plain.eq_of_called (plain : clause.Plain)
    {entry : TableItem × Bool} (listed : (item, followed) ∈ clause.placed)
    (called : Text.sameLetters item.name.text qualifier = true)
    (entryListed : entry ∈ clause.placed)
    (found : isFound qualifier entry = true) :
    entry = (item, followed) := by
  have distinct := plain.distinct
  rw [items, List.map_map] at distinct
  refine List.inj_on_of_nodup_map distinct entryListed listed ?_
  have entryCalled : Text.sameLetters entry.1.name.text qualifier = true :=
    (Bool.and_eq_true_iff.mp found).2
  exact (beq_iff_eq.mp entryCalled).trans (beq_iff_eq.mp called).symm

theorem Plain.find?_placed (plain : clause.Plain)
    (listed : (item, followed) ∈ clause.placed)
    (called : Text.sameLetters item.name.text qualifier = true) :
    clause.placed.find? (isFound qualifier) =
      if followed then none else some (item, followed) := by
  have only : ∀ entry ∈ clause.placed, isFound qualifier entry = true →
      entry = (item, followed) :=
    fun entry entryListed => plain.eq_of_called listed called entryListed
  have itself : isFound qualifier (item, followed) = !followed := by
    change (!followed && Text.sameLetters item.name.text qualifier) = _
    rw [called, Bool.and_true]
  cases followed with
  | true =>
      rw [if_pos rfl, List.find?_eq_none]
      intro entry entryListed found
      have same := only entry entryListed found
      rw [same, itself] at found
      cases found
  | false =>
      rw [if_neg (by decide)]
      cases search : clause.placed.find? (isFound qualifier) with
      | none =>
          have refused := List.find?_eq_none.mp search _ listed
          rw [itself] at refused
          exact absurd rfl refused
      | some entry =>
          rw [only entry (List.mem_of_find?_eq_some search)
            (List.find?_some search)]

theorem Plain.apart_of_called (plain : clause.Plain)
    (listed : item ∈ clause.items)
    (called : Text.sameLetters item.name.text qualifier = true) :
    ∀ entry ∈ clause.placed, entry.1.Apart qualifier := by
  intro entry entryListed
  have entryItem : entry.1 ∈ clause.items := mem_items entryListed
  refine ⟨plain.names _ entryItem, plain.tables _ entryItem, ?_⟩
  rw [Bool.eq_false_iff]
  intro tableCalled
  refine plain.apart item listed entry.1 entryItem ?_
  exact (beq_iff_eq.mp tableCalled).trans (beq_iff_eq.mp called).symm

theorem tableOf_eq (source : Source) (clause : TableList)
    (qualifier : String) :
    { source with from_ := clause.text }.tableOf qualifier =
      String.ofList (stripBraces
        ((tableFor qualifier clause.text.toList).getD qualifier.toList)) := by
  rw [tableOf, tableFor, findNamed_tableAlias_atStart]

/-- An alias leads to its table exactly when no comma stands directly behind it
in the clause.  Otherwise it is taken for a table itself. -/
theorem tableOf_listed (source : Source) (plain : clause.Plain)
    (listed : (item, followed) ∈ clause.placed)
    (called : Text.sameLetters item.name.text qualifier = true) :
    ({ source with from_ := clause.text }.tableOf qualifier =
      if followed then qualifier else item.table.text) ∧
    ({ source with from_ := clause.text }.tableOf qualifier =
      item.table.text ↔ followed = false) := by
  have isName : IsName qualifier :=
    IsName.of_sameLetters (plain.names item (mem_items listed)) called
  have leads : { source with from_ := clause.text }.tableOf qualifier =
      if followed then qualifier else item.table.text := by
    rw [tableOf_eq, clause.tableFor_text isName
      (plain.apart_of_called (mem_items listed) called),
      plain.find?_placed listed called]
    cases followed with
    | true =>
        simp only [if_true, Option.map_none, Option.getD_none]
        rw [stripBraces_of_plain isName.plain, String.ofList_toList]
    | false =>
        simp only [Bool.false_eq_true, if_false, Option.map_some,
          Option.getD_some]
        rw [item.stripBraces_token]
        rfl
  have other : qualifier ≠ item.table.text := by
    intro same
    refine plain.apart item (mem_items listed) item (mem_items listed) ?_
    rw [← same]
    exact (beq_iff_eq.mp called).symm
  refine ⟨leads, ?_⟩
  rw [leads]
  cases followed <;> simp [other]

/-- The clause `log l, {users} AS u JOIN teams t ON t.id = u.team`. -/
def ofLog : TableList where
  first := ⟨.ofLetters ['l', 'o', 'g'] (by decide) (by decide), false, none,
    .ofLetters ['l'] (by decide) (by decide)⟩
  others :=
    [(.comma,
      ⟨.ofLetters ['u', 's', 'e', 'r', 's'] (by decide) (by decide), true,
        some ⟨'A', 'S', by decide, by decide⟩,
        .ofLetters ['u'] (by decide) (by decide)⟩),
      (.join ⟨.ofLetters ['t'] (by decide) (by decide),
          .ofLetters ['i', 'd'] (by decide) (by decide),
          .ofLetters ['u'] (by decide) (by decide),
          .ofLetters ['t', 'e', 'a', 'm'] (by decide) (by decide)⟩,
        ⟨.ofLetters ['t', 'e', 'a', 'm', 's'] (by decide) (by decide), false,
          none, .ofLetters ['t'] (by decide) (by decide)⟩)]

example :
    ofLog.text =
      "log l, \x7busers\x7d AS u JOIN teams t ON t.id = u.team" := by
  decide +kernel

theorem plain_ofLog : ofLog.Plain where
  tables := by decide +kernel
  names := by decide +kernel
  distinct := by decide +kernel
  apart := by decide +kernel

def logSource : Source :=
  .ofClauses "*" ofLog.text "" (.positional [])

/-- In this clause `U` leads to the users, and `l` does not lead to the log. -/
theorem tableOf_logSource :
    ofLog.Plain ∧ logSource.tableOf "U" = "users" ∧
      logSource.tableOf "l" = "l" := by
  have users : ofLog.placed[1] ∈ ofLog.placed := List.getElem_mem _
  have capital : Text.sameLetters ofLog.placed[1].1.name.text "U" = true := by
    decide +kernel
  have small : Text.sameLetters ofLog.first.name.text "l" = true := by
    decide +kernel
  exact ⟨plain_ofLog, (tableOf_listed logSource plain_ofLog users capital).1,
    (tableOf_listed logSource plain_ofLog List.mem_cons_self small).1⟩

/-- Not every alias leads to its table. -/
theorem not_forall_tableOf :
    ¬ ∀ (source : Source) (clause : TableList) (item : TableItem)
        (qualifier : String), clause.Plain → item ∈ clause.items →
      Text.sameLetters item.name.text qualifier = true →
      { source with from_ := clause.text }.tableOf qualifier =
        item.table.text := by
  intro every
  have log := every logSource ofLog ofLog.first "l" plain_ofLog
    List.mem_cons_self (by decide +kernel)
  exact absurd log (by decide +kernel)

end TableList

end Source

end DataGrid
