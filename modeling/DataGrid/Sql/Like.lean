/-!
# Patterns of LIKE

A pattern is text in which a percent sign stands for any run of characters and
an underscore for any one character, unless the escape character stands before
them.
-/

namespace DataGrid.Sql.Like

/-- What one place of a pattern stands for. -/
inductive Item
  | literal (character : Char)
  | one
  | many
deriving DecidableEq, Repr

/-- Read a pattern.  An escape character with nothing behind it spoils the
pattern, which then matches no text. -/
def read (escape : Option Char) : List Char → Option (List Item)
  | [] => some []
  | character :: rest =>
      if some character = escape then
        match rest with
        | [] => none
        | escaped :: rest => (read escape rest).map (.literal escaped :: ·)
      else
        let item : Item :=
          if character = '%' then .many
          else if character = '_' then .one
          else .literal character
        (read escape rest).map (item :: ·)

/-- A text is matched from end to end. -/
def accepts : List Item → List Char → Bool
  | [], [] => true
  | [], _ :: _ => false
  | .many :: items, [] => accepts items []
  | .many :: items, character :: rest =>
      accepts items (character :: rest) || accepts (.many :: items) rest
  | .one :: items, _ :: rest => accepts items rest
  | .literal wanted :: items, character :: rest =>
      wanted == character && accepts items rest
  | _ :: _, [] => false
termination_by items text => items.length + text.length

/-- The truth of "here or further on" at each place. -/
def anyBehind : List Bool → List Bool
  | [] => []
  | here :: rest =>
      let later := anyBehind rest
      (here || later.headD false) :: later

/-- Whether items accept the rest of a text, at each of its places from the
front to the end.  Every item looks at every place once, however many runs the
pattern leaves open. -/
def acceptsAt : List Item → List Char → List Bool
  | [], text => text.map (fun _ => false) ++ [true]
  | .many :: items, text => anyBehind (acceptsAt items text)
  | .one :: items, text => (acceptsAt items text).tail ++ [false]
  | .literal wanted :: items, text =>
      List.zipWith (fun character behind => wanted == character && behind)
        text (acceptsAt items text).tail ++ [false]

/-- The rests of a text at its places. -/
def rests : List Char → List (List Char)
  | [] => [[]]
  | character :: text => (character :: text) :: rests text

theorem rests_eq_cons (text : List Char) :
    rests text = text :: (rests text).tail := by
  cases text <;> rfl

theorem map_accepts_nil (text : List Char) :
    (rests text).map (accepts []) = text.map (fun _ => false) ++ [true] := by
  induction text with
  | nil => simp [rests, accepts]
  | cons character text ih => simp [rests, accepts, ih]

theorem map_accepts_many (items : List Item) (text : List Char) :
    (rests text).map (accepts (.many :: items)) =
      anyBehind ((rests text).map (accepts items)) := by
  induction text with
  | nil => simp [rests, anyBehind, accepts]
  | cons character text ih =>
      simp only [rests, List.map_cons, anyBehind, ← ih, accepts]
      rw [rests_eq_cons text]
      simp

theorem map_accepts_one (items : List Item) (text : List Char) :
    (rests text).map (accepts (.one :: items)) =
      ((rests text).map (accepts items)).tail ++ [false] := by
  induction text with
  | nil => simp [rests, accepts]
  | cons character text ih =>
      simp only [rests, List.map_cons, ih, accepts, List.tail_cons]
      rw [rests_eq_cons text]
      simp

theorem map_accepts_literal (wanted : Char) (items : List Item)
    (text : List Char) :
    (rests text).map (accepts (.literal wanted :: items)) =
      List.zipWith (fun character behind => wanted == character && behind)
        text ((rests text).map (accepts items)).tail ++ [false] := by
  induction text with
  | nil => simp [rests, accepts]
  | cons character text ih =>
      simp only [rests, List.map_cons, ih, accepts, List.tail_cons]
      rw [rests_eq_cons text]
      simp

/-- At every place stands whether the items accept the rest from there. -/
theorem acceptsAt_eq (items : List Item) (text : List Char) :
    acceptsAt items text = (rests text).map (accepts items) := by
  induction items with
  | nil => rw [map_accepts_nil, acceptsAt]
  | cons item items ih =>
      cases item with
      | many => rw [map_accepts_many, acceptsAt, ih]
      | one => rw [map_accepts_one, acceptsAt, ih]
      | literal wanted => rw [map_accepts_literal, acceptsAt, ih]

/-- A text matches a pattern. -/
def isMatch (escape : Option Char) (pattern text : List Char) : Bool :=
  match read escape pattern with
  | some items => (acceptsAt items text).headD false
  | none => false

/-- A text matches when the items of its pattern accept it. -/
theorem isMatch_eq (escape : Option Char) (pattern text : List Char) :
    isMatch escape pattern text =
      ((read escape pattern).map (accepts · text)).getD false := by
  unfold isMatch
  cases read escape pattern with
  | none => rfl
  | some items =>
      simp only [acceptsAt_eq, Option.map_some, Option.getD_some]
      rw [rests_eq_cons text]
      rfl

end DataGrid.Sql.Like
