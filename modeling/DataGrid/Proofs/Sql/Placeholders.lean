import DataGrid.Proofs.Sql.Fragment
import DataGrid.Text.Blank
import Mathlib.Data.List.Nodup
import Mathlib.Data.List.Zip

/-!
# Placeholders and values

The text of a fragment is cut at its values: an opening, and after each value
the text up to the next one.  Whatever placeholders are put at the cuts, the
pieces in between stay the same, so that a statement differs from one binding
style to the other in its placeholders only.
-/

namespace DataGrid.Sql

/-- A text with placeholders in it, each followed by the text behind it. -/
def spliced (opening : String) : List (String × String) → String
  | [] => opening
  | (placeholder, text) :: rest => opening ++ placeholder ++ spliced text rest

theorem append_spliced (text opening : String)
    (parts : List (String × String)) :
    text ++ spliced opening parts = spliced (text ++ opening) parts := by
  cases parts with
  | nil => rfl
  | cons part rest => simp [spliced, String.append_assoc]

def numberedNames (stem : String) (count : Nat) : List String :=
  (List.range count).map (placeholderName stem)

@[simp]
theorem length_numberedNames (stem : String) (count : Nat) :
    (numberedNames stem count).length = count := by
  simp [numberedNames]

/-- The number of a value can be read off its name. -/
theorem placeholderName_injective (stem : String) :
    Function.Injective (placeholderName stem) := by
  intro first second equal
  have characters := congrArg String.toList equal
  have digits : Nat.toDigits 10 first = Nat.toDigits 10 second := by
    simpa [placeholderName] using characters
  have numbers := congrArg (fun digits => Nat.ofDigitChars 10 digits 0) digits
  simpa using numbers

theorem nodup_numberedNames (stem : String) (count : Nat) :
    (numberedNames stem count).Nodup :=
  List.nodup_range.map (placeholderName_injective stem)

/-- Stems that begin with different characters give different names. -/
theorem disjoint_numberedNames {stem other : String} {first second : Char}
    (stem_head : stem.toList.head? = some first)
    (other_head : other.toList.head? = some second) (differ : first ≠ second)
    (count otherCount : Nat) :
    (numberedNames stem count).Disjoint (numberedNames other otherCount) := by
  intro name named otherNamed
  obtain ⟨number, -, rfl⟩ := List.mem_map.mp named
  obtain ⟨otherNumber, -, equal⟩ := List.mem_map.mp otherNamed
  have heads := congrArg (fun name => name.toList.head?) equal
  simp only [placeholderName, String.toList_append, List.append_assoc,
    List.head?_append, stem_head, other_head, Option.some_or,
    Option.some.injEq] at heads
  exact differ heads.symm

/-- Two statements are one statement in the two binding styles: its texts have
question marks between them in the first, and names in the second, and in both
the values are bound in the order of their placeholders. -/
def AgreeInStyles (names : List String) (values : List Value)
    (positional named : Statement) : Prop :=
  names.length = values.length ∧
    ∃ opening texts, texts.length = values.length ∧
      positional.sql = spliced opening (texts.map ("?", ·)) ∧
      positional.params = .positional values ∧
      named.sql = spliced opening ((names.map (":" ++ ·)).zip texts) ∧
      named.params = .named (names.zip values)

namespace Fragment

@[simp]
theorem values_nil : values [] = [] :=
  rfl

@[simp]
theorem values_text (text : String) (rest : Fragment) :
    values (.text text :: rest) = values rest :=
  rfl

@[simp]
theorem values_value (value : Value) (rest : Fragment) :
    values (.value value :: rest) = value :: values rest :=
  rfl

@[simp]
theorem values_append (first second : Fragment) :
    values (first ++ second) = first.values ++ second.values :=
  List.filterMap_append ..

@[simp]
theorem values_between (opening : String) (fragment : Fragment)
    (closing : String) :
    (fragment.between opening closing).values = fragment.values := by
  simp [between]

theorem values_join (separator : String) (fragments : List Fragment) :
    (join separator fragments).values = fragments.flatMap values := by
  induction fragments with
  | nil => rfl
  | cons fragment rest ih =>
      cases rest with
      | nil => simp [join]
      | cons next rest =>
          have joined : join separator (fragment :: next :: rest) =
              fragment ++ .text separator ::
                join separator (next :: rest) :=
            rfl
          rw [joined, values_append, values_text, ih]
          rfl

/-- The text of a fragment with given placeholders at its values. -/
def fill : Fragment → List String → String
  | [], _ => ""
  | .text text :: rest, placeholders => text ++ fill rest placeholders
  | .value _ :: rest, [] => fill rest []
  | .value _ :: rest, placeholder :: placeholders =>
      placeholder ++ fill rest placeholders

/-- The text in front of the first value. -/
def opening : Fragment → String
  | .text text :: rest => text ++ opening rest
  | _ => ""

/-- The texts behind the values, each up to the next value. -/
def gaps : Fragment → List String
  | [] => []
  | .text _ :: rest => gaps rest
  | .value _ :: rest => opening rest :: gaps rest

@[simp]
theorem length_gaps (fragment : Fragment) :
    fragment.gaps.length = fragment.values.length := by
  induction fragment with
  | nil => rfl
  | cons piece rest ih => cases piece <;> simp [gaps, ih]

theorem fill_eq_spliced (fragment : Fragment) {placeholders : List String}
    (enough : placeholders.length = fragment.values.length) :
    fragment.fill placeholders =
      spliced fragment.opening (placeholders.zip fragment.gaps) := by
  induction fragment generalizing placeholders with
  | nil => simp [fill, opening, gaps, spliced]
  | cons piece rest ih =>
      cases piece with
      | text text =>
          rw [fill, ih enough, append_spliced]
          rfl
      | value value =>
          cases placeholders with
          | nil => simp at enough
          | cons placeholder placeholders =>
              rw [fill, ih (by simpa using enough)]
              simp [opening, gaps, spliced]

theorem fill_append (first second : Fragment)
    {placeholders : List String}
    (enough : placeholders.length = first.values.length)
    (more : List String) :
    (first ++ second).fill (placeholders ++ more) =
      first.fill placeholders ++ second.fill more := by
  induction first generalizing placeholders with
  | nil =>
      obtain rfl := List.eq_nil_of_length_eq_zero enough
      simp [fill]
  | cons piece rest ih =>
      cases piece with
      | text text => simp [fill, ih enough, String.append_assoc]
      | value value =>
          cases placeholders with
          | nil => simp at enough
          | cons placeholder placeholders =>
              simp [fill, ih (by simpa using enough), String.append_assoc]

end Fragment

namespace Params

/-- Values in a style, with given names where the style names them. -/
def withNames (names : List String) (values : List Value) : Style → Params
  | .positional => .positional values
  | .named => .named (names.zip values)

theorem number_eq_withNames (style : Style) (stem : String)
    (values : List Value) :
    number style stem values =
      withNames (numberedNames stem values.length) values style := by
  cases style with
  | positional => rfl
  | named =>
      rw [number, withNames, numberedNames, List.zipIdx_eq_zip_range',
        List.range_eq_range', List.zip_map_left, ← List.zip_swap values,
        List.map_map]
      rfl

/-- Values of one style can always be put together. -/
theorem append_number (style : Style) (stem other : String)
    (values more : List Value) :
    (number style stem values).append (number style other more) =
      .ok (withNames
        (numberedNames stem values.length ++ numberedNames other more.length)
        (values ++ more) style) := by
  have names_length := length_numberedNames stem values.length
  rw [number_eq_withNames, number_eq_withNames]
  cases style with
  | positional =>
      cases values <;> cases more <;>
        simp [append, extend, withNames, isEmpty, length]
  | named =>
      rw [withNames, withNames, withNames, List.zip_append names_length]
      cases values <;> cases more <;> simp [append, extend, isEmpty, length]

theorem values_number (style : Style) (stem : String)
    (values : List Value) : (number style stem values).values = values := by
  rw [number_eq_withNames]
  cases style with
  | positional => rfl
  | named => exact List.map_snd_zip (by simp)

/-- The values with their names, where they have names. -/
def entries : Params → List (Option String × Value)
  | positional values => values.map (none, ·)
  | named values => values.map fun entry => (some entry.1, entry.2)

theorem entries_eq_nil_of_isEmpty {params : Params}
    (nothing : params.isEmpty = true) : params.entries = [] := by
  cases params <;> simpa [isEmpty, length, entries] using nothing

theorem append_eq_ok_iff (first second both : Params) :
    first.append second = .ok both ↔
      first.extend second = (.ok (), both) := by
  unfold append
  rcases first.extend second with ⟨error | _, held⟩ <;> simp

/-- Values that can be put together come one after the other. -/
theorem entries_append {first second both : Params}
    (appended : first.append second = .ok both) :
    both.entries = first.entries ++ second.entries := by
  rw [append_eq_ok_iff] at appended
  unfold extend at appended
  split at appended
  · rename_i noMore
    obtain rfl := (Prod.mk.inj appended).2
    rw [entries_eq_nil_of_isEmpty noMore, List.append_nil]
  split at appended
  · rename_i nothing
    obtain rfl := (Prod.mk.inj appended).2
    rw [entries_eq_nil_of_isEmpty nothing, List.nil_append]
  split at appended
  · obtain rfl := (Prod.mk.inj appended).2
    exact List.map_append
  · obtain rfl := (Prod.mk.inj appended).2
    exact List.map_append
  · simp at appended

/-- Values in the style of others can be put behind them. -/
theorem exists_append_withNames (params : Params) (names : List String)
    (values : List Value) :
    ∃ both, params.append (withNames names values params.style) = .ok both := by
  simp only [append_eq_ok_iff]
  rcases params with first | _ | ⟨entry, rest⟩
  · cases first <;> cases values <;>
      simp [extend, style, withNames, isEmpty, length]
  · cases values <;> simp [extend, style, withNames, isEmpty, length]
  · cases found : names.zip values <;>
      simp [extend, style, withNames, isEmpty, length, found]

theorem values_eq_map_entries (params : Params) :
    params.values = params.entries.map (·.2) := by
  cases params <;> simp [values, entries, Function.comp_def]

theorem values_append {first second both : Params}
    (appended : first.append second = .ok both) :
    both.values = first.values ++ second.values := by
  simp only [values_eq_map_entries, entries_append appended, List.map_append]

end Params

/-- The placeholders of values with given names. -/
def marks (names : List String) : Style → List String
  | .positional => List.replicate names.length "?"
  | .named => names.map (":" ++ ·)

@[simp]
theorem length_marks (names : List String) (style : Style) :
    (marks names style).length = names.length := by
  cases style <;> simp [marks]

theorem marks_append (names more : List String) (style : Style) :
    marks (names ++ more) style = marks names style ++ marks more style := by
  cases style <;> simp [marks]

namespace Fragment

theorem texts_append (style : Style) (stem : String) (number : Nat)
    (first second : Fragment) :
    (first ++ second).texts style stem number =
      first.texts style stem number ++
        second.texts style stem (number + first.values.length) := by
  induction first generalizing number with
  | nil => rfl
  | cons piece rest ih =>
      cases piece with
      | text text => simp [texts, ih]
      | value value => simp [texts, ih, Nat.add_assoc, Nat.add_comm 1]

/-- Pieces of one value each are numbered as they stand. -/
theorem texts_join_map {α : Type} (style : Style) (stem separator : String)
    (piece : α → Fragment) (single : ∀ item, (piece item).values.length = 1)
    (number : Nat) (items : List α) :
    String.join ((join separator (items.map piece)).texts style stem number) =
      Text.join separator ((items.zipIdx number).map fun item =>
        String.join ((piece item.1).texts style stem item.2)) := by
  induction items generalizing number with
  | nil => rfl
  | cons item rest ih =>
      cases rest with
      | nil => rfl
      | cons next rest =>
          have later := ih (number + 1)
          simp only [List.map_cons, List.zipIdx_cons] at later ⊢
          simp only [join, Text.join, texts_append, texts, single] at later ⊢
          simp [later, String.append_assoc]

theorem write_between (style : Style) (stem opening closing : String)
    (fragment : Fragment) :
    (fragment.between opening closing).write style stem =
      opening ++ fragment.write style stem ++ closing := by
  rw [write, between, List.cons_append, texts, texts_append, String.join_cons,
    String.join_append, String.append_assoc]
  simp [write, texts]

/-- A list of values is written as the list of their placeholders. -/
theorem write_values {α : Type} (style : Style) (stem : String)
    (value : α → Value) (items : List α) :
    (join ", " (items.map fun item => ofValue (value item))).write style stem =
      Text.join ", " ((List.range items.length).map
        (placeholder style stem)) := by
  have written := texts_join_map style stem ", "
    (fun item => ofValue (value item)) (fun _ => rfl) 0 items
  rw [write, written, List.range_eq_range', ← List.zipIdx_map_snd 0 items,
    List.map_map]
  simp [ofValue, texts, Function.comp_def]

theorem length_values_join_map {α : Type} (separator : String)
    (piece : α → Fragment) (single : ∀ item, (piece item).values.length = 1)
    (items : List α) :
    (join separator (items.map piece)).values.length = items.length := by
  rw [values_join, List.flatMap_map, List.length_flatMap]
  simp [single]

theorem join_texts (style : Style) (stem : String) (number : Nat)
    (fragment : Fragment) :
    String.join (fragment.texts style stem number) =
      fragment.fill ((List.range' number fragment.values.length).map
        (placeholder style stem)) := by
  induction fragment generalizing number with
  | nil => simp [texts, fill]
  | cons piece rest ih =>
      cases piece <;> simp [texts, fill, ih, List.range'_succ]

/-- A fragment is written with the placeholders of its values in order. -/
theorem write_eq_fill (style : Style) (stem : String) (fragment : Fragment) :
    fragment.write style stem =
      fragment.fill (marks (numberedNames stem fragment.values.length)
        style) := by
  rw [write, join_texts]
  cases style with
  | positional =>
      have mark : placeholder .positional stem = fun _ => "?" :=
        rfl
      rw [mark, List.map_const', List.length_range', marks,
        length_numberedNames]
  | named =>
      rw [marks, numberedNames, List.range_eq_range', List.map_map]
      rfl

/-- Statements agree when they are one fragment with the placeholders of one
list of names. -/
theorem agreeInStyles_of_fill (fragment : Fragment)
    (statement : Style → Statement) {names : List String}
    (enough : names.length = fragment.values.length)
    (sql : ∀ style, (statement style).sql =
      fragment.fill (marks names style))
    (params : ∀ style, (statement style).params =
      .withNames names fragment.values style) :
    AgreeInStyles names fragment.values (statement .positional)
      (statement .named) := by
  have spliced_sql (style : Style) : (statement style).sql =
      spliced fragment.opening ((marks names style).zip fragment.gaps) := by
    rw [sql, fill_eq_spliced fragment (by simpa using enough)]
  refine ⟨enough, fragment.opening, fragment.gaps, length_gaps fragment, ?_,
    params .positional, spliced_sql .named, params .named⟩
  have paired : (marks names .positional).zip fragment.gaps =
      fragment.gaps.map ("?", ·) := by
    rw [marks, enough, ← length_gaps fragment, ← List.map_const']
    simpa using
      List.zip_map' (f := fun _ => "?") (g := id) (l := fragment.gaps)
  rw [spliced_sql, paired]

/-- A fragment makes statements that agree. -/
theorem statement_agreeInStyles (fragment : Fragment) (stem : String) :
    AgreeInStyles (numberedNames stem fragment.values.length) fragment.values
      (fragment.statement .positional stem)
      (fragment.statement .named stem) := by
  apply agreeInStyles_of_fill fragment
    (fun style => fragment.statement style stem)
  · simp
  · intro style
    exact write_eq_fill style stem fragment
  · intro style
    exact Params.number_eq_withNames style stem fragment.values

end Fragment

end DataGrid.Sql
