import DataGrid.Proofs.Outcome
import DataGrid.Proofs.Sql.Placeholders

/-!
# Values appended in a row

A statement gathers its values part by part.  A part without values is always
taken, a part of the other style only while there are no values yet, and a part
that is refused changes nothing.  So the first part with values decides on the
style, and what is gathered are the values of the parts in that style.  It does
not matter whether a part is put behind what is gathered or in front of what
comes next.
-/

namespace DataGrid.Sql.Params

/-- The style in which values are held, also where there are none. -/
def kind : Params → Style
  | positional _ => .positional
  | named _ => .named

/-- There are values on both sides, and they are held in different styles. -/
structure Mixed (first second : Params) : Prop where
  first_some : first.isEmpty = false
  second_some : second.isEmpty = false
  differ : first.kind ≠ second.kind

/-- What appending values can come to: what becomes of it, and what is held
then. -/
inductive Extended (held more : Params) : Except Error Unit × Params → Prop
  | nothing_more (none : more.isEmpty = true) :
      Extended held more (.ok (), held)
  | nothing_held (none : held.isEmpty = true) (some : more.isEmpty = false) :
      Extended held more (.ok (), more)
  | both {both : Params} (held_some : held.isEmpty = false)
      (more_some : more.isEmpty = false) (same : held.kind = more.kind)
      (both_some : both.isEmpty = false) (both_kind : both.kind = held.kind) :
      Extended held more (.ok (), both)
  | refused (mixed : Mixed held more) :
      Extended held more (.error (.table .mixedParameters), held)

theorem isEmpty_positional (values : List Value) :
    (positional values).isEmpty = values.isEmpty := by
  cases values <;> rfl

theorem isEmpty_named (values : List (String × Value)) :
    (named values).isEmpty = values.isEmpty := by
  cases values <;> rfl

theorem extend_cases (held more : Params) :
    Extended held more (held.extend more) := by
  unfold extend
  cases more_some : more.isEmpty with
  | true => exact .nothing_more more_some
  | false =>
      cases held_some : held.isEmpty with
      | true => exact .nothing_held held_some more_some
      | false =>
          cases held with
          | positional values =>
              cases more with
              | positional further =>
                  refine .both held_some more_some rfl ?_ rfl
                  rw [isEmpty_positional, List.isEmpty_eq_false_iff]
                    at held_some ⊢
                  exact List.append_ne_nil_of_left_ne_nil held_some further
              | named further =>
                  exact .refused ⟨held_some, more_some, Style.noConfusion⟩
          | named values =>
              cases more with
              | positional further =>
                  exact .refused ⟨held_some, more_some, Style.noConfusion⟩
              | named further =>
                  refine .both held_some more_some rfl ?_ rfl
                  rw [isEmpty_named, List.isEmpty_eq_false_iff]
                    at held_some ⊢
                  exact List.append_ne_nil_of_left_ne_nil held_some further

/-- Values are refused when they are mixed with those that are held, and for no
other reason. -/
theorem extend_eq_error_iff (held more : Params) (error : Error) :
    (held.extend more).1 = .error error ↔
      Mixed held more ∧ error = .table .mixedParameters := by
  have possible := extend_cases held more
  generalize held.extend more = result at possible
  cases possible with
  | nothing_more none =>
      simp only [reduceCtorEq, false_iff, not_and]
      intro mixed
      simp [mixed.second_some] at none
  | nothing_held none =>
      simp only [reduceCtorEq, false_iff, not_and]
      intro mixed
      simp [mixed.first_some] at none
  | both held_some more_some same =>
      simp only [reduceCtorEq, false_iff, not_and]
      intro mixed
      exact absurd same mixed.differ
  | refused mixed => simp [mixed, eq_comm]

/-- Values that are refused change nothing. -/
theorem extend_of_mixed {held more : Params} (mixed : Mixed held more) :
    held.extend more = (.error (.table .mixedParameters), held) := by
  have possible := extend_cases held more
  generalize held.extend more = result at possible
  cases possible with
  | nothing_more none => simp [mixed.second_some] at none
  | nothing_held none => simp [mixed.first_some] at none
  | both _ _ same => exact absurd same mixed.differ
  | refused => rfl

theorem extend_of_not_mixed {held more : Params} (unmixed : ¬ Mixed held more) :
    (held.extend more).1 = .ok () := by
  cases appended : (held.extend more).1 with
  | ok => rfl
  | error error =>
      exact absurd ((extend_eq_error_iff held more error).mp appended).1 unmixed

theorem append_of_isEmpty (first : Params) {second : Params}
    (none : second.isEmpty = true) : first.append second = .ok first := by
  simp [append, extend, none]

theorem append_of_first_isEmpty {first second : Params}
    (none : first.isEmpty = true) (some : second.isEmpty = false) :
    first.append second = .ok second := by
  simp [append, extend, none, some]

/-- Parts appended one after another, also behind one that is refused: what
comes of each, and what is held in the end. -/
def extendAll (held : Params) :
    List Params → List (Except Error Unit) × Params
  | [] => ([], held)
  | part :: rest =>
      let (appended, next) := held.extend part
      let (others, last) := extendAll next rest
      (appended :: others, last)

/-- The parts that are not refused when they are appended one after another. -/
def taken (held : Params) : List Params → List Params
  | [] => []
  | part :: rest =>
      match held.extend part with
      | (.ok (), next) => part :: taken next rest
      | (.error _, next) => taken next rest

theorem extendAll_cons (held part : Params) (rest : List Params) :
    extendAll held (part :: rest) =
      ((held.extend part).1 :: (extendAll (held.extend part).2 rest).1,
        (extendAll (held.extend part).2 rest).2) :=
  rfl

theorem extendAll_concat (start : Params) (parts : List Params)
    (more : Params) :
    extendAll start (parts ++ [more]) =
      ((extendAll start parts).1 ++ [((extendAll start parts).2.extend more).1],
        ((extendAll start parts).2.extend more).2) := by
  induction parts generalizing start with
  | nil => rfl
  | cons part rest ih =>
      rw [List.cons_append, extendAll_cons, ih, extendAll_cons]
      rfl

/-- The first of some parts that has values, if any of them has. -/
def decisive (start : Params) (parts : List Params) : Params :=
  ((start :: parts).find? (!·.isEmpty)).getD start

theorem decisive_of_some {start : Params} (some : start.isEmpty = false)
    (parts : List Params) : decisive start parts = start := by
  simp [decisive, some]

theorem kind_decisive_extend (held part : Params) (rest : List Params) :
    (decisive (held.extend part).2 rest).kind =
      (decisive held (part :: rest)).kind := by
  have possible := extend_cases held part
  generalize held.extend part = result at possible
  cases possible with
  | nothing_more none => simp [decisive, List.find?_cons, none]
  | nothing_held none some => simp [decisive, none, some]
  | both held_some more_some same both_some both_kind =>
      rw [decisive_of_some held_some, decisive_of_some both_some, both_kind]
  | refused mixed =>
      rw [decisive_of_some mixed.first_some, decisive_of_some mixed.first_some]

theorem kind_extendAll (start : Params) (parts : List Params) :
    (extendAll start parts).2.kind = (decisive start parts).kind := by
  induction parts generalizing start with
  | nil =>
      cases none : start.isEmpty <;> simp [extendAll, decisive, none]
  | cons part rest ih =>
      rw [← kind_decisive_extend, ← ih]
      rfl

theorem entries_extendAll (start : Params) (parts : List Params) :
    (extendAll start parts).2.entries =
      (start :: taken start parts).flatMap entries := by
  induction parts generalizing start with
  | nil => simp [extendAll, taken]
  | cons part rest ih =>
      rw [extendAll_cons, ih, taken]
      rcases appended : start.extend part with ⟨error | _, next⟩
      · have mixed := ((extend_eq_error_iff start part error).mp
          (congrArg Prod.fst appended)).1
        obtain rfl : start = next :=
          congrArg Prod.snd ((extend_of_mixed mixed).symm.trans appended)
        rfl
      · rw [← append_eq_ok_iff] at appended
        simp [entries_append appended]

/-- A part has no values, or has them in a style. -/
def Suits (style : Style) (part : Params) : Prop :=
  part.isEmpty = true ∨ part.kind = style

instance (style : Style) : DecidablePred (Suits style) :=
  fun part => inferInstanceAs
    (Decidable (part.isEmpty = true ∨ part.kind = style))

theorem suits_decisive_iff (held part : Params) (rest : List Params) :
    Suits (decisive held (part :: rest)).kind part ↔ ¬ Mixed held part := by
  cases held_some : held.isEmpty with
  | true =>
      refine iff_of_true ?_ fun mixed => ?_
      · cases part_some : part.isEmpty with
        | true => exact .inl part_some
        | false =>
            refine .inr ?_
            simp [decisive, held_some, part_some]
      · simp [mixed.first_some] at held_some
  | false =>
      rw [decisive_of_some held_some]
      constructor
      · rintro (none | same) mixed
        · simp [mixed.second_some] at none
        · exact mixed.differ same.symm
      · intro unmixed
        by_contra unsuited
        obtain ⟨part_some, differ⟩ := not_or.mp unsuited
        exact unmixed ⟨held_some, by simpa using part_some, Ne.symm differ⟩

theorem extend_of_suits {held part : Params} {rest : List Params}
    (suits : Suits (decisive held (part :: rest)).kind part) :
    held.extend part = (.ok (), (held.extend part).2) :=
  Prod.ext (extend_of_not_mixed ((suits_decisive_iff _ _ _).mp suits)) rfl

theorem extend_of_not_suits {held part : Params} {rest : List Params}
    (unsuited : ¬ Suits (decisive held (part :: rest)).kind part) :
    held.extend part = (.error (.table .mixedParameters), held) := by
  rw [suits_decisive_iff, not_not] at unsuited
  exact extend_of_mixed unsuited

/-- The parts that are taken are those that suit the first part with values. -/
theorem taken_eq_filter (start : Params) (parts : List Params) :
    taken start parts = parts.filter (Suits (decisive start parts).kind) := by
  -- Whether a part is taken or not, the first part with values keeps its style.
  induction parts generalizing start with
  | nil => rfl
  | cons part rest ih =>
      have decided := kind_decisive_extend start part rest
      by_cases suits : Suits (decisive start (part :: rest)).kind part
      · rw [List.filter_cons_of_pos (by simpa using suits), ← decided, ← ih,
          taken, extend_of_suits suits]
      · rw [List.filter_cons_of_neg (by simpa using suits), ← decided, ← ih,
          taken, extend_of_not_suits suits]

/-- All others are refused. -/
theorem results_extendAll (start : Params) (parts : List Params) :
    (extendAll start parts).1 = parts.map fun part =>
      if Suits (decisive start parts).kind part then .ok ()
      else .error (.table .mixedParameters) := by
  induction parts generalizing start with
  | nil => rfl
  | cons part rest ih =>
      have decided := kind_decisive_extend start part rest
      rw [extendAll_cons, ih, decided, List.map_cons]
      split
      · rename_i suits
        rw [extend_of_suits suits]
      · rename_i unsuited
        rw [extend_of_not_suits unsuited]

/-- Whether a part is put behind what is gathered or in front of what comes
next, the same is gathered, or refused. -/
theorem append_assoc (first second third : Params) :
    (first.append second >>= fun both => both.append third) =
      (second.append third >>= fun both => first.append both) := by
  -- Only where all three have values do their styles meet.
  cases second_some : second.isEmpty with
  | true =>
      rw [append_of_isEmpty first second_some, ok_bind]
      cases third_some : third.isEmpty with
      | true =>
          rw [append_of_isEmpty second third_some, ok_bind,
            append_of_isEmpty first third_some,
            append_of_isEmpty first second_some]
      | false =>
          rw [append_of_first_isEmpty second_some third_some, ok_bind]
  | false =>
      cases third_some : third.isEmpty with
      | true =>
          simp only [append_of_isEmpty _ third_some, ok_bind]
          exact bind_pure _
      | false =>
          cases first_some : first.isEmpty with
          | true =>
              rw [append_of_first_isEmpty first_some second_some, ok_bind]
              have possible := extend_cases second third
              unfold append
              generalize second.extend third = result at possible
              cases possible with
              | nothing_more none => simp [none] at third_some
              | nothing_held none => simp [none] at second_some
              | both _ _ _ both_some =>
                  simpa [append] using
                    (append_of_first_isEmpty first_some both_some).symm
              | refused => rfl
          | false =>
              cases first <;> cases second <;> cases third <;>
                simp_all [append, extend, isEmpty_positional, isEmpty_named]

/-- What came of appending parts one after another, and what is held then: the
values of those that were taken, in the style of the first part with values.
Further values are refused when they are mixed with it, and leave it as it is
then. -/
structure Gathers (start : Params) (parts : List Params)
    (results : List (Except Error Unit)) (held : Params) : Prop where
  entries_eq : held.entries = (start :: taken start parts).flatMap entries
  kind_eq : held.kind = (decisive start parts).kind
  taken_eq : taken start parts =
    parts.filter (Suits (decisive start parts).kind)
  results_eq : results = parts.map fun part =>
    if Suits (decisive start parts).kind part then .ok ()
    else .error (.table .mixedParameters)
  refused_iff (more : Params) (error : Error) :
    (held.extend more).1 = .error error ↔
      Mixed held more ∧ error = .table .mixedParameters
  refused_keeps (more : Params) (mixed : Mixed held more) :
    (held.extend more).2 = held
  next_eq (more : Params) :
    extendAll start (parts ++ [more]) =
      (results ++ [(held.extend more).1], (held.extend more).2)

/-- Appending part after part gathers the values of the parts that are not
refused, whatever the start and the parts are, and neighbouring parts may be put
together first. -/
theorem gathered_in_a_row :
    (∀ (start : Params) (parts : List Params),
      Gathers start parts (extendAll start parts).1
        (extendAll start parts).2) ∧
    ∀ first second third : Params,
      (first.append second >>= fun both => both.append third) =
        (second.append third >>= fun both => first.append both) := by
  refine ⟨fun start parts => ?_, append_assoc⟩
  exact {
    entries_eq := entries_extendAll start parts
    kind_eq := kind_extendAll start parts
    taken_eq := taken_eq_filter start parts
    results_eq := results_extendAll start parts
    refused_iff := extend_eq_error_iff _
    refused_keeps more mixed := by rw [extend_of_mixed mixed]
    next_eq := extendAll_concat start parts }

/-- Without values the style is still open; then the first value decides. -/
example :
    extendAll (.named []) [.positional [.integer 1],
      .named [("name", .integer 2)], .positional [.integer 3]] =
      ([.ok (), .error (.table .mixedParameters), .ok ()],
        .positional [.integer 1, .integer 3]) := by
  rfl

end DataGrid.Sql.Params
