import DataGrid.Demo
import DataGrid.Proofs.Action.Equality

/-!
# Rebuilding a row's actions

What a client is sent for a row is enough to rebuild the row's actions: nothing
when the base actions will do, and otherwise fields to overlay on base actions.
-/

namespace DataGrid

/-- Fields that were left out because the others hold equal values come back
when the rest is set over the others. -/
theorem Json.Fields.same_insertAll_filter {fields others : Json.Fields}
    (names_eq : others.names = fields.names) (nodup : fields.names.Nodup)
    (keep : String × Json → Bool)
    (dropped : ∀ field ∈ fields, keep field = false →
      ∃ value, get? others field.1 = some value ∧
        value.same field.2 = true) :
    (Json.object (others.insertAll (fields.filter keep))).same
      (.object fields) = true := by
  have sentNodup : (names (fields.filter keep)).Nodup :=
    nodup.sublist (List.filter_sublist.map Prod.fst)
  have sentNames : names (fields.filter keep) ⊆ others.names := by
    rw [names_eq]
    exact List.map_subset Prod.fst (List.filter_subset_self _)
  have restoredNames :
      (others.insertAll (fields.filter keep)).names = fields.names :=
    (names_insertAll_of_subset sentNames).trans names_eq
  refine (Json.same_object_iff (restoredNames ▸ nodup) _).mpr ⟨?_, ?_⟩
  · simpa [names] using congrArg List.length restoredNames
  rintro ⟨name, shown⟩ restored
  obtain ⟨value, member⟩ :=
    exists_mem_of_mem_names (restoredNames ▸ mem_names_of_mem restored)
  refine ⟨value, get?_of_mem nodup member, ?_⟩
  have found := get?_of_mem (restoredNames ▸ nodup) restored
  rw [get?_insertAll sentNodup, get?_filter nodup member] at found
  cases kept : keep (name, value) with
  | true =>
      simp only [kept, if_true, Option.some_or, Option.some.injEq] at found
      subst found
      exact Json.same_refl value
  | false =>
      obtain ⟨original, inOthers, equal⟩ := dropped _ member kept
      simp only [kept, Bool.false_eq_true, if_false, Option.none_or,
        inOthers, Option.some.injEq] at found
      subst found
      exact equal

namespace RenderedAction

theorem get?_difference_id (base : List RenderedAction)
    (action : RenderedAction) :
    Json.Fields.get? (difference base action) "id" =
      some (.text action.id) := by
  have member : ("id", Json.text action.id) ∈ action.toFields := by
    simp [toFields]
  unfold difference
  split
  · rw [Json.Fields.get?_filter (nodup_names_toFields action) member]
    simp
  · exact Json.Fields.get?_of_mem (nodup_names_toFields action) member

/-- A field that is not sent has an equal value in the base action. -/
theorem exists_same_of_not_differs {others : Json.Fields}
    {field : String × Json} (agrees : differs others field = false) :
    ∃ value, Json.Fields.get? others field.1 = some value ∧
      value.same field.2 = true := by
  unfold differs at agrees
  split at agrees
  · rename_i value found
    exact ⟨value, found, by simpa using agrees⟩
  · simp at agrees

/-- Overlaying the fields in which an action differs from its base action gives
the action again. -/
theorem same_overlaid_difference (base : List RenderedAction)
    (action : RenderedAction) :
    (Json.object (overlaid base (difference base action))).same
      action.toJson = true := by
  rw [overlaid, get?_difference_id, toJson]
  simp only
  cases known : withId? base action.id with
  | none =>
      simp only [difference, known, Option.map_none, Option.getD_none,
        insertAll_toFields]
      exact Json.same_refl _
  | some baseAction =>
      simp only [difference, known, Option.map_some, Option.getD_some]
      apply Json.Fields.same_insertAll_filter
      · simp
      · exact nodup_names_toFields action
      · intro field _ left
        rw [Bool.or_eq_false_iff] at left
        exact exists_same_of_not_differs left.2

theorem forall₂_overlaid_differences (base actions : List RenderedAction) :
    List.Forall₂
      (fun sent action =>
        (Json.object (overlaid base sent)).same action.toJson = true)
      (differences base actions) actions := by
  rw [differences, List.forall₂_map_left_iff, List.forall₂_same]
  exact fun action _ => same_overlaid_difference base action

end RenderedAction

namespace Table

/-- An action that needs no row is rendered for a row as it is without one,
unless addresses are expanded. -/
theorem renderFor_eq_renderBase {table : Table}
    (kept : table.flags.expandActionUrls = false) (row : Row)
    {action : RowAction} (fixed : action.needsRow = false) :
    table.renderFor row action = renderBase action := by
  simp only [RowAction.needsRow, Bool.or_eq_false_iff,
    Option.isSome_eq_false_iff, Option.isNone_iff_eq_none] at fixed
  have click : table.clickFor action row =
      (renderBase action).onClick := by
    unfold clickFor renderBase RowAction.rendered
    cases known : action.handler with
    | none => simp [fixed.1]
    | some handler =>
        cases handler with
        | fixed onClick => simp [fixed.1]
        | perRow rule => simp [known] at fixed
  simp only [renderFor, kept, Bool.false_eq_true, if_false, click]
  rfl

/-- Where nothing can change from row to row, a row's actions are the base
actions. -/
theorem renderedFor_eq_baseActions {table : Table}
    (plain : table.customizesActions = false) (row : Row) :
    table.renderedFor row = table.baseActions := by
  simp only [customizesActions, Bool.or_eq_false_iff,
    Option.isSome_eq_false_iff, Option.isNone_iff_eq_none,
    List.any_eq_false, Bool.not_eq_true] at plain
  obtain ⟨⟨noHook, kept⟩, fixed⟩ := plain
  simp only [renderedFor, actionsFor, noHook, baseActions]
  apply List.map_congr_left
  intro action member
  exact renderFor_eq_renderBase kept row (fixed action member)

/-- What is sent for a row rebuilds the row's actions.  When nothing is sent
they equal the base actions; otherwise each of the objects that are sent,
overlaid on the first base action with its id, equals the action in its place,
the order of fields left aside. -/
theorem actionsPayload_rebuilds (table : Table) (row : Row) :
    match table.actionsPayload table.baseActions row with
    | none =>
        RenderedAction.sameList (table.renderedFor row)
          table.baseActions = true
    | some sent =>
        List.Forall₂
          (fun fields action =>
            (Json.object (RenderedAction.overlaid table.baseActions
              fields)).same action.toJson = true)
          sent (table.renderedFor row) := by
  unfold actionsPayload
  cases customized : table.customizesActions with
  | false =>
      rw [renderedFor_eq_baseActions customized row]
      exact RenderedAction.sameList_refl _
  | true =>
      simp only [Bool.not_true, Bool.false_eq_true, if_false]
      split
      · rename_i skipped
        split at skipped
        · rename_i unchanged
          exact (Bool.and_eq_true_iff.mp unchanged).2
        · simp at skipped
      · rename_i sent known
        split at known
        · simp at known
        · obtain rfl := Option.some.inj known
          exact RenderedAction.forall₂_overlaid_differences _ _

/-- A row of the table of people, whose hook and click depend on the row. -/
theorem demo_actionsPayload_rebuilds :
    ∃ people row, Demo.table 50 = .ok people ∧
      Row.cellText row "email" = "ann@example.org" ∧
      match people.actionsPayload people.baseActions row with
      | none =>
          RenderedAction.sameList (people.renderedFor row)
            people.baseActions = true
      | some sent =>
          List.Forall₂
            (fun fields action =>
              (Json.object (RenderedAction.overlaid people.baseActions
                fields)).same action.toJson = true)
            sent (people.renderedFor row) := by
  have built : (Demo.table 50).isOk = true := by
    decide +kernel
  cases known : Demo.table 50 with
  | error failure => simp [known, Except.isOk, Except.toBool] at built
  | ok people =>
      let row : Row := [("email", .text "ann@example.org"),
        ("active", .text "1")]
      exact ⟨people, row, rfl, by decide, actionsPayload_rebuilds people row⟩

end Table

end DataGrid
