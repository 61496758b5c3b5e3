import DataGrid.Proofs.Action.Payload
import DataGrid.Proofs.Outcome

/-!
# Overlaying what was sent

Of an action only those fields are sent that have another value in its base
action.  What a client overlays on the base action is read from JSON again, and
there an argument may change its kind: a value that is spelled like an
expression is read as one.
-/

namespace DataGrid

/-- The value is spelled as an expression is: as an object whose only field is
`expression`, with a text, or as a list of one text. -/
def Json.LooksLikeExpression (value : Json) : Prop :=
  ∃ text, value = .object [("expression", .text text)] ∨
    value = .list [.text text]

/-- The argument is a value that is read as an expression. -/
def Argument.Ambiguous : Argument → Prop
  | .expression _ => False
  | .value json => json.LooksLikeExpression

/-- The click is a call with an ambiguous argument. -/
def OnClick.Ambiguous : OnClick → Prop
  | .inert _ => False
  | .call _ _ arguments => ∃ argument ∈ arguments, argument.Ambiguous

/-- The click of the action, if it has one, is ambiguous. -/
def RenderedAction.Ambiguous (action : RenderedAction) : Prop :=
  ∃ onClick ∈ action.onClick, onClick.Ambiguous

/-- What has to be sent of an action: its id, and of its other fields exactly
those that have no equal value in the first base action with that id.  Without
such a base action all fields are sent. -/
structure RenderedAction.SentAs (base : List RenderedAction)
    (action : RenderedAction) (sent : PartialAction) : Prop where
  sublist : sent.Sublist action.toFields
  id : ("id", .text action.id) ∈ sent
  whole : withId? base action.id = none → sent = action.toFields
  differing : ∀ baseAction, withId? base action.id = some baseAction →
    ∀ field ∈ action.toFields, field.1 ≠ "id" →
      (field ∈ sent ↔ ∀ value,
        Json.Fields.get? baseAction.toFields field.1 = some value →
          value.same field.2 = false)

namespace Argument

theorem ofJson_eq_expression_iff (value : Json) (text : String) :
    ofJson value = .expression text ↔
      value = .object [("expression", .text text)] ∨
        value = .list [.text text] := by
  unfold ofJson
  split
  · simp
  · simp
  · rename_i notObject notList
    simp only [reduceCtorEq, false_iff, not_or]
    exact ⟨notObject text, notList text⟩

theorem ofJson_of_plain {value : Json}
    (plain : ¬ value.LooksLikeExpression) : ofJson value = .value value := by
  unfold ofJson
  split
  · exact absurd ⟨_, .inl rfl⟩ plain
  · exact absurd ⟨_, .inr rfl⟩ plain
  · rfl

/-- Equal values are read as the same expression, if as one at all. -/
theorem ofJson_eq_expression_congr {first second : Json}
    (equal : first.same second = true) (text : String) :
    ofJson first = .expression text ↔ ofJson second = .expression text := by
  have object := (Json.rigid_text text).object "expression"
  have list := (Json.rigid_text text).list
  rw [ofJson_eq_expression_iff, ofJson_eq_expression_iff]
  constructor
  · rintro (rfl | rfl)
    · exact .inl ((object second).2.mp equal)
    · exact .inr ((list second).2.mp equal)
  · rintro (rfl | rfl)
    · exact .inl ((object first).1.mp equal)
    · exact .inr ((list first).1.mp equal)

/-- An argument is read again from what equals its own spelling exactly when it
is not ambiguous. -/
theorem same_ofJson_iff {sent : Json} {argument : Argument}
    (equal : sent.same argument.toJson = true) :
    (ofJson sent).same argument = true ↔ ¬ argument.Ambiguous := by
  cases argument with
  | expression text =>
      have read : ofJson sent = .expression text :=
        (ofJson_eq_expression_congr equal text).mpr rfl
      simp [read, same, Ambiguous]
  | value json =>
      by_cases ambiguous : json.LooksLikeExpression
      · obtain ⟨text, spelled⟩ := ambiguous
        have read : ofJson sent = .expression text :=
          (ofJson_eq_expression_congr equal text).mpr
            ((ofJson_eq_expression_iff json text).mpr spelled)
        have unclear : Ambiguous (.value json) := ⟨text, spelled⟩
        simp [read, same, unclear]
      · have plain : ¬ sent.LooksLikeExpression := by
          rintro ⟨text, spelled⟩
          have read := (ofJson_eq_expression_congr equal text).mp
            ((ofJson_eq_expression_iff sent text).mpr spelled)
          exact ambiguous
            ⟨text, (ofJson_eq_expression_iff json text).mp read⟩
        have spelled : sent.same json = true := equal
        have clear : ¬ Ambiguous (.value json) := ambiguous
        simp [ofJson_of_plain plain, same, spelled, clear]

end Argument

namespace OnClick

/-- A click as it is read from its own spelling. -/
def reread : OnClick → OnClick
  | .inert code => .inert code
  | .call module function arguments =>
      .call module function
        (arguments.map fun argument => .ofJson argument.toJson)

theorem ofJson?_toJson (onClick : OnClick) :
    ofJson? onClick.toJson = some onClick.reread := by
  cases onClick with
  | inert code => rfl
  | call module function arguments =>
      simp [toJson, ofJson?, reread, Json.Fields.get?_cons]

theorem sameArguments_reread_iff {sent arguments : List Argument}
    (equal : List.Forall₂ (fun first second =>
      first.toJson.same second.toJson = true) sent arguments) :
    sameArguments (sent.map fun argument => .ofJson argument.toJson)
        arguments = true ↔
      ¬ ∃ argument ∈ arguments, argument.Ambiguous := by
  induction equal with
  | nil => simp [sameArguments]
  | cons first _ ih =>
      simp [sameArguments, Argument.same_ofJson_iff first, ih]

/-- A click is read again from an equal spelling exactly when it is not
ambiguous. -/
theorem same_reread_iff {sent onClick : OnClick}
    (equal : sent.toJson.same onClick.toJson = true) :
    sent.reread.same onClick = true ↔ ¬ onClick.Ambiguous := by
  cases onClick with
  | inert code =>
      have spelled := (Json.rigid_text code sent.toJson).1.mp equal
      cases sent with
      | inert other =>
          obtain rfl := Json.text.inj spelled
          simp [reread, same, Ambiguous]
      | call _ _ _ => simp [toJson] at spelled
  | call module function arguments =>
      cases sent with
      | inert other =>
          have spelled := (Json.rigid_text other _).2.mp equal
          simp [toJson] at spelled
      | call sentModule sentFunction sentArguments =>
          rw [toJson, toJson,
            Json.same_object_iff (by simp [Json.Fields.names])] at equal
          simp only [List.forall_mem_cons, Json.Fields.get?_cons] at equal
          obtain ⟨moduleSame, functionSame, argumentsSame⟩ :
              (Json.text sentModule).same (.text module) = true ∧
              (Json.text sentFunction).same (.text function) = true ∧
              (Json.list (sentArguments.map Argument.toJson)).same
                (.list (arguments.map Argument.toJson)) = true := by
            simpa using equal
          obtain rfl :=
            Json.text.inj ((Json.rigid_text module _).1.mp moduleSame)
          obtain rfl :=
            Json.text.inj ((Json.rigid_text function _).1.mp functionSame)
          rw [Json.same, Json.sameItems_iff, List.forall₂_map_left_iff,
            List.forall₂_map_right_iff] at argumentsSame
          simp [reread, same, Ambiguous, sameArguments_reread_iff argumentsSame]

theorem toJson_same_null (onClick : OnClick) :
    onClick.toJson.same .null = false := by
  cases onClick <;> simp [toJson, Json.same]

theorem null_same_toJson (onClick : OnClick) :
    Json.null.same onClick.toJson = false := by
  cases onClick <;> simp [toJson, Json.same]

end OnClick

namespace RenderedAction

/-- The value of an action's click on the wire. -/
def clickValue (onClick : Option OnClick) : Json :=
  (onClick.map OnClick.toJson).getD .null

theorem onClickOfJson?_clickValue (onClick : Option OnClick) :
    onClickOfJson? (clickValue onClick) =
      some (onClick.map OnClick.reread) := by
  cases onClick with
  | none => rfl
  | some click =>
      have read := OnClick.ofJson?_toJson click
      cases click <;> exact congrArg (Option.map some) read

theorem sameOnClick_reread_iff {sent onClick : Option OnClick}
    (equal : (clickValue sent).same (clickValue onClick) = true) :
    sameOnClick (sent.map OnClick.reread) onClick = true ↔
      ¬ ∃ click ∈ onClick, click.Ambiguous := by
  cases sent with
  | none =>
      cases onClick with
      | none => simp [sameOnClick]
      | some click => simp [clickValue, click.null_same_toJson] at equal
  | some sentClick =>
      cases onClick with
      | none => simp [clickValue, sentClick.toJson_same_null] at equal
      | some click =>
          have spelled : sentClick.toJson.same click.toJson = true := equal
          simp [sameOnClick, OnClick.same_reread_iff spelled]

theorem ofName?_name (kind : ActionKind) :
    ActionKind.ofName? kind.name = some kind := by
  cases kind <;> rfl

theorem difference_sublist (base : List RenderedAction)
    (action : RenderedAction) :
    (difference base action).Sublist action.toFields := by
  unfold difference
  split
  · exact List.filter_sublist
  · exact .refl _

theorem difference_of_new {base : List RenderedAction}
    {action : RenderedAction} (new : withId? base action.id = none) :
    difference base action = action.toFields := by
  simp [difference, new]

theorem overlaid_difference (base : List RenderedAction)
    (action : RenderedAction) :
    overlaid base (difference base action) =
      Json.Fields.insertAll
        (((withId? base action.id).map toFields).getD [])
        (difference base action) := by
  rw [overlaid, get?_difference_id]

theorem names_overlaid (base : List RenderedAction)
    (action : RenderedAction) :
    (overlaid base (difference base action)).names = fieldNames := by
  have sent := (difference_sublist base action).map Prod.fst
  rw [overlaid_difference]
  cases known : withId? base action.id with
  | none => simp [difference_of_new known, insertAll_toFields]
  | some baseAction =>
      exact Json.Fields.names_insertAll_of_subset sent.subset

/-- The click that is overlaid is that of the action or of its base action. -/
theorem exists_clickValue {base : List RenderedAction}
    {action : RenderedAction} {shown : Json}
    (member : ("onclick", shown) ∈ overlaid base (difference base action)) :
    ∃ sent, shown = clickValue sent := by
  have ofFields (source : RenderedAction)
      (held : ("onclick", shown) ∈ source.toFields) :
      ∃ sent, shown = clickValue sent := by
    simp only [toFields, List.mem_cons, Prod.mk.injEq] at held
    exact ⟨source.onClick, by simpa [clickValue] using held⟩
  rw [overlaid_difference] at member
  rcases Json.Fields.mem_of_mem_insertAll member with inBase | inSent
  · cases known : withId? base action.id with
    | none => simp [known] at inBase
    | some baseAction =>
        exact ofFields baseAction (by simpa [known] using inBase)
  · exact ofFields action ((difference_sublist base action).subset inSent)

/-- Every field of an action arrives with an equal value. -/
theorem exists_get?_overlaid (base : List RenderedAction)
    (action : RenderedAction) (name : String) (value : Json)
    (member : (name, value) ∈ action.toFields) :
    ∃ shown,
      Json.Fields.get? (overlaid base (difference base action)) name =
        some shown ∧
      shown.same value = true := by
  have names_eq := names_overlaid base action
  have nodup : (overlaid base (difference base action)).names.Nodup :=
    names_eq ▸ nodup_names_toFields action
  have known : name ∈ (overlaid base (difference base action)).names :=
    names_eq ▸ Json.Fields.mem_names_of_mem member
  obtain ⟨shown, arrived⟩ := Json.Fields.exists_mem_of_mem_names known
  have spelled := same_overlaid_difference base action
  obtain ⟨-, values⟩ := (Json.same_object_iff nodup _).mp spelled
  obtain ⟨other, found, equal⟩ := values _ arrived
  have own := Json.Fields.get?_of_mem (nodup_names_toFields action) member
  obtain rfl := Option.some.inj (found.symm.trans own)
  exact ⟨shown, Json.Fields.get?_of_mem nodup arrived, equal⟩

/-- A field without an order of its own arrives as it is. -/
theorem get?_overlaid_of_rigid (base : List RenderedAction)
    (action : RenderedAction) (name : String) {value : Json}
    (rigid : value.Rigid) (member : (name, value) ∈ action.toFields) :
    Json.Fields.get? (overlaid base (difference base action)) name =
      some value := by
  obtain ⟨shown, found, equal⟩ :=
    exists_get?_overlaid base action name value member
  rw [found, (rigid shown).1.mp equal]

/-- What is sent of an action can always be overlaid again, and gives the
action exactly when the action is not ambiguous. -/
theorem exists_overlay (base : List RenderedAction)
    (action : RenderedAction) :
    ∃ restored, overlay base (difference base action) = .ok restored ∧
      (restored.same action = true ↔ ¬ action.Ambiguous) := by
  have text (name value : String)
      (member : (name, Json.text value) ∈ action.toFields) :=
    get?_overlaid_of_rigid base action name (Json.rigid_text value) member
  have flag := get?_overlaid_of_rigid base action "disabled"
    (Json.rigid_bool action.disabled) (by simp [toFields])
  obtain ⟨shown, found, equal⟩ := exists_get?_overlaid base action
    "onclick" (clickValue action.onClick) (by simp [toFields, clickValue])
  obtain ⟨sent, rfl⟩ :=
    exists_clickValue (Json.Fields.mem_of_get?_eq_some found)
  have read : ofFields? (overlaid base (difference base action)) =
      some { action with onClick := sent.map OnClick.reread } := by
    simp only [ofFields?, text "id" action.id (by simp [toFields]),
      text "type" action.kind.name (by simp [toFields]),
      text "label" action.label (by simp [toFields]),
      text "url" action.url (by simp [toFields]),
      text "icon" action.icon (by simp [toFields]), flag, found,
      text "target" action.target (by simp [toFields])]
    simp [ofValues?, ActionKind.ofJson?, ofName?_name,
      onClickOfJson?_clickValue]
  refine ⟨{ action with onClick := sent.map OnClick.reread }, ?_, ?_⟩
  · simp [overlay, read]
  · simp [same, sameOnClick_reread_iff equal, Ambiguous]

/-- Of an action is sent what has to be. -/
theorem sentAs_difference (base : List RenderedAction)
    (action : RenderedAction) :
    SentAs base action (difference base action) where
  sublist := difference_sublist base action
  id := Json.Fields.mem_of_get?_eq_some (get?_difference_id base action)
  whole := difference_of_new
  differing baseAction known field member other := by
    have kept : differs baseAction.toFields field = true ↔
        ∀ value, Json.Fields.get? baseAction.toFields field.1 = some value →
          value.same field.2 = false := by
      unfold differs
      split <;> simp_all
    simp [difference, known, member, other, kept]

theorem exists_overlays (base actions : List RenderedAction) :
    ∃ restored, overlays base (differences base actions) = .ok restored ∧
      (sameList restored actions = true ↔
        ∀ action ∈ actions, ¬ action.Ambiguous) := by
  induction actions with
  | nil => exact ⟨[], rfl, by simp [sameList]⟩
  | cons action rest ih =>
      obtain ⟨first, overlay_eq, first_iff⟩ := exists_overlay base action
      obtain ⟨others, overlays_eq, others_iff⟩ := ih
      refine ⟨first :: others, ?_, ?_⟩
      · simp only [overlays, differences] at overlays_eq
        simp [overlays, differences, overlay_eq, overlays_eq]
      · simp [sameList, first_iff, others_iff]

/-- One partial action is sent for each action, with its id and the fields in
which it differs from its base action.  Overlaying them on the base actions
always succeeds, and gives the actions again exactly when no call among them
has a value that is spelled like an expression. -/
theorem overlays_differences_same_iff (base actions : List RenderedAction) :
    List.Forall₂ (fun sent action => SentAs base action sent)
        (differences base actions) actions ∧
      ∃ restored, overlays base (differences base actions) = .ok restored ∧
        (sameList restored actions = true ↔
          ∀ action ∈ actions, ¬ action.Ambiguous) := by
  refine ⟨?_, exists_overlays base actions⟩
  rw [differences, List.forall₂_map_left_iff, List.forall₂_same]
  intro action _
  exact sentAs_difference base action

end RenderedAction

/-- An action that calls a function with some arguments. -/
def Demo.greeting (id : String) (arguments : List Argument) :
    RenderedAction where
  id := id
  kind := .other
  label := "Greet"
  url := ""
  icon := ""
  disabled := false
  onClick := some (.call "app/people" "greet" arguments)
  target := ""

namespace RenderedAction

/-- An object with a second field beside `expression` comes back, and a list of
one text comes back as an expression. -/
theorem greetings_overlays_differences :
    let base := [Demo.greeting "greet" []]
    let clear := Demo.greeting "greet" [.expression "e.target",
      .value (.object [("expression", .text "x"), ("other", .ofInt 1)])]
    let unclear := Demo.greeting "wave" [.value (.list [.text "e.target"])]
    List.Forall₂ (fun sent action => SentAs base action sent)
        (differences base [clear, unclear]) [clear, unclear] ∧
      ∃ restored,
        overlays base (differences base [clear, unclear]) = .ok restored ∧
        (sameList restored [clear, unclear] = true ↔
          ∀ action ∈ [clear, unclear], ¬ action.Ambiguous) ∧
        sameList restored [clear, unclear] = false := by
  intro base clear unclear
  obtain ⟨sent, restored, overlays_eq, same_iff⟩ :=
    overlays_differences_same_iff base [clear, unclear]
  have ambiguous : unclear.Ambiguous :=
    ⟨_, rfl, _, List.mem_singleton_self _, "e.target", .inr rfl⟩
  refine ⟨sent, restored, overlays_eq, same_iff, ?_⟩
  rw [Bool.eq_false_iff, ne_eq, same_iff]
  intro plain
  exact plain unclear (by simp) ambiguous

end RenderedAction

end DataGrid
