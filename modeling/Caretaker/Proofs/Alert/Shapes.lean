import Caretaker.Alert.Payload

/-!
# Two shapes, one alert

An object either lacks a field that an alert cannot do without, or it has an alert in
it, and which of the two does not depend on the shape.  The shapes differ in the custom
data only: a native payload keeps all of it as additional information and fills in a
priority, a flat one takes its fields one by one.

The priority of what an alert creates is nevertheless the same, unless the custom data
has a priority in an object of additional information, which only the flat shape looks
into.  A number or a truth value is read as the same text in both places, and the text
of an array or an object asks for nothing.
-/

namespace Caretaker

open Json Text

/-! ## Priorities of texts -/

theorem Priority.ofText_of_ne {text : String} (notHigh : lower text ≠ "high")
    (notLow : lower text ≠ "low") : Priority.ofText (some text) = .medium := by
  simp only [Priority.ofText, Option.map_some]
  split
  · rename_i same
    exact absurd (Option.some.inj same) notHigh
  · rename_i same
    exact absurd (Option.some.inj same) notLow
  · rfl

/-- The lower-case form of a text that starts with a bracket starts with the bracket. -/
theorem toList_lower_append {bracket : String} {c : Char} (single : bracket.toList = [c])
    (ascii : c.toNat < 128) (rest : String) :
    (lower (bracket ++ rest)).toList = c.toLower :: lowerFrom [c] rest.toList := by
  simp [lower, single, lowerFrom, lowerChar, ascii]

/-- A text that starts with a bracket asks for no priority. -/
theorem Priority.ofText_bracket {bracket : String} {c : Char} (single : bracket.toList = [c])
    (ascii : c.toNat < 128) (notHigh : c.toLower ≠ 'h') (notLow : c.toLower ≠ 'l')
    (rest : String) : Priority.ofText (some (bracket ++ rest)) = .medium := by
  apply Priority.ofText_of_ne
  · intro same
    have heads := congrArg String.toList same
    rw [toList_lower_append single ascii] at heads
    exact notHigh (List.cons.inj heads).1
  · intro same
    have heads := congrArg String.toList same
    rw [toList_lower_append single ascii] at heads
    exact notLow (List.cons.inj heads).1

theorem Priority.ofText_compact_arr (items : List Json) :
    Priority.ofText (some (compact (.arr items))) = .medium := by
  rw [compact, String.append_assoc]
  exact Priority.ofText_bracket (c := '[') rfl (by decide) (by decide) (by decide) _

theorem Priority.ofText_compact_obj (fields : List (String × Json)) :
    Priority.ofText (some (compact (.obj fields))) = .medium := by
  rw [compact, String.append_assoc]
  exact Priority.ofText_bracket (c := '\x7b') rfl (by decide) (by decide) (by decide) _

namespace Payload

/-! ## Fields of an alert -/

/-- The fields that an alert cannot do without, in the order in which they are asked
for. -/
def requiredFields : List String :=
  ["alertId", "alertName", "status", "severity"]

/-- The first of the required fields that an object lacks. -/
def lacking? (fields : Fields) : Option String :=
  requiredFields.find? fun name => (textOf? fields name).isNone

/-- The alert in an object, where a missing text is an empty one. -/
def bareAlert (fields : Fields) : Alert :=
  { alertId := (textOf? fields "alertId").getD ""
    alertName := (textOf? fields "alertName").getD ""
    status := (textOf? fields "status").getD ""
    severity := (textOf? fields "severity").getD ""
    dashboardId := textOf? fields "dashboardId"
    panelId := textOf? fields "panelId"
    ruleUrl := textOf? fields "ruleUrl"
    evaluationTime := textOf? fields "evaluationTime"
    values := ((fields.lookup "values").bind fields?).getD []
    message := textOf? fields "message"
    customData := none }

/-- Reading an alert fails with the first required field that is missing. -/
theorem alertOf_eq (shape : Shape) (fields : Fields) :
    alertOf shape fields = match lacking? fields with
      | some name => .error (.missing shape name)
      | none => .ok (bareAlert fields) := by
  simp only [alertOf, requiredText, lacking?, requiredFields, List.find?_cons, bareAlert]
  cases textOf? fields "alertId" with
  | none => rfl
  | some alertId =>
      cases textOf? fields "alertName" with
      | none => rfl
      | some alertName =>
          cases textOf? fields "status" with
          | none => rfl
          | some status =>
              cases textOf? fields "severity" with
              | none => rfl
              | some severity => rfl

/-- What the native shape makes of the custom data. -/
def nativeCustom (fields : Fields) : Option CustomData :=
  ((fields.lookup "customData").bind fields?).map nativeCustomData

/-- What the flat shape makes of the custom data. -/
def flatCustom (fields : Fields) : Option CustomData :=
  ((fields.lookup "customData").bind fields?).map flatCustomData

/-- Custom data is absent, `null` or an object. -/
def HasPlainCustomData (fields : Fields) : Prop :=
  fields.lookup "customData" = none ∨ fields.lookup "customData" = some .null ∨
    ∃ data, fields.lookup "customData" = some (.obj data)

theorem normalize_native {outer inner : Fields} (headers : has outer "headers" = true)
    (body : outer.lookup "body" = some (.obj inner)) :
    normalize (.obj outer) = match lacking? inner with
      | some name => .error (.missing .native name)
      | none => .ok { bareAlert inner with customData := nativeCustom inner } := by
  have hasBody : has outer "body" = true := by
    rw [has, body]
    rfl
  have detected : Shape.detect outer = .native := by
    simp only [Shape.detect, hasBody, headers, Bool.and_self, if_true]
  simp only [normalize, detected, native, body, alertOf_eq]
  cases lacking? inner <;> rfl

theorem normalize_flat {fields : Fields}
    (flatShape : ¬(has fields "body" = true ∧ has fields "headers" = true))
    (custom : HasPlainCustomData fields) :
    normalize (.obj fields) = match lacking? fields with
      | some name => .error (.missing .flat name)
      | none => .ok { bareAlert fields with customData := flatCustom fields } := by
  have detected : Shape.detect fields = .flat := by
    simp only [Shape.detect, Bool.and_eq_true, flatShape, if_false]
  simp only [normalize, detected, flat, alertOf_eq, flatCustom]
  cases lacking? fields with
  | some name => rfl
  | none =>
      rcases custom with absent | null | ⟨data, given⟩
      · rw [absent]
        rfl
      · rw [null]
        rfl
      · rw [given]
        rfl

/-! ## Priorities of custom data -/

/-- The custom data has a priority inside an object of additional information. -/
def HasInnerPriority (fields : Fields) : Prop :=
  ∃ data info value, fields.lookup "customData" = some (.obj data) ∧
    data.lookup "additionalInfo" = some (.obj info) ∧ info.lookup "priority" = some value ∧
      value ≠ .null

/-- What stands in the place of a priority asks for the same whether it is read as a value
of the additional information, with "medium" in its absence, or as a text beside it. -/
theorem ofText_value_or_scalar (given : Option Json) :
    Priority.ofText ((given.bind valueText?).or (some ((given.bind scalarText?).getD "medium"))) =
      Priority.ofText (given.bind scalarText?) := by
  have medium : Priority.ofText (some "medium") = .medium := by decide +kernel
  cases given with
  | none => exact medium
  | some json =>
      cases json with
      | null => exact medium
      | bool value => cases value <;> rfl
      | num value => rfl
      | str value => rfl
      | arr items => exact Priority.ofText_compact_arr items
      | obj fields => exact Priority.ofText_compact_obj fields

theorem priorityText?_flat {fields data : Fields} (given : fields.lookup "customData" = some (.obj data))
    (noInner : ¬HasInnerPriority fields) :
    (flatCustomData data).priorityText? = (data.lookup "priority").bind scalarText? := by
  have silent : ((((data.lookup "additionalInfo").bind fields?).getD []).lookup "priority").bind
      valueText? = none := by
    cases located : data.lookup "additionalInfo" with
    | none => rfl
    | some json =>
        cases json with
        | obj info =>
            show (info.lookup "priority").bind valueText? = none
            cases inner : info.lookup "priority" with
            | none => rfl
            | some value =>
                have isNull : value = .null := Classical.byContradiction fun other =>
                  noInner ⟨data, info, value, given, located, inner, other⟩
                rw [isNull]
                rfl
        | _ => rfl
  simp only [CustomData.priorityText?, flatCustomData, silent, Option.none_or]

/-- Both shapes of the custom data ask for the same priority. -/
theorem ofText_custom {fields : Fields} (noInner : ¬HasInnerPriority fields) :
    Priority.ofText ((nativeCustom fields).bind CustomData.priorityText?) =
      Priority.ofText ((flatCustom fields).bind CustomData.priorityText?) := by
  rw [nativeCustom, flatCustom]
  cases given : fields.lookup "customData" with
  | none => rfl
  | some json =>
      cases json with
      | obj data =>
          show Priority.ofText (nativeCustomData data).priorityText? =
            Priority.ofText (flatCustomData data).priorityText?
          rw [priorityText?_flat given noInner]
          exact ofText_value_or_scalar _
      | _ => rfl

/-- Both shapes of the custom data name the same workflow. -/
theorem workflowId_custom (fields : Fields) :
    (nativeCustom fields).bind CustomData.workflowId =
      (flatCustom fields).bind CustomData.workflowId := by
  rw [nativeCustom, flatCustom]
  cases (fields.lookup "customData").bind fields? <;> rfl

/-! ## The shapes compared -/

/-- The alerts agree in everything but their custom data, and in the workflow that it
names. -/
structure SameAlert (a b : Alert) : Prop where
  rest : b = { a with customData := b.customData }
  workflowId : a.customData.bind CustomData.workflowId = b.customData.bind CustomData.workflowId

/-- The message says which field is meant. -/
def Error.Names (error : Error) (field : String) : Prop :=
  ∃ before after, error.message = before ++ field ++ after

theorem names_missing (shape : Shape) (field : String) : (Error.missing shape field).Names field := by
  cases shape with
  | native => exact ⟨_, _, rfl⟩
  | flat => exact ⟨_, _, rfl⟩

/-- An object that is no native payload itself says the same alone and in the body of a
native payload: both have the same alert in them, with the same priority unless the
custom data has one inside its additional information; or they lack the same field. -/
theorem shapes_agree {outer inner : Fields}
    (flatShape : ¬(has inner "body" = true ∧ has inner "headers" = true))
    (custom : HasPlainCustomData inner) (headers : has outer "headers" = true)
    (body : outer.lookup "body" = some (.obj inner)) :
    (∃ native flat, normalize (.obj outer) = .ok native ∧ normalize (.obj inner) = .ok flat ∧
        SameAlert native flat ∧ (¬HasInnerPriority inner → native.priority = flat.priority)) ∨
      ∃ field ∈ requiredFields, normalize (.obj outer) = .error (.missing .native field) ∧
        normalize (.obj inner) = .error (.missing .flat field) ∧
        (Error.missing .native field).Names field ∧ (Error.missing .flat field).Names field := by
  rw [normalize_native headers body, normalize_flat flatShape custom]
  cases lacks : lacking? inner with
  | some field =>
      exact .inr ⟨field, List.mem_of_find?_eq_some lacks, rfl, rfl, names_missing .native field,
        names_missing .flat field⟩
  | none =>
      exact .inl ⟨_, _, rfl, rfl, ⟨rfl, workflowId_custom inner⟩, fun noInner => ofText_custom noInner⟩

/-- An alert with a number for its workflow, a priority in capitals, and additional
information that leaves the priority open. -/
def pumpAlert : Fields :=
  [("alertId", .str "a1"), ("alertName", .str "Pump"), ("status", .str "firing"),
    ("severity", .bool true), ("headers", .null),
    ("customData", .obj [("workflowId", .num (.int 42)), ("priority", .str "HIGH"),
      ("additionalInfo", .obj [("priority", .null), ("site", .str "B2")])])]

/-- The alert in the body of a native payload. -/
def pumpCall : Fields :=
  [("headers", .obj []), ("query", .null), ("body", .obj pumpAlert)]

theorem shapes_agree_pump :
    ∃ native flat, normalize (.obj pumpCall) = .ok native ∧ normalize (.obj pumpAlert) = .ok flat ∧
      SameAlert native flat ∧ native.priority = flat.priority := by
  have noInner : ¬HasInnerPriority pumpAlert := by
    rintro ⟨data, info, value, given, located, inner, notNull⟩
    cases given
    cases located
    cases inner
    exact notNull rfl
  have complete : lacking? pumpAlert = none := by decide +kernel
  have agree := @shapes_agree pumpCall pumpAlert (by decide)
    (.inr (.inr ⟨_, rfl⟩)) (by decide) rfl
  rcases agree with ⟨native, flat, called, alone, same, priorities⟩ | ⟨field, -, -, fails, -⟩
  · exact ⟨native, flat, called, alone, same, priorities noInner⟩
  · rw [normalize_flat (by decide) (.inr (.inr ⟨_, rfl⟩)), complete] at fails
    cases fails

end Payload

end Caretaker
