import Caretaker.Proofs.Alert.Shapes
import Caretaker.Proofs.Json.Records
import Caretaker.Workflow.Selection

/-!
# The canonical form of an alert

The alert in a payload has no blank texts.  Written as JSON, such an alert is a flat
payload, and the alert in that payload is the alert itself: its texts are taken over as
they are, its custom data has all three of its fields written out, and a priority that
was filled in is now given.  So normalisation leads to a form that it does not change any
more, whichever of the two shapes a payload had.
-/

namespace Caretaker

open Json Text

/-! ## Alerts without blank texts -/

/-- The text is not blank, if there is one. -/
def NotBlank (text : Option String) : Prop :=
  ∀ given ∈ text, isBlank given = false

/-- An alert none of whose texts is blank. -/
structure Alert.Legible (alert : Alert) : Prop where
  alertId : isBlank alert.alertId = false
  alertName : isBlank alert.alertName = false
  status : isBlank alert.status = false
  severity : isBlank alert.severity = false
  dashboardId : NotBlank alert.dashboardId
  panelId : NotBlank alert.panelId
  ruleUrl : NotBlank alert.ruleUrl
  evaluationTime : NotBlank alert.evaluationTime
  message : NotBlank alert.message

namespace Payload

/-- A text that is read from a field is not blank. -/
theorem notBlank_textOf? (fields : Fields) (name : String) : NotBlank (textOf? fields name) := by
  intro text read
  have kept := (Option.filter_eq_some_iff.mp read).2
  simpa using kept

theorem isBlank_getD_textOf? {fields : Fields} {name : String}
    (present : (textOf? fields name).isNone = false) :
    isBlank ((textOf? fields name).getD "") = false := by
  cases read : textOf? fields name with
  | none => simp [read] at present
  | some text => exact notBlank_textOf? fields name text read

theorem present_of_lacking?_eq_none {fields : Fields} (complete : lacking? fields = none)
    {name : String} (required : name ∈ requiredFields) : (textOf? fields name).isNone = false :=
  Bool.eq_false_iff.mpr (List.find?_eq_none.mp complete name required)

/-- An object that lacks nothing has a legible alert in it. -/
theorem legible_bareAlert {fields : Fields} (complete : lacking? fields = none)
    (custom : Option CustomData) : ({ bareAlert fields with customData := custom } : Alert).Legible where
  alertId := isBlank_getD_textOf? (present_of_lacking?_eq_none complete (by decide))
  alertName := isBlank_getD_textOf? (present_of_lacking?_eq_none complete (by decide))
  status := isBlank_getD_textOf? (present_of_lacking?_eq_none complete (by decide))
  severity := isBlank_getD_textOf? (present_of_lacking?_eq_none complete (by decide))
  dashboardId := notBlank_textOf? fields "dashboardId"
  panelId := notBlank_textOf? fields "panelId"
  ruleUrl := notBlank_textOf? fields "ruleUrl"
  evaluationTime := notBlank_textOf? fields "evaluationTime"
  message := notBlank_textOf? fields "message"

/-- Reading an alert succeeds with the legible alert of an object that lacks nothing. -/
theorem alertOf_eq_ok {shape : Shape} {fields : Fields} {alert : Alert}
    (read : alertOf shape fields = .ok alert) :
    lacking? fields = none ∧ alert = bareAlert fields := by
  rw [alertOf_eq] at read
  cases lacks : lacking? fields with
  | some name =>
      rw [lacks] at read
      cases read
  | none =>
      rw [lacks] at read
      cases read
      exact ⟨rfl, rfl⟩

/-- The alert in a payload of either shape is legible. -/
theorem legible_of_normalize {payload : Json} {alert : Alert}
    (normal : normalize payload = .ok alert) : alert.Legible := by
  cases payload with
  | obj fields =>
      simp only [normalize] at normal
      split at normal
      · simp only [native] at normal
        split at normal
        · rename_i body _
          cases read : alertOf .native body with
          | error error =>
              rw [read] at normal
              cases normal
          | ok bare =>
              obtain ⟨complete, rfl⟩ := alertOf_eq_ok read
              rw [read] at normal
              cases normal
              exact legible_bareAlert complete _
        · cases normal
      · simp only [flat] at normal
        cases read : alertOf .flat fields with
        | error error =>
            rw [read] at normal
            cases normal
        | ok bare =>
            obtain ⟨complete, rfl⟩ := alertOf_eq_ok read
            rw [read] at normal
            simp only [bind, Except.bind] at normal
            split at normal
            · cases normal
              exact legible_bareAlert complete _
            · cases normal
              exact legible_bareAlert complete _
            · cases normal
              exact legible_bareAlert complete _
            · cases normal
  | _ => cases normal

/-! ## The written form read again -/

/-- What an alert writes under its names. -/
def entries (alert : Alert) : List (String × Option Json) :=
  [put "alertId" alert.alertId, put "alertName" alert.alertName, put "status" alert.status,
    put "severity" alert.severity, putSome "dashboardId" alert.dashboardId,
    putSome "panelId" alert.panelId, putSome "ruleUrl" alert.ruleUrl,
    putSome "evaluationTime" alert.evaluationTime, ("values", some (.obj alert.values)),
    putSome "message" alert.message, putSome "customData" alert.customData]

/-- What custom data writes under its names. -/
def customEntries (data : CustomData) : List (String × Option Json) :=
  [putSome "workflowId" data.workflowId, putSome "priority" data.priority,
    ("additionalInfo", some (.obj data.additionalInfo))]

theorem encode_alert (alert : Alert) : encode alert = .obj (present (entries alert)) :=
  record_eq _

theorem lookup_entries (alert : Alert) (name : String) :
    (present (entries alert)).lookup name = ((entries alert).lookup name).join :=
  lookup_record (by simp [entries, put, putSome]) name

theorem lookup_customEntries (data : CustomData) (name : String) :
    (present (customEntries data)).lookup name = ((customEntries data).lookup name).join :=
  lookup_record (by simp [customEntries, putSome]) name

theorem textOf?_eq_some {fields : Fields} {name text : String}
    (given : fields.lookup name = some (.str text)) (notBlank : isBlank text = false) :
    textOf? fields name = some text := by
  rw [textOf?, given]
  simp [scalarText?, Option.filter, notBlank]

theorem textOf?_eq {fields : Fields} {name : String} {text : Option String}
    (given : fields.lookup name = text.map .str) (notBlank : NotBlank text) :
    textOf? fields name = text := by
  cases text with
  | none =>
      rw [textOf?, given]
      rfl
  | some text => exact textOf?_eq_some given (notBlank text rfl)

theorem scalarText?_encode (text : Option String) : (text.map encode).bind scalarText? = text := by
  cases text <;> rfl

/-- Custom data that was written is read again as it was. -/
theorem flatCustomData_entries (data : CustomData) :
    flatCustomData (present (customEntries data)) = data := by
  rw [flatCustomData, lookup_customEntries, lookup_customEntries, lookup_customEntries]
  show CustomData.mk ((data.workflowId.map encode).bind scalarText?)
    ((data.priority.map encode).bind scalarText?) data.additionalInfo = data
  rw [scalarText?_encode, scalarText?_encode]

/-- The written form of a legible alert lacks nothing and has the alert in it. -/
theorem bareAlert_entries {alert : Alert} (legible : alert.Legible) :
    lacking? (present (entries alert)) = none ∧
      bareAlert (present (entries alert)) = { alert with customData := none } := by
  have alertId := textOf?_eq_some (lookup_entries alert "alertId") legible.alertId
  have alertName := textOf?_eq_some (lookup_entries alert "alertName") legible.alertName
  have status := textOf?_eq_some (lookup_entries alert "status") legible.status
  have severity := textOf?_eq_some (lookup_entries alert "severity") legible.severity
  have dashboardId := textOf?_eq (lookup_entries alert "dashboardId") legible.dashboardId
  have panelId := textOf?_eq (lookup_entries alert "panelId") legible.panelId
  have ruleUrl := textOf?_eq (lookup_entries alert "ruleUrl") legible.ruleUrl
  have evaluationTime := textOf?_eq (lookup_entries alert "evaluationTime") legible.evaluationTime
  have message := textOf?_eq (lookup_entries alert "message") legible.message
  have values : (((present (entries alert)).lookup "values").bind fields?).getD [] = alert.values := by
    rw [lookup_entries]
    rfl
  constructor
  · simp [lacking?, requiredFields, alertId, alertName, status, severity]
  · simp only [bareAlert, alertId, alertName, status, severity, dashboardId, panelId, ruleUrl,
      evaluationTime, message, values, Option.getD_some]

/-- The written form of an alert has its custom data in the flat shape. -/
theorem flatCustom_entries (alert : Alert) :
    HasPlainCustomData (present (entries alert)) ∧
      flatCustom (present (entries alert)) = alert.customData := by
  have given : (present (entries alert)).lookup "customData" = alert.customData.map encode :=
    lookup_entries alert "customData"
  rw [HasPlainCustomData, flatCustom, given]
  cases alert.customData with
  | none => exact ⟨.inl rfl, rfl⟩
  | some data => exact ⟨.inr (.inr ⟨_, rfl⟩), congrArg some (flatCustomData_entries data)⟩

/-- A legible alert is read from its own written form. -/
theorem normalize_encode {alert : Alert} (legible : alert.Legible) :
    normalize (encode alert) = .ok alert := by
  obtain ⟨complete, bare⟩ := bareAlert_entries legible
  obtain ⟨custom, same⟩ := flatCustom_entries alert
  have noBody : has (present (entries alert)) "body" = false := by
    rw [has, lookup_entries]
    rfl
  rw [encode_alert, normalize_flat (by simp [noBody]) custom, complete]
  simp only [bare, same]

/-- The alert in a payload, written as JSON and handed in again, is the alert that it was;
so the second time it gives the same priority, and sets off the same workflows. -/
theorem normalize_again {payload : Json} {alert : Alert} (normal : normalize payload = .ok alert) :
    normalize (encode alert) = .ok alert ∧
      ∀ again, normalize (encode alert) = .ok again → again.priority = alert.priority ∧
        ∀ w : Workflow, w.matchesSubject (.alert again) = w.matchesSubject (.alert alert) := by
  have same := normalize_encode (legible_of_normalize normal)
  refine ⟨same, fun again read => ?_⟩
  rw [same] at read
  cases read
  exact ⟨rfl, fun _ => rfl⟩

/-- The alert in a native payload is not changed by being handed in again, although its
custom data comes in the other shape then. -/
theorem normalize_again_pump :
    ∃ alert, normalize (.obj pumpCall) = .ok alert ∧ normalize (encode alert) = .ok alert ∧
      ∃ data, alert.customData = some data ∧ data.additionalInfo.length = 3 := by
  have normal := @normalize_native pumpCall pumpAlert (by decide) rfl
  have complete : lacking? pumpAlert = none := by decide +kernel
  rw [complete] at normal
  exact ⟨_, normal, (normalize_again normal).1, _, rfl, rfl⟩

end Payload

end Caretaker
