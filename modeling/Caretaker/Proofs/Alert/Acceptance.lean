import Caretaker.Proofs.Alert.Shapes
import Caretaker.Proofs.Desk.Run
import Caretaker.Webhook.Gateway

/-!
# Which payloads are accepted

A payload is accepted exactly when it is an object, its alert is looked for in an object,
the four required fields have a text there, and, in the flat shape, the custom data is in
order.  The alert then has the texts as they stand.

Everything else is refused, and what is reported is the first fault: that there is no
object to look at, then the required fields in their order, then the custom data.  Only
where a shape was detected can the report name it.
-/

namespace Caretaker.Payload

open Json Text

/-! ## Texts of fields -/

/-- The value stands for the text. -/
inductive Says : Json → String → Prop where
  | str (text : String) : Says (.str text) text
  | num (n : Number) : Says (.num n) n.text
  | yes : Says (.bool true) "true"
  | no : Says (.bool false) "false"

/-- The field stands for the text, and not all of it is white space. -/
def Gives (fields : Fields) (name text : String) : Prop :=
  ∃ json, fields.lookup name = some json ∧ Says json text ∧
    ∃ c ∈ text.toList, isWhiteSpace c = false

theorem scalarText?_eq_some_iff {json : Json} {text : String} :
    scalarText? json = some text ↔ Says json text := by
  constructor
  · intro stands
    cases json with
    | str s =>
        cases stands
        exact .str text
    | num n =>
        cases stands
        exact .num n
    | bool value =>
        cases value with
        | false =>
            cases stands
            exact .no
        | true =>
            cases stands
            exact .yes
    | _ => cases stands
  · intro stands
    cases stands <;> rfl

/-- What is read from a field is what the field gives, as it stands. -/
theorem textOf?_eq_some_iff {fields : Fields} {name text : String} :
    textOf? fields name = some text ↔ Gives fields name text := by
  have notBlank : (!isBlank text) = true ↔ ∃ c ∈ text.toList, isWhiteSpace c = false := by
    rw [isBlank, List.not_all_eq_any_not, List.any_eq_true]
    simp only [Bool.not_eq_true']
  simp only [textOf?, Option.filter_eq_some_iff, Option.bind_eq_some_iff, scalarText?_eq_some_iff,
    notBlank]
  constructor
  · rintro ⟨⟨json, located, stands⟩, visible⟩
    exact ⟨json, located, stands, visible⟩
  · rintro ⟨json, located, stands, visible⟩
    exact ⟨⟨json, located, stands⟩, visible⟩

theorem textOf?_eq_none_iff {fields : Fields} {name : String} :
    textOf? fields name = none ↔ ∀ text, ¬Gives fields name text := by
  simp only [Option.eq_none_iff_forall_ne_some, ne_eq, textOf?_eq_some_iff]

/-- A field that an alert cannot do without is given. -/
def IsGiven (fields : Fields) (name : String) : Prop :=
  ∃ text, Gives fields name text

theorem isGiven_iff {fields : Fields} {name : String} :
    IsGiven fields name ↔ (textOf? fields name).isNone = false := by
  cases read : textOf? fields name with
  | none => simpa [IsGiven] using textOf?_eq_none_iff.mp read
  | some text => simpa using ⟨text, textOf?_eq_some_iff.mp read⟩

/-! ## Where the alert is looked for -/

/-- The shape of a payload, and the value in which its alert is looked for. -/
inductive Places : Json → Shape → Json → Prop where
  | native {top : Fields} {body : Json} (headers : has top "headers" = true)
      (inBody : top.lookup "body" = some body) : Places (.obj top) .native body
  | flat {top : Fields} (notNative : ¬(has top "body" = true ∧ has top "headers" = true)) :
      Places (.obj top) .flat (.obj top)

/-- A payload is accepted when its alert is looked for in an object that gives the required
fields, and has nothing but an object for custom data. -/
def Acceptable (payload : Json) : Prop :=
  ∃ shape fields, Places payload shape (.obj fields) ∧
    (∀ name ∈ requiredFields, IsGiven fields name) ∧ (shape = .flat → HasPlainCustomData fields)

/-- The texts of the alert are those of the fields. -/
structure Transcribes (fields : Fields) (alert : Alert) : Prop where
  alertId : Gives fields "alertId" alert.alertId
  alertName : Gives fields "alertName" alert.alertName
  status : Gives fields "status" alert.status
  severity : Gives fields "severity" alert.severity
  dashboardId : ∀ text, alert.dashboardId = some text ↔ Gives fields "dashboardId" text
  panelId : ∀ text, alert.panelId = some text ↔ Gives fields "panelId" text
  ruleUrl : ∀ text, alert.ruleUrl = some text ↔ Gives fields "ruleUrl" text
  evaluationTime : ∀ text, alert.evaluationTime = some text ↔ Gives fields "evaluationTime" text
  message : ∀ text, alert.message = some text ↔ Gives fields "message" text

/-- The first fault of a payload, and the report on it. -/
inductive Faulty : Json → String → Prop where
  | notObject {payload : Json} (noObject : ∀ fields, payload ≠ .obj fields) :
      Faulty payload "Invalid webhook payload: expected a JSON object"
  | body {payload value : Json} (place : Places payload .native value)
      (noObject : ∀ fields, value ≠ .obj fields) :
      Faulty payload "Invalid Grafana native webhook format: body must be a JSON object"
  | native {payload : Json} {fields : Fields} {before after : List String} {name : String}
      (place : Places payload .native (.obj fields)) (order : requiredFields = before ++ name :: after)
      (given : ∀ earlier ∈ before, IsGiven fields earlier) (missing : ¬IsGiven fields name) :
      Faulty payload ("Invalid Grafana native webhook format: " ++ name ++
        " is required in Grafana webhook body")
  | flat {payload : Json} {fields : Fields} {before after : List String} {name : String}
      (place : Places payload .flat (.obj fields)) (order : requiredFields = before ++ name :: after)
      (given : ∀ earlier ∈ before, IsGiven fields earlier) (missing : ¬IsGiven fields name) :
      Faulty payload ("Invalid Grafana webhook format: " ++ name ++ " is required")
  | customData {payload : Json} {fields : Fields} (place : Places payload .flat (.obj fields))
      (given : ∀ name ∈ requiredFields, IsGiven fields name)
      (notPlain : ¬HasPlainCustomData fields) :
      Faulty payload "Invalid Grafana webhook format: customData must be a JSON object"

/-! ## The required fields -/

theorem lacking?_eq_none_iff {fields : Fields} :
    lacking? fields = none ↔ ∀ name ∈ requiredFields, IsGiven fields name := by
  simp only [lacking?, List.find?_eq_none, isGiven_iff, Bool.not_eq_true]

/-- The field reported is the first one that is not given. -/
theorem lacking?_eq_some_iff {fields : Fields} {name : String} :
    lacking? fields = some name ↔ ¬IsGiven fields name ∧ ∃ before after,
      requiredFields = before ++ name :: after ∧ ∀ earlier ∈ before, IsGiven fields earlier := by
  simp only [lacking?, List.find?_eq_some_iff_append, isGiven_iff, Bool.not_eq_false,
    Bool.not_eq_true']

theorem gives_getD {fields : Fields} {name : String} (given : IsGiven fields name) :
    Gives fields name ((textOf? fields name).getD "") := by
  obtain ⟨text, gives⟩ := given
  rw [textOf?_eq_some_iff.mpr gives]
  exact gives

/-- The alert in an object that gives the required fields has the texts as they stand,
whatever is made of the custom data. -/
theorem transcribes_bareAlert {fields : Fields}
    (given : ∀ name ∈ requiredFields, IsGiven fields name) (custom : Option CustomData) :
    Transcribes fields { bareAlert fields with customData := custom } where
  alertId := gives_getD (given _ (by decide))
  alertName := gives_getD (given _ (by decide))
  status := gives_getD (given _ (by decide))
  severity := gives_getD (given _ (by decide))
  dashboardId _ := textOf?_eq_some_iff
  panelId _ := textOf?_eq_some_iff
  ruleUrl _ := textOf?_eq_some_iff
  evaluationTime _ := textOf?_eq_some_iff
  message _ := textOf?_eq_some_iff

/-! ## Accepted and refused -/

theorem Places.detect {top : Fields} {shape : Shape} {value : Json}
    (place : Places (.obj top) shape value) : Shape.detect top = shape := by
  cases place with
  | native headers inBody =>
      have hasBody : has top "body" = true := Option.isSome_iff_exists.mpr ⟨value, inBody⟩
      simp only [Shape.detect, hasBody, headers, Bool.and_self, if_true]
  | flat notNative => simp only [Shape.detect, Bool.and_eq_true, notNative, if_false]

theorem normalize_body {top : Fields} {value : Json} (headers : has top "headers" = true)
    (inBody : top.lookup "body" = some value) (noObject : ∀ fields, value ≠ .obj fields) :
    normalize (.obj top) = .error .bodyNotObject := by
  simp only [normalize, (Places.native headers inBody).detect, native, inBody]
  cases value with
  | obj fields => exact absurd rfl (noObject fields)
  | _ => rfl

theorem normalize_flat_not_plain {fields : Fields} (place : Places (.obj fields) .flat (.obj fields))
    (notPlain : ¬HasPlainCustomData fields) :
    normalize (.obj fields) = match lacking? fields with
      | some name => .error (.missing .flat name)
      | none => .error .customDataNotObject := by
  simp only [normalize, place.detect, flat, alertOf_eq]
  cases lacking? fields with
  | some name => rfl
  | none =>
      cases located : fields.lookup "customData" with
      | none => exact absurd (.inl located) notPlain
      | some json =>
          cases json with
          | null => exact absurd (.inr (.inl located)) notPlain
          | obj data => exact absurd (.inr (.inr ⟨data, located⟩)) notPlain
          | _ => rfl

/-- A flat payload that lacks a field is refused for it, whatever its custom data. -/
theorem normalize_flat_lacking {fields : Fields} {name : String}
    (place : Places (.obj fields) .flat (.obj fields)) (lacks : lacking? fields = some name) :
    normalize (.obj fields) = .error (.missing .flat name) := by
  by_cases plain : HasPlainCustomData fields
  · cases place with
    | flat notNative => rw [normalize_flat notNative plain, lacks]
  · rw [normalize_flat_not_plain place plain, lacks]

/-- An acceptable payload has an alert. -/
theorem normalize_of_acceptable {payload : Json} (acceptable : Acceptable payload) :
    ∃ alert, normalize payload = .ok alert := by
  obtain ⟨shape, fields, place, given, custom⟩ := acceptable
  have complete := lacking?_eq_none_iff.mpr given
  cases place with
  | native headers inBody => exact ⟨_, by rw [normalize_native headers inBody, complete]⟩
  | flat notNative => exact ⟨_, by rw [normalize_flat notNative (custom rfl), complete]⟩

/-- A faulty payload is refused with the report on its first fault. -/
theorem normalize_of_faulty {payload : Json} {report : String} (faulty : Faulty payload report) :
    ∃ error, normalize payload = .error error ∧ error.message = report := by
  cases faulty with
  | notObject noObject =>
      refine ⟨.notObject, ?_, rfl⟩
      cases payload with
      | obj fields => exact absurd rfl (noObject fields)
      | _ => rfl
  | body place noObject =>
      refine ⟨.bodyNotObject, ?_, rfl⟩
      cases place with
      | native headers inBody => exact normalize_body headers inBody noObject
  | @native _ _ _ name place order given missing =>
      refine ⟨.missing .native name, ?_, rfl⟩
      cases place with
      | native headers inBody =>
          rw [normalize_native headers inBody,
            lacking?_eq_some_iff.mpr ⟨missing, _, _, order, given⟩]
  | @flat _ _ _ name place order given missing =>
      refine ⟨.missing .flat name, ?_, rfl⟩
      cases place with
      | flat notNative =>
          exact normalize_flat_lacking (.flat notNative)
            (lacking?_eq_some_iff.mpr ⟨missing, _, _, order, given⟩)
  | customData place given notPlain =>
      refine ⟨.customDataNotObject, ?_, rfl⟩
      cases place with
      | flat notNative =>
          rw [normalize_flat_not_plain (.flat notNative) notPlain, lacking?_eq_none_iff.mpr given]

/-- Every payload is acceptable, or has a first fault. -/
theorem acceptable_or_faulty (payload : Json) :
    Acceptable payload ∨ ∃ report, Faulty payload report := by
  by_cases isObject : ∃ top, payload = .obj top
  · obtain ⟨top, rfl⟩ := isObject
    by_cases nativeShape : has top "body" = true ∧ has top "headers" = true
    · obtain ⟨hasBody, headers⟩ := nativeShape
      obtain ⟨value, inBody⟩ := Option.isSome_iff_exists.mp hasBody
      have place : Places (.obj top) .native value := .native headers inBody
      by_cases inner : ∃ fields, value = .obj fields
      · obtain ⟨fields, rfl⟩ := inner
        cases lacks : lacking? fields with
        | none =>
            exact .inl ⟨.native, fields, place, lacking?_eq_none_iff.mp lacks, by simp⟩
        | some name =>
            obtain ⟨missing, before, after, order, given⟩ := lacking?_eq_some_iff.mp lacks
            exact .inr ⟨_, .native place order given missing⟩
      · exact .inr ⟨_, .body place fun fields same => inner ⟨fields, same⟩⟩
    · have place : Places (.obj top) .flat (.obj top) := .flat nativeShape
      cases lacks : lacking? top with
      | some name =>
          obtain ⟨missing, before, after, order, given⟩ := lacking?_eq_some_iff.mp lacks
          exact .inr ⟨_, .flat place order given missing⟩
      | none =>
          have given := lacking?_eq_none_iff.mp lacks
          by_cases plain : HasPlainCustomData top
          · exact .inl ⟨.flat, top, place, given, fun _ => plain⟩
          · exact .inr ⟨_, .customData place given plain⟩
  · exact .inr ⟨_, .notObject fun fields same => isObject ⟨fields, same⟩⟩

/-- The report on a fault starts with the label of the shape, where there is one. -/
theorem Faulty.labelled {payload value : Json} {report : String} {shape : Shape}
    (faulty : Faulty payload report) (place : Places payload shape value) :
    ∃ detail, report = shape.label ++ ": " ++ detail := by
  have sameShape {other : Shape} {value' : Json} (place' : Places payload other value') :
      shape = other := by
    cases place with
    | native headers inBody => exact (Places.native headers inBody).detect.symm.trans place'.detect
    | flat notNative => exact (Places.flat notNative).detect.symm.trans place'.detect
  cases faulty with
  | notObject noObject => cases place <;> exact absurd rfl (noObject _)
  | body place' => exact ⟨"body must be a JSON object", by rw [sameShape place']; rfl⟩
  | @native _ _ _ name place' =>
      refine ⟨name ++ " is required in Grafana webhook body", ?_⟩
      rw [sameShape place', ← String.append_assoc]
      rfl
  | @flat _ _ _ name place' =>
      refine ⟨name ++ " is required", ?_⟩
      rw [sameShape place', ← String.append_assoc]
      rfl
  | customData place' => exact ⟨"customData must be a JSON object", by rw [sameShape place']; rfl⟩

theorem normalize_eq_ok_iff {payload : Json} :
    (∃ alert, normalize payload = .ok alert) ↔ Acceptable payload := by
  constructor
  · rintro ⟨alert, accepted⟩
    rcases acceptable_or_faulty payload with acceptable | ⟨report, faulty⟩
    · exact acceptable
    · obtain ⟨error, refused, -⟩ := normalize_of_faulty faulty
      rw [accepted] at refused
      cases refused
  · exact normalize_of_acceptable

theorem normalize_eq_error_iff {payload : Json} {report : String} :
    (∃ error, normalize payload = .error error ∧ error.message = report) ↔
      Faulty payload report := by
  constructor
  · rintro ⟨error, refused, rfl⟩
    rcases acceptable_or_faulty payload with acceptable | ⟨report, faulty⟩
    · obtain ⟨alert, accepted⟩ := normalize_of_acceptable acceptable
      rw [accepted] at refused
      cases refused
    · obtain ⟨error', refused', rfl⟩ := normalize_of_faulty faulty
      rw [refused'] at refused
      cases refused
      exact faulty
  · exact normalize_of_faulty

/-- The alert of an accepted payload has the texts as they stand. -/
theorem transcribes_of_normalize {payload : Json} {shape : Shape} {fields : Fields} {alert : Alert}
    (place : Places payload shape (.obj fields)) (accepted : normalize payload = .ok alert) :
    Transcribes fields alert := by
  cases place with
  | native headers inBody =>
      rw [normalize_native headers inBody] at accepted
      cases lacks : lacking? fields with
      | some name => simp [lacks] at accepted
      | none =>
          rw [lacks] at accepted
          cases accepted
          exact transcribes_bareAlert (lacking?_eq_none_iff.mp lacks) _
  | flat notNative =>
      have place : Places (.obj fields) .flat (.obj fields) := .flat notNative
      cases lacks : lacking? fields with
      | some name => simp [normalize_flat_lacking place lacks] at accepted
      | none =>
          by_cases plain : HasPlainCustomData fields
          · rw [normalize_flat notNative plain, lacks] at accepted
            cases accepted
            exact transcribes_bareAlert (lacking?_eq_none_iff.mp lacks) _
          · simp [normalize_flat_not_plain place plain, lacks] at accepted

/-- What becomes of a payload. -/
structure JudgedExactly (payload : Json) : Prop where
  /-- It has an alert exactly when it is acceptable. -/
  accepted : (∃ alert, normalize payload = .ok alert) ↔ Acceptable payload
  /-- The alert has the texts of the fields as they stand. -/
  transcribed : ∀ {shape fields alert}, Places payload shape (.obj fields) →
    normalize payload = .ok alert → Transcribes fields alert
  /-- It is refused exactly with the report on its first fault. -/
  refused : ∀ report, (∃ error, normalize payload = .error error ∧ error.message = report) ↔
    Faulty payload report
  /-- The report starts with the label of the shape that was detected. -/
  labelled : ∀ {shape value error}, Places payload shape value → normalize payload = .error error →
    ∃ detail, error.message = shape.label ++ ": " ++ detail
  /-- A call with the payload is told the report, as a fault of what it sent. -/
  reported : ∀ {bytes error}, parse? bytes = some payload → normalize payload = .error error →
    ∀ desk, (Gateway.normalize bytes).run desk = (.failed (.validation error.message), desk)

/-- Exactly the acceptable payloads are accepted, with their texts as they stand; every
other one is refused for its first fault. -/
theorem judged_exactly (payload : Json) : JudgedExactly payload where
  accepted := normalize_eq_ok_iff
  transcribed := transcribes_of_normalize
  refused _ := normalize_eq_error_iff
  labelled place refused := (normalize_eq_error_iff.mp ⟨_, refused, rfl⟩).labelled place
  reported parsed refused desk := by
    rw [Gateway.normalize, normalizeBytes, parsed]
    dsimp only
    rw [refused]
    rfl

/-- What is no object has no shape, and the report on it names none. -/
theorem null_without_label :
    ¬∀ payload, (∃ alert, normalize payload = .ok alert) ∨ ∃ error shape detail,
      normalize payload = .error error ∧ error.message = Shape.label shape ++ ": " ++ detail := by
  intro always
  rcases always .null with ⟨alert, accepted⟩ | ⟨error, shape, detail, refused, labelled⟩
  · cases accepted
  · cases refused
    have letters := congrArg String.toList labelled
    cases shape <;> simp [Error.message, Shape.label] at letters

end Caretaker.Payload
