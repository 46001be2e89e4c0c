import Caretaker.Alert.Basic
import Caretaker.Company
import Caretaker.Proofs.Json.TextForms
import Caretaker.Webhook.Config
import Caretaker.Workflow.Basic

/-!
# The wire forms of the library

A record is restored because its value can be built from the fields that are written of
it.  Each proof takes the record apart into its fields and finds each of them under its
name among what is written.  The depth of its text is one if all its fields are flat, and is
found field by field otherwise; only alerts need another argument, since their senders
choose how deep they are.
-/

namespace Caretaker

open Json Text

/-! ## Companies, users and webhooks -/

instance : Numbered Company := ⟨fun _ => []⟩
instance : Numberless Company := ⟨fun _ => rfl⟩
instance : Numbered User := ⟨fun _ => []⟩
instance : Numberless User := ⟨fun _ => rfl⟩
instance : Numbered WebhookConfig := ⟨fun _ => []⟩
instance : Numberless WebhookConfig := ⟨fun _ => rfl⟩
instance : Numbered WebhookReply := ⟨fun _ => []⟩
instance : Numberless WebhookReply := ⟨fun _ => rfl⟩

instance : LawfulWire Company := by
  refine .of_record rfl (fun _ => rfl) (fun _ => by simp [put]) fun company _ distinct => ?_
  cases company
  repeat' first | with_reducible apply build_seq | with_reducible apply build_map
  all_goals exact build_required distinct rfl numberless

instance : LawfulText Company 1 :=
  .of_flat (fun _ => rfl) fun _ => by simp [put]

instance : LawfulWire User := by
  refine .of_record rfl (fun _ => rfl) (fun _ => by simp [put]) fun user _ distinct => ?_
  cases user
  repeat' first | with_reducible apply build_seq | with_reducible apply build_map
  all_goals exact build_required distinct rfl numberless

instance : LawfulText User 1 :=
  .of_flat (fun _ => rfl) fun _ => by simp [put]

instance : LawfulWire WebhookConfig := by
  refine .of_record rfl (fun _ => rfl) (fun _ => by simp [put]) fun config _ distinct => ?_
  cases config
  repeat' first | with_reducible apply build_seq | with_reducible apply build_map
  all_goals exact build_required distinct rfl numberless

instance : LawfulText WebhookConfig 1 :=
  .of_flat (fun _ => rfl) fun _ => by simp [put]

instance : LawfulWire WebhookReply := by
  refine .of_record rfl (fun _ => rfl) (fun _ => by simp [put]) fun reply _ distinct => ?_
  cases reply
  repeat' first | with_reducible apply build_seq | with_reducible apply build_map
  all_goals exact build_required distinct rfl numberless

instance : LawfulText WebhookReply 1 :=
  .of_flat (fun _ => rfl) fun _ => by simp [put]

/-! ## Maintenance -/

instance : Numbered WorkOrder := ⟨fun _ => []⟩
instance : Numberless WorkOrder := ⟨fun _ => rfl⟩
instance : Numbered Request := ⟨fun _ => []⟩
instance : Numberless Request := ⟨fun _ => rfl⟩
instance : Numbered PurchaseOrder := ⟨fun _ => []⟩
instance : Numberless PurchaseOrder := ⟨fun _ => rfl⟩
instance : Numbered Asset := ⟨fun _ => []⟩
instance : Numberless Asset := ⟨fun _ => rfl⟩
instance : Numbered Part := ⟨fun part => numbers part.quantity⟩
instance : Numbered Task := ⟨fun task => numbers task.numberValue⟩

instance : LawfulWire WorkOrder := by
  refine .of_record rfl (fun _ => rfl) (fun _ => by simp [put]) fun order _ distinct => ?_
  apply build_eq
  case built =>
    repeat' first | with_reducible apply build_seq | with_reducible apply build_map
    all_goals first
      | exact build_required distinct rfl numberless
      | exact build_optional distinct rfl numberless
  case same => rfl

instance : LawfulText WorkOrder 1 :=
  .of_flat (fun _ => rfl) fun _ => by simp [put]

instance : LawfulWire Request := by
  refine .of_record rfl (fun _ => rfl) (fun _ => by simp [put]) fun request _ distinct => ?_
  apply build_eq
  case built =>
    repeat' first | with_reducible apply build_seq | with_reducible apply build_map
    all_goals first
      | exact build_required distinct rfl numberless
      | exact build_optional distinct rfl numberless
  case same => rfl

instance : LawfulText Request 1 :=
  .of_flat (fun _ => rfl) fun _ => by simp [put]

instance : LawfulWire PurchaseOrder := by
  refine .of_record rfl (fun _ => rfl) (fun _ => by simp [put]) fun order _ distinct => ?_
  cases order
  repeat' first | with_reducible apply build_seq | with_reducible apply build_map
  all_goals first
    | exact build_required distinct rfl numberless
    | exact build_optional distinct rfl numberless

instance : LawfulText PurchaseOrder 1 :=
  .of_flat (fun _ => rfl) fun _ => by simp [put]

instance : LawfulWire Asset := by
  refine .of_record rfl (fun _ => rfl) (fun _ => by simp [put]) fun asset _ distinct => ?_
  cases asset
  repeat' first | with_reducible apply build_seq | with_reducible apply build_map
  all_goals exact build_required distinct rfl numberless

instance : LawfulText Asset 1 :=
  .of_flat (fun _ => rfl) fun _ => by simp [put]

instance : FiniteRecord (Part.mk <$> required "id") :=
  .map fun _ _ _ _ _ _ _ _ _ _ _ quantity _ _ => quantity

instance : LawfulWire Part := by
  refine .of_record rfl (fun _ => rfl) (fun _ => by simp [put]) fun part finite distinct => ?_
  cases part
  repeat' first | with_reducible apply build_seq | with_reducible apply build_map
  all_goals first
    | exact build_required distinct rfl numberless
    | exact build_optional distinct rfl numberless
    | exact build_required distinct rfl finite

instance : LawfulText Part 1 := by
  refine .of_record (fun _ => rfl) (fun _ => by simp [put]) fun _ => ?_
  repeat' first
    | refine List.forall_mem_cons.mpr ⟨textForm_put (by decide) numberless_subset, ?_⟩
    | refine List.forall_mem_cons.mpr ⟨textForm_put (by decide) (List.Subset.refl _), ?_⟩
  exact List.forall_mem_nil _

instance : FiniteRecord (Task.mk <$> required "id") :=
  .map fun _ _ _ _ _ _ _ _ _ _ _ numberValue _ _ => numberValue

instance : LawfulWire Task := by
  refine .of_record rfl (fun _ => rfl) (fun _ => by simp [put]) fun task finite distinct => ?_
  cases task
  repeat' first | with_reducible apply build_seq | with_reducible apply build_map
  all_goals first
    | exact build_required distinct rfl numberless
    | exact build_optional distinct rfl numberless
    | exact build_optional distinct rfl finite

instance : LawfulText Task 1 := by
  refine .of_record (fun _ => rfl) (fun _ => by simp [put]) fun _ => ?_
  repeat' first
    | refine List.forall_mem_cons.mpr ⟨textForm_put (by decide) numberless_subset, ?_⟩
    | refine List.forall_mem_cons.mpr ⟨textForm_put (by decide) (List.Subset.refl _), ?_⟩
  exact List.forall_mem_nil _

/-! ## Workflows -/

instance : Numbered Condition := ⟨fun c => numbers c.numberValue⟩
instance : Numbered Action := ⟨fun a => numbers a.numberValue⟩
instance : Numbered Workflow := ⟨fun w => numbers w.conditions ++ numbers w.action⟩
instance : Numbered WorkflowDraft := ⟨fun draft => numbers draft.conditions ++ numbers draft.action⟩

instance : FiniteRecord (Condition.mk <$> omittable "alertName") := .map (by
  repeat' intro
  solve_by_elim)

instance : LawfulWire Condition := by
  refine .of_record rfl (fun _ => rfl) (fun _ => by simp [putSome]) fun c finite distinct => ?_
  cases c
  repeat' first | with_reducible apply build_seq | with_reducible apply build_map
  all_goals first
    | exact build_omittable distinct rfl numberless
    | exact build_omittable distinct rfl finite

instance : LawfulText Condition 1 := by
  refine .of_record (fun _ => rfl) (fun _ => by simp [putSome]) fun _ => ?_
  repeat' first
    | refine List.forall_mem_cons.mpr ⟨textForm_putSome (by decide) numberless_subset, ?_⟩
    | refine List.forall_mem_cons.mpr ⟨textForm_putSome (by decide) (List.Subset.refl _), ?_⟩
  exact List.forall_mem_nil _

instance : FiniteRecord (Action.mk <$> omittable "workOrderAction") := .map (by
  repeat' intro
  solve_by_elim)

instance : LawfulWire Action := by
  refine .of_record rfl (fun _ => rfl) (fun _ => by simp [putSome]) fun a finite distinct => ?_
  cases a
  repeat' first | with_reducible apply build_seq | with_reducible apply build_map
  all_goals first
    | exact build_omittable distinct rfl numberless
    | exact build_omittable distinct rfl finite

instance : LawfulText Action 1 := by
  refine .of_record (fun _ => rfl) (fun _ => by simp [putSome]) fun _ => ?_
  repeat' first
    | refine List.forall_mem_cons.mpr ⟨textForm_putSome (by decide) numberless_subset, ?_⟩
    | refine List.forall_mem_cons.mpr ⟨textForm_putSome (by decide) (List.Subset.refl _), ?_⟩
  exact List.forall_mem_nil _

instance : FiniteRecord (Workflow.mk <$> required "id") :=
  .map fun _ _ _ _ _ _ _ _ _ conditions _ action _ _ _ _ _ _ =>
    List.forall_mem_append.mpr ⟨conditions, action⟩

instance : LawfulWire Workflow := by
  refine .of_record rfl (fun _ => rfl) (fun _ => by simp [put]) fun w finite distinct => ?_
  obtain ⟨conditions, action⟩ := List.forall_mem_append.mp finite
  cases w
  repeat' first | with_reducible apply build_seq | with_reducible apply build_map
  all_goals first
    | exact build_required distinct rfl numberless
    | exact build_required distinct rfl conditions
    | exact build_required distinct rfl action

instance : LawfulText Workflow 3 := by
  refine .of_record (fun _ => rfl) (fun _ => by simp [put]) fun _ => ?_
  repeat' first
    | refine List.forall_mem_cons.mpr ⟨textForm_put (by decide) numberless_subset, ?_⟩
    | refine List.forall_mem_cons.mpr ⟨textForm_put (by decide) (List.subset_append_left _ _), ?_⟩
    | refine List.forall_mem_cons.mpr ⟨textForm_put (by decide) (List.subset_append_right _ _), ?_⟩
  exact List.forall_mem_nil _

instance : FiniteRecord (WorkflowDraft.mk <$> required "title") :=
  .map fun _ _ _ _ _ conditions _ action => List.forall_mem_append.mpr ⟨conditions, action⟩

instance : LawfulWire WorkflowDraft := by
  refine .of_record rfl (fun _ => rfl) (fun _ => by simp [put]) fun draft finite distinct => ?_
  obtain ⟨conditions, action⟩ := List.forall_mem_append.mp finite
  cases draft
  repeat' first | with_reducible apply build_seq | with_reducible apply build_map
  · exact build_required distinct rfl numberless
  · exact build_required distinct rfl numberless
  · exact build_defaulted distinct rfl conditions
  · exact build_omittable_put distinct rfl action

instance : LawfulText WorkflowDraft 3 := by
  refine .of_record (fun _ => rfl) (fun _ => by simp [put]) fun _ => ?_
  repeat' first
    | refine List.forall_mem_cons.mpr ⟨textForm_put (by decide) numberless_subset, ?_⟩
    | refine List.forall_mem_cons.mpr ⟨textForm_put (by decide) (List.subset_append_left _ _), ?_⟩
    | refine List.forall_mem_cons.mpr ⟨textForm_put (by decide) (List.subset_append_right _ _), ?_⟩
  exact List.forall_mem_nil _

/-! ## Alerts -/

instance : Numbered CustomData := ⟨fun _ => []⟩
instance : Numberless CustomData := ⟨fun _ => rfl⟩
instance : Numbered Alert := ⟨fun _ => []⟩
instance : Numberless Alert := ⟨fun _ => rfl⟩

instance : LawfulWire CustomData := by
  refine .of_record rfl (fun _ => rfl) (fun _ => by simp [putSome]) fun data _ distinct => ?_
  cases data
  repeat' first | with_reducible apply build_seq | with_reducible apply build_map
  all_goals first
    | exact build_omittable distinct rfl numberless
    | exact build_defaulted_fields distinct rfl

instance : LawfulWire Alert := by
  refine .of_record rfl (fun _ => rfl) (fun _ => by simp [put, putSome]) fun alert _ distinct => ?_
  cases alert
  repeat' first | with_reducible apply build_seq | with_reducible apply build_map
  all_goals first
    | exact build_required distinct rfl numberless
    | exact build_omittable distinct rfl numberless
    | exact build_defaulted_fields distinct rfl

theorem shaped_putSome_text {name : String} {text : Option String} {room : Nat} :
    ∀ json ∈ (putSome name text).2, Shaped room json := by
  intro json member
  obtain ⟨_, -, rfl⟩ := Option.map_eq_some_iff.mp member
  exact .str

theorem shaped_put_text {name text : String} {room : Nat} :
    ∀ json ∈ (put name text).2, Shaped room json := by
  rintro json ⟨⟩
  exact .str

/-- Custom data that was read has the shape of the document it was read from. -/
theorem CustomData.shaped_of_read {doc : Doc} {data : CustomData} {room : Nat}
    (fits : doc.Fits (room + 2)) (read : Wire.read doc = .ok data) :
    Shaped (room + 2) (encode data) := by
  obtain ⟨given, parts, built⟩ := exists_given_of_fits fits read
  obtain ⟨_, info, built, infoBuilt, _⟩ := of_build_seq built
  obtain ⟨_, priority, built, -, _⟩ := of_build_seq built
  obtain ⟨workflowId, -, _⟩ := of_build_map built
  subst_vars
  refine shaped_record (by simp [putSome]) ?_
  iterate 2 refine List.forall_mem_cons.mpr ⟨shaped_putSome_text, ?_⟩
  refine List.forall_mem_singleton.mpr ?_
  rintro json ⟨⟩
  exact shaped_of_build_fields parts infoBuilt

/-- An alert that was read has the shape of the document it was read from. -/
theorem Alert.shaped_of_read {doc : Doc} {alert : Alert} {room : Nat} (fits : doc.Fits (room + 3))
    (read : Wire.read doc = .ok alert) : Shaped (room + 3) (encode alert) := by
  obtain ⟨given, parts, built⟩ := exists_given_of_fits fits read
  obtain ⟨_, customData, built, customBuilt, _⟩ := of_build_seq built
  obtain ⟨_, message, built, -, _⟩ := of_build_seq built
  obtain ⟨_, values, built, valuesBuilt, _⟩ := of_build_seq built
  iterate 7 obtain ⟨_, _, built, -, _⟩ := of_build_seq built
  obtain ⟨_, -, _⟩ := of_build_map built
  subst_vars
  have customShaped : ∀ data ∈ customData, Shaped (room + 2) (encode data) :=
    of_build_omittable parts (fun _ _ => CustomData.shaped_of_read) customBuilt
  refine shaped_record (by simp [put, putSome]) ?_
  iterate 4 refine List.forall_mem_cons.mpr ⟨shaped_put_text, ?_⟩
  iterate 4 refine List.forall_mem_cons.mpr ⟨shaped_putSome_text, ?_⟩
  refine List.forall_mem_cons.mpr ⟨?valuesShaped, ?_⟩
  case valuesShaped =>
    rintro json ⟨⟩
    exact shaped_of_build_fields parts valuesBuilt
  refine List.forall_mem_cons.mpr ⟨shaped_putSome_text, ?_⟩
  refine List.forall_mem_singleton.mpr fun json written => ?_
  obtain ⟨data, given, rfl⟩ := Option.map_eq_some_iff.mp written
  exact customShaped data given

/-! ## Reading what was written -/

/-- A condition with a number of seventeen digits. -/
def driftingCondition : Condition :=
  { Condition.empty with numberValue := some 31.245270191439438 }

end Caretaker
