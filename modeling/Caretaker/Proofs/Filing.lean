import Caretaker.Proofs.Bystanders
import Caretaker.Proofs.Store.Configs
import Caretaker.Proofs.Store.Seniority
import Mathlib.Data.List.Induction

/-!
# Filing

Work orders, requests and assets are filed: each has its own row under its identifier,
and saving it again writes the new content into that row, but leaves the company and the
creation time of the first save.

What is filed after any number of saves can be told from the saves alone.  Under an
identifier stands the last value that was saved under it, with company and creation time
of the first.
-/

namespace Caretaker

open Calendar Stamped

/-- Values that are filed in rows. -/
class Filed (α : Type) (ρ : outParam Type) [Stamped ρ] where
  id : α → Uuid
  companyId : α → Uuid
  createdAt : α → Instant
  instants : α → List Instant
  /-- The value with another company and creation time. -/
  restamp : Uuid → Instant → α → α
  row : α → ρ
  read : ρ → Except StoreError α
  id_restamp : ∀ company time value, id (restamp company time value) = id value
  companyId_restamp : ∀ company time value, companyId (restamp company time value) = company
  createdAt_restamp : ∀ company time value, createdAt (restamp company time value) = time
  restamp_self : ∀ value, restamp (companyId value) (createdAt value) value = value
  createdAt_mem : ∀ value, createdAt value ∈ instants value
  legible_restamp : ∀ company time value, time.Legible → AllLegible (instants value) →
    AllLegible (instants (restamp company time value))
  stamp_row : ∀ value,
    stamp (row value) = ⟨(id value).text, (companyId value).text, (createdAt value).storedText⟩
  merge_row : ∀ old new, id old = id new →
    merge (row old) (row new) = row (restamp (companyId old) (createdAt old) new)
  read_row : ∀ value found, read (row value) = .ok found ↔
    AllLegible (instants value) ∧ value = found

theorem Store.readRequest_ofTicket_eq_ok_iff {request found : Request} :
    readRequest (.ofTicket request.toTicket) = .ok found ↔
      AllLegible request.toTicket.instants ∧ request = found := by
  obtain ⟨ticket⟩ := request
  simp only [readRequest, bind_eq_ok_iff, pure_eq_ok_iff, TicketRow.ticket_ofTicket_eq_ok_iff]
  grind

theorem Ticket.legible_restamp {t : Ticket} {company : Uuid} {time : Instant}
    (legibleTime : time.Legible) (legible : AllLegible t.instants) :
    AllLegible ({ t with companyId := company, createdAt := time } : Ticket).instants := by
  rw [Ticket.instants, allLegible_append] at legible ⊢
  exact ⟨legible.1, allLegible_cons.mpr ⟨legibleTime, allLegible_nil⟩⟩

theorem TicketRow.merge_ofTicket (old new : Ticket) (same : old.id = new.id) :
    merge (ofTicket old) (ofTicket new) =
      ofTicket { new with companyId := old.companyId, createdAt := old.createdAt } := by
  simp [merge, ofTicket, same]

instance : Filed WorkOrder WorkOrderRow where
  id order := order.id
  companyId order := order.companyId
  createdAt order := order.createdAt
  instants order := order.toTicket.instants
  restamp company time order := { order with companyId := company, createdAt := time }
  row := .ofOrder
  read := WorkOrderRow.order
  id_restamp _ _ _ := rfl
  companyId_restamp _ _ _ := rfl
  createdAt_restamp _ _ _ := rfl
  restamp_self _ := rfl
  createdAt_mem order := List.mem_append_right _ (List.mem_singleton.mpr rfl)
  legible_restamp _ _ _ := Ticket.legible_restamp
  stamp_row _ := rfl
  merge_row old new same := by
    have tickets := TicketRow.merge_ofTicket old.toTicket new.toTicket same
    simp [merge, WorkOrderRow.merge, WorkOrderRow.ofOrder, tickets]
  read_row _ _ := WorkOrderRow.order_ofOrder_eq_ok_iff

instance : Filed Request TicketRow where
  id request := request.id
  companyId request := request.companyId
  createdAt request := request.createdAt
  instants request := request.toTicket.instants
  restamp company time request := { request with companyId := company, createdAt := time }
  row request := .ofTicket request.toTicket
  read := Store.readRequest
  id_restamp _ _ _ := rfl
  companyId_restamp _ _ _ := rfl
  createdAt_restamp _ _ _ := rfl
  restamp_self _ := rfl
  createdAt_mem _ := List.mem_append_right _ (List.mem_singleton.mpr rfl)
  legible_restamp _ _ _ := Ticket.legible_restamp
  stamp_row _ := rfl
  merge_row _ _ := TicketRow.merge_ofTicket _ _
  read_row _ _ := Store.readRequest_ofTicket_eq_ok_iff

instance : Filed Asset AssetRow where
  id asset := asset.id
  companyId asset := asset.companyId
  createdAt asset := asset.createdAt
  instants := Asset.instants
  restamp company time asset := { asset with companyId := company, createdAt := time }
  row := .ofAsset
  read := AssetRow.asset
  id_restamp _ _ _ := rfl
  companyId_restamp _ _ _ := rfl
  createdAt_restamp _ _ _ := rfl
  restamp_self _ := rfl
  createdAt_mem _ := List.mem_singleton.mpr rfl
  legible_restamp _ _ _ legibleTime _ := allLegible_cons.mpr ⟨legibleTime, allLegible_nil⟩
  stamp_row _ := rfl
  merge_row old new same := by
    have texts : old.id.text = new.id.text := congrArg Uuid.text same
    simp [merge, AssetRow.merge, AssetRow.ofAsset, texts]
  read_row _ _ := AssetRow.asset_ofAsset_eq_ok_iff

/-! ## The law of saves -/

namespace Filed

variable {α ρ : Type} [Stamped ρ] [Filed α ρ]

/-- The value with company and creation time of an earlier one. -/
def since (first last : α) : α :=
  restamp (companyId first) (createdAt first) last

/-- The first value that was saved under an identifier. -/
def firstSave (saves : List α) (i : Uuid) : Option α :=
  saves.find? fun value => id value == i

/-- The last value that was saved under an identifier. -/
def lastSave (saves : List α) (i : Uuid) : Option α :=
  saves.reverse.find? fun value => id value == i

/-- What stands under an identifier: the last value, with company and creation time of the
first. -/
def standing (saves : List α) (i : Uuid) : Option α :=
  (firstSave saves i).bind fun first => (lastSave saves i).map (since first)

/-- The values of a table after one more save. -/
def file (value : α) (values : List α) : List α :=
  Store.upsert (fun old => id old == id value) since value values

/-- The values of a table after some saves. -/
def fileAll (saves : List α) : List α :=
  saves.foldl (fun values value => file value values) []

theorem fileAll_concat (saves : List α) (value : α) :
    fileAll (saves ++ [value]) = file value (fileAll saves) := by
  simp [fileAll]

@[simp]
theorem id_since (first last : α) : id (since first last) = id last :=
  id_restamp _ _ _

theorem companyId_since (first last : α) : companyId (since first last) = companyId first :=
  companyId_restamp _ _ _

/-- Only the first of several values decides on company and creation time. -/
theorem since_since (first last value : α) :
    since (since first last) value = since first value := by
  rw [since, since, since, companyId_restamp, createdAt_restamp]

theorem since_self (value : α) : since value value = value :=
  restamp_self value

theorem id_of_firstSave {saves : List α} {i : Uuid} {first : α}
    (earliest : firstSave saves i = some first) : id first = i := by
  have named := List.find?_some earliest
  exact eq_of_beq named

theorem id_of_lastSave {saves : List α} {i : Uuid} {last : α}
    (latest : lastSave saves i = some last) : id last = i := by
  have named := List.find?_some latest
  exact eq_of_beq named

/-! ### One more save -/

theorem find?_file_of_ne {value : α} {i : Uuid} (differs : id value ≠ i) (values : List α) :
    (file value values).find? (fun other => id other == i) =
      values.find? fun other => id other == i := by
  rw [← List.head?_filter, ← List.head?_filter, file, Store.filter_upsert_of_other]
  · exact beq_false_of_ne differs
  · intro old same
    rw [id_since, eq_of_beq same]
    exact ⟨beq_false_of_ne differs, beq_false_of_ne differs⟩

theorem find?_file_self (value : α) (values : List α) :
    (file value values).find? (fun other => id other == id value) =
      some ((values.find? fun other => id other == id value).elim value
        fun old => since old value) := by
  have kept : (file value values).filter (fun other => id other == id value) =
      file value (values.filter fun other => id other == id value) := by
    apply Store.filter_upsert_same
    · exact beq_self_eq_true (id value)
    · intro old _
      rw [id_since]
      exact beq_self_eq_true (id value)
  rw [← List.head?_filter, ← List.head?_filter, kept]
  cases picked : values.filter fun other => id other == id value with
  | nil => rfl
  | cons old rest =>
      have member : old ∈ values.filter fun other => id other == id value := by
        rw [picked]
        exact List.mem_cons_self
      have same : id old = id value := eq_of_beq (List.mem_filter.mp member).2
      simp [file, Store.upsert, same]

theorem firstSave_concat (saves : List α) (value : α) (i : Uuid) :
    firstSave (saves ++ [value]) i =
      (firstSave saves i).or (if id value = i then some value else none) := by
  simp [firstSave, List.find?_append, List.find?_singleton]

theorem lastSave_concat (saves : List α) (value : α) (i : Uuid) :
    lastSave (saves ++ [value]) i = if id value = i then some value else lastSave saves i := by
  by_cases named : id value = i <;> simp [lastSave, named]

/-- There is a last save where there is a first. -/
theorem lastSave_isSome (saves : List α) (i : Uuid) :
    (lastSave saves i).isSome = (firstSave saves i).isSome := by
  rw [lastSave, firstSave, Bool.eq_iff_iff, List.find?_isSome, List.find?_isSome]
  simp only [List.mem_reverse]

theorem standing_concat (saves : List α) (value : α) (i : Uuid) :
    standing (saves ++ [value]) i =
      if id value = i then
        some ((standing saves i).elim value fun old => since old value)
      else standing saves i := by
  rw [standing, firstSave_concat, lastSave_concat, standing]
  split
  · have known := lastSave_isSome saves i
    cases earliest : firstSave saves i with
    | none =>
        show some (since value value) = some value
        rw [since_self]
    | some first =>
        rw [earliest] at known
        obtain ⟨last, latest⟩ := Option.isSome_iff_exists.mp known
        rw [latest]
        show some (since first value) = some (since (since first last) value)
        rw [since_since]
  · rw [Option.or_none]

/-- The values that are filed are those that the saves leave standing. -/
theorem find?_fileAll (saves : List α) (i : Uuid) :
    (fileAll saves).find? (fun value => id value == i) = standing saves i := by
  induction saves using List.reverseRecOn with
  | nil => rfl
  | append_singleton saves value ih =>
      rw [fileAll_concat, standing_concat, ← ih]
      split
      · rename_i named
        subst named
        exact find?_file_self value _
      · rename_i differs
        exact find?_file_of_ne differs _

/-- No two values are filed under the same identifier. -/
theorem distinct_fileAll (saves : List α) : ((fileAll saves).map id).Nodup := by
  induction saves using List.reverseRecOn with
  | nil => exact List.nodup_nil
  | append_singleton saves value ih =>
      rw [fileAll_concat]
      exact Store.nodup_upsert rfl (fun old _ => id_since old value) ih

theorem mem_fileAll_iff {saves : List α} {value : α} :
    value ∈ fileAll saves ↔ standing saves (id value) = some value := by
  rw [← find?_fileAll, find?_key_eq_some_iff (distinct_fileAll saves), and_iff_left rfl]

/-! ### What is known of the values that are filed -/

/-- Whatever stands under an identifier has company and creation time of the first save. -/
theorem standing_eq_some_iff {saves : List α} {i : Uuid} {value : α} :
    standing saves i = some value ↔
      ∃ first last, firstSave saves i = some first ∧ lastSave saves i = some last ∧
        since first last = value := by
  simp only [standing, Option.bind_eq_some_iff, Option.map_eq_some_iff]
  constructor
  · rintro ⟨first, earliest, last, latest, rfl⟩
    exact ⟨first, last, earliest, latest, rfl⟩
  · rintro ⟨first, last, earliest, latest, rfl⟩
    exact ⟨first, earliest, last, latest, rfl⟩

/-- A value is filed under exactly the identifiers that were saved under. -/
theorem mem_ids_fileAll {saves : List α} {i : Uuid} :
    i ∈ (fileAll saves).map id ↔ i ∈ saves.map id := by
  rw [List.mem_map, List.mem_map]
  constructor
  · rintro ⟨value, member, rfl⟩
    obtain ⟨first, -, earliest, -, -⟩ := standing_eq_some_iff.mp (mem_fileAll_iff.mp member)
    exact ⟨first, List.mem_of_find?_eq_some earliest, id_of_firstSave earliest⟩
  · rintro ⟨value, member, rfl⟩
    have known : (firstSave saves (id value)).isSome :=
      List.find?_isSome.mpr ⟨value, member, beq_self_eq_true (id value)⟩
    obtain ⟨first, earliest⟩ := Option.isSome_iff_exists.mp known
    obtain ⟨last, latest⟩ := Option.isSome_iff_exists.mp
      ((lastSave_isSome saves (id value)).trans known)
    have named : id (since first last) = id value :=
      (id_since first last).trans (id_of_lastSave latest)
    have stands : standing saves (id value) = some (since first last) :=
      standing_eq_some_iff.mpr ⟨first, last, earliest, latest, rfl⟩
    rw [← named] at stands
    exact ⟨since first last, mem_fileAll_iff.mpr stands, named⟩

theorem legible_fileAll {saves : List α} (legible : ∀ value ∈ saves, AllLegible (instants value)) :
    ∀ value ∈ fileAll saves, AllLegible (instants value) := by
  intro value member
  obtain ⟨first, last, earliest, latest, rfl⟩ := standing_eq_some_iff.mp (mem_fileAll_iff.mp member)
  have memberFirst := List.mem_of_find?_eq_some earliest
  have memberLast := List.mem_reverse.mp (List.mem_of_find?_eq_some latest)
  apply legible_restamp
  · exact legible first memberFirst _ (createdAt_mem first)
  · exact legible last memberLast

/-- The list has what stands under the identifiers whose first save named the company, the
oldest first. -/
structure Lists (saves : List α) (company : Uuid) (found : List α) : Prop where
  mem_iff : ∀ value, value ∈ found ↔ standing saves (id value) = some value ∧
    ∃ first, firstSave saves (id value) = some first ∧ companyId first = company
  sorted : found.Pairwise fun a b => Older (createdAt a, id a) (createdAt b, id b)

/-- The values of a company, oldest first. -/
def ownedBy (company : Uuid) (values : List α) : List α :=
  Store.oldestFirst (fun value => ((createdAt value).storedText, (id value).text))
    (values.filter fun value => companyId value == company)

/-- Values under different identifiers are listed strictly by seniority, if those of the
company can be read. -/
theorem ownedBy_strict {values : List α} (distinct : (values.map id).Nodup) {company : Uuid}
    (legible : ∀ value ∈ values, companyId value = company → AllLegible (instants value)) :
    (ownedBy company values).Pairwise fun a b => Older (createdAt a, id a) (createdAt b, id b) := by
  apply Store.oldestFirst_strict
  · intro value listed
    obtain ⟨member, own⟩ := List.mem_filter.mp listed
    exact legible value member (eq_of_beq own) _ (createdAt_mem value)
  · exact distinct.sublist (List.filter_sublist.map _)

theorem lists_ownedBy {saves : List α}
    (legible : ∀ value ∈ fileAll saves, AllLegible (instants value)) (company : Uuid) :
    Lists saves company (ownedBy company (fileAll saves)) where
  mem_iff value := by
    rw [ownedBy, Store.mem_oldestFirst, List.mem_filter, mem_fileAll_iff, beq_iff_eq]
    apply and_congr_right
    intro stands
    obtain ⟨first, last, earliest, -, rfl⟩ := standing_eq_some_iff.mp stands
    rw [earliest, companyId_since]
    simp
  sorted := ownedBy_strict (distinct_fileAll saves) fun value member _ => legible value member

/-! ## Rows -/

theorem isNamed_row (i : Uuid) (value : α) : isNamed (some i) (row value) = (id value == i) := by
  show ((stamp (row value)).id == i.text) = _
  rw [stamp_row, Uuid.text_beq_text]
  rfl

/-- Saving the row of a value files the value. -/
theorem saveRow_map (value : α) (values : List α) :
    saveRow (id value) (row value) (values.map row) = (file value values).map row := by
  unfold saveRow file Store.upsert
  simp only [List.any_map, Function.comp_def, isNamed_row]
  split
  · rw [List.map_map, List.map_map]
    apply List.map_congr_left
    intro old _
    rw [Function.comp_apply, Function.comp_apply, isNamed_row]
    split
    · rename_i same
      exact merge_row old value (eq_of_beq same)
    · rfl
  · rw [List.map_append]
    rfl

/-- The rows of a table under other identifiers. -/
def rowsBut (i : Uuid) (rows : List ρ) : List ρ :=
  rows.filter fun row => !isNamed (some i) row

/-- Saving a value touches no row under another identifier. -/
theorem rowsBut_saveRow (value : α) (rows : List ρ) :
    rowsBut (id value) (saveRow (id value) (row value) rows) = rowsBut (id value) rows := by
  have named : isNamed (some (id value)) (row value) = true := by
    rw [isNamed_row, beq_self_eq_true]
  apply Store.filter_upsert_of_other
  · rw [named, Bool.not_true]
  · intro old isOld
    rw [isNamed_merge, isOld, Bool.not_true]
    exact ⟨rfl, rfl⟩

/-- A table with the rows of what some saves have filed has those of one more save after
it. -/
theorem saveRow_fileAll (saves : List α) (value : α) :
    saveRow (id value) (row value) ((fileAll saves).map row) =
      (fileAll (saves ++ [value])).map row := by
  rw [saveRow_map, fileAll_concat]

/-- There is one row for each identifier that was saved under, and no other row. -/
structure OneEach (rows : List ρ) (saves : List α) : Prop where
  once : (rows.map fun row => (stamp row).id).Nodup
  exactly : ∀ text, text ∈ rows.map (fun row => (stamp row).id) ↔
    ∃ value ∈ saves, (id value).text = text

theorem oneEach_fileAll (saves : List α) : OneEach ((fileAll saves).map row) saves := by
  have texts : ((fileAll saves).map row).map (fun row => (stamp row).id) =
      ((fileAll saves).map id).map Uuid.text := by
    rw [List.map_map, List.map_map]
    apply List.map_congr_left
    intro value _
    rw [Function.comp_apply, stamp_row, Function.comp_apply]
  constructor
  · rw [texts]
    exact (distinct_fileAll saves).map Uuid.text_injective
  · intro text
    rw [texts, List.mem_map]
    constructor
    · rintro ⟨i, filed, rfl⟩
      obtain ⟨value, member, rfl⟩ := List.mem_map.mp (mem_ids_fileAll.mp filed)
      exact ⟨value, member, rfl⟩
    · rintro ⟨value, member, rfl⟩
      exact ⟨id value, mem_ids_fileAll.mpr (List.mem_map_of_mem member), rfl⟩

/-- What is found under an identifier is what is filed there. -/
theorem readOne_filed {values : List α} (legible : ∀ value ∈ values, AllLegible (instants value))
    (i : Uuid) :
    Store.readOne (Filed.read : ρ → Except StoreError α) ((values.map row).find? (isNamed (some i))) =
      .ok (values.find? fun value => id value == i) := by
  have named : isNamed (some i) ∘ row = fun value : α => id value == i := by
    funext value
    exact isNamed_row i value
  rw [List.find?_map, named]
  cases located : values.find? fun value => id value == i with
  | none => rfl
  | some value =>
      have readable := legible value (List.mem_of_find?_eq_some located)
      rw [Option.map_some, Store.readOne, (read_row value value).mpr ⟨readable, rfl⟩]
      rfl

/-- What is listed for a company is what is filed for it, as long as all of it can be
read. -/
theorem readAll_filed_eq_ok_iff {values found : List α} {company : Uuid} :
    Store.readAll (Filed.read : ρ → Except StoreError α)
        (Store.oldestFirst (fun row => ((stamp row).createdAt, (stamp row).id))
          ((values.map row).filter fun row => (stamp row).companyId == company.text)) = .ok found ↔
      (∀ value ∈ values, companyId value = company → AllLegible (instants value)) ∧
        ownedBy company values = found := by
  have owned : (fun row => (stamp row).companyId == company.text) ∘ row =
      fun value : α => companyId value == company := by
    funext value
    rw [Function.comp_apply, stamp_row, Uuid.text_beq_text]
    rfl
  rw [List.filter_map, owned, Store.oldestFirst_map]
  simp only [stamp_row]
  rw [Store.readAll_map_eq_ok_iff read_row, List.map_id']
  simp only [Store.mem_oldestFirst, List.mem_filter, beq_iff_eq, and_imp]
  rfl

theorem readAll_filed {values : List α} (legible : ∀ value ∈ values, AllLegible (instants value))
    (company : Uuid) :
    Store.readAll (Filed.read : ρ → Except StoreError α)
        (Store.oldestFirst (fun row => ((stamp row).createdAt, (stamp row).id))
          ((values.map row).filter fun row => (stamp row).companyId == company.text)) =
      .ok (ownedBy company values) :=
  readAll_filed_eq_ok_iff.mpr ⟨fun value member _ => legible value member, rfl⟩

end Filed

end Caretaker
