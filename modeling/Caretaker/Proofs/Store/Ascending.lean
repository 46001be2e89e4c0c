import Caretaker.Proofs.Filing

/-!
# Lists in the order of creation

The database sorts rows by texts.  Whenever it has an answer to somebody who asks for the
workflows, work orders or requests of a company, the answer is nevertheless in the order of
the values: each listed value is older than all that come after it.

Two things carry this over all writes.  No two rows of a table have the same identifier, and
every row is that of a value, so that all rows of an answer have legible times.
-/

namespace Caretaker.Store

open Calendar Filed

/-! ## Tables of tickets -/

/-- The rows of work orders and of requests are those of values that some saves have
filed. -/
structure FilesTickets (s : Store) : Prop where
  workOrders : ∃ saves : List WorkOrder, s.workOrders = (fileAll saves).map row
  requests : ∃ saves : List Request, s.requests = (fileAll saves).map row

variable {s s' : Store} {allowed : Instant → Prop}

theorem filesTickets_empty : empty.FilesTickets :=
  ⟨⟨[], rfl⟩, ⟨[], rfl⟩⟩

theorem FilesTickets.congr (files : s.FilesTickets) (workOrders : s'.workOrders = s.workOrders)
    (requests : s'.requests = s.requests) : s'.FilesTickets where
  workOrders := workOrders ▸ files.workOrders
  requests := requests ▸ files.requests

/-- The two saves file their values, and no other step writes to the two tables. -/
theorem FilesTickets.step (files : s.FilesTickets) (step : Step allowed s s') :
    s'.FilesTickets := by
  cases step with
  | @saveWorkOrder order done =>
      obtain ⟨saves, filed⟩ := files.workOrders
      rw [eq_of_saveWorkOrder done]
      refine ⟨⟨saves ++ [order], ?_⟩, files.requests⟩
      rw [← saveRow_fileAll, ← filed]
      rfl
  | @saveRequest request done =>
      obtain ⟨saves, filed⟩ := files.requests
      rw [eq_of_saveRequest done]
      refine ⟨files.workOrders, ⟨saves ++ [request], ?_⟩⟩
      rw [← saveRow_fileAll, ← filed]
      rfl
  -- The two tables are not among those that the other steps may change.
  | savePurchaseOrder done =>
      rw [eq_of_savePurchaseOrder done]
      exact files.congr rfl rfl
  | saveAsset done =>
      rw [eq_of_saveAsset done]
      exact files.congr rfl rfl
  | addWorkflow done =>
      rw [eq_of_addWorkflow done]
      exact files.congr rfl rfl
  | setEnabled done =>
      rw [eq_of_setEnabled done]
      exact files.congr rfl rfl
  | removeWorkflow done =>
      rw [eq_of_removeWorkflow done]
      exact files.congr rfl rfl
  | addCompany done =>
      rw [eq_of_addCompany done]
      exact files.congr rfl rfl
  | addUser done =>
      rw [eq_of_addUser done]
      exact files.congr rfl rfl
  | addConfig done =>
      rw [eq_of_addConfig done]
      exact files.congr rfl rfl
  | updateConfig done =>
      rw [eq_of_updateConfig done]
      exact files.congr rfl rfl
  | removeConfigOf done =>
      rw [eq_of_removeConfigOf done]
      exact files.congr rfl rfl
  | advanceCounter done =>
      rw [eq_of_advanceCounter done]
      exact files.congr rfl rfl

theorem Reachable.filesTickets (reached : s.Reachable allowed) : s.FilesTickets := by
  induction reached with
  | empty => exact filesTickets_empty
  | step _ last ih => exact ih.step last

/-! ## Answers -/

/-- Whenever the store answers with a list, each value in it is older than all that come
after it. -/
structure ListsAscending (s : Store) : Prop where
  workflows {company : Uuid} {found : List Workflow} : s.workflowsOf company = .ok found →
    found.Pairwise fun a b => Older (a.createdAt, a.id) (b.createdAt, b.id)
  candidates {company : Uuid} {trigger : Trigger} {found : List Workflow} :
    s.workflowsFor company trigger = .ok found →
      found.Pairwise fun a b => Older (a.createdAt, a.id) (b.createdAt, b.id)
  workOrders {company : Uuid} {found : List WorkOrder} : s.workOrdersOf company = .ok found →
    found.Pairwise fun a b => Older (a.createdAt, a.id) (b.createdAt, b.id)
  requests {company : Uuid} {found : List Request} : s.requestsOf company = .ok found →
    found.Pairwise fun a b => Older (a.createdAt, a.id) (b.createdAt, b.id)

theorem Reachable.listsAscending (reached : s.Reachable allowed) : s.ListsAscending := by
  have sound := reached.sound
  obtain ⟨entries, holds, -⟩ := sound.held
  have files := reached.filesTickets
  constructor
  · intro company found answer
    obtain ⟨legible, -, rfl⟩ := (holds.workflowsOf_eq_ok_iff sound.intact).mp answer
    exact holds.pairwise_older fun e member own => legible e member (of_decide_eq_true own)
  · intro company trigger found answer
    obtain ⟨legible, -, rfl⟩ := (holds.workflowsFor_eq_ok_iff sound.intact).mp answer
    exact holds.pairwise_older fun e member own => legible e member (of_decide_eq_true own)
  · intro company found answer
    obtain ⟨saves, filed⟩ := files.workOrders
    rw [workOrdersOf, sound.intact.require, ok_bind, filed] at answer
    obtain ⟨legible, rfl⟩ := readAll_filed_eq_ok_iff.mp answer
    exact ownedBy_strict (distinct_fileAll saves) legible
  · intro company found answer
    obtain ⟨saves, filed⟩ := files.requests
    rw [requestsOf, sound.intact.require, ok_bind, filed] at answer
    obtain ⟨legible, rfl⟩ := readAll_filed_eq_ok_iff.mp answer
    exact ownedBy_strict (distinct_fileAll saves) legible

end Caretaker.Store
