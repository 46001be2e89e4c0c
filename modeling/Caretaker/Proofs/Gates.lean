import Caretaker.Proofs.Desk.Preserving
import Caretaker.Webhook.Gateway

/-!
# The gates of the gateway

A call passes its gates before anything is done for it.  Up to there it changes nothing
but a bucket, and what comes after depends on the configuration and the alert that it
was let in with.
-/

namespace Caretaker.Gateway

open Job

/-- What a call has to pass before a workflow is selected. -/
def letIn (apiKey : Option String) (payload : List UInt8) :
    Job WebhookError (WebhookConfig × Alert) := do
  let key ← orFail .missingApiKey (apiKey.filter fun key => !key.isEmpty)
  if !(← takeToken (webhookBucket key)) then fail .rateLimited
  else
    let config ← resolve key
    let alert ← normalize payload
    return (config, alert)

/-- What is done with a call that was let in, after a workflow was selected. -/
def settle (timeout : Nat) (company : Uuid) (alert : Alert) (selected : Option Workflow) :
    Job WebhookError WebhookResult :=
  match selected with
  | none => pure .noMatch
  | some w => execute timeout company w alert

/-- A call is let in, a workflow is selected, and the rest depends on which. -/
theorem handle_eq (timeout : Nat) (apiKey : Option String) (payload : List UInt8) :
    handle timeout apiKey payload =
      letIn apiKey payload >>= fun entry =>
        (Engine.select entry.1.companyId .webhook (.alert entry.2)).mapError .ofStore >>=
          settle timeout entry.1.companyId entry.2 := by
  unfold handle letIn
  rw [bind_assoc]
  apply bind_congr
  intro key
  rw [bind_assoc]
  apply bind_congr
  intro allowed
  split
  · rfl
  · simp only [bind_assoc, pure_bind]
    rfl

theorem resolve_looks (apiKey : String) : (resolve apiKey).Looks := by
  apply Looks.bind
  · exact Looks.mapError _ (Looks.read _ _)
  · intro found
    apply Looks.bind
    · exact Looks.orFail _ _
    · intro config
      split
      · exact Looks.pure _
      · exact Looks.fail _

theorem normalize_looks (payload : List UInt8) : (normalize payload).Looks := by
  unfold normalize
  split
  · exact Looks.pure _
  · exact Looks.fail _

/-- Whether or not a call is let in, at most a token was asked for. -/
theorem letIn_leaves (apiKey : Option String) (payload : List UInt8) (desk : Desk) :
    ∃ source limiter,
      ((letIn apiKey payload).run desk).2 = { desk with source := source, limiter := limiter } := by
  have restLooks (key : String) : (resolve key >>= fun config => normalize payload >>= fun alert =>
      (pure (config, alert) : Job WebhookError (WebhookConfig × Alert))).Looks := by
    apply Looks.bind (resolve_looks key)
    intro config
    apply Looks.bind (normalize_looks payload)
    exact fun _ => Looks.pure _
  unfold letIn
  cases apiKey.filter fun key => !key.isEmpty with
  | none => exact ⟨desk.source, desk.limiter, rfl⟩
  | some key =>
      rw [orFail, pure_bind, run_bind, run_takeToken]
      dsimp only
      split
      · exact ⟨_, _, rfl⟩
      · exact ⟨_, _, restLooks key _⟩

end Caretaker.Gateway
