import Caretaker.Mail.Mailbox
import Caretaker.Settings.Environment

/-!
# Mail delivery

Where mail is handed over, and from whom it comes.  Without a relay in the
environment mail is only logged.  Both addresses of a mail are read before the
relay is called, the sender's first.
-/

namespace Caretaker

open Text

/-- Why a mail was not delivered. -/
inductive MailError where
  | address (reason : String)
  | delivery (reason : String)
  deriving DecidableEq

/-- How the failure is reported. -/
def MailError.message : MailError → String
  | .address reason => "invalid address: " ++ reason
  | .delivery reason => "delivery failed: " ++ reason

/-- The mail relay and how to use it. -/
structure Relay where
  host : String
  port : Nat
  sender : String
  user : Option String
  password : Option String
  deriving DecidableEq

namespace Relay

/-- The port of a relay that names none. -/
def usualPort : Nat := 587

/-- The sender of mail when none is named. -/
def usualSender : String := "noreply@maintflow.local"

/-- A port number; a plus sign and leading zeros are allowed. -/
def port? (text : String) : Option Nat :=
  let digits := match text.toList with
    | '+' :: rest => rest
    | all => all
  (natOfDecimal? digits).filter fun port => port < portLimit

/-- The relay that an environment names. -/
def ofEnvironment? (environment : Environment) : Option Relay := do
  let host ← environment.get? "SMTP_HOST"
  return {
    host
    port := ((environment.get? "SMTP_PORT").bind port?).getD usualPort
    sender := (environment.get? "SMTP_FROM").getD usualSender
    user := environment.get? "SMTP_USER"
    password := environment.get? "SMTP_PASSWORD" }

end Relay

/-- The two ends of a mail. -/
inductive MailEnd where
  | sender
  | recipient
  deriving DecidableEq

/-- The mailboxes of sender and recipient, or the first of the two that is none. -/
def mailboxes (sender recipient : String) : Except MailEnd (Mailbox × Mailbox) :=
  match Mailbox.parse? sender, Mailbox.parse? recipient with
  | none, _ => .error .sender
  | _, none => .error .recipient
  | some sender, some recipient => .ok (sender, recipient)

end Caretaker
