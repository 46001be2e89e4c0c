import Caretaker.Calendar.Reading
import Caretaker.Uuid

/-!
# Webhook configurations

The credential under which a company's monitoring calls in.  A company has at most
one.  The key is opaque and can be replaced; whoever calls is recognised by the key
alone.
-/

namespace Caretaker

open Json Calendar

/-- The credential of a company. -/
structure WebhookConfig where
  id : Uuid
  companyId : Uuid
  apiKey : String
  enabled : Bool
  createdAt : Instant
  updatedAt : Instant
  deriving DecidableEq

/-- What a caller is told. -/
structure WebhookReply where
  success : Bool
  message : String
  timestamp : String
  deriving DecidableEq

instance : Wire WebhookConfig where
  encode config := record
    [put "id" config.id, put "companyId" config.companyId, put "apiKey" config.apiKey,
      put "enabled" config.enabled, put "createdAt" config.createdAt,
      put "updatedAt" config.updatedAt]
  read := Record.read <|
    WebhookConfig.mk <$> required "id" <*> required "companyId" <*> required "apiKey" <*>
    required "enabled" <*> required "createdAt" <*> required "updatedAt"

instance : Wire WebhookReply where
  encode reply := record
    [put "success" reply.success, put "message" reply.message, put "timestamp" reply.timestamp]
  read := Record.read <|
    WebhookReply.mk <$> required "success" <*> required "message" <*> required "timestamp"

end Caretaker
