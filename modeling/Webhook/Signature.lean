import Webhook.Digest.Hmac
import Webhook.Event.Envelope
import Webhook.Text.Blank

/-!
# Signatures

A payload is signed with the hexadecimal text of its HMAC-SHA256 under a secret. A signature text is
accepted when its trimmed form reads as exactly those bytes, in digits of either case.
-/

namespace Webhook.Signature

/-- The signature of a payload under a secret. -/
def compute (secret payload : Bytes) : String :=
  Text.Hex.encode (Digest.Hmac.mac secret payload)

/-- Whether a text is a signature of a payload under a secret. -/
def verify (secret payload : Bytes) (text : String) : Bool :=
  Text.Hex.decode (Text.trim text) == some (Digest.Hmac.mac secret payload)

end Webhook.Signature

namespace Webhook.Envelope

/-- The signature of an envelope under a secret. -/
def sign (e : Envelope) (secret : String) : String :=
  Signature.compute (Text.utf8 secret) e.canonicalPayload

/-- Whether a text is a signature of an envelope under a secret. -/
def verify (e : Envelope) (text secret : String) : Bool :=
  Signature.verify (Text.utf8 secret) e.canonicalPayload text

end Webhook.Envelope
