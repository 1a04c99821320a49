import Webhook.Signature
import Webhook.Text.Case

/-!
# Inbound requests

What a receiver takes from the headers of a request, and the decision whether the request is
authentic. Of several headers with one name the last counts, and the case of ASCII letters does not
matter.
-/

namespace Webhook

/-- Headers of a request, in order. -/
abbrev HeaderList := List (String × String)

/-- The header that holds the signature. -/
def signatureHeader : String := "X-Webhook-Signature"

/-- The header that holds the event type. -/
def eventHeader : String := "X-Webhook-Event"

/-- The header that holds an identifier. -/
def idHeader : String := "X-Webhook-Id"

/-- The header that holds the time of the event. -/
def timestampHeader : String := "X-Webhook-Timestamp"

/-- Why a request is not authentic. -/
inductive VerificationError where
  /-- There is no signature. -/
  | missingSignature
  /-- There is no identifier. -/
  | missingWebhookId
  /-- No endpoint has the identifier. -/
  | unknownEndpoint
  /-- The signature is not that of the payload. -/
  | invalidSignature
  deriving DecidableEq

/-- The message of a verification error. -/
def VerificationError.message : VerificationError → String
  | missingSignature => "missing webhook signature"
  | missingWebhookId => "missing webhook id"
  | unknownEndpoint => "invalid webhook endpoint"
  | invalidSignature => "invalid webhook signature"

/-- The HTTP status that answers a request that is not authentic. -/
def VerificationError.status (_ : VerificationError) : Nat := 401

/-- What the headers say about the signature. -/
structure SignatureHeaders where
  /-- The signature. -/
  signature : Option String
  /-- The identifier. -/
  webhookId : Option String
  deriving DecidableEq

namespace SignatureHeaders

/-- Takes in one more header. -/
def add (h : SignatureHeaders) (header : String × String) : SignatureHeaders :=
  if Text.sameIgnoringCase header.1 signatureHeader then { h with signature := some header.2 }
  else if Text.sameIgnoringCase header.1 idHeader then { h with webhookId := some header.2 }
  else h

/-- What a list of headers says. -/
def ofHeaders (headers : HeaderList) : SignatureHeaders :=
  headers.foldl add ⟨none, none⟩

end SignatureHeaders

/-- Decides whether a request with these headers and this payload was signed with a secret. -/
def verifyRequest (headers : HeaderList) (payload secret : Bytes) :
    Except VerificationError Unit :=
  match (SignatureHeaders.ofHeaders headers).signature with
  | none => .error .missingSignature
  | some signature =>
    if Signature.verify secret payload signature then .ok () else .error .invalidSignature

end Webhook
