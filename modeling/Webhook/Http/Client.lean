import Webhook.Http.Request

/-!
# The HTTP client

What becomes of a request: a flight of exchanges, in which redirects are followed, up to a result.
The servers' replies are given from outside. A 307 or 308 repeats the request at its target; a 301,
302 or 303 turns it into a `GET` without body. A redirect needs a target that is a url, and up to
ten are followed.
-/

namespace Webhook.Http

/-- Why an attempt failed. There is no reason for a payload that cannot be written, since every
envelope has a canonical payload. -/
inductive FailureReason where
  /-- There was no answer in time. -/
  | timeout
  /-- There was no answer at all. -/
  | network (detail : String)
  /-- The answer has a status that is no success. -/
  | status (code : Nat)
  deriving DecidableEq

/-- The message of a failure. -/
def FailureReason.message : FailureReason → String
  | timeout => "request timed out"
  | network detail => "network error: " ++ detail
  | status code => "HTTP " ++ String.ofList (Nat.toDigits 10 code)

/-- What an attempt came to: the status of a success, or why it failed. -/
abbrev AttemptResult := Except FailureReason Nat

/-- What comes back for a request. -/
inductive Reply where
  /-- A response with a status, and perhaps the target of a redirect. -/
  | response (status : Nat) (location : Option String)
  /-- No response: there was no connection, or it was closed. -/
  | broken
  deriving DecidableEq

/-- A request under way. -/
structure Flight where
  /-- The url that the first request went to. -/
  origin : Url
  /-- The request that waits for its reply. -/
  request : Request
  /-- How many redirects have been followed. -/
  redirects : Nat
  deriving DecidableEq

/-- How a flight goes on after a reply. -/
inductive Progress where
  /-- A redirect was followed, and a further request waits for its reply. -/
  | onward (flight : Flight)
  /-- There is a result. -/
  | landed (result : AttemptResult)

/-- How many redirects are followed. -/
def maxRedirects : Nat := 10

/-- Whether a status is a success. -/
def isSuccess (status : Nat) : Bool := 200 ≤ status && status < 300

/-- The result of a response that is not followed any further. -/
def resultOf (status : Nat) : AttemptResult :=
  if isSuccess status then .ok status else .error (.status status)

/-- The failure to get a response, as it is reported of the url that was asked for. -/
def sendingFailed (url : Url) : AttemptResult :=
  .error (.network ("error sending request for url (" ++ url.toText ++ ")"))

/-- The failure to follow one more redirect from a url. -/
def followingFailed (url : Url) : AttemptResult :=
  .error (.network ("error following redirect for url (" ++ url.toText ++ ")"))

/-- The failure to make a request of a url. -/
def buildingFailed (url : Url) : AttemptResult :=
  .error (.network ("builder error for url (" ++ url.toText ++ ")"))

/-- The headers that only the host and port they were made for may see. -/
def sensitiveHeaders : List String :=
  ["authorization", "cookie", "cookie2", "proxy-authorization", "www-authenticate"]

/-- The headers that describe a body. -/
def bodyHeaders : List String :=
  ["content-encoding", "content-length", "content-type", "transfer-encoding"]

/-- The request with the method and body that a redirect leaves it; none for another status. -/
def redirected? (status : Nat) (r : Request) : Option Request :=
  if status = 301 ∨ status = 302 ∨ status = 303 then
    some { r with method := .get, body := none, headers := HeaderMap.without r.headers bodyHeaders }
  else if status = 307 ∨ status = 308 then some r
  else none

/-- The request at another url; sensitive headers stay with the host and port. -/
def Request.moveTo (r : Request) (url : Url) : Request :=
  if url.host = r.url.host ∧ url.effectivePort = r.url.effectivePort then { r with url := url }
  else { r with url := url, headers := HeaderMap.without r.headers sensitiveHeaders }

namespace Flight

/-- The flight of a first request. -/
def start (r : Request) : Flight := ⟨r.url, r, 0⟩

/-- A redirect to a url. -/
def follow (f : Flight) (r : Request) (url : Url) : Progress :=
  if maxRedirects ≤ f.redirects then .landed (followingFailed f.request.url)
  else .onward { f with request := r.moveTo url, redirects := f.redirects + 1 }

/-- The target of a redirect, if the text is one that can be sent to. A url of a scheme other than
`http` and `https` is a target that no response comes from. -/
def target? (f : Flight) (location : Option String) : Option (Option Url) :=
  match location with
  | none => none
  | some text =>
    match Url.resolve f.request.url text with
    | .ok url => if isSendable url then some (some url) else none
    -- nothing can be sent there, which ends the flight
    | .error (.unsupportedScheme _) => some none
    | .error _ => none

/-- What a reply makes of a flight. -/
def receive (f : Flight) : Reply → Progress
  | .broken => .landed (sendingFailed f.origin)
  | .response status location =>
    match redirected? status f.request, f.target? location with
    | some r, some (some url) => f.follow r url
    | some _, some none => .landed (sendingFailed f.origin)
    | _, _ => .landed (resultOf status)

end Flight

end Webhook.Http
