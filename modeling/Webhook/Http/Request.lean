import Webhook.Http.Header
import Webhook.Text.Base64
import Webhook.Url.Parser

/-!
# HTTP requests

A request as a delivery hands it to the client, and the first request of a `POST` to a url: a user
name and a password in the url become an `authorization` header, and other headers may override it.

What the client adds to every request by itself is left out: the headers `accept`, `host` and
`content-length`, and `referer` where it follows a redirect. Nothing that is signed or compared
depends on them.
-/

namespace Webhook.Http

/-- The method of a request. -/
inductive Method where
  /-- Asks for a resource. -/
  | get
  /-- Sends a body. -/
  | post
  deriving DecidableEq

/-- A request, without the headers that the client adds by itself. -/
structure Request where
  /-- The method. -/
  method : Method
  /-- The url. -/
  url : Url
  /-- The headers. -/
  headers : HeaderMap
  /-- The body; a `GET` has none. -/
  body : Option Bytes
  deriving DecidableEq

/-- The value of the `authorization` header for a user name and a password. -/
def basicCredentials (username : String) (password : Option String) : String :=
  "Basic " ++ Text.Base64.encode (Text.utf8 (username ++ ":" ++ password.getD ""))

/-- The greatest length in bytes of the text of a url that can be sent. -/
def maxUrlLength : Nat := 65534

/-- The characters that a domain name may hold but that cannot be sent in one. -/
def unsendable : List Char := ['"', '\x60', '\x7b', '\x7d']

/-- Whether a url can be sent. -/
def isSendable (u : Url) : Bool :=
  u.print.length ≤ maxUrlLength && !u.host.print.any unsendable.contains

/-- The `POST` of a body to a url with these headers. -/
def Request.post (url : Url) (headers : HeaderMap) (body : Bytes) : Request :=
  match url.credentials? with
  | none => ⟨.post, url, headers, some body⟩
  | some (username, password) =>
    let base := HeaderMap.set Dictionary.empty "authorization"
      (basicCredentials username password)
    ⟨.post, url.withoutUserInfo,
      headers.entries.foldl (fun acc e => Dictionary.insert acc e.1 e.2) base, some body⟩

end Webhook.Http
