import Webhook.Url.Ipv6

/-!
# Urls

An absolute url of one of the schemes `http` and `https`, taken apart. Its parts are kept as they
are written, percent-encoded, and `toText` puts them together again: the normal form of the url.
-/

namespace Webhook

/-- Why a text is not the url of an endpoint. -/
inductive UrlError where
  /-- There is no scheme. -/
  | relativeWithoutBase
  /-- There is no host. -/
  | emptyHost
  /-- The port is no number below 65536. -/
  | invalidPort
  /-- The host ends in a number but is no IPv4 address. -/
  | invalidIpv4
  /-- The host is in brackets but is no IPv6 address. -/
  | invalidIpv6
  /-- The host is no domain name. -/
  | invalidDomain
  /-- The host of another scheme has a character that no host may have. -/
  | invalidDomainCharacter
  /-- The url is well-formed, but of another scheme. -/
  | unsupportedScheme (scheme : String)
  deriving DecidableEq

/-- The reason that a message gives for a url error. -/
def UrlError.reason : UrlError → String
  | relativeWithoutBase => "relative URL without a base"
  | emptyHost => "empty host"
  | invalidPort => "invalid port number"
  | invalidIpv4 => "invalid IPv4 address"
  | invalidIpv6 => "invalid IPv6 address"
  | invalidDomain => "invalid international domain name"
  | invalidDomainCharacter => "invalid domain character"
  | unsupportedScheme scheme => "unsupported url scheme: " ++ scheme

/-- The host of a url. -/
inductive Url.Host where
  /-- A domain name in lower-case ASCII. -/
  | domain (name : List Char)
  /-- An IPv4 address. -/
  | ipv4 (address : Nat)
  /-- An IPv6 address, by its groups. -/
  | ipv6 (groups : List Nat)
  deriving DecidableEq

/-- The text of a host. -/
def Url.Host.print : Url.Host → List Char
  | .domain name => name
  | .ipv4 address => Ipv4.print address
  | .ipv6 groups => '[' :: Ipv6.print groups ++ [']']

/-- A url of one of the schemes `http` and `https`. -/
structure Url where
  /-- Whether the scheme is `https`. -/
  secure : Bool
  /-- The user name, empty if there is none. -/
  username : List Char
  /-- The password, empty if there is none. -/
  password : List Char
  /-- The host. -/
  host : Url.Host
  /-- The port, where it is not that of the scheme. -/
  port : Option Nat
  /-- The segments of the path, at least one. -/
  path : List (List Char)
  /-- What follows the question mark, if there is one. -/
  query : Option (List Char)
  /-- What follows the number sign, if there is one. -/
  fragment : Option (List Char)
  deriving DecidableEq

namespace Url

/-- The scheme. -/
def scheme (u : Url) : String := if u.secure then "https" else "http"

/-- The port of a scheme where none is given. -/
def defaultPort (secure : Bool) : Nat := if secure then 443 else 80

/-- The port that requests go to. -/
def effectivePort (u : Url) : Nat := u.port.getD (defaultPort u.secure)

/-- The user name and password with the sign that ends them, if there are any. -/
def printUserInfo (u : Url) : List Char :=
  if u.username.isEmpty && u.password.isEmpty then []
  else if u.password.isEmpty then u.username ++ ['@']
  else u.username ++ ':' :: u.password ++ ['@']

/-- An optional part after the mark that starts it. -/
def printPart (mark : Char) : Option (List Char) → List Char
  | none => []
  | some cs => mark :: cs

/-- The text of a url. -/
def print (u : Url) : List Char :=
  u.scheme.toList ++ "://".toList ++ u.printUserInfo ++ u.host.print ++
    printPart ':' (u.port.map (Nat.toDigits 10)) ++
    u.path.flatMap ('/' :: ·) ++ printPart '?' u.query ++ printPart '#' u.fragment

/-- The text of a url. -/
def toText (u : Url) : String := String.ofList u.print

/-- The url without user name and password. -/
def withoutUserInfo (u : Url) : Url := { u with username := [], password := [] }

/-- The user name and password as texts. A password that is no text counts as absent; where the
user name is none, or nothing is left, there are no credentials. -/
def credentials? (u : Url) : Option (String × Option String) := do
  let text (cs : List Char) : Option String :=
    (Text.ofUtf8? (percentDecode cs)).map String.ofList
  let username ← text u.username
  let password := if u.password.isEmpty then none else text u.password
  if username.isEmpty && password.isNone then none else some (username, password)

end Url

end Webhook
