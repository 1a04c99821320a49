import Webhook.Url.Basic
import Webhook.Url.Domain

/-!
# Reading urls

The reading of urls by the rules of the url standard of the web, for the schemes of endpoints. A url
of another scheme is read as far as its host and port, whose faults come before the fault of the
scheme. `parse` reads an absolute url, and `resolve` one that may be relative to another.
-/

namespace Webhook.Url

/-! ## Characters -/

/-- Whether a character is left out at either end of a url. -/
def isEdge (c : Char) : Bool := c.toNat ≤ 0x20

/-- Whether a character is left out anywhere in a url. -/
def isBreak (c : Char) : Bool := c == '\t' || c == '\n' || c == '\r'

/-- The characters of a url that count. -/
def significant (cs : List Char) : List Char :=
  (((cs.dropWhile isEdge).reverse.dropWhile isEdge).reverse).filter fun c => !isBreak c

/-- Whether a character is a slash of either kind. -/
def isSlash (c : Char) : Bool := c == '/' || c == '\\'

/-- Whether a character ends the authority of a url; a backslash does so in the schemes of the
web. -/
def endsAuthority (web : Bool) (c : Char) : Bool :=
  c == '/' || c == '?' || c == '#' || (web && c == '\\')

/-! ## Scheme -/

/-- What the rules make of a scheme. -/
inductive SchemeKind where
  /-- A scheme of endpoints, and whether it is the secure one. -/
  | endpoint (secure : Bool)
  /-- Another scheme whose urls have the same form. -/
  | web
  /-- The scheme of files. -/
  | file
  /-- Any other scheme. -/
  | other
  deriving DecidableEq

/-- What the rules make of a scheme in lower case. -/
def SchemeKind.of (scheme : String) : SchemeKind :=
  if scheme = "http" then .endpoint false
  else if scheme = "https" then .endpoint true
  else if scheme = "ws" ∨ scheme = "wss" ∨ scheme = "ftp" then .web
  else if scheme = "file" then .file
  else .other

/-- The scheme in lower case, and what follows its colon. -/
def scheme? (cs : List Char) : Option (String × List Char) :=
  let isPart (c : Char) := c.isAlphanum || c == '+' || c == '-' || c == '.'
  match cs.takeWhile isPart, cs.dropWhile isPart with
  | first :: name, ':' :: rest =>
    if first.isAlpha then some (Text.lower (String.ofList (first :: name)), rest) else none
  | _, _ => none

/-! ## Authority -/

/-- What comes before the last `@`, if there is one, and what comes after it. -/
def splitUserInfo (cs : List Char) : Option (List Char) × List Char :=
  let after := (cs.reverse.takeWhile (· != '@')).reverse
  if after.length = cs.length then (none, cs)
  else (some (cs.take (cs.length - after.length - 1)), after)

/-- The user name and the password, percent-encoded. -/
def userInfo (cs : List Char) : List Char × List Char :=
  (percentEncode userInfoSet (cs.takeWhile (· != ':')),
    percentEncode userInfoSet ((cs.dropWhile (· != ':')).drop 1))

/-- The host, which ends at the first colon outside of brackets, and what follows it. -/
def splitHost (bracketed : Bool) : List Char → List Char × List Char
  | [] => ([], [])
  | c :: cs =>
    if c = ':' ∧ !bracketed then ([], c :: cs)
    else
      let (host, rest) := splitHost ((bracketed || c == '[') && c != ']') cs
      (c :: host, rest)

/-- The text between brackets, if the first character opens one. -/
def bracketed? (cs : List Char) : Option (Except UrlError Host) :=
  match cs with
  | '[' :: inner =>
    if inner.getLast? = some ']' then
      match Ipv6.parse? inner.dropLast with
      | some groups => some (.ok (.ipv6 groups))
      | none => some (.error .invalidIpv6)
    else some (.error .invalidIpv6)
  | _ => none

/-- The host of a url of the web. -/
def webHost (cs : List Char) : Except UrlError Host :=
  match bracketed? cs with
  | some result => result
  | none =>
    match Domain.toAscii? (percentDecode cs) with
    | none => .error .invalidDomain
    | some name =>
      if name.isEmpty then .error .emptyHost
      else if Ipv4.endsInNumber name then
        match Ipv4.parse? name with
        | some address => .ok (.ipv4 address)
        | none => .error .invalidIpv4
      else .ok (.domain name)

/-- The characters that no host of any scheme may hold. -/
def forbiddenInHost : List Char :=
  ['\x00', ' ', '#', '/', ':', '<', '>', '?', '@', '[', '\\', ']', '^', '|']

/-- Whether the host of a url of another scheme is well-formed. -/
def checkOtherHost (cs : List Char) : Except UrlError Unit :=
  match bracketed? cs with
  | some result => result.map fun _ => ()
  | none => if cs.any forbiddenInHost.contains then .error .invalidDomainCharacter else .ok ()

/-- The port after the colon; no digits are no port. -/
def portNumber (cs : List Char) : Except UrlError (Option Nat) :=
  let ds := cs.takeWhile Char.isDigit
  let n := Nat.ofDigitChars 10 ds 0
  let ended := (cs.dropWhile Char.isDigit).head?.all (endsAuthority true)
  if n < 65536 && ended then .ok (if ds.isEmpty then none else some n) else .error .invalidPort

/-- The port that follows a host, if there is a colon. -/
def portAfterHost : List Char → Except UrlError (Option Nat)
  | ':' :: cs => portNumber cs
  | _ => .ok none

/-- The authority of a url of the web: user name, password, host and port. -/
def webAuthority (cs : List Char) :
    Except UrlError (List Char × List Char × Host × Option Nat) := do
  let (info, cs) := splitUserInfo cs
  let (username, password) := userInfo (info.getD [])
  let (hostText, rest) := splitHost false cs
  if hostText.isEmpty then throw .emptyHost
  let host ← webHost hostText
  return (username, password, host, ← portAfterHost rest)

/-- Whether the authority of a url of another scheme is well-formed; `ends` says that nothing
follows it. Its host may be empty, but not with a user name, a password or a port. -/
def checkOtherAuthority (cs : List Char) (ends : Bool) : Except UrlError Unit := do
  let (info, cs) := splitUserInfo cs
  if info = some [] && cs.isEmpty && !ends then throw .emptyHost
  let (username, password) := userInfo (info.getD [])
  let (hostText, rest) := splitHost false cs
  checkOtherHost hostText
  if hostText.isEmpty && !rest.isEmpty then throw .emptyHost
  let _ ← portAfterHost rest
  if hostText.isEmpty && !(username.isEmpty && password.isEmpty) then throw .emptyHost

/-! ## Path, query and fragment -/

/-- Whether a segment stands for the directory it is in. -/
def isSingleDot (segment : List Char) : Bool :=
  ["."].contains (String.ofList segment) || Text.lower (String.ofList segment) == "%2e"

/-- Whether a segment stands for the directory above. -/
def isDoubleDot (segment : List Char) : Bool :=
  ["..", ".%2e", "%2e.", "%2e%2e"].contains (Text.lower (String.ofList segment))

/-- The segments between slashes. -/
def segments : List Char → List (List Char)
  | [] => [[]]
  | c :: cs =>
    if isSlash c then [] :: segments cs
    else
      match segments cs with
      | segment :: rest => (c :: segment) :: rest
      | [] => [[c]]

/-- A path followed along more segments. A dot segment at the end leaves an empty segment. -/
def follow (path : List (List Char)) : List (List Char) → List (List Char)
  | [] => path
  | segment :: rest =>
    let ending := if rest.isEmpty then [[]] else []
    let path :=
      if isDoubleDot segment then path.dropLast ++ ending
      else if isSingleDot segment then path ++ ending
      else path ++ [percentEncode pathSet segment]
    follow path rest

/-- The path, query and fragment in a text. -/
structure Tail where
  /-- The text of the path. -/
  path : List Char
  /-- The text of the query, if there is one. -/
  query : Option (List Char)
  /-- The text of the fragment, if there is one. -/
  fragment : Option (List Char)

/-- What follows the first occurrence of a mark, if there is one. -/
def after? (mark : Char) (cs : List Char) : Option (List Char) :=
  match cs.dropWhile (· != mark) with
  | [] => none
  | _ :: rest => some rest

/-- Takes apart what follows the authority. -/
def Tail.of (cs : List Char) : Tail :=
  let main := cs.takeWhile (· != '#')
  { path := main.takeWhile (· != '?')
    query := (after? '?' main).map (percentEncode querySet)
    fragment := (after? '#' cs).map (percentEncode fragmentSet) }

/-- The path after a host: always absolute. -/
def rootPath (cs : List Char) : List (List Char) :=
  match cs with
  | [] => [[]]
  | c :: rest => follow [] (segments (if isSlash c then rest else c :: rest))

/-! ## Urls -/

/-- The url of a text after its scheme and the slashes that follow it. -/
def afterSlashes (secure : Bool) (cs : List Char) : Except UrlError Url := do
  let (username, password, host, port) ← webAuthority (cs.takeWhile (!endsAuthority true ·))
  let tail := Tail.of (cs.dropWhile (!endsAuthority true ·))
  return {
    secure, username, password, host
    port := port.filter (· != defaultPort secure)
    path := rootPath tail.path
    query := tail.query
    fragment := tail.fragment }

/-- Checks what follows the scheme of a url that is not for endpoints. -/
def checkOther (kind : SchemeKind) (cs : List Char) : Except UrlError Unit :=
  match kind with
  | .endpoint _ => .ok ()
  | .web =>
    (webAuthority ((cs.dropWhile isSlash).takeWhile (!endsAuthority true ·))).map fun _ => ()
  | .file =>
    match cs with
    | a :: b :: rest =>
      if isSlash a && isSlash b then
        let host := rest.takeWhile (!endsAuthority true ·)
        let isDrive := match host with
          | [letter, mark] => letter.isAlpha && (mark == ':' || mark == '|')
          | _ => false
        if host.isEmpty || isDrive then .ok () else (webHost host).map fun _ => ()
      else .ok ()
    | _ => .ok ()
  | .other =>
    match cs with
    | '/' :: '/' :: rest =>
      checkOtherAuthority (rest.takeWhile (!endsAuthority false ·))
        (rest.dropWhile (!endsAuthority false ·)).isEmpty
    | _ => .ok ()

/-- The url of an absolute text, given its scheme and what follows it. -/
def absolute (scheme : String) (rest : List Char) : Except UrlError Url :=
  match SchemeKind.of scheme with
  | .endpoint secure => afterSlashes secure (rest.dropWhile isSlash)
  | kind => do
    checkOther kind rest
    throw (.unsupportedScheme scheme)

/-- The url of a text. -/
def parse (s : String) : Except UrlError Url :=
  match scheme? (significant s.toList) with
  | some (scheme, rest) => absolute scheme rest
  | none => .error .relativeWithoutBase

/-- The url of a text without scheme, relative to a base. -/
def relativeTo (base : Url) (cs : List Char) : Except UrlError Url :=
  match cs with
  | a :: b :: rest =>
    if isSlash a && isSlash b then afterSlashes base.secure (rest.dropWhile isSlash)
    else .ok (onPath base cs)
  | _ => .ok (onPath base cs)
where
  /-- The url of a text that gives at most a path, a query and a fragment. -/
  onPath (base : Url) (cs : List Char) : Url :=
    let tail := Tail.of cs
    match tail.path with
    | [] =>
      { base with query := if tail.query.isSome then tail.query else base.query
                  fragment := tail.fragment }
    | c :: _ =>
      let path := if isSlash c then rootPath tail.path
        else follow base.path.dropLast (segments tail.path)
      { base with path := path, query := tail.query, fragment := tail.fragment }

/-- The url that a text names when it is read at a base. A text with the scheme of the base and
fewer than two slashes after it is relative too. -/
def resolve (base : Url) (s : String) : Except UrlError Url :=
  let cs := significant s.toList
  match scheme? cs with
  | some (scheme, rest) =>
    if scheme = base.scheme ∧ (rest.takeWhile isSlash).length < 2 then relativeTo base rest
    else absolute scheme rest
  | none => relativeTo base cs

end Webhook.Url
