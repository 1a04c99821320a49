import Webhook.Text.Blank

/-!
# Bootstrap endpoints

Endpoints declared through configuration: a list of urls and a list of secrets, both with commas
between the pieces. A secret belongs to the url at the same place in its list; an empty url is no
endpoint, and an empty or missing secret is none, but both keep their place.
-/

namespace Webhook

/-- The pieces of a text between commas. -/
def commaPieces : List Char → List (List Char)
  | [] => [[]]
  | c :: cs =>
    if c = ',' then [] :: commaPieces cs
    else
      match commaPieces cs with
      | piece :: rest => (c :: piece) :: rest
      | [] => [[c]]

/-- The trimmed pieces of a text between commas; a blank text has none. -/
def splitList (s : String) : List String :=
  if Text.isBlankText s then []
  else (commaPieces s.toList).map fun piece => String.ofList (Text.trimChars piece)

/-- Urls and secrets declared through configuration. -/
structure Bootstrap where
  /-- The urls, some of which may be empty. -/
  urls : List String
  /-- The secrets, aligned with the urls. -/
  secrets : List String
  deriving DecidableEq

namespace Bootstrap

/-- The urls and secrets of two lists with commas. -/
def parse (urls secrets : String) : Bootstrap := ⟨splitList urls, splitList secrets⟩

/-- The urls that are not empty, each with the secret at its place if that is not empty. -/
def pairs (b : Bootstrap) : List (String × Option String) :=
  b.urls.zipIdx.filterMap fun (url, i) =>
    if url.isEmpty then none
    else some (url, b.secrets[i]?.filter fun secret => !secret.isEmpty)

/-- Whether no endpoint is declared. -/
def isEmpty (b : Bootstrap) : Bool := b.pairs.isEmpty

end Bootstrap

end Webhook
