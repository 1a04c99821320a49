import Webhook.Text.Case
import Webhook.Url.Domain.Direction
import Webhook.Url.Domain.Joining
import Webhook.Url.Domain.Mapping
import Webhook.Url.Domain.Punycode
import Webhook.Url.Percent

/-!
# Domain names in urls

The form in ASCII of a domain name, by Unicode Technical Standard 46. A name of ASCII alone only
loses its capital letters. The characters of another name are mapped and composed, and its labels
checked and written in Punycode; a label that is in Punycode already is checked in its decoded form.
-/

namespace Webhook.Url.Domain

/-- The characters of ASCII that no domain name may hold, besides controls. -/
def forbidden : List Char :=
  [' ', '%', '#', '/', ':', '<', '>', '?', '@', '[', '\\', ']', '^', '|', '\x7f']

/-- Whether a character may stand in a domain name, as far as ASCII is concerned. -/
def isAllowed (c : Char) : Bool := 0x20 < c.toNat && !forbidden.contains c

/-- Whether a character is of ASCII. -/
def isAscii (c : Char) : Bool := c.toNat < 0x80

/-- What stands in front of a label in Punycode. -/
def punycodeMark : List Char := ['x', 'n', '-', '-']

/-- The labels between dots. -/
def labels : List Char → List (List Char)
  | [] => [[]]
  | c :: cs =>
    if c = '.' then [] :: labels cs
    else
      match labels cs with
      | label :: rest => (c :: label) :: rest
      | [] => [[c]]

/-- The most characters that a label to be written in Punycode may have. -/
def maxEncoded : Nat := 1000

/-- The most characters in Punycode that are read. -/
def maxDecoded : Nat := 2000

/-- Whether a label with other characters than those of ASCII is valid. -/
def isValidLabel (label : List Char) : Bool :=
  !punycodeMark.isPrefixOf label && !label.head?.any isMark && joinersAllowed [] label

/-- The label that stands for one in lower case, if that is in Punycode; it must be valid and such
that mapping and composing leave it as it is. -/
def decodedLabel? (label : List Char) : Option (List Char) :=
  if !punycodeMark.isPrefixOf label then some label
  else do
    let form := label.drop punycodeMark.length
    if form.getLast?.all (· == '-') || maxDecoded < form.length then none
    let decoded ← Punycode.decode? form
    if !decoded.all isAscii && decoded.all (fun c => isValid c && isAllowed c && c != '.') &&
        composed decoded = decoded then some decoded
    else none

/-- The form of a valid label in ASCII. -/
def labelAscii? (label : List Char) : Option (List Char) :=
  if label.all isAscii then some label
  else if !isValidLabel label || maxEncoded < label.length then none
  else some (punycodeMark ++ Punycode.encode label)

/-- The form in ASCII of a name in lower case, given by its labels. -/
def labelsAscii? (ls : List (List Char)) : Option (List Char) := do
  let decoded ← ls.mapM decodedLabel?
  if decoded.any hasRightToLeft && !decoded.all suitsDirection then none
  return ['.'].intercalate (← decoded.mapM labelAscii?)

/-- The form of a domain name in lower-case ASCII; a name with a character that no domain name may
hold has none. -/
def toAscii? (bytes : Bytes) : Option (List Char) := do
  let cs ← Text.ofUtf8? bytes
  let lower := cs.map Text.lowerChar
  if lower.all isAscii && !(labels lower).any punycodeMark.isPrefixOf then
    if lower.all isAllowed then some lower else none
  else
    let mapped := composed (← lower.mapM mapChar?).flatten
    if mapped.all isAllowed then labelsAscii? (labels mapped) else none

end Webhook.Url.Domain
