import Webhook.Dictionary
import Webhook.Text.Case

/-!
# HTTP headers

Which names and values a header may have, and maps of headers. Names are kept in lower case, so that
a map holds one value for each name up to the case of letters.
-/

namespace Webhook

/-- The characters of header names besides ASCII letters and digits. -/
def headerNameMarks : List Char :=
  ['!', '#', '$', '%', '&', '\'', '*', '+', '-', '.', '^', '_', '\x60', '|', '~']

/-- Whether a text may be the name of a header. -/
def isHeaderName (name : String) : Bool :=
  let cs := name.toList
  !cs.isEmpty && cs.length < 65536 && cs.all fun c => c.isAlphanum || headerNameMarks.contains c

/-- Whether a text may be the value of a header: no control but the tab. -/
def isHeaderValue (value : String) : Bool :=
  value.toList.all fun c => c == '\t' || (0x20 ≤ c.toNat && c.toNat != 0x7F)

/-- Headers by their names in lower case. -/
abbrev HeaderMap := Dictionary String

namespace HeaderMap

/-- The headers with one set, unless its name or its value is not that of a header. -/
def set (headers : HeaderMap) (name value : String) : HeaderMap :=
  if isHeaderName name && isHeaderValue value then
    Dictionary.insert headers (Text.lower name) value
  else headers

/-- The headers without those of some names, given in lower case. -/
def without (headers : HeaderMap) (names : List String) : HeaderMap :=
  ⟨headers.entries.filter fun e => !names.contains e.1, headers.sorted.filter _⟩

end HeaderMap

end Webhook
