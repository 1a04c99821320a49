/-!
# ASCII letter case

Header names, url schemes and hexadecimal digits are compared without regard to the case of ASCII
letters; other characters have no case here.
-/

namespace Webhook.Text

/-- The lower-case form of an ASCII capital letter; every other character stands for itself. -/
def lowerChar (c : Char) : Char :=
  if 'A' ≤ c ∧ c ≤ 'Z' then Char.ofNat (c.toNat + 32) else c

/-- The text with its ASCII capital letters in lower case. -/
def lower (s : String) : String :=
  String.ofList (s.toList.map lowerChar)

/-- Whether two texts agree up to the case of ASCII letters. -/
def sameIgnoringCase (s t : String) : Bool :=
  lower s == lower t

end Webhook.Text
