import Webhook.Json.Numeral

/-!
# Tokens of a JSON text

The tokens between the text and the tree. A string is kept as the pieces that its literal names, so
that an escape for half of a surrogate pair is a token too: such a string is no text, but it is
allowed where a value is skipped.
-/

namespace Webhook.Json

/-- One piece of a string: a character, or half of a surrogate pair without its other half. -/
inductive Piece where
  /-- A character. -/
  | char (c : Char)
  /-- The code of a surrogate that stands alone. -/
  | surrogate (code : Nat)
  deriving DecidableEq

/-- The character of a piece. -/
def Piece.char? : Piece → Option Char
  | .char c => some c
  | .surrogate _ => none

/-- The text that pieces spell, unless a lone surrogate is among them. -/
def Piece.text? (pieces : List Piece) : Option String :=
  (pieces.mapM Piece.char?).map String.ofList

/-- A token. -/
inductive Token where
  /-- `\x7b`, the start of an object. -/
  | openObject
  /-- `\x7d`, the end of an object. -/
  | closeObject
  /-- `[`, the start of an array. -/
  | openArray
  /-- `]`, the end of an array. -/
  | closeArray
  /-- `:`, between a key and its value. -/
  | colon
  /-- `,`, between items. -/
  | comma
  /-- The word `null`. -/
  | null
  /-- One of the words `true` and `false`. -/
  | bool (b : Bool)
  /-- A number. -/
  | number (n : Numeral)
  /-- A string. -/
  | string (pieces : List Piece)
  deriving DecidableEq

/-- The token that a word without quotes spells: a literal or a number. -/
def Token.ofWord? (word : List Char) : Option Token :=
  if word = "null".toList then some .null
  else if word = "true".toList then some (.bool true)
  else if word = "false".toList then some (.bool false)
  else (Numeral.ofChars? word).map .number

/-- The token of a character that is a token by itself. -/
def Token.ofMark? : Char → Option Token
  | '{' => some .openObject
  | '}' => some .closeObject
  | '[' => some .openArray
  | ']' => some .closeArray
  | ':' => some .colon
  | ',' => some .comma
  | _ => none

end Webhook.Json
