import Webhook.Json.Token.Lexer

/-!
# JSON documents

The tree of a JSON text, before anything is decided about what it stands for: members keep their
order and their repetitions, strings their pieces and numbers their digits. `ofTokens?` is a machine
of one step for each token, which keeps the containers that are still open on a stack.
-/

namespace Webhook.Json

/-- A tree of JSON tokens. -/
inductive Document where
  /-- The literal `null`. -/
  | null
  /-- A truth value. -/
  | bool (b : Bool)
  /-- A number. -/
  | number (n : Numeral)
  /-- A string. -/
  | string (pieces : List Piece)
  /-- An array. -/
  | array (items : List Document)
  /-- An object, with its members in the order of the text. -/
  | object (members : List (List Piece × Document))

namespace Document

/-- A container that is still open, with what it holds so far in reverse. -/
inductive Frame where
  /-- An array. -/
  | array (reversed : List Document)
  /-- An object, and the key whose value is being read. -/
  | object (reversed : List (List Piece × Document)) (key : List Piece)

/-- What the machine expects next. -/
inductive Goal where
  /-- A value. -/
  | value
  /-- A value, or the end of the array that has just been opened. -/
  | valueOrEnd
  /-- A key of the object with these members in reverse. -/
  | key (reversed : List (List Piece × Document))
  /-- A key, or the end of the object that has just been opened. -/
  | keyOrEnd
  /-- The colon after a key of the object with these members in reverse. -/
  | colon (reversed : List (List Piece × Document)) (key : List Piece)
  /-- What may follow a value that has been read. -/
  | after (d : Document)

/-- The state of the machine: what it expects, and the open containers, innermost first. -/
structure Builder where
  /-- What is expected next. -/
  goal : Goal
  /-- The containers around it. -/
  stack : List Frame

namespace Builder

/-- The state before the first token. -/
def start : Builder := ⟨.value, []⟩

/-- One token where a value is expected. -/
def stepValue (stack : List Frame) : Token → Option Builder
  | .null => some ⟨.after .null, stack⟩
  | .bool b => some ⟨.after (.bool b), stack⟩
  | .number n => some ⟨.after (.number n), stack⟩
  | .string pieces => some ⟨.after (.string pieces), stack⟩
  | .openArray => some ⟨.valueOrEnd, .array [] :: stack⟩
  | .openObject => some ⟨.keyOrEnd, stack⟩
  | _ => none

/-- One token. -/
def step (b : Builder) (t : Token) : Option Builder :=
  match b.goal, t, b.stack with
  | .value, t, stack => stepValue stack t
  | .valueOrEnd, .closeArray, .array reversed :: stack =>
    some ⟨.after (.array reversed.reverse), stack⟩
  | .valueOrEnd, t, stack => stepValue stack t
  | .keyOrEnd, .closeObject, stack => some ⟨.after (.object []), stack⟩
  | .keyOrEnd, .string key, stack => some ⟨.colon [] key, stack⟩
  | .key reversed, .string key, stack => some ⟨.colon reversed key, stack⟩
  | .colon reversed key, .colon, stack => some ⟨.value, .object reversed key :: stack⟩
  | .after d, .comma, .array reversed :: stack => some ⟨.value, .array (d :: reversed) :: stack⟩
  | .after d, .closeArray, .array reversed :: stack =>
    some ⟨.after (.array (d :: reversed).reverse), stack⟩
  | .after d, .comma, .object reversed key :: stack => some ⟨.key ((key, d) :: reversed), stack⟩
  | .after d, .closeObject, .object reversed key :: stack =>
    some ⟨.after (.object ((key, d) :: reversed).reverse), stack⟩
  | _, _, _ => none

/-- The tree, once the tokens are used up and no container is open. -/
def finish : Builder → Option Document
  | ⟨.after d, []⟩ => some d
  | _ => none

end Builder

/-- The tree of a sequence of tokens. -/
def ofTokens? (tokens : List Token) : Option Document :=
  (tokens.foldlM Builder.step Builder.start).bind Builder.finish

/-- The tree of a JSON text. -/
def parse (text : String) : Option Document :=
  (Token.scan text.toList).bind ofTokens?

/-- The text of a string. -/
def text? : Document → Option String
  | .string pieces => Piece.text? pieces
  | _ => none

/-- The truth value of a literal. -/
def bool? : Document → Option Bool
  | .bool b => some b
  | _ => none

/-- The items of an array. -/
def items? : Document → Option (List Document)
  | .array items => some items
  | _ => none

/-- The natural number of a plain numeral. -/
def natural? : Document → Option Nat
  | .number n => n.natural?
  | _ => none

end Document

end Webhook.Json
