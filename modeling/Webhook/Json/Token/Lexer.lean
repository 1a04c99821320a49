import Webhook.Json.Token
import Webhook.Text.Hex

/-!
# Reading tokens

A machine of one step for each character. A word is the longest run of characters that a literal or
a number may hold; no two words can stand side by side in a JSON text, so a run that is neither a
literal nor a number is refused as a whole. An escape for the second half of a surrogate pair joins
the half before it to one character.
-/

namespace Webhook.Json

/-- What the machine is in the middle of. -/
inductive Lexer.Mode where
  /-- Between tokens. -/
  | between
  /-- In a word, with its characters so far in reverse. -/
  | word (reversed : List Char)
  /-- In a string, with its pieces so far in reverse. -/
  | string (reversed : List Piece)
  /-- After a backslash in a string. -/
  | escape (reversed : List Piece)
  /-- In the digits of a `\u` escape: `missing` are still to come, `code` is their value so far. -/
  | unicode (reversed : List Piece) (missing code : Nat)

/-- The state of the machine: its mode, and the tokens read so far in reverse. -/
structure Lexer where
  /-- What it is in the middle of. -/
  mode : Lexer.Mode
  /-- The tokens so far in reverse. -/
  tokens : List Token

namespace Lexer

/-- The state before the first character. -/
def start : Lexer := ⟨.between, []⟩

/-- Whether a character may stand between tokens. -/
def isSpace (c : Char) : Bool :=
  c == ' ' || c == '\t' || c == '\n' || c == '\r'

/-- Whether a character may be part of a literal or a number. -/
def isWordChar (c : Char) : Bool :=
  c.isAlphanum || c == '+' || c == '-' || c == '.'

/-- The character that an escape of one letter stands for. -/
def escaped? : Char → Option Char
  | '"' => some '"'
  | '\\' => some '\\'
  | '/' => some '/'
  | 'b' => some '\x08'
  | 'f' => some '\x0c'
  | 'n' => some '\n'
  | 'r' => some '\r'
  | 't' => some '\t'
  | _ => none

/-- Whether a code is that of the first half of a surrogate pair. -/
def isHighSurrogate (code : Nat) : Bool := 0xD800 ≤ code && code ≤ 0xDBFF

/-- Whether a code is that of the second half of a surrogate pair. -/
def isLowSurrogate (code : Nat) : Bool := 0xDC00 ≤ code && code ≤ 0xDFFF

/-- The pieces, in reverse, with the code of a `\u` escape added to them. -/
def pushCode (reversed : List Piece) (code : Nat) : List Piece :=
  match reversed with
  | .surrogate high :: rest =>
    if isHighSurrogate high && isLowSurrogate code then
      .char (Char.ofNat (0x10000 + (high - 0xD800) * 0x400 + (code - 0xDC00))) :: rest
    else if isHighSurrogate code || isLowSurrogate code then .surrogate code :: reversed
    else .char (Char.ofNat code) :: reversed
  | _ =>
    if isHighSurrogate code || isLowSurrogate code then .surrogate code :: reversed
    else .char (Char.ofNat code) :: reversed

/-- One character between tokens. -/
def stepBetween (tokens : List Token) (c : Char) : Option Lexer :=
  if isSpace c then some ⟨.between, tokens⟩
  else if c = '"' then some ⟨.string [], tokens⟩
  else if isWordChar c then some ⟨.word [c], tokens⟩
  else (Token.ofMark? c).map fun t => ⟨.between, t :: tokens⟩

/-- One character. -/
def step (l : Lexer) (c : Char) : Option Lexer :=
  match l.mode with
  | .between => stepBetween l.tokens c
  | .word reversed =>
    -- the character after a word is the first that is not of it
    if isWordChar c then some { l with mode := .word (c :: reversed) }
    else do stepBetween ((← Token.ofWord? reversed.reverse) :: l.tokens) c
  | .string reversed =>
    if c = '"' then some ⟨.between, .string reversed.reverse :: l.tokens⟩
    else if c = '\\' then some { l with mode := .escape reversed }
    else if c.toNat < 0x20 then none
    else some { l with mode := .string (.char c :: reversed) }
  | .escape reversed =>
    if c = 'u' then some { l with mode := .unicode reversed 4 0 }
    else (escaped? c).map fun e => { l with mode := .string (.char e :: reversed) }
  | .unicode reversed missing code => do
    let code := 16 * code + (← Text.Hex.value? c)
    return { l with
      mode := if missing ≤ 1 then .string (pushCode reversed code)
        else .unicode reversed (missing - 1) code }

/-- The tokens at the end of the text. -/
def finish (l : Lexer) : Option (List Token) :=
  match l.mode with
  | .between => some l.tokens.reverse
  | .word reversed => do return ((← Token.ofWord? reversed.reverse) :: l.tokens).reverse
  | _ => none

end Lexer

/-- The tokens of a text. -/
def Token.scan (text : List Char) : Option (List Token) :=
  (text.foldlM Lexer.step Lexer.start).bind Lexer.finish

end Webhook.Json
