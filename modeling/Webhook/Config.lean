import Webhook.Bootstrap
import Webhook.Endpoint.RetryPolicy
import Webhook.Text.Quoted

/-!
# Configuration

The settings of a dispatcher, and those that variables of the environment override.
-/

namespace Webhook

/-- The variables of the environment that are set, with their values. -/
abbrev Environment := List (String × String)

/-- What is wrong with a setting. -/
inductive ConfigError where
  /-- A variable has a value that does not fit. -/
  | invalidValue (name value : String)
  deriving DecidableEq

/-- The message of a configuration error. -/
def ConfigError.message : ConfigError → String
  | invalidValue name value => "invalid value for " ++ name ++ ": " ++ Text.Quoted.encode value

/-- The settings of a dispatcher. -/
structure Config where
  /-- How long an attempt may take, in milliseconds. -/
  requestTimeout : Nat
  /-- How requests name their sender. -/
  userAgent : String
  /-- How many reports are kept for readers. -/
  reportCapacity : Nat
  /-- The retry policy of endpoints without one of their own. -/
  defaultRetry : RetryPolicy
  deriving DecidableEq

namespace Config

/-- The settings where nothing else is asked for. -/
def default : Config := ⟨10000, "Soroban-Ajo-Webhook/1.0", 1024, RetryPolicy.default⟩

/-- The variable of the request timeout. -/
def timeoutVariable : String := "WEBHOOK_REQUEST_TIMEOUT_MS"

/-- The variable of the sender's name. -/
def userAgentVariable : String := "WEBHOOK_USER_AGENT"

/-- The positive number of milliseconds that a text spells: decimal digits, perhaps after a plus
sign, with blank characters around, of a number that fits a word of 64 bits. -/
def millis? (s : String) : Option Nat :=
  let cs := Text.trimChars s.toList
  let ds := match cs with
    | '+' :: rest => rest
    | _ => cs
  if ds.isEmpty || !ds.all Char.isDigit then none
  else
    let n := Nat.ofDigitChars 10 ds 0
    if 0 < n && n < UInt64.size then some n else none

/-- The default settings with those that the environment overrides; a blank name of the sender
overrides nothing. -/
def ofEnvironment (env : Environment) : Except ConfigError Config := do
  let requestTimeout ← match env.lookup timeoutVariable with
    | none => pure default.requestTimeout
    | some raw =>
      match millis? raw with
      | some n => pure n
      | none => throw (.invalidValue timeoutVariable raw)
  let userAgent := match env.lookup userAgentVariable with
    | none => default.userAgent
    | some raw => if Text.isBlankText raw then default.userAgent else Text.trim raw
  return { default with requestTimeout, userAgent }

end Config

/-- The endpoints that the environment declares; a variable that is not set is empty. -/
def Bootstrap.ofEnvironment (env : Environment) : Bootstrap :=
  parse ((env.lookup "WEBHOOK_URLS").getD "") ((env.lookup "WEBHOOK_SECRETS").getD "")

end Webhook
