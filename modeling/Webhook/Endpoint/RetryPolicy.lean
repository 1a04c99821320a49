import Webhook.Json.Printer
import Webhook.Json.Record

/-!
# Retry policies

How often a delivery is tried, and how long it waits in between: after the `n`-th attempt, `n` times
the policy's delay, at most the greatest number of milliseconds that a word of 64 bits holds.
-/

namespace Webhook

/-- How a failed delivery is tried again. -/
structure RetryPolicy where
  /-- The number of attempts in all; zero stands for one. -/
  maxRetries : UInt32
  /-- The wait after the first attempt, in milliseconds. -/
  retryDelayMs : UInt64
  deriving DecidableEq

namespace RetryPolicy

/-- The policy where nothing else is asked for: three attempts, one second apart at first. -/
def default : RetryPolicy := ⟨3, 1000⟩

/-- The longest wait, in milliseconds. -/
def maxDelay : Nat := UInt64.size - 1

/-- The wait after the attempt with this number, from 1 on, in milliseconds. -/
def delayAfter (p : RetryPolicy) (attempt : Nat) : Nat :=
  min (p.retryDelayMs.toNat * attempt) maxDelay

/-- The number of attempts that a delivery has, at least one. -/
def attempts (p : RetryPolicy) : Nat := max 1 p.maxRetries.toNat

/-- The retry policy of a document. -/
def ofDocument? (d : Json.Document) : Option RetryPolicy := do
  let r ← Json.Record.ofDocument? ["maxRetries", "retryDelayMs"] d
  let maxRetries ← r.required "maxRetries" Json.Document.natural?
  let retryDelayMs ← r.required "retryDelayMs" Json.Document.natural?
  if maxRetries < UInt32.size ∧ retryDelayMs < UInt64.size then
    some ⟨UInt32.ofNat maxRetries, UInt64.ofNat retryDelayMs⟩
  else none

/-- The JSON text of a retry policy. -/
def print (p : RetryPolicy) : List Char :=
  Json.braced [("maxRetries", Json.printNat p.maxRetries.toNat),
    ("retryDelayMs", Json.printNat p.retryDelayMs.toNat)]

end RetryPolicy

end Webhook
