/-
The stable numeric codes of failures.

Every failure that a caller sees, and every structured error in a message,
carries one of these codes. A number that is no code stands for an unknown
invocation error.
-/

namespace RemoteCall

/-- The kind of outcome that a number stands for. -/
inductive Code where
  /-- No error at all. -/
  | ok
  /-- A bad method signature, a missing plugin or a bad option; never retried. -/
  | config
  /-- The transport could not reach a candidate. -/
  | connect
  /-- The budget of connection attempts is used up, or there was no candidate. -/
  | access
  /-- A send passed its deadline. -/
  | timeout
  /-- A send was cancelled before it completed. -/
  | cancelled
  /-- A message could not be encoded or decoded, on either side. -/
  | codec
  /-- The remote implementation itself failed. -/
  | business
  /-- The remote framework failed around the implementation. -/
  | remote
  /-- Anything else. -/
  | invoke
deriving DecidableEq, Repr

namespace Code

/-- The number of a code. -/
def toInt32 : Code → Int32
  | ok => 0
  | config => 100
  | connect => 200
  | access => 201
  | timeout => 300
  | cancelled => 301
  | codec => 400
  | business => 500
  | remote => 600
  | invoke => 900

/-- The code of a number. -/
def ofInt32 (n : Int32) : Code :=
  if n = 0 then ok
  else if n = 100 then config
  else if n = 200 then connect
  else if n = 201 then access
  else if n = 300 then timeout
  else if n = 301 then cancelled
  else if n = 400 then codec
  else if n = 500 then business
  else if n = 600 then remote
  else invoke

/-- The name of a code. -/
def name : Code → String
  | ok => "Ok"
  | config => "Config"
  | connect => "Connect"
  | access => "Access"
  | timeout => "Timeout"
  | cancelled => "Cancelled"
  | codec => "Codec"
  | business => "Business"
  | remote => "Remote"
  | invoke => "Invoke"

/-- What a code says to a reader. -/
def description : Code → String
  | ok => "The operation completed successfully"
  | config => "Invalid configuration"
  | connect => "Failed to connect to a service instance"
  | access => "No service instance could be reached"
  | timeout => "The call timed out"
  | cancelled => "The call was cancelled"
  | codec => "Failed to encode or decode a message"
  | business => "The remote service raised an error"
  | remote => "The remote framework raised an error"
  | invoke => "Unknown invocation error"

/-- The number of a code leads back to it. -/
theorem ofInt32_toInt32 (c : Code) : ofInt32 c.toInt32 = c := by
  cases c <;> rfl

end Code

end RemoteCall
