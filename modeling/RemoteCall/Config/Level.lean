/-
Levels of the log.

A level is read without regard to ASCII case and surrounding white space; a word
that names none stands for the level of plain information.
-/
import RemoteCall.Text.Trim

namespace RemoteCall

/-- How important a message of the log is. -/
inductive Level where
  | error
  | warn
  | info
  | debug
  | trace
deriving DecidableEq, Repr

namespace Level

/-- The level that a word names. -/
def ofText (text : String) : Level :=
  match Text.lower (Text.trim text) with
  | "error" => error
  | "warn" => warn
  | "info" => info
  | "debug" => debug
  | "trace" => trace
  | _ => info

/-- The name of a level. -/
def name : Level → String
  | error => "ERROR"
  | warn => "WARN"
  | info => "INFO"
  | debug => "DEBUG"
  | trace => "TRACE"

end Level

end RemoteCall
