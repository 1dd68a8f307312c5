/-
Text between quotes, for messages and summaries of values.

A quote and a backslash are written behind a backslash, tab, line feed, carriage
return and NUL have a letter of their own, and any other character that does not
show is given by its code point in hexadecimal.
-/
import RemoteCall.Bytes.Utf8
import RemoteCall.Text.Printable

namespace RemoteCall.Text

/-- The digits of a number in hexadecimal, lower case, for at most `fuel` digits. -/
def hexDigits : Nat → Nat → List Char
  | 0, _ => []
  | fuel + 1, n =>
    if n < 16 then [Hex.digit n] else hexDigits fuel (n / 16) ++ [Hex.digit (n % 16)]

/-- A character as it stands in quoted text. -/
def quoteChar (c : Char) : List Char :=
  if c = '"' then ['\\', '"']
  else if c = '\\' then ['\\', '\\']
  else if c = '\t' then ['\\', 't']
  else if c = '\n' then ['\\', 'n']
  else if c = '\r' then ['\\', 'r']
  else if c.toNat = 0 then ['\\', '0']
  else if shows c then [c]
  else ['\\', 'u', '\x7b'] ++ hexDigits 8 c.toNat ++ ['\x7d']

/-- The text between quotes. -/
def quoted (text : String) : String :=
  String.ofList ('"' :: text.toList.flatMap quoteChar ++ ['"'])

/-- A summary of an optional text. -/
def quotedOption : Option String → String
  | none => "None"
  | some text => "Some(" ++ quoted text ++ ")"

/-- A summary of a record: its name and its fields with their summaries. -/
def summary (name : String) (fields : List (String × String)) : String :=
  name ++ " \x7b " ++ ", ".intercalate (fields.map fun (label, value) => label ++ ": " ++ value)
    ++ " \x7d"

end RemoteCall.Text
