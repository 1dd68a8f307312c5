/-
Writing a value as JSON text.

The text is compact. Strings escape the quote, the backslash and the control
characters only. A double has the fewest digits that read back; it is written
with a point between 1e-5 and 1e16 and with a signed exponent outside that
range, and a whole one keeps a final `.0`.
-/
import RemoteCall.Bytes.Utf8
import RemoteCall.Decimal.Layout
import RemoteCall.Json.Basic

namespace RemoteCall.Json

/-- A character as it stands inside a string. -/
def escapeChar (c : Char) : List Char :=
  if c = '"' then ['\\', '"']
  else if c = '\\' then ['\\', '\\']
  else if c = '\n' then ['\\', 'n']
  else if c = '\r' then ['\\', 'r']
  else if c = '\t' then ['\\', 't']
  else if c.toNat = 8 then ['\\', 'b']
  else if c.toNat = 12 then ['\\', 'f']
  else if c.toNat < 32 then
    ['\\', 'u', '0', '0', Hex.digit (c.toNat / 16), Hex.digit (c.toNat % 16)]
  else [c]

/-- A string between quotes. -/
def quote (s : String) : String :=
  String.ofList ('"' :: s.toList.flatMap escapeChar ++ ['"'])

/-- Doubles from 1e-5 up to, and not including, 1e16 are written with a point, others with a
signed exponent. -/
def doubleLayout : Decimal.Layout := { positional := (-5, 16), exponentMark := "e+" }

/-- The text of a double. Infinities and what is no number have no JSON form; they are written
as `null`. -/
def renderFloat (x : Float) : String :=
  let bits := x.toBits
  if Decimal.isFinite bits then doubleLayout.renderFinite bits else "null"

mutual

/-- Writes a value behind `out`. -/
def renderOnto (out : String) : Json → String
  | .null => out ++ "null"
  | .bool b => out ++ (if b then "true" else "false")
  | .int n => out ++ toString n
  | .float x => out ++ renderFloat x
  | .str s => out ++ quote s
  | .arr [] => out ++ "[]"
  | .arr (x :: xs) => renderItemsOnto (renderOnto (out ++ "[") x) xs ++ "]"
  | .obj [] => out ++ "\x7b\x7d"
  | .obj ((name, x) :: fields) =>
    renderFieldsOnto (renderOnto (out ++ "\x7b" ++ quote name ++ ":") x) fields ++ "\x7d"

/-- Writes the items after the first, each behind a comma. -/
def renderItemsOnto (out : String) : List Json → String
  | [] => out
  | x :: xs => renderItemsOnto (renderOnto (out ++ ",") x) xs

/-- Writes the fields after the first, each behind a comma. -/
def renderFieldsOnto (out : String) : List (String × Json) → String
  | [] => out
  | (name, x) :: fields =>
    renderFieldsOnto (renderOnto (out ++ "," ++ quote name ++ ":") x) fields

end

/-- The compact text of a value. -/
def render (value : Json) : String :=
  renderOnto "" value

end RemoteCall.Json
