/-
Network addresses of the form `host:port`.

The port stands behind the last colon, so a host may hold colons itself. The
host must not be empty, and the port is a number of 16 bits, with an optional
plus sign.
-/
import RemoteCall.Text.Numeral
import RemoteCall.Text.Trim

namespace RemoteCall

/-- Where an instance listens. -/
structure Address where
  host : String
  port : UInt16
deriving DecidableEq, Repr

/-- Why a text is no address. -/
inductive AddressFault where
  | noPort
  | noHost
  | badPort (cause : Text.NumeralError)
deriving DecidableEq, Repr

/-- The fault in words, as the end of a sentence about the text. -/
def AddressFault.message : AddressFault → String
  | .noPort => "has no port"
  | .noHost => "has no host"
  | .badPort cause => "has a bad port: " ++ cause.message

namespace Address

/-- The port that a text of digits stands for. -/
def port? (text : List Char) : Except Text.NumeralError UInt16 :=
  (Text.natural? (UInt16.size - 1) text).map UInt16.ofNat

/-- Reads an address off characters. -/
def ofChars (text : List Char) : Except AddressFault Address :=
  match Text.splitLast? ':' text with
  | none => .error .noPort
  | some (host, digits) =>
    if host = [] then .error .noHost
    else match port? digits with
      | .ok port => .ok { host := String.ofList host, port := port }
      | .error cause => .error (.badPort cause)

/-- Reads an address as it stands. -/
def parse (text : String) : Except AddressFault Address :=
  ofChars text.toList

/-- The text of an address. -/
def render (address : Address) : String :=
  address.host ++ ":" ++ toString address.port

end Address

end RemoteCall
