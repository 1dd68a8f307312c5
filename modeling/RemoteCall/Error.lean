/-
What can go wrong with a call.

A `CodecError` is a message that could not be encoded or decoded, a
`TransportError` the outcome of one failed send, and a `CallError` what the
caller gets to see in the end. Each names the cause; the wording is in the
`message` functions.
-/
import RemoteCall.Code
import RemoteCall.Json.Mismatch
import RemoteCall.Json.Number

namespace RemoteCall

/-- Why a payload could not be read as a value, or a value not be written. -/
inductive PayloadFault where
  /-- The text is not well formed. -/
  | text (cause : Json.ReadError)
  /-- The value does not have the shape asked for. -/
  | shape (cause : Json.Mismatch)
  /-- A map has a key that is no string, so there is no text for it. -/
  | keyKind

/-- The fault in words. -/
def PayloadFault.message : PayloadFault → String
  | .text .unfinished => "the text ends inside a value"
  | .text .malformed => "the text is malformed"
  | .shape cause => cause.message
  | .keyKind => "key must be a string"

/-- A message that could not be encoded or decoded. -/
inductive CodecError where
  | unknownSerializer (name : String)
  | unknownCompressor (name : String)
  | payload (fault : PayloadFault)
  | compression (message : String)
  | malformed (message : String)

/-- The error in words. -/
def CodecError.message : CodecError → String
  | .unknownSerializer name => "unknown serializer '" ++ name ++ "'"
  | .unknownCompressor name => "unknown compressor '" ++ name ++ "'"
  | .payload fault => "serialization failed: " ++ fault.message
  | .compression message => "compression failed: " ++ message
  | .malformed message => "malformed message: " ++ message

/-- How a single send failed. -/
inductive TransportError where
  /-- The instance was never reached. -/
  | connect (message : String)
  /-- The deadline passed. -/
  | timeout (message : String)
  /-- The send was abandoned. -/
  | cancelled (message : String)
  /-- Something went wrong once there was a connection. -/
  | other (message : String)
deriving DecidableEq, Repr

/-- The error in words. -/
def TransportError.message : TransportError → String
  | .connect message => "connect failed: " ++ message
  | .timeout message => "timed out: " ++ message
  | .cancelled message => "cancelled: " ++ message
  | .other message => message

/-- What a failed call tells its caller. -/
inductive CallError where
  | config (message : String)
  | connect (instanceAddress message : String)
  | access (provider service : String) (attempts : UInt32) (cause : Option String)
  | timeout (message : String)
  | cancelled (message : String)
  | codec (error : CodecError)
  | business (code : Int32) (message : String) (trace : Option String)
  | remote (code : Int32) (message : String) (trace : Option String)
  | invoke (message : String)

namespace CallError

/-- The error in words. -/
def message : CallError → String
  | config text => "configuration error: " ++ text
  | connect address text => "failed to connect to " ++ address ++ ": " ++ text
  | access provider service attempts cause =>
    "no reachable instance of provider '" ++ provider ++ "' for service '" ++ service ++ "' after "
      ++ toString attempts ++ " attempt(s)" ++ (cause.map (": " ++ ·)).getD ""
  | timeout text => "call timed out: " ++ text
  | cancelled text => "call cancelled: " ++ text
  | codec error => error.message
  | business code text _ => "business error (" ++ toString code ++ "): " ++ text
  | remote code text _ => "remote error (" ++ toString code ++ "): " ++ text
  | invoke text => "invoke error: " ++ text

/-- The code of the error. -/
def code : CallError → Code
  | config _ => .config
  | connect .. => .connect
  | access .. => .access
  | timeout _ => .timeout
  | cancelled _ => .cancelled
  | codec _ => .codec
  | business .. => .business
  | remote .. => .remote
  | invoke _ => .invoke

/-- The transport never reached the instance. -/
def isConnect : CallError → Bool
  | connect .. => true
  | _ => false

/-- The send timed out or was cancelled: the only failures that restart a connect cycle. -/
def isTimeout : CallError → Bool
  | timeout _ => true
  | cancelled _ => true
  | _ => false

/-- The remote implementation itself failed. -/
def isBusiness : CallError → Bool
  | business .. => true
  | _ => false

/-- What a failed send to the instance at `address` means for the call. -/
def ofTransport (address : String) : TransportError → CallError
  | .connect text => connect address text
  | .timeout text => timeout text
  | .cancelled text => cancelled text
  | .other text => invoke text

end CallError

end RemoteCall
