/-
What travels between the two sides of a call.

A request has a header and a body; a response has a status, attributes and a
body. The body of a failure holds an error descriptor.
-/
import RemoteCall.Attributes
import RemoteCall.Bytes.Utf8

namespace RemoteCall

/-- What a request says about the call besides its parameter. -/
structure Header where
  service : String
  method : String
  consumer : String
  provider : String
  timeoutMillis : Int64
  attributes : Attributes

/-- A request as it is sent. -/
structure Request where
  header : Header
  body : Bytes

/-- Whether a response holds a result or an error descriptor. -/
inductive ResponseStatus where
  | success
  | failure
deriving DecidableEq, Repr

/-- A response as the transport hands it back. -/
structure Response where
  status : ResponseStatus
  attributes : Attributes
  body : Bytes

end RemoteCall
