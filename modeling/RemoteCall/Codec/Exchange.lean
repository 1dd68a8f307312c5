/-
Encoding and decoding of calls and replies.

The consumer encodes a call and decodes a reply, the provider decodes a call and
encodes a reply. An empty body stands for no value. The plugins that wrote a
message are named in its attributes, so the two sides need not agree on them
beforehand.

`Invocation.encodeInPlace` encodes a call step by step, in the order in which its
attributes are written; `Invocation.encode` is what it comes to.
-/
import RemoteCall.Codec.Options
import RemoteCall.Invocation
import RemoteCall.Message
import RemoteCall.Reply

namespace RemoteCall

/-- A call as the provider sees it. -/
structure DecodedCall where
  header : Header
  parameter : Option Json

/-- The header of a call. -/
def Invocation.header (i : Invocation) : Header :=
  { service := i.service.name, method := i.method.name, consumer := i.service.consumer,
    provider := i.service.provider, timeoutMillis := i.timeoutMillis, attributes := i.attributes }

/-- The request for a call. The call keeps the attributes that name the plugins; when encoding
fails it keeps the attributes it had. -/
def Invocation.encode (i : Invocation) : Except CodecError (Request × Invocation) := do
  let (body, attributes) ← i.method.codec.encode i.parameter i.attributes
  let labelled := { i with attributes := attributes }
  return ({ header := labelled.header, body := body }, labelled)

/-- Work on a call that may fail. What it has changed of the call by then stays changed. -/
abbrev CallWork (α : Type) := ExceptT CodecError (StateM Invocation) α

namespace CallWork

/-- Writes the parameter of the call; also the name of the compressor that was used. -/
def write : CallWork (Bytes × Option String) := do
  let options := (← get).method.codec
  let serialized ← match (← get).parameter with
    | none => pure []
    | some value => liftExcept (options.serializer.serialize value)
  liftExcept (options.compressBody serialized)

/-- Writes the labels into the attributes of the call, one after the other and over whatever
stands there. -/
def label (compressedWith : Option String) : CallWork Unit := do
  let serializer := (← get).method.codec.serializer
  modify (·.setAttribute serializerKey serializer.name)
  match compressedWith with
  | some id => modify (·.setAttribute compressorKey id)
  | none => modify (·.removeAttribute compressorKey)

/-- Makes the request. The header is copied from the call as it is when it has been labelled. -/
def encode : CallWork Request := do
  let (body, compressedWith) ← write
  label compressedWith
  return { header := (← get).header, body := body }

end CallWork

/-- Encodes a call in place: the request or an error, and the call as it was left. -/
def Invocation.encodeInPlace (i : Invocation) : Except CodecError Request × Invocation :=
  CallWork.encode.run.run i

namespace Plugins

/-- The call that a request holds. -/
def decodeCall (plugins : Plugins) (request : Request) : Except CodecError DecodedCall := do
  let attributes := request.header.attributes
  let serializer ← plugins.negotiate attributes
    (match plugins.serializer? "json" with
      | some s => .ok s
      | none => .error (.unknownSerializer "json"))
  let body ← plugins.restoreBody attributes request.body
  let parameter ← readBody serializer body
  return { header := request.header, parameter := parameter }

/-- The error descriptor that the body of a failure holds. -/
def readDescriptor (serializer : Serializer) (body : Bytes) :
    Except CodecError ErrorDescriptor := do
  if body.isEmpty then .error (.malformed "failure response without an error body")
  else
    let value ← serializer.deserialize body
    (ErrorDescriptor.shape value).mapError fun cause => .payload (.shape cause)

/-- The reply that a response holds, to a call of a method whose serializer is the fallback. -/
def decodeReply (plugins : Plugins) (fallback : Serializer) (response : Response) :
    Except CodecError Reply := do
  let serializer ← plugins.negotiate response.attributes (.ok fallback)
  let body ← plugins.restoreBody response.attributes response.body
  match response.status with
  | .success =>
    let data ← readBody serializer body
    return (Reply.value data).attachAll response.attributes
  | .failure =>
    let descriptor ← readDescriptor serializer body
    return (Reply.failure descriptor).attachAll response.attributes

end Plugins

/-- The response that holds a reply. -/
def Reply.encode (reply : Reply) (options : CodecOptions) : Except CodecError Response := do
  let (status, value) := match reply.outcome with
    | .error descriptor => (ResponseStatus.failure, some descriptor.toJson)
    | .ok data => (.success, data)
  let (body, attributes) ← options.encode value reply.attachments
  return { status := status, attributes := attributes, body := body }

end RemoteCall
