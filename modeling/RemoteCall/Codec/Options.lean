/-
The codec in effect for a method.

`CodecOptions` names a serializer and, optionally, a compressor with the length
up to which a body is left as it is. A message tells by two attributes which
plugins it was written with, so the other side looks them up by name.
-/
import RemoteCall.Codec.Plugin
import RemoteCall.Text.Quoted

namespace RemoteCall

/-- The attribute that names the serializer of a message. -/
def serializerKey : String := "kestrel.serializer"

/-- The attribute that names the compressor of a message. -/
def compressorKey : String := "kestrel.compressor"

/-- The serializer and the compression policy of one method. -/
structure CodecOptions where
  serializer : Serializer
  compressor : Option Compressor
  /-- A body of at most this many bytes is not compressed. -/
  threshold : Nat

namespace CodecOptions

/-- A serializer without compression. -/
def plain (serializer : Serializer) : CodecOptions :=
  { serializer := serializer, compressor := none, threshold := 0 }

/-- The word that stands for no compressor, in any ASCII case. -/
def isNone (name : String) : Bool :=
  Text.lower name == "none"

/-- Looks the plugins up. A blank name, or the word for none, means no compressor. -/
def resolve (plugins : Plugins) (serializer : String) (compressor : Option String)
    (threshold : Nat) : Except CallError CodecOptions :=
  match plugins.serializer? serializer with
  | none => .error (.config ("serializer '" ++ serializer ++ "' is not registered"))
  | some s =>
    match compressor.map Text.trim with
    | none => .ok (plain s)
    | some id =>
      if id = "" ∨ isNone id = true then .ok (plain s)
      else match plugins.compressor? id with
        | none => .error (.config ("compressor '" ++ id ++ "' is not registered"))
        | some c => .ok { serializer := s, compressor := some c, threshold := threshold }

/-- Compresses a body that is longer than the threshold; also the name of the compressor that
was used. -/
def compressBody (options : CodecOptions) (body : Bytes) :
    Except CodecError (Bytes × Option String) :=
  match options.compressor with
  | none => .ok (body, none)
  | some c =>
    if options.threshold < body.length then
      match c.compress body with
      | .ok compressed => .ok (compressed, some c.id)
      | .error message => .error (.compression message)
    else .ok (body, none)

/-- Tells in the attributes which plugins a message was written with. -/
def label (options : CodecOptions) (compressedWith : Option String) (attributes : Attributes) :
    Attributes :=
  let named := attributes.insert serializerKey options.serializer.name
  match compressedWith with
  | some id => named.insert compressorKey id
  | none => named.erase compressorKey

/-- A body for an optional value: empty for none. -/
def writeBody (options : CodecOptions) : Option Json → Except CodecError Bytes
  | none => .ok []
  | some value => options.serializer.serialize value

/-- Writes an optional value and labels the attributes with the plugins used. -/
def encode (options : CodecOptions) (value : Option Json) (attributes : Attributes) :
    Except CodecError (Bytes × Attributes) := do
  let plainBody ← options.writeBody value
  let (body, compressedWith) ← options.compressBody plainBody
  return (body, options.label compressedWith attributes)

/-- A summary of the options. -/
def summary (options : CodecOptions) : String :=
  Text.summary "CodecOptions"
    [("serializer", Text.quoted options.serializer.name),
     ("compressor", Text.quotedOption (options.compressor.map (·.id))),
     ("compress_threshold", toString options.threshold)]

end CodecOptions

namespace Plugins

/-- The serializer that a message names, or the fallback if it names none. -/
def negotiate (plugins : Plugins) (attributes : Attributes)
    (fallback : Except CodecError Serializer) : Except CodecError Serializer :=
  match attributes[serializerKey]? with
  | none => fallback
  | some name =>
    match plugins.serializer? name with
    | some s => .ok s
    | none => .error (.unknownSerializer name)

/-- Restores a body with the compressor that its message names, if it names one. -/
def restoreBody (plugins : Plugins) (attributes : Attributes) (body : Bytes) :
    Except CodecError Bytes :=
  match attributes[compressorKey]? with
  | none => .ok body
  | some id =>
    match plugins.compressor? id with
    | none => .error (.unknownCompressor id)
    | some c => (c.decompress body).mapError .compression

/-- Reads an optional value: none for an empty body. -/
def readBody (serializer : Serializer) (body : Bytes) : Except CodecError (Option Json) :=
  if body.isEmpty then .ok none else (serializer.deserialize body).map some

end Plugins

end RemoteCall
