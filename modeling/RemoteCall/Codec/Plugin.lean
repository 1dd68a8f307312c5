/-
The plugins that turn values into bytes and bytes into smaller bytes.

A serializer and a compressor have a name of their own. A `Plugins` table finds
them again under that name in any ASCII case and with any white space around it;
registering a plugin replaces the one that had the name before. The built-in
ones are the JSON serializer and the gzip and deflate compressors.
-/
import RemoteCall.Attributes
import RemoteCall.Compression.Gzip
import RemoteCall.Error
import RemoteCall.Json.Reader
import RemoteCall.Text.Trim

namespace RemoteCall

/-- Writes values as bytes and reads them back. -/
structure Serializer where
  name : String
  serialize : Json → Except CodecError Bytes
  deserialize : Bytes → Except CodecError Json

/-- Makes bytes smaller and restores them. -/
structure Compressor where
  id : String
  compress : Bytes → Except String Bytes
  decompress : Bytes → Except String Bytes

/-- The JSON serializer. -/
def Serializer.json : Serializer where
  name := "json"
  serialize value := .ok (Bytes.ofString value.render)
  deserialize bytes := (Json.parse bytes).mapError fun cause => .payload (.text cause)

/-- A compressor that never fails to compress. -/
def Compressor.ofCodec (id : String) (compress : Bytes → Bytes) (restore? : Bytes → Option Bytes) :
    Compressor where
  id := id
  compress bytes := .ok (compress bytes)
  decompress bytes :=
    match restore? bytes with
    | some restored => .ok restored
    | none => .error ("corrupt " ++ id ++ " stream")

/-- The gzip compressor. -/
def Compressor.gzip : Compressor :=
  .ofCodec "gzip" Compression.gzip Compression.gunzip?

/-- The compressor of bare deflate streams. -/
def Compressor.deflate : Compressor :=
  .ofCodec "deflate" Compression.deflate fun bytes => (Compression.inflate? bytes).map (·.1)

/-- The registered plugins, under their names in lower case. -/
structure Plugins where
  serializers : Table Serializer
  compressors : Table Compressor

namespace Plugins

/-- The name under which a plugin is looked up. -/
def lookupKey (name : String) : String :=
  Text.lower (Text.trim name)

/-- The serializer of a name. -/
def serializer? (plugins : Plugins) (name : String) : Option Serializer :=
  plugins.serializers[lookupKey name]?

/-- The compressor of a name. -/
def compressor? (plugins : Plugins) (name : String) : Option Compressor :=
  plugins.compressors[lookupKey name]?

/-- Registers a serializer under its own name; also the one that it replaces. -/
def registerSerializer (plugins : Plugins) (s : Serializer) : Option Serializer × Plugins :=
  let key := Text.lower s.name
  (plugins.serializers[key]?, { plugins with serializers := plugins.serializers.insert key s })

/-- Registers a compressor under its own name; also the one that it replaces. -/
def registerCompressor (plugins : Plugins) (c : Compressor) : Option Compressor × Plugins :=
  let key := Text.lower c.id
  (plugins.compressors[key]?, { plugins with compressors := plugins.compressors.insert key c })

/-- The plugins that are there from the start. -/
def builtIn : Plugins :=
  let none : Plugins := ⟨∅, ∅⟩
  let json := (none.registerSerializer .json).2
  let gzip := (json.registerCompressor .gzip).2
  (gzip.registerCompressor .deflate).2

end Plugins

end RemoteCall
