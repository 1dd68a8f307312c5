/-
The configuration of a process, and how it is read from YAML.

A configuration file is a mapping, each of whose values has the form of a
`RootConfig`; the one under `rootKey` counts. It is validated as it is read: the
client first, then the references in the order of their names.
-/
import RemoteCall.Config.Reference
import RemoteCall.Yaml.Reading

namespace RemoteCall

/-- The logger of a process. -/
structure LoggerConfig where
  level : String := "info"
deriving DecidableEq, Repr, Inhabited

/-- The configuration of a process. -/
structure RootConfig where
  logger : LoggerConfig := {}
  client : ClientConfig := {}
  references : Table ReferenceConfig := ∅

/-- Why there is no configuration. -/
inductive LoadFault where
  /-- The text has no reading as configurations. -/
  | yaml
  /-- Nothing stands under the key. -/
  | noRoot
  | client (cause : ConfigFault)
  | reference (name : String) (cause : ReferenceFault)
  | notAFile (path : String)
  /-- There is a file, but it cannot be read. -/
  | unreadable

/-- The key under which a file holds the configuration. -/
def rootKey : String := "kestrel"

/-- The fault in words; nothing is said about what is wrong with a text, or with a file. -/
def LoadFault.message? : LoadFault → Option String
  | .yaml | .unreadable => none
  | .noRoot => some ("missing top level key '" ++ rootKey ++ "'")
  | .client cause => some cause.message
  | .reference name cause => some ("reference " ++ name ++ ": " ++ cause.message)
  | .notAFile path => some ("path is not a file: " ++ Text.quoted path)

/-! ## Shapes -/

open Yaml (Field Shape)

/-- Call options in YAML. -/
def CallOptions.yamlShape : Shape CallOptions :=
  .record
    [.of "timeout_millis" (Shape.option Shape.int64) fun v o => { o with timeoutMillis := v },
     .of "timeout_retry" (Shape.option Shape.int32) fun v o => { o with timeoutRetry := v },
     .of "connect_retry" (Shape.option Shape.int32) fun v o => { o with connectRetry := v },
     .of "serializer" (Shape.option Shape.string) fun v o => { o with serializer := v },
     .of "compressor" (Shape.option Shape.string) fun v o => { o with compressor := v },
     .of "compress_threshold" (Shape.option Shape.int64)
       fun v o => { o with compressThreshold := v }]
    {}

/-- A client configuration in YAML. -/
def ClientConfig.yamlShape : Shape ClientConfig :=
  .record
    [.of "consumer" Shape.string fun v c => { c with consumer := v },
     .of "timeout_millis" Shape.int64 fun v c => { c with timeoutMillis := v },
     .of "connect_retry" Shape.int32 fun v c => { c with connectRetry := v },
     .of "timeout_retry" Shape.int32 fun v c => { c with timeoutRetry := v },
     .of "serializer" Shape.string fun v c => { c with serializer := v },
     .of "compressor" (Shape.option Shape.string) fun v c => { c with compressor := v },
     .of "compress_threshold" Shape.int64 fun v c => { c with compressThreshold := v }]
    {}

/-- A reference in YAML. -/
def ReferenceConfig.yamlShape : Shape ReferenceConfig :=
  .record
    [.of "url" (Shape.option Shape.string) fun v r => { r with url := v },
     .of "provider" Shape.string fun v r => { r with provider := v },
     .of "group" (Shape.option Shape.string) fun v r => { r with group := v },
     .of "options" CallOptions.yamlShape fun v r => { r with options := v },
     .of "methods" (Shape.table CallOptions.yamlShape) fun v r => { r with methods := v }]
    {}

/-- A logger configuration in YAML. -/
def LoggerConfig.yamlShape : Shape LoggerConfig :=
  .record [.of "level" Shape.string fun v _ => { level := v }] {}

namespace RootConfig

/-- A configuration in YAML. -/
def yamlShape : Shape RootConfig :=
  .record
    [.of "logger" LoggerConfig.yamlShape fun v r => { r with logger := v },
     .of "client" ClientConfig.yamlShape fun v r => { r with client := v },
     .of "references" (Shape.table ReferenceConfig.yamlShape) fun v r => { r with references := v }]
    {}

/-- The reference of a service. -/
def reference? (root : RootConfig) (service : String) : Option ReferenceConfig :=
  root.references[service]?

/-- Every part is acceptable. -/
def validate (root : RootConfig) : Except LoadFault Unit := do
  root.client.validate.mapError .client
  root.references.toList.forM fun (name, r) => r.validate.mapError (.reference name)

/-- The configurations of a document by their keys; an empty document has none. -/
def tableOf (d : Yaml.Document) : Option (Table RootConfig) :=
  match d.root with
  | none => some ∅
  | some node => (Shape.table yamlShape node).run? d

/-- The configuration that a text in bytes holds. -/
def ofBytes (bytes : Bytes) : Except LoadFault RootConfig :=
  match (Yaml.Document.ofBytes? bytes).bind tableOf with
  | none => .error .yaml
  | some table =>
    match table[rootKey]? with
    | none => .error .noRoot
    | some root => do
      root.validate
      return root

/-- The configuration as an untyped object, unset options as `null`. -/
def toJson (root : RootConfig) : Json :=
  .obj [("client", root.client.toJson),
    ("logger", .obj [("level", .str root.logger.level)]),
    ("references", .obj (root.references.toList.map fun (name, r) => (name, r.toJson)))]

end RootConfig

end RemoteCall
