/-
Imported services and their methods.

The methods of a service are a table that only grows: a name that is registered
keeps its configuration, and registering it again gives that configuration back.
The options of a method are those that the reference sets for its name, over
those of the service, over those of the client.
-/
import RemoteCall.Config.Reference
import RemoteCall.Method

namespace RemoteCall

/-- An imported service. -/
structure Service where
  name : String
  client : ClientConfig
  reference : ReferenceConfig
  codec : CodecOptions
  connectRetry : UInt32
  timeoutRetry : UInt32
  methods : Table MethodConfig

namespace Service

/-- Imports a service under a reference, with no methods yet. -/
def ofReference (plugins : Plugins) (name : String) (client : ClientConfig)
    (reference : ReferenceConfig) : Except CallError Service := do
  let resolved := ResolvedOptions.resolve none reference.options client
  let codec ← resolved.codec plugins
  return {
    name := name
    client := client
    reference := reference
    codec := codec
    connectRetry := resolved.connectRetry
    timeoutRetry := resolved.timeoutRetry
    methods := ∅ }

/-- The consumer that makes the calls. -/
def consumer (s : Service) : String := s.client.consumer

/-- The provider that the reference names. -/
def provider (s : Service) : String := s.reference.provider

/-- The group that the reference names. -/
def group (s : Service) : Option String := s.reference.group

/-- The configuration of a registered method. -/
def method? (s : Service) (name : String) : Option MethodConfig :=
  s.methods[name]?

/-- The names of the registered methods, in ascending order. -/
def methodNames (s : Service) : List String :=
  s.methods.keys

/-- The configuration that a descriptor leads to under the options in effect for its name. -/
def configure (s : Service) (plugins : Plugins) (d : MethodDescriptor) :
    Except CallError MethodConfig := do
  let resolved :=
    ResolvedOptions.resolve (s.reference.methodOptions? d.name) s.reference.options s.client
  let draft : MethodDraft := { descriptor := d }
  let draft ← draft.withOptions plugins resolved
  draft.build plugins

/-- Puts a configuration into the table unless its name is taken; also the one that is there. -/
def insertIfAbsent (s : Service) (config : MethodConfig) : MethodConfig × Service :=
  match s.methods[config.name]? with
  | some registered => (registered, s)
  | none => (config, { s with methods := s.methods.insert config.name config })

/-- The configuration of the method, which is built and registered if its name is new. -/
def register (s : Service) (plugins : Plugins) (d : MethodDescriptor) :
    Except CallError (MethodConfig × Service) :=
  match s.method? d.name with
  | some registered => .ok (registered, s)
  | none => do
    let config ← s.configure plugins d
    return s.insertIfAbsent config

/-- The first name that stands twice. -/
def firstRepeated? : List String → List String → Option String
  | _, [] => none
  | seen, name :: rest =>
    if name ∈ seen then some name else firstRepeated? (name :: seen) rest

/-- Registers methods one after the other and stops at the first failure; the service is as far
as it came. -/
def registerEach (s : Service) (plugins : Plugins) :
    List MethodDescriptor → Except CallError Unit × Service
  | [] => (.ok (), s)
  | d :: rest =>
    match s.register plugins d with
    | .ok (_, s) => s.registerEach plugins rest
    | .error e => (.error e, s)

/-- Registers declared methods. Two descriptors of one name are refused before anything is
registered. -/
def registerAll (s : Service) (plugins : Plugins) (ds : List MethodDescriptor) :
    Except CallError Unit × Service :=
  match firstRepeated? [] (ds.map (·.name)) with
  | some name =>
    (.error (.config ("method '" ++ name ++ "' of service '" ++ s.name
      ++ "' is declared more than once")), s)
  | none => s.registerEach plugins ds

end Service

end RemoteCall
