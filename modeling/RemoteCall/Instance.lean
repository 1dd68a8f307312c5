/-
Instances: the endpoints at which a provider can be reached.

An instance is identified by its code alone. The code is the address unless it
is given; the metadata is for routers.
-/
import RemoteCall.Address
import RemoteCall.Attributes
import RemoteCall.Error
import RemoteCall.Json.Shape

namespace RemoteCall

/-- One reachable endpoint of a service. -/
structure ServiceInstance where
  code : String
  service : String
  host : String
  port : UInt16
  metadata : Attributes

namespace ServiceInstance

/-- Where the instance listens. -/
def address (i : ServiceInstance) : String :=
  (Address.mk i.host i.port).render

/-- An instance whose code is its address. -/
def ofHostPort (service host : String) (port : UInt16) : ServiceInstance :=
  { code := (Address.mk host port).render, service := service, host := host, port := port,
    metadata := ∅ }

/-- The instance at an address, white space around which does not count. -/
def ofAddress (service address : String) : Except CallError ServiceInstance :=
  match Address.ofChars (Text.trimChars address.toList) with
  | .ok a => .ok (ofHostPort service a.host a.port)
  | .error fault => .error (.config ("address '" ++ address ++ "' " ++ fault.message))

/-- The instance under another code. -/
def withCode (i : ServiceInstance) (code : String) : ServiceInstance :=
  { i with code := code }

/-- The instance with one more piece of metadata. -/
def withMetadata (i : ServiceInstance) (name value : String) : ServiceInstance :=
  { i with metadata := i.metadata.insert name value }

/-- Whether two instances are the same one. -/
def same (i j : ServiceInstance) : Bool :=
  i.code == j.code

/-- A summary of the instance. -/
def summary (i : ServiceInstance) : String :=
  i.code ++ "@" ++ i.address

open Json (Shape)

/-- The fields of an instance, in their order by position. -/
def fields : List (Json.Field ServiceInstance) :=
  [.needed "instance_code" Shape.string fun v i => { i with code := v },
   .needed "service_name" Shape.string fun v i => { i with service := v },
   .needed "host" Shape.string fun v i => { i with host := v },
   .needed "port" Shape.uint16 fun v i => { i with port := v },
   .optional "metadata" (Shape.entries Shape.string)
     fun v i => { i with metadata := Std.ExtTreeMap.ofList v }]

/-- Reads an instance. -/
def shape : Shape ServiceInstance :=
  .record "struct ServiceInstance" fields
    { code := "", service := "", host := "", port := 0, metadata := ∅ }

/-- The instance as an untyped object. -/
def toJson (i : ServiceInstance) : Json :=
  .obj [("host", .str i.host), ("instance_code", .str i.code), ("metadata", i.metadata.toJson),
    ("port", .int i.port.toNat), ("service_name", .str i.service)]

end ServiceInstance

end RemoteCall
