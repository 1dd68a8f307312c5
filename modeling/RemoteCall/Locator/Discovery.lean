/-
A registry of services within the process.

Each service has a list of instances in the order of their registration, each of
them healthy or not. Registering an instance again moves it to the end and makes
it healthy; codes stay distinct within a service.
-/
import RemoteCall.Instance

namespace RemoteCall

/-- A registered instance. -/
structure DiscoveryEntry where
  node : ServiceInstance
  healthy : Bool

/-- The registered instances by service. -/
abbrev MemoryDiscovery := Table (List DiscoveryEntry)

namespace MemoryDiscovery

/-- The entries of a service. -/
def entries (d : MemoryDiscovery) (service : String) : List DiscoveryEntry :=
  (d[service]?).getD []

/-- Registers a healthy instance under its service, in the place of one with the same code. -/
def register (d : MemoryDiscovery) (i : ServiceInstance) : MemoryDiscovery :=
  let others := (d.entries i.service).filter fun e => !e.node.same i
  d.insert i.service (others ++ [{ node := i, healthy := true }])

/-- Removes an instance; also whether it was there. -/
def unregister (d : MemoryDiscovery) (service code : String) : Bool × MemoryDiscovery :=
  match d[service]? with
  | none => (false, d)
  | some entries =>
    let left := entries.filter fun e => e.node.code != code
    (left.length != entries.length, d.insert service left)

/-- Says whether an instance is healthy. -/
def setHealthy (d : MemoryDiscovery) (service code : String) (healthy : Bool) : MemoryDiscovery :=
  match d[service]? with
  | none => d
  | some entries =>
    d.insert service (entries.map fun e =>
      if e.node.code = code then { e with healthy := healthy } else e)

/-- The healthy instances of a service. -/
def listHealthy (d : MemoryDiscovery) (service : String) : List ServiceInstance :=
  ((d.entries service).filter (·.healthy)).map (·.node)

end MemoryDiscovery

end RemoteCall
