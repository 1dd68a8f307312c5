/-
Importing services.

A service with direct addresses gets a link of its own; any other one is located
through the client's shared locator. A typed import registers the declared
methods at once, a generic one registers them as they are called.
-/
import RemoteCall.Client.Basic

namespace RemoteCall

/-- A service that is declared with its methods. -/
structure ServiceDescriptor where
  name : String
  methods : List MethodDescriptor
deriving DecidableEq, Repr

/-- An imported service. -/
structure Import where
  service : Service
  /-- The place of its direct link; without one it is located through the shared locator. -/
  link : Option Nat
  /-- Its methods were declared when it was imported. -/
  typed : Bool

namespace Import

/-- A summary of a typed import. -/
def summary (i : Import) : String :=
  Text.summary "ServiceProxy" [("service", Text.quoted i.service.name)]

/-- The method of an untyped import, which is registered if its name is new. -/
def registerGeneric (i : Import) (plugins : Plugins) (method : String) :
    Except CallError (MethodConfig × Import) := do
  let (config, service) ← i.service.register plugins (.generic method)
  return (config, { i with service := service })

end Import

namespace Client

variable {L W : Type}

/-- The reference that is configured for a service. -/
def configuredReference (c : Client L W) (service : String) : ReferenceConfig :=
  (c.references[service]?).getD {}

/-- Links a service: through the shared locator, or directly. -/
def link (c : Client L W) (service : String) (reference : ReferenceConfig) :
    Except CallError (Option Nat × Network L W) :=
  match reference.directUrls with
  | [] =>
    if c.network.shared.isSome then .ok (none, c.network)
    else .error (.config ("service '" ++ service
      ++ "' has no direct url and the client has no locator"))
  | urls => do
    let direct ← DirectLocator.ofAddresses service urls
    return (some c.network.links.length,
      { c.network with links := c.network.links ++ [direct] })

/-- Imports a service without any methods. -/
def importBare (c : Client L W) (service : String) (reference : ReferenceConfig) (typed : Bool) :
    Except CallError (Import × Client L W) := do
  let (link, network) ← c.link service reference
  let service ← Service.ofReference c.plugins service c.config reference
  return ({ service := service, link := link, typed := typed }, { c with network := network })

/-- Imports a declared service; without a reference the configured one is used. -/
def importTyped (c : Client L W) (descriptor : ServiceDescriptor)
    (reference : Option ReferenceConfig) : Except CallError (Import × Client L W) := do
  let reference := reference.getD (c.configuredReference descriptor.name)
  let (imported, c) ← c.importBare descriptor.name reference true
  match imported.service.registerAll c.plugins descriptor.methods with
  | (.error e, _) => .error e
  | (.ok (), service) => return ({ imported with service := service }, c)

/-- Imports a service without declared methods. An application that is named takes the place of
the configured provider. -/
def importGeneric (c : Client L W) (application service : String) :
    Except CallError (Import × Client L W) :=
  let reference := c.configuredReference service
  let provider := if application = "" then reference.provider else application
  c.importBare service { reference with provider := provider } false

end Client

end RemoteCall
