/-
Clients and how they are built.

A client holds its configuration, the references of the services that it may
import, its interceptors, and a `Network`: the locator for the services without
direct addresses, one direct link for each of the others, and whatever else the
connector and the interceptors work on. It is open until it is closed. Building
one needs a connector, and an executor on which calls can run.
-/
import RemoteCall.Call.Failover
import RemoteCall.Config.Root
import RemoteCall.Locator.Basic

namespace RemoteCall

/-- What the calls of a client reach and change. -/
structure Network (L W : Type) where
  /-- The locator of every service without direct addresses. -/
  shared : Option L
  /-- The links of the services with direct addresses. -/
  links : List DirectLocator
  /-- Everything else. -/
  world : W

namespace Network

variable {L W : Type} [Locator L]

/-- Asks the locator of a service: the link of its own, or the shared one. -/
def locate (network : Network L W) (link : Option Nat) (invocation : Invocation)
    (exclusions : List ServiceInstance) : Option ServiceInstance × Network L W :=
  match link with
  | some place =>
    match network.links[place]? with
    | none => (none, network)
    | some direct =>
      let (picked, direct) := Locator.locate direct invocation exclusions
      (picked, { network with links := network.links.set place direct })
  | none =>
    match network.shared with
    | none => (none, network)
    | some locator =>
      let (picked, locator) := Locator.locate locator invocation exclusions
      (picked, { network with shared := some locator })

/-- Tells the locator of a service how a send went. -/
def feedback (network : Network L W) (link : Option Nat) (node : ServiceInstance)
    (outcome : Outcome) (elapsed : Elapsed) : Network L W :=
  match link with
  | some place =>
    { network with
      links := network.links.modify place fun direct =>
        Locator.feedback direct node outcome elapsed }
  | none =>
    { network with
      shared := network.shared.map fun locator =>
        Locator.feedback locator node outcome elapsed }

end Network

/-- Does something to what is neither a locator nor a link. -/
def Run.world {L W α : Type} (act : W → α × W) : Run (Network L W) α :=
  outside fun n =>
    let (value, after) := act n.world
    (value, { n with world := after })

/-- Sends a request to an instance. -/
abbrev Connector (ω : Type) :=
  ServiceInstance → Request → Run ω (Except TransportError Response)

/-- A client in the making. -/
structure ClientDraft (L W : Type) where
  config : ClientConfig := {}
  references : Table ReferenceConfig := ∅
  connector : Option (Connector (Network L W)) := none
  locator : Option L := none
  interceptors : List (Interceptor (Network L W)) := []
  /-- There is an executor for calls, or the one that builds the client is one. -/
  executor : Bool := false

/-- Imports services and calls them. -/
structure Client (L W : Type) where
  config : ClientConfig
  references : Table ReferenceConfig
  plugins : Plugins
  connector : Connector (Network L W)
  interceptors : List (Interceptor (Network L W))
  clock : Run (Network L W) Nat
  stopwatch : Run (Network L W) Nat
  closed : Bool
  network : Network L W

namespace ClientDraft

variable {L W : Type}

/-- A draft with the client defaults and the references of a configuration. -/
def ofConfig (root : RootConfig) : ClientDraft L W :=
  { config := root.client, references := root.references }

/-- The draft with the reference of one more service. -/
def reference (draft : ClientDraft L W) (service : String) (reference : ReferenceConfig) :
    ClientDraft L W :=
  { draft with references := draft.references.insert service reference }

/-- The draft with one more interceptor, inside of those it has. -/
def interceptor (draft : ClientDraft L W) (interceptor : Interceptor (Network L W)) :
    ClientDraft L W :=
  { draft with interceptors := draft.interceptors ++ [interceptor] }

/-- The finished client. -/
def build (draft : ClientDraft L W) (plugins : Plugins) (clock stopwatch : Run (Network L W) Nat)
    (world : W) : Except CallError (Client L W) :=
  match draft.connector with
  | none => .error (.config "a connector is required")
  | some connector =>
    if draft.executor then
      .ok {
        config := draft.config
        references := draft.references
        plugins := plugins
        connector := connector
        interceptors := draft.interceptors
        clock := clock
        stopwatch := stopwatch
        closed := false
        network := { shared := draft.locator, links := [], world := world } }
    else .error (.config "no tokio runtime; build inside one or pass a runtime handle")

end ClientDraft

namespace Client

variable {L W : Type}

/-- Marks the client closed; also whether it was. -/
def markClosed (c : Client L W) : Bool × Client L W :=
  (c.closed, { c with closed := true })

/-- Destroys the shared locator. -/
def destroyLocator [Locator L] (c : Client L W) : Client L W :=
  { c with network := { c.network with shared := c.network.shared.map Locator.destroy } }

/-- Closes the client and destroys the shared locator, the first time it is asked to. -/
def close [Locator L] (c : Client L W) : Client L W :=
  match c.markClosed with
  | (true, c) => c
  | (false, c) => c.destroyLocator

end Client

end RemoteCall
