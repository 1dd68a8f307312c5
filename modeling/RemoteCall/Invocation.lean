/-
One logical call on its way.

An invocation belongs to a method of a service and has at most one parameter.
Its attributes and its two addresses change as interceptors, the retry loop and
the connector work on it; everything else stays as it was made.
-/
import RemoteCall.Context.Forest
import RemoteCall.Service
import RemoteCall.Text.Quoted

namespace RemoteCall

/-- A call of a method of a service. -/
structure Invocation where
  service : Service
  method : MethodConfig
  parameter : Option Json
  attributes : Attributes
  remoteAddress : Option String
  localAddress : Option String
  /-- The context that the call runs in, if it has one. -/
  context : Option ContextId

namespace Invocation

/-- A fresh call, without attributes and addresses. -/
def ofMethod (service : Service) (method : MethodConfig) (parameter : Option Json)
    (context : Option ContextId) : Invocation :=
  { service := service, method := method, parameter := parameter, attributes := ∅,
    remoteAddress := none, localAddress := none, context := context }

/-- The timeout of the call. -/
def timeoutMillis (i : Invocation) : Int64 := i.method.timeoutMillis

/-- The name that instances are looked up under: the provider, or the service without one. -/
def targetName (i : Invocation) : String :=
  if i.service.provider = "" then i.service.name else i.service.provider

/-- Sets an attribute. -/
def setAttribute (i : Invocation) (name value : String) : Invocation :=
  { i with attributes := i.attributes.insert name value }

/-- Takes an attribute away. -/
def removeAttribute (i : Invocation) (name : String) : Invocation :=
  { i with attributes := i.attributes.erase name }

/-- A summary of the call. -/
def summary (i : Invocation) : String :=
  Text.summary "Invocation"
    [("service", Text.quoted i.service.name),
     ("method", Text.quoted i.method.name),
     ("consumer", Text.quoted i.service.consumer),
     ("provider", Text.quoted i.service.provider),
     ("timeout_millis", toString i.timeoutMillis),
     ("remote_address", Text.quotedOption i.remoteAddress)]

end Invocation

end RemoteCall
