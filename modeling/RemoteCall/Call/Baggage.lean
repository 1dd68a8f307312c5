/-
Baggage: context entries that travel with a call.

Visible entries of the call's context whose names start with a prefix are copied
into the attributes, when the call gets to the interceptor; attributes that are
set already win. The tracing interceptor has no effect on the call.
-/
import RemoteCall.Call.Run

namespace RemoteCall

namespace Baggage

/-- The usual prefix. -/
def defaultPrefix : String := "baggage."

/-- The attributes with the entries under the prefix that they do not hold yet. -/
def add (start : String) (entries attributes : Attributes) : Attributes :=
  entries.foldl (fun table name value =>
    if start.toList.isPrefixOf name.toList then table.insertIfNew name value else table) attributes

variable {ω : Type}

/-- The interceptor that takes up the baggage. -/
def interceptor (start : String) : Interceptor ω := fun rest => do
  let scene ← Run.scene
  match scene.invocation.context with
  | none => rest
  | some id =>
    let entries := scene.contexts.forest.entries id
    Run.changeInvocation fun i => { i with attributes := add start entries i.attributes }
    rest

end Baggage

/-- The interceptor that reports about calls and leaves them alone. -/
def tracing {ω : Type} : Interceptor ω := fun rest => rest

end RemoteCall
