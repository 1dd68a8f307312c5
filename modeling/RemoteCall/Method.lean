/-
Methods of a service: how they are declared and what is in effect for them.

A descriptor tells the declared shape of a method. A method configuration takes
the shape over and adds the timeout, the two retry budgets and the codec; the
timeout and the budgets are at least one, and a method has at most one
parameter.
-/
import RemoteCall.Config.Resolve
import RemoteCall.ValueType

namespace RemoteCall

/-- The declared shape of a method. -/
structure MethodDescriptor where
  name : String
  params : List ValueType
  returns : ValueType
  /-- The method hands back a future instead of blocking its caller. -/
  async : Bool
deriving DecidableEq, Repr

namespace MethodDescriptor

/-- A method that takes nothing and returns nothing. -/
def plain (name : String) : MethodDescriptor :=
  { name := name, params := [], returns := .unit, async := false }

/-- A method that takes and returns untyped values. -/
def generic (name : String) : MethodDescriptor :=
  { name := name, params := [.value], returns := .value, async := false }

/-- The method with one more parameter. -/
def param (d : MethodDescriptor) (type : ValueType) : MethodDescriptor :=
  { d with params := d.params ++ [type] }

/-- The method with another result, for which its caller blocks. -/
def returning (d : MethodDescriptor) (type : ValueType) : MethodDescriptor :=
  { d with returns := type, async := false }

/-- The method with another result, which comes through a future. -/
def returningFuture (d : MethodDescriptor) (type : ValueType) : MethodDescriptor :=
  { d with returns := type, async := true }

end MethodDescriptor

/-- What is in effect for one method. -/
structure MethodConfig where
  name : String
  param : Option ValueType
  returns : ValueType
  async : Bool
  timeoutMillis : Int64
  /-- How many connect cycles a call may run. -/
  timeoutRetry : UInt32
  /-- How many instances one connect cycle may try. -/
  connectRetry : UInt32
  codec : CodecOptions

/-- A method configuration in the making. -/
structure MethodDraft where
  descriptor : MethodDescriptor
  timeoutMillis : Int64 := 3000
  timeoutRetry : UInt32 := 1
  connectRetry : UInt32 := 1
  codec : Option CodecOptions := none

namespace MethodDraft

/-- Takes over every resolved option, looking the plugins up. -/
def withOptions (draft : MethodDraft) (plugins : Plugins) (options : ResolvedOptions) :
    Except CallError MethodDraft := do
  let codec ← options.codec plugins
  return { draft with
    timeoutMillis := options.timeoutMillis
    timeoutRetry := options.timeoutRetry
    connectRetry := options.connectRetry
    codec := some codec }

/-- The codec of the draft; without one of its own the JSON serializer. -/
def codecOrDefault (draft : MethodDraft) (plugins : Plugins) : Except CallError CodecOptions :=
  match draft.codec with
  | some codec => .ok codec
  | none =>
    match plugins.serializer? "json" with
    | some s => .ok (.plain s)
    | none => .error (.config "json serializer is not registered")

/-- The finished configuration. A method with more than one parameter is refused. -/
def build (draft : MethodDraft) (plugins : Plugins) : Except CallError MethodConfig :=
  let d := draft.descriptor
  if 1 < d.params.length then
    .error (.config ("method '" ++ d.name ++ "' declares " ++ toString d.params.length
      ++ " parameters, at most one is supported"))
  else do
    let codec ← draft.codecOrDefault plugins
    return {
      name := d.name
      param := d.params.head?
      returns := d.returns
      async := d.async
      timeoutMillis := max draft.timeoutMillis 1
      timeoutRetry := max draft.timeoutRetry 1
      connectRetry := max draft.connectRetry 1
      codec := codec }

end MethodDraft

end RemoteCall
