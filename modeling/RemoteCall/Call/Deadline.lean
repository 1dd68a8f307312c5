/-
Deadlines of calls.

A stamp writes the timeout of a call and its absolute deadline into the
attributes. The deadline is the clock's reading plus the timeout, or the deadline
that the context carries if that is earlier; once that one has passed, the call
fails before anything is sent. A stamp bounds one connect cycle: every retried
cycle is stamped anew.
-/
import RemoteCall.Call.Run
import RemoteCall.Text.Numeral

namespace RemoteCall

/-- The attribute that holds the timeout in milliseconds. -/
def timeoutKey : String := "kestrel.timeout-millis"

/-- The attribute that holds the deadline in milliseconds, and the name under which a context
carries one. -/
def deadlineKey : String := "kestrel.deadline-millis"

namespace Deadline

/-- The deadline that a text stands for: a number of 128 bits without sign. -/
def ofText? (text : String) : Option Nat :=
  (Text.natural? (UInt64.size * UInt64.size - 1) text.toList).toOption

/-- The deadline that the context of a call carries. -/
def inherited? (invocation : Invocation) (contexts : Contexts) : Option Nat :=
  (invocation.context.bind fun id => contexts.forest.get id deadlineKey).bind ofText?

/-- The deadline of a call at a reading of the clock; none when the inherited one has passed. -/
def at? (now : Nat) (timeoutMillis : Int64) (inherited : Option Nat) : Option Nat :=
  let own := now + timeoutMillis.toInt.toNat
  match inherited with
  | none => some own
  | some limit => if limit ≤ now then none else some (min own limit)

/-- What the caller is told when the inherited deadline has passed. -/
def exceeded (invocation : Invocation) : CallError :=
  .timeout ("deadline exceeded before calling " ++ invocation.service.name ++ "."
    ++ invocation.method.name)

/-- A call with its timeout and deadline in the attributes. -/
def label (invocation : Invocation) (deadline : Nat) : Invocation :=
  (invocation.setAttribute timeoutKey (toString invocation.timeoutMillis)).setAttribute
    deadlineKey (toString deadline)

variable {ω : Type}

/-- Stamps the call at the clock's reading. -/
def stamp (clock : Run ω Nat) : Run ω (Except CallError Unit) := do
  let now ← clock
  let scene ← Run.scene
  let invocation := scene.invocation
  match at? now invocation.timeoutMillis (inherited? invocation scene.contexts) with
  | none => return .error (exceeded invocation)
  | some deadline =>
    Run.changeInvocation (label · deadline)
    return .ok ()

/-- The interceptor that stamps a call before the rest of the chain runs. -/
def interceptor (clock : Run ω Nat) : Interceptor ω := fun rest => do
  match ← stamp clock with
  | .error e => return .error e
  | .ok () => rest

end Deadline

end RemoteCall
