/-
Locating, sending and trying again: the end of every chain.

Two budgets drive a call. A connect cycle tries up to `connectRetry` instances,
leaving out each one that could not be reached before in the same cycle, and ends
with an access error when the budget or the candidates run out. A send that timed
out or was cancelled ends the cycle; the call then starts a new one with nothing
left out, up to `timeoutRetry` cycles. Any other outcome completes the call.

What a call depends on is in its `Surroundings`: they may change with every use,
so nothing is assumed about locators, connectors and clocks.
-/
import RemoteCall.Call.Deadline
import RemoteCall.Codec.Exchange
import RemoteCall.Instance
import RemoteCall.Locator.Statistics

namespace RemoteCall

/-- What a call needs from outside. -/
structure Surroundings (ω : Type) where
  plugins : Plugins
  /-- Picks an instance that is none of the given ones. -/
  locate : List ServiceInstance → Run ω (Option ServiceInstance)
  /-- Sends a request to an instance. -/
  send : ServiceInstance → Request → Run ω (Except TransportError Response)
  /-- Hears how a send went. -/
  feedback : ServiceInstance → Outcome → Elapsed → Run ω Unit
  /-- The wall clock, in milliseconds. -/
  clock : Run ω Nat
  /-- A clock that never goes back, in nanoseconds. -/
  stopwatch : Run ω Nat

namespace Surroundings

variable {ω : Type} (s : Surroundings ω)

/-- Encodes the call as it is now. -/
def encode : Run ω (Except CallError Request) := do
  let invocation ← Run.invocation
  match invocation.encode with
  | .error e => return .error (.codec e)
  | .ok (request, labelled) =>
    Run.changeInvocation fun _ => labelled
    return .ok request

/-- What the answer to a send means for the call. -/
def outcome (invocation : Invocation) (node : ServiceInstance) :
    Except TransportError Response → Outcome
  | .ok response =>
    (s.plugins.decodeReply invocation.method.codec.serializer response).mapError .codec
  | .error e => .error (.ofTransport node.address e)

/-- Sends the request to one instance and reports how that went. -/
def attempt (request : Request) (node : ServiceInstance) : Run ω Outcome := do
  Run.changeInvocation fun i => { i with remoteAddress := some node.address }
  let start ← s.stopwatch
  let sent ← s.send node request
  let stop ← s.stopwatch
  let invocation ← Run.invocation
  let outcome := s.outcome invocation node sent
  s.feedback node outcome ⟨stop - start⟩
  return outcome

/-- What the caller is told when no instance could be reached. -/
def unreachable (invocation : Invocation) (failed : List ServiceInstance)
    (last : Option CallError) : CallError :=
  .access invocation.service.provider invocation.service.name (UInt32.ofNat failed.length)
    (last.map (·.message))

/-- Tries up to `budget` more instances. `failed` are those that could not be reached, and
`last` is the latest reason. -/
def connectCycle (request : Request) : Nat → List ServiceInstance → Option CallError → Run ω Outcome
  | 0, failed, last => do
    let invocation ← Run.invocation
    return .error (unreachable invocation failed last)
  | budget + 1, failed, last => do
    match ← s.locate failed with
    | none =>
      let invocation ← Run.invocation
      return .error (unreachable invocation failed last)
    | some node =>
      match ← s.attempt request node with
      | .error e =>
        if e.isConnect then connectCycle request budget (failed ++ [node]) (some e)
        else return .error e
      | .ok reply => return .ok reply

/-- The request of the next cycle: a call with a deadline is stamped and encoded anew. -/
def renew (request : Request) : Run ω (Except CallError Request) := do
  let invocation ← Run.invocation
  if invocation.attributes.contains deadlineKey then
    match ← Deadline.stamp s.clock with
    | .error e => return .error e
    | .ok () => encode
  else return .ok request

/-- Runs one connect cycle, with nothing left out. -/
def cycle (request : Request) : Run ω Outcome := do
  let invocation ← Run.invocation
  s.connectCycle request invocation.method.connectRetry.toNat [] none

/-- Runs a cycle, and up to `more` further ones as long as they time out. -/
def cycles : Nat → Request → Run ω Outcome
  | 0, request => s.cycle request
  | more + 1, request => do
    match ← s.cycle request with
    | .ok reply => return .ok reply
    | .error e =>
      if e.isTimeout then
        match ← s.renew request with
        | .error e => return .error e
        | .ok request => cycles more request
      else return .error e

/-- Completes a call. -/
def failover : Run ω Outcome := do
  match ← encode with
  | .error e => return .error e
  | .ok request =>
    let invocation ← Run.invocation
    s.cycles (invocation.method.timeoutRetry.toNat - 1) request

end Surroundings

end RemoteCall
