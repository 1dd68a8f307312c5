/-
Calling imported services.

`Client.invoke` starts a call: it makes a context as a child of the one active on
the calling thread, puts it into the invocation and closes it again. What comes
of the call is worked out when the call runs, with its context active and apart
from the thread's own. A `PendingCall` has either started or come to its end
already; waiting for the latter a second time is an error.
-/
import RemoteCall.Client.Import

namespace RemoteCall

/-- What a caller gets from a call. -/
abbrev CallResult : Type := Except CallError (Option Json)

/-- A call that its caller can wait for. -/
inductive PendingCall where
  /-- It ended before anything was sent; the result is there until it is taken. -/
  | settled (result : Option CallResult)
  | started (invocation : Invocation) (link : Option Nat)

namespace PendingCall

/-- A call that failed before it started. -/
def failed (e : CallError) : PendingCall := .settled (some (.error e))

end PendingCall

namespace Service

/-- The method of a typed service that a call with or without a parameter is about. -/
def method (s : Service) (name : String) (withParameter : Bool) :
    Except CallError MethodConfig :=
  match s.method? name with
  | none => .error (.config ("'" ++ name ++ "' is not a method of " ++ s.name))
  | some config =>
    match config.param, withParameter with
    | some declared, false =>
      .error (.config (s.name ++ "." ++ name ++ " expects a " ++ declared.name ++ " parameter"))
    | none, true => .error (.config (s.name ++ "." ++ name ++ " takes no parameter"))
    | _, _ => .ok config

/-- Refuses to block for a method that hands back a future. -/
def checkBlocking (s : Service) (name : String) : Except CallError Unit :=
  match s.method? name with
  | some config =>
    if config.async then
      .error (.config (s.name ++ "." ++ name ++ " is declared async, use invoke"))
    else .ok ()
  | none => .ok ()

end Service

namespace Client

variable {L W : Type}

/-- What a caller of a closed client is told. -/
def closedError : CallError := .invoke "client is closed"

/-- Starts a call. The second part is the contexts as the calling thread sees them afterwards. -/
def invoke (c : Client L W) (contexts : Contexts) (imported : Import) (method : MethodConfig)
    (parameter : Option Json) : PendingCall × Contexts :=
  if c.closed then (.failed closedError, contexts)
  else
    let (id, contexts) := contexts.create
    let invocation := Invocation.ofMethod imported.service method parameter (some id)
    (.started invocation imported.link, contexts.close id)

/-- Starts a call of a declared method, unless it does not fit the declaration. -/
def invokeTyped (c : Client L W) (contexts : Contexts) (imported : Import) (method : String)
    (parameter : Option Json) : PendingCall × Contexts :=
  match imported.service.method method parameter.isSome with
  | .error e => (.failed e, contexts)
  | .ok config => c.invoke contexts imported config parameter

/-- Refuses to call a method with a parameter that has no text. -/
def invokeUnwritable (imported : Import) (method : String) : PendingCall :=
  match imported.service.method method true with
  | .error e => .failed e
  | .ok _ => .failed (.codec (.payload .keyKind))

/-- Starts a call of a declared method for which the caller is going to block. -/
def invokeBlocking (c : Client L W) (contexts : Contexts) (imported : Import) (method : String)
    (parameter : Json) : PendingCall × Contexts :=
  match imported.service.checkBlocking method with
  | .error e => (.failed e, contexts)
  | .ok () => c.invokeTyped contexts imported method (some parameter)

/-- Starts a call of any method, which is registered if its name is new. -/
def invokeGeneric (c : Client L W) (contexts : Contexts) (imported : Import) (method : String)
    (parameter : Option Json) : PendingCall × Contexts × Import :=
  match imported.registerGeneric c.plugins method with
  | .error e => (.failed e, contexts, imported)
  | .ok (config, imported) =>
    let (call, contexts) := c.invoke contexts imported config parameter
    (call, contexts, imported)

/-! ## Running a call -/

variable [Locator L]

/-- What calls of a service depend on: its own link, or the shared locator. -/
def surroundings (c : Client L W) (link : Option Nat) : Surroundings (Network L W) where
  plugins := c.plugins
  locate exclusions := do
    let invocation ← Run.invocation
    Run.outside fun network => network.locate link invocation exclusions
  send := c.connector
  feedback node outcome elapsed :=
    Run.changeOutside fun network => network.feedback link node outcome elapsed
  clock := c.clock
  stopwatch := c.stopwatch

/-- What completes the calls of a service: the interceptors around locating and sending. -/
def handler (c : Client L W) (link : Option Nat) : Handler (Network L W) :=
  buildChain (c.surroundings link).failover c.interceptors

/-- Hands an invocation to the handler of its service, on the thread that has `contexts`. -/
def handle (c : Client L W) (contexts : Contexts) (invocation : Invocation) (link : Option Nat) :
    Ending Outcome × Scene (Network L W) :=
  c.handler link { invocation := invocation, contexts := contexts, outside := c.network }

/-- Runs a started call with its own context active. -/
def run (c : Client L W) (contexts : Contexts) (invocation : Invocation) (link : Option Nat) :
    Ending Outcome × Contexts × Client L W :=
  let ((ending, network), _, contexts) := contexts.runParked invocation.context fun running =>
    let (ending, scene) := c.handle running invocation link
    ((ending, scene.outside), scene.contexts)
  (ending, contexts, { c with network := network })

/-! ## Waiting for a call -/

/-- What an outcome is to a caller. -/
def result : Outcome → CallResult
  | .error e => .error e
  | .ok reply => reply.result

/-- What the end of a call is to its caller. A call that stalls never ends, unless its caller
aborted it. -/
def conclude (aborted : Bool) : Ending Outcome → Option CallResult
  | .done outcome => some (result outcome)
  | .panicked => some (.error (.invoke "the call panicked"))
  | .stalled => if aborted then some (.error (.cancelled "the call was aborted")) else none

/-- Waits for a call; none if the call never ends. -/
def wait (c : Client L W) (contexts : Contexts) (aborted : Bool) :
    PendingCall → Option CallResult × PendingCall × Contexts × Client L W
  | .settled (some result) => (some result, .settled none, contexts, c)
  | .settled none =>
    (some (.error (.invoke "call future polled after completion")), .settled none, contexts, c)
  | .started invocation link =>
    let (ending, contexts, c) := c.run contexts invocation link
    (conclude aborted ending, .settled none, contexts, c)

/-- Reads a result as the type that the caller asks for; no value reads as `null`. -/
def convert (type : ValueType) (data : Option Json) : Except CallError Json :=
  (type.convert (data.getD .null)).mapError fun cause => .codec (.payload (.shape cause))

end Client

end RemoteCall
