/-
A call in progress.

The pieces that a call runs through see and change a `Scene`: the invocation, the
contexts as the running thread sees them, and everything outside of the call,
whose type is left open. A piece ends with a value, or it panics, or it never ends
because something outside does not answer; what it changed before that stays
changed. Pieces are put together as a monad.
-/
import RemoteCall.Context.Active
import RemoteCall.Invocation
import RemoteCall.Reply

namespace RemoteCall

/-- How a piece of a running call ends. -/
inductive Ending (α : Type) where
  | done (value : α)
  /-- It broke off with a panic. -/
  | panicked
  /-- It waits for something that never comes. -/
  | stalled

/-- What a running call sees and changes. -/
structure Scene (ω : Type) where
  invocation : Invocation
  contexts : Contexts
  outside : ω

/-- A piece of a running call. -/
def Run (ω α : Type) : Type :=
  Scene ω → Ending α × Scene ω

namespace Run

variable {ω α β : Type}

/-- Ends with a value at once. -/
def pure (value : α) : Run ω α := fun scene => (.done value, scene)

/-- Goes on with what the first piece ends with. -/
def bind (first : Run ω α) (next : α → Run ω β) : Run ω β := fun scene =>
  match first scene with
  | (.done value, scene) => next value scene
  | (.panicked, scene) => (.panicked, scene)
  | (.stalled, scene) => (.stalled, scene)

instance : Monad (Run ω) where
  pure := Run.pure
  bind := Run.bind

/-- The scene as it is. -/
def scene : Run ω (Scene ω) := fun s => (.done s, s)

/-- The invocation as it is. -/
def invocation : Run ω Invocation := fun s => (.done s.invocation, s)

/-- Changes the invocation. -/
def changeInvocation (change : Invocation → Invocation) : Run ω Unit := fun s =>
  (.done (), { s with invocation := change s.invocation })

/-- Does something to the contexts. -/
def contexts (act : Contexts → α × Contexts) : Run ω α := fun s =>
  let (value, after) := act s.contexts
  (.done value, { s with contexts := after })

/-- Puts an entry into the context of the call, if it has one. -/
def putContext (key value : String) : Run ω Unit := fun s =>
  match s.invocation.context with
  | none => (.done (), s)
  | some id =>
    let forest := (s.contexts.forest.put id key value).2
    (.done (), { s with contexts := { s.contexts with forest := forest } })

/-- Breaks off. -/
def panic : Run ω α := fun s => (.panicked, s)

/-- Waits for something that never comes. -/
def stall : Run ω α := fun s => (.stalled, s)

/-- Does something to the outside. -/
def outside (act : ω → α × ω) : Run ω α := fun s =>
  let (value, after) := act s.outside
  (.done value, { s with outside := after })

/-- Changes the outside. -/
def changeOutside (change : ω → ω) : Run ω Unit :=
  outside fun before => ((), change before)

end Run

/-- Completes a call. -/
abbrev Handler (ω : Type) := Run ω Outcome

/-- Wraps the rest of a chain. -/
abbrev Interceptor (ω : Type) := Run ω Outcome → Run ω Outcome

/-- The terminal handler wrapped by interceptors, the first of them outermost. -/
def buildChain {ω : Type} (terminal : Handler ω) (interceptors : List (Interceptor ω)) :
    Handler ω :=
  interceptors.foldr (fun interceptor rest => interceptor rest) terminal

end RemoteCall
