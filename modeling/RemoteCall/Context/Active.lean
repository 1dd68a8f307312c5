/-
The context that is active on a thread.

At most one context is active at a time. A new context becomes active as a child
of the one that was; closing it makes its parent active again, but only if it is
the active one itself. A guard remembers what was active when it was taken. A
suspended piece of work keeps the context that was active when it paused: running
it on swaps that context in, and pausing swaps it out again.
-/
import RemoteCall.Context.Forest

namespace RemoteCall

/-- The contexts as one thread sees them. -/
structure Contexts where
  forest : Forest := []
  active : Option ContextId := none

namespace Contexts

/-- Makes a context, child of the active one, and makes it active. -/
def create (c : Contexts) : ContextId × Contexts :=
  (c.forest.length, { forest := c.forest.add c.active, active := some c.forest.length })

/-- Makes a context without a parent; what is active stays so. -/
def createDetached (c : Contexts) : ContextId × Contexts :=
  (c.forest.length, { c with forest := c.forest.add none })

/-- Makes the parent of a context active, if the context is the active one. -/
def close (c : Contexts) (id : ContextId) : Contexts :=
  if c.active = some id then { c with active := c.forest.parent? id } else c

/-- Makes another context active, or none; also what was active before. -/
def swap (c : Contexts) (next : Option ContextId) : Option ContextId × Contexts :=
  (c.active, { c with active := next })

/-- Runs a piece of work with the context that it kept when it paused; also the context that it
keeps now. The thread is left with what was active before. -/
def runParked {α : Type} (c : Contexts) (kept : Option ContextId)
    (work : Contexts → α × Contexts) : α × Option ContextId × Contexts :=
  let (before, running) := c.swap kept
  let (result, paused) := work running
  let (keeps, after) := paused.swap before
  (result, keeps, after)

end Contexts

end RemoteCall
