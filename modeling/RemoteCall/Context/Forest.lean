/-
Contexts: tables of values for the time of a request, nested in each other.

A context may have a parent, which is always older than itself. A look-up starts
with the values of the context itself and goes on to the nearest ancestor that
has one; writes change the context itself only. A `Forest` lists all contexts
ever made, latest first, so a context's place from the end is its identity, and
following parents is recursion on the list.
-/
import RemoteCall.Attributes

namespace RemoteCall

/-- The identity of a context: how many contexts were made before it. -/
abbrev ContextId := Nat

/-- A context: its parent and its own values. -/
structure ContextNode where
  parent : Option ContextId
  values : Attributes

/-- All contexts ever made, latest first. -/
abbrev Forest := List ContextNode

namespace Forest

/-- The context with an identity. -/
def node? : Forest → ContextId → Option ContextNode
  | [], _ => none
  | n :: older, id => if id = older.length then some n else node? older id

/-- The values that a context holds itself. -/
def values (f : Forest) (id : ContextId) : Attributes :=
  ((f.node? id).map (·.values)).getD ∅

/-- The parent of a context. -/
def parent? (f : Forest) (id : ContextId) : Option ContextId :=
  (f.node? id).bind (·.parent)

/-- A context and its ancestors, nearest first. -/
def chain : Forest → ContextId → List ContextId
  | [], _ => []
  | n :: older, id =>
    if id = older.length then
      id :: (match n.parent with
        | none => []
        | some p => chain older p)
    else chain older id

/-- Adds a context with the given parent; its identity is the number of contexts before. -/
def add (f : Forest) (parent : Option ContextId) : Forest :=
  { parent := parent, values := ∅ } :: f

/-- Changes the values of one context. -/
def update (change : Attributes → Attributes) : Forest → ContextId → Forest
  | [], _ => []
  | n :: older, id =>
    if id = older.length then { n with values := change n.values } :: older
    else n :: update change older id

/-- The value of the nearest context on the chain that has the name. -/
def get (f : Forest) (id : ContextId) (name : String) : Option String :=
  (f.chain id).findSome? fun c => (f.values c)[name]?

/-- Stores a value; also the one that the context itself held before. -/
def put (f : Forest) (id : ContextId) (name value : String) : Option String × Forest :=
  ((f.values id)[name]?, f.update (·.insert name value) id)

/-- Stores a value unless the context itself holds one; also the one that it held before. -/
def putIfAbsent (f : Forest) (id : ContextId) (name value : String) : Option String × Forest :=
  match (f.values id)[name]? with
  | some held => (some held, f)
  | none => (none, f.update (·.insert name value) id)

/-- Removes a value; also the one that the context itself held before. -/
def remove (f : Forest) (id : ContextId) (name : String) : Option String × Forest :=
  ((f.values id)[name]?, f.update (·.erase name) id)

/-- All visible values: those of nearer contexts over those of their ancestors. -/
def entries (f : Forest) (id : ContextId) : Attributes :=
  (f.chain id).foldr (fun c visible => visible.extend (f.values c)) ∅

end Forest

end RemoteCall
