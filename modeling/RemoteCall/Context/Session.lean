/-
Sessions: contexts under labels, driven step by step on one thread.

A step makes, reads, changes or closes labelled contexts, takes or drops guards
and scopes, and starts, polls or drops tasks. A task carries a context and one
list of steps for each poll; a poll runs its steps with the context that the task
kept, and ends early when a step panics. A task that is done or has panicked is
gone.
-/
import RemoteCall.Context.Active

namespace RemoteCall.Context

/-- One step of a session. -/
inductive Step where
  | create (label : Option String)
  | detached (label : Option String)
  | scope (name : String) (label : Option String)
  | endScope (name : String)
  | enter (ctx guard : String)
  | exit (guard : String)
  | current (label : Option String)
  | get (ctx name : String)
  | put (ctx name value : String)
  | putIfAbsent (ctx name value : String)
  | remove (ctx name : String)
  | entries (ctx : String)
  | parent (ctx : String)
  | close (ctx : String)
  | task (ctx label : String) (polls : List (List Step))
  | poll (label : String)
  | dropTask (label : String)
  | panic (text : String)
  | other

/-- How a poll ended. -/
inductive Polled where
  | pending
  | ready
  | panicked (text : String)
deriving DecidableEq, Repr

/-- What a step answers. -/
inductive Answer where
  | nothing
  | flag (value : Bool)
  | text (value : Option String)
  | entries (values : Attributes)
  | noSuchContext
  | noSuchTask
  /-- The end of a poll, and for each of its steps the answer and the active context's label. -/
  | polled (how : Polled) (answers : List (Answer × Option String))

mutual

/-- How many steps a step holds, itself included. -/
def Step.weight : Step → Nat
  | .task _ _ polls => pollsWeight polls + 1
  | _ => 1

/-- How many steps the polls of a task hold. -/
def pollsWeight : List (List Step) → Nat
  | [] => 1
  | steps :: polls => stepsWeight steps + pollsWeight polls

/-- How many steps a list of steps holds. -/
def stepsWeight : List Step → Nat
  | [] => 1
  | step :: steps => step.weight + stepsWeight steps

end

/-- A task: the context that it keeps while it is not polled, and the steps of its polls. -/
structure Task where
  kept : Option ContextId
  polls : List (List Step)

/-- The state of a session. -/
structure Session where
  contexts : Contexts := {}
  labels : Table ContextId := ∅
  scopes : Table ContextId := ∅
  guards : Table (Option ContextId) := ∅
  tasks : Table Task := ∅

namespace Session

/-- The label of a context: the first in order when it has several. -/
def labelOf (s : Session) (id : ContextId) : String :=
  ((s.labels.toList.find? fun entry => entry.2 == id).map (·.1)).getD "?"

/-- The label of the active context. -/
def activeLabel (s : Session) : Option String :=
  s.contexts.active.map s.labelOf

/-- Puts a label on a context, if there is one to put. -/
def bind (s : Session) (label : Option String) (id : ContextId) : Session :=
  match label with
  | none => s
  | some l => { s with labels := s.labels.insert l id }

/-- Changes the contexts. -/
def withContexts (s : Session) (contexts : Contexts) : Session :=
  { s with contexts := contexts }

/-- Answers with a text and a changed forest. -/
def change (s : Session) (result : Option String × Forest) : Answer × Session :=
  (.text result.1, s.withContexts { s.contexts with forest := result.2 })

/-- Does something with a labelled context. -/
def withContext (s : Session) (label : String) (act : ContextId → Answer × Session) :
    Answer × Session :=
  match s.labels[label]? with
  | none => (.noSuchContext, s)
  | some id => act id

/-- Takes a guard; a guard that had the name before is dropped after that. -/
def takeGuard (s : Session) (name : String) (id : ContextId) : Session :=
  let (before, contexts) := s.contexts.swap (some id)
  let contexts := match s.guards[name]? with
    | some replaced => (contexts.swap replaced).2
    | none => contexts
  { s with contexts := contexts, guards := s.guards.insert name before }

/-- Opens a scope; a scope that had the name before is closed after that. -/
def openScope (s : Session) (name : String) (label : Option String) : Session :=
  let (id, contexts) := s.contexts.create
  let contexts := match s.scopes[name]? with
    | some replaced => contexts.close replaced
    | none => contexts
  { s with contexts := contexts, scopes := s.scopes.insert name id }.bind label id

/-- Every step but a poll and a panic. -/
def act (s : Session) : Step → Answer × Session
  | .create label =>
    let (id, contexts) := s.contexts.create
    (.nothing, (s.withContexts contexts).bind label id)
  | .detached label =>
    let (id, contexts) := s.contexts.createDetached
    (.nothing, (s.withContexts contexts).bind label id)
  | .scope name label => (.nothing, s.openScope name label)
  | .endScope name =>
    match s.scopes[name]? with
    | none => (.flag false, s)
    | some id =>
      (.flag true, { s with contexts := s.contexts.close id, scopes := s.scopes.erase name })
  | .enter ctx guard => s.withContext ctx fun id => (.nothing, s.takeGuard guard id)
  | .exit guard =>
    match s.guards[guard]? with
    | none => (.flag false, s)
    | some before =>
      (.flag true,
        { s with contexts := (s.contexts.swap before).2, guards := s.guards.erase guard })
  | .current label =>
    match s.contexts.active with
    | none => (.text none, s)
    | some id =>
      let s := s.bind label id
      (.text (some (s.labelOf id)), s)
  | .get ctx name => s.withContext ctx fun id => (.text (s.contexts.forest.get id name), s)
  | .put ctx name value =>
    s.withContext ctx fun id => s.change (s.contexts.forest.put id name value)
  | .putIfAbsent ctx name value =>
    s.withContext ctx fun id => s.change (s.contexts.forest.putIfAbsent id name value)
  | .remove ctx name => s.withContext ctx fun id => s.change (s.contexts.forest.remove id name)
  | .entries ctx => s.withContext ctx fun id => (.entries (s.contexts.forest.entries id), s)
  | .parent ctx =>
    s.withContext ctx fun id => (.text ((s.contexts.forest.parent? id).map s.labelOf), s)
  | .close ctx => s.withContext ctx fun id => (.nothing, s.withContexts (s.contexts.close id))
  | .task ctx label polls =>
    s.withContext ctx fun id =>
      (.nothing, { s with tasks := s.tasks.insert label { kept := some id, polls := polls } })
  | .dropTask label => (.flag (s.tasks[label]?.isSome), { s with tasks := s.tasks.erase label })
  | .poll _ => (.noSuchTask, s)
  | .panic _ => (.nothing, s)
  | .other => (.nothing, s)

/-- Runs the steps of one poll with `poll` for the polls among them, up to a panic; also its
text. -/
def runSteps (poll : Session → String → Answer × Session) (s : Session) :
    List Step → List (Answer × Option String) × Option String × Session
  | [] => ([], none, s)
  | .panic text :: _ => ([], some text, s)
  | step :: steps =>
    let (answer, s) := match step with
      | .poll label => poll s label
      | step => s.act step
    let (answers, panicked, after) := runSteps poll s steps
    ((answer, s.activeLabel) :: answers, panicked, after)

/-- Polls a task. Polls within polls go at most `fuel` deep. -/
def poll : Nat → Session → String → Answer × Session
  | 0, s, _ => (.noSuchTask, s)
  | fuel + 1, s, label =>
    match s.tasks[label]? with
    | none => (.noSuchTask, s)
    | some task =>
      let s := { s with tasks := s.tasks.erase label }
      let ((answers, panicked, s), kept, contexts) :=
        s.contexts.runParked task.kept fun contexts =>
          let result := runSteps (poll fuel) (s.withContexts contexts) (task.polls.headD [])
          (result, result.2.2.contexts)
      let s := s.withContexts contexts
      match panicked with
      | some text => (.polled (.panicked text) answers, s)
      | none =>
        match task.polls.tail with
        | [] => (.polled .ready answers, s)
        | polls =>
          (.polled .pending answers,
            { s with tasks := s.tasks.insert label { kept := kept, polls := polls } })

/-- A bound on how deep polls can go: every poll uses up steps of a task. -/
def fuel (s : Session) : Nat :=
  s.tasks.foldl (fun total _ task => total + pollsWeight task.polls) 1

/-- Takes one step. -/
def step (s : Session) : Step → Answer × Session
  | .poll label => poll (s.fuel + 1) s label
  | action => s.act action

/-- Takes steps one after the other; each answer comes with the label of the active context. -/
def run (s : Session) : List Step → List (Answer × Option String)
  | [] => []
  | step :: steps =>
    let (answer, s) := s.step step
    (answer, s.activeLabel) :: s.run steps

end Session

end RemoteCall.Context
