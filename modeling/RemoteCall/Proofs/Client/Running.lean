/-
A client in use.

Threads call imported services, typed and untyped; calls that were started are at work on other
threads; the client may be closed at any time and more than once. All clones of a client share
what it holds, so it does not matter which of them is called or closed. Whatever happens is cut
into steps, between any two of which others may take theirs. A caller finds out what it calls,
then it looks whether the client is closed, and only if it is not, it makes a context, starts the
call and closes the context again. A closer first marks the client closed, and goes on to the
locator only if nobody did so before.

* `Handled` — what becomes of a locator, and how often it is destroyed on the way.
* `Stage.Turn` — the steps of one caller.
* `Stage.start_alone` — with no one acting in between, they are what a client does.
* `Running.Step` — the steps of all, and `Running.Runs`, what is done one step after the other.
* `Running.exists_report` — nobody waits for anybody: a caller can go on to its return alone.
-/
import RemoteCall.Client.Invoke
import RemoteCall.Proofs.Client.Importing
import RemoteCall.Proofs.Service.Registration

namespace RemoteCall

/-! ## Locators in use -/

/-- A locator has come to be another one by being used, and by being destroyed so many times. -/
inductive Handled {L : Type} [Locator L] : Nat → L → L → Prop where
  | refl (l : L) : Handled 0 l l
  | locate {n : Nat} {l l' : L} (before : Handled n l l') (invocation : Invocation)
    (exclusions : List ServiceInstance) :
    Handled n l (Locator.locate l' invocation exclusions).2
  | feedback {n : Nat} {l l' : L} (before : Handled n l l') (node : ServiceInstance)
    (outcome : Outcome) (elapsed : Elapsed) :
    Handled n l (Locator.feedback l' node outcome elapsed)
  | destroy {n : Nat} {l l' : L} (before : Handled n l l') :
    Handled (n + 1) l (Locator.destroy l')

namespace Handled

variable {L : Type} [Locator L] {m n : Nat} {l l' l'' : L} {shared shared' shared'' : Option L}

theorem trans (first : Handled m l l') (then_ : Handled n l' l'') : Handled (m + n) l l'' := by
  induction then_ with
  | refl _ => exact first
  | locate _ invocation exclusions ih => exact (ih first).locate invocation exclusions
  | feedback _ node outcome elapsed ih => exact (ih first).feedback node outcome elapsed
  | destroy _ ih => exact (ih first).destroy

theorem rel_refl (shared : Option L) : Option.Rel (Handled 0) shared shared := by
  cases shared with
  | none => exact .none
  | some l => exact .some (.refl l)

theorem rel_trans (first : Option.Rel (Handled m) shared shared')
    (then_ : Option.Rel (Handled n) shared' shared'') :
    Option.Rel (Handled (m + n)) shared shared'' := by
  cases first with
  | none =>
    cases then_
    exact .none
  | some first =>
    cases then_ with
    | some then_ => exact .some (first.trans then_)

theorem isSome_eq (h : Option.Rel (Handled n) shared shared') :
    shared'.isSome = shared.isSome := by
  cases h <;> rfl

end Handled

/-- A locator that counts how often it is destroyed. -/
structure Counted (L : Type) where
  locator : L
  destroys : Nat := 0

instance {L : Type} [Locator L] : Locator (Counted L) where
  locate c invocation exclusions :=
    let (picked, locator) := Locator.locate c.locator invocation exclusions
    (picked, { c with locator := locator })
  feedback c node outcome elapsed :=
    { c with locator := Locator.feedback c.locator node outcome elapsed }
  destroy c := { locator := Locator.destroy c.locator, destroys := c.destroys + 1 }

theorem Handled.destroys_eq {L : Type} [Locator L] {n : Nat} {c c' : Counted L}
    (h : Handled n c c') : c'.destroys = c.destroys + n := by
  induction h with
  | refl _ => rfl
  | locate _ _ _ ih => exact ih
  | feedback _ _ _ _ ih => exact ih
  | destroy _ ih => exact congrArg (· + 1) ih

/-! ## Callers -/

/-- What a caller asks of an imported service. -/
inductive Ask where
  | typed (method : String) (parameter : Option Json)
  /-- The parameter has no text. -/
  | unwritable (method : String)
  /-- The caller is going to block. -/
  | blocking (method : String) (parameter : Json)
  | untyped (method : String) (parameter : Option Json)

/-- Starts the call that a caller asks for. -/
def Client.start {L W : Type} (c : Client L W) (contexts : Contexts) (i : Import) :
    Ask → PendingCall × Contexts × Import
  | .typed method parameter =>
    let (call, contexts) := c.invokeTyped contexts i method parameter
    (call, contexts, i)
  | .unwritable method => (Client.invokeUnwritable i method, contexts, i)
  | .blocking method parameter =>
    let (call, contexts) := c.invokeBlocking contexts i method parameter
    (call, contexts, i)
  | .untyped method parameter => c.invokeGeneric contexts i method parameter

/-- How far a caller has come. -/
inductive Stage where
  | asked (ask : Ask)
  /-- The method of an untyped call is being registered. -/
  | registering (stage : Registration.Stage) (parameter : Option Json)
  /-- The method is known; next the caller looks whether the client is closed. -/
  | ready (method : MethodConfig) (parameter : Option Json)
  | admitted (method : MethodConfig) (parameter : Option Json)
  /-- There is a context and an invocation. -/
  | made (invocation : Invocation) (id : ContextId)
  | spawned (invocation : Invocation) (link : Option Nat) (id : ContextId)
  | answered (call : PendingCall)

namespace Stage

variable {L W : Type} {there : Plugins → Prop} {c : Client L W} {i i' : Import}
  {contexts contexts' : Contexts} {stage stage' : Stage} {parameter : Option Json}
  {config : MethodConfig} {plugins : Plugins}

/-- Which step a caller can take, and what comes of it: the service, the contexts of its thread,
and where it is then. -/
inductive Turn (there : Plugins → Prop) (c : Client L W) (i : Import) (contexts : Contexts) :
    Stage → Import → Contexts → Stage → Prop where
  | typed {method : String} {parameter : Option Json} {config : MethodConfig}
    (fits : i.service.method method parameter.isSome = .ok config) :
    Turn there c i contexts (.asked (.typed method parameter)) i contexts (.ready config parameter)
  | misfit {method : String} {parameter : Option Json} {e : CallError}
    (misfit : i.service.method method parameter.isSome = .error e) :
    Turn there c i contexts (.asked (.typed method parameter)) i contexts (.answered (.failed e))
  | unwritable {method : String} :
    Turn there c i contexts (.asked (.unwritable method)) i contexts
      (.answered (Client.invokeUnwritable i method))
  | blocking {method : String} {parameter : Json}
    (sync : i.service.checkBlocking method = .ok ()) :
    Turn there c i contexts (.asked (.blocking method parameter)) i contexts
      (.asked (.typed method (some parameter)))
  | async {method : String} {parameter : Json} {e : CallError}
    (async : i.service.checkBlocking method = .error e) :
    Turn there c i contexts (.asked (.blocking method parameter)) i contexts
      (.answered (.failed e))
  | untyped {method : String} {parameter : Option Json} :
    Turn there c i contexts (.asked (.untyped method parameter)) i contexts
      (.registering (.asking [.generic method]) parameter)
  | look {stage stage' : Registration.Stage} {service : Service} {parameter : Option Json}
    (turn : Registration.Turn there i.service stage service [] stage') :
    Turn there c i contexts (.registering stage parameter) { i with service := service } contexts
      (.registering stage' parameter)
  | registered {stage stage' : Registration.Stage} {service : Service} {d : MethodDescriptor}
    {config : MethodConfig} {parameter : Option Json}
    (turn : Registration.Turn there i.service stage service [⟨d, .ok config⟩] stage') :
    Turn there c i contexts (.registering stage parameter) { i with service := service } contexts
      (.ready config parameter)
  | unregistered {stage stage' : Registration.Stage} {service : Service} {d : MethodDescriptor}
    {e : CallError} {parameter : Option Json}
    (turn : Registration.Turn there i.service stage service [⟨d, .error e⟩] stage') :
    Turn there c i contexts (.registering stage parameter) { i with service := service } contexts
      (.answered (.failed e))
  | refused {config : MethodConfig} {parameter : Option Json} (closed : c.closed = true) :
    Turn there c i contexts (.ready config parameter) i contexts
      (.answered (.failed Client.closedError))
  | admitted {config : MethodConfig} {parameter : Option Json} (opened : c.closed = false) :
    Turn there c i contexts (.ready config parameter) i contexts (.admitted config parameter)
  | create {config : MethodConfig} {parameter : Option Json} :
    Turn there c i contexts (.admitted config parameter) i contexts.create.2
      (.made (.ofMethod i.service config parameter (some contexts.create.1)) contexts.create.1)
  | spawn {invocation : Invocation} {id : ContextId} :
    Turn there c i contexts (.made invocation id) i contexts (.spawned invocation i.link id)
  | close {invocation : Invocation} {link : Option Nat} {id : ContextId} :
    Turn there c i contexts (.spawned invocation link id) i (contexts.close id)
      (.answered (.started invocation link))

/-- A caller, its service and the contexts of its thread. -/
abbrev Scene := Import × Contexts × Stage

/-- The steps of a caller one after the other, with no one acting in between. -/
abbrev Turns (there : Plugins → Prop) (c : Client L W) : Scene → Scene → Prop :=
  Relation.ReflTransGen fun s s' => Turn there c s.1 s.2.1 s.2.2 s'.1 s'.2.1 s'.2.2

theorem Turns.of_turn (turn : Turn there c i contexts stage i' contexts' stage') :
    Turns there c (i, contexts, stage) (i', contexts', stage') :=
  .single turn

theorem Turns.cons {scene : Scene} (turn : Turn there c i contexts stage i' contexts' stage')
    (rest : Turns there c (i', contexts', stage') scene) :
    Turns there c (i, contexts, stage) scene :=
  rest.head turn

/-- From the look at the flag on, a caller does what a client does to start a call. -/
theorem ready_alone (i : Import) (contexts : Contexts) (config : MethodConfig)
    (parameter : Option Json) :
    Turns there c (i, contexts, .ready config parameter)
      (i, (c.invoke contexts i config parameter).2,
        .answered (c.invoke contexts i config parameter).1) := by
  unfold Client.invoke
  cases hclosed : c.closed with
  | true => exact .of_turn (.refused hclosed)
  | false =>
    exact Turns.cons (.admitted hclosed) (Turns.cons .create
      (Turns.cons .spawn (Turns.of_turn .close)))

theorem typed_alone (i : Import) (contexts : Contexts) (method : String)
    (parameter : Option Json) :
    Turns there c (i, contexts, .asked (.typed method parameter))
      (i, (c.invokeTyped contexts i method parameter).2,
        .answered (c.invokeTyped contexts i method parameter).1) := by
  unfold Client.invokeTyped
  cases hmethod : i.service.method method parameter.isSome with
  | error e => exact .of_turn (.misfit hmethod)
  | ok config => exact .cons (.typed hmethod) (ready_alone ..)

theorem untyped_alone (used : there c.plugins) (i : Import) (contexts : Contexts)
    (method : String) (parameter : Option Json) :
    let (call, contexts', i') := c.invokeGeneric contexts i method parameter
    Turns there c (i, contexts, .asked (.untyped method parameter))
      (i', contexts', .answered call) := by
  unfold Client.invokeGeneric Import.registerGeneric
  rw [Service.register_eq]
  cases hfound : i.service.method? (MethodDescriptor.generic method).name with
  | some config =>
    exact Turns.cons .untyped (Turns.cons (.registered (.found hfound)) (ready_alone ..))
  | none =>
    cases hconfigure : i.service.configure c.plugins (.generic method) with
    | error e =>
      exact Turns.cons .untyped (Turns.cons (.look (.miss hfound))
        (Turns.of_turn (.unregistered (.fail used hconfigure))))
    | ok config =>
      exact Turns.cons .untyped (Turns.cons (.look (.miss hfound))
        (Turns.cons (.look (.build used hconfigure))
          (Turns.cons (.registered .insert) (ready_alone ..))))

/-- **A client starts calls by these steps.** -/
theorem start_alone (used : there c.plugins) (i : Import) (contexts : Contexts) (ask : Ask) :
    let (call, contexts', i') := c.start contexts i ask
    Turns there c (i, contexts, .asked ask) (i', contexts', .answered call) := by
  cases ask with
  | typed method parameter => exact typed_alone ..
  | unwritable method => exact .of_turn .unwritable
  | blocking method parameter =>
    simp only [Client.start, Client.invokeBlocking]
    cases hsync : i.service.checkBlocking method with
    | error e => exact .of_turn (.async hsync)
    | ok u => exact .cons (.blocking hsync) (typed_alone ..)
  | untyped method parameter => exact untyped_alone used ..

/-! ## On to the answer -/

/-- A caller that registers a method has not been answered about it yet. -/
def Sensible : Stage → Prop
  | .registering stage _ => stage.unanswered.length = 1
  | _ => True

theorem exists_answered_registering (used : there plugins) {stage : Registration.Stage}
    (asking : stage.unanswered.length = 1) (i : Import) (contexts : Contexts)
    (parameter : Option Json) : ∃ i' contexts' call,
      Turns there c (i, contexts, .registering stage parameter)
        (i', contexts', .answered call) := by
  generalize hleft : stage.left = left
  induction left using Nat.strongRecOn generalizing stage i with
  | ind left ih =>
    have begun : stage ≠ .idle := by
      rintro rfl
      cases asking
    have going : stage ≠ .ended := by
      rintro rfl
      cases asking
    obtain ⟨service, told, stage', hturn⟩ :=
      Registration.exists_turn i.service used begun going
    rcases hturn.told_cases with rfl | ⟨d, result, rfl⟩
    · have hnext : stage'.unanswered.length = 1 := by
        rw [hturn.unanswered_of_nil]
        exact asking
      obtain ⟨i', contexts', call, hrest⟩ :=
        ih stage'.left (hleft ▸ hturn.left_lt) hnext { i with service := service } rfl
      exact ⟨i', contexts', call, .cons (.look hturn) hrest⟩
    · cases result with
      | ok config => exact ⟨_, _, _, Turns.cons (.registered hturn) (ready_alone ..)⟩
      | error e => exact ⟨_, _, _, Turns.of_turn (.unregistered hturn)⟩

/-- A caller can always go on to its answer. -/
theorem exists_answered (used : there plugins) (sensible : stage.Sensible) (i : Import)
    (contexts : Contexts) : ∃ i' contexts' call,
      Turns there c (i, contexts, stage) (i', contexts', .answered call) := by
  cases stage with
  | asked ask =>
    cases ask with
    | typed method parameter => exact ⟨_, _, _, typed_alone ..⟩
    | unwritable method => exact ⟨_, _, _, Turns.of_turn .unwritable⟩
    | blocking method parameter =>
      cases hsync : i.service.checkBlocking method with
      | error e => exact ⟨_, _, _, Turns.of_turn (.async hsync)⟩
      | ok u => exact ⟨_, _, _, Turns.cons (.blocking hsync) (typed_alone ..)⟩
    | untyped method parameter =>
      have hasking : (Registration.Stage.asking [.generic method]).unanswered.length = 1 := rfl
      obtain ⟨i', contexts', call, hrest⟩ :=
        exists_answered_registering (c := c) used hasking i contexts parameter
      exact ⟨i', contexts', call, .cons .untyped hrest⟩
  | registering stage parameter => exact exists_answered_registering used sensible ..
  | ready method parameter => exact ⟨_, _, _, ready_alone ..⟩
  | admitted method parameter =>
    exact ⟨_, _, _, Turns.cons .create (Turns.cons .spawn (Turns.of_turn .close))⟩
  | made invocation id => exact ⟨_, _, _, Turns.cons .spawn (Turns.of_turn .close)⟩
  | spawned invocation link id => exact ⟨_, _, _, Turns.of_turn .close⟩
  | answered call => exact ⟨_, _, _, .refl⟩

/-- What is put to work by the step that leads here. -/
def task? : Stage → Option (Invocation × Option Nat)
  | .spawned invocation link _ => some (invocation, link)
  | _ => none

end Stage

/-! ## Everyone -/

/-- Contexts are added, and none gets another parent. -/
structure Forest.Extends (f f' : Forest) : Prop where
  length_le : f.length ≤ f'.length
  parent? : ∀ id < f.length, f'.parent? id = f.parent? id

/-- An invocation that has not returned yet. -/
structure Caller where
  call : Nat
  /-- Which of the imported services it is for. -/
  service : Nat
  /-- What was active on its thread before. -/
  before : Option ContextId
  stage : Stage

structure Thread where
  active : Option ContextId
  caller : Option Caller

/-- What an invocation came to, and what was active on its thread before and after. -/
structure Report where
  before : Option ContextId
  after : Option ContextId
  call : PendingCall

/-- A close of the client, and how far it has come. -/
inductive Closer where
  | idle
  /-- It has marked the client closed. -/
  | swapped (first : Bool)
  /-- It has told the shared locator to let go of everything, and waits for it. -/
  | destroying
  | closed (first : Bool)
  /-- Nobody waits for it any more. -/
  | abandoned

/-- What a call that was started does. -/
inductive Work where
  | intercepted
  | located
  | sent
  | heard
deriving DecidableEq, Repr

/-- What somebody does in one step. -/
inductive Deed where
  | began (call : Nat)
  | took (call : Nat)
  /-- A caller looked whether the client is closed. -/
  | checked (call : Nat)
  | returned (call : Nat)
  | worked (call : Nat) (work : Work)
  | swapped (closer : Nat)
  | destroyed (closer : Nat)
  | closed (closer : Nat)
  | abandoned (closer : Nat)
  | other
deriving DecidableEq, Repr

namespace Deed

/-- The invocation that a step is one of. -/
def caller? : Deed → Option Nat
  | .began call => some call
  | .took call => some call
  | .checked call => some call
  | .returned call => some call
  | _ => none

/-- A close marks the client. -/
def isSwapped : Deed → Bool
  | .swapped _ => true
  | _ => false

/-- The shared locator is destroyed. -/
def isDestroyed : Deed → Bool
  | .destroyed _ => true
  | _ => false

end Deed

/-- How a close goes on once it has marked the client: the first one goes to the shared locator,
if there is one. -/
inductive Closer.Next (located : Bool) (k : Nat) : Closer → Deed → Closer → Prop where
  | destroy (locator : located = true) :
    Next located k (.swapped true) (.destroyed k) .destroying
  | finish : Next located k .destroying (.closed k) (.closed true)
  | bare (bare : located = false) : Next located k (.swapped true) (.closed k) (.closed true)
  | late : Next located k (.swapped false) (.closed k) (.closed false)
  /-- A close can be dropped only while it waits. -/
  | abandon : Next located k .destroying (.abandoned k) .abandoned

theorem Closer.Next.deed_cases {located : Bool} {k : Nat} {closer closer' : Closer} {deed : Deed}
    (next : Next located k closer deed closer') :
    deed = .destroyed k ∨ deed = .closed k ∨ deed = .abandoned k := by
  cases next <;> simp

/-- What the next step of a caller is. -/
def Stage.deed (stage : Stage) (call : Nat) : Deed :=
  match stage with
  | .ready _ _ => .checked call
  | _ => .took call

/-- A client with everyone who uses it. -/
structure Running (L W : Type) where
  client : Client L W
  imports : Nat → Option Import
  forest : Forest
  threads : Nat → Thread
  closers : Nat → Closer
  /-- How many invocations have begun; they are numbered in this order. -/
  begun : Nat
  /-- The calls that were started. -/
  tasks : Nat → Option (Invocation × Option Nat)
  /-- What the invocations that have returned came to. -/
  reports : Nat → Option Report

namespace Running

variable {L W : Type}

/-- The contexts as a thread sees them. -/
def contexts (r : Running L W) (t : Nat) : Contexts :=
  { forest := r.forest, active := (r.threads t).active }

/-- What is there once a thread has begun to call a service. -/
def asking (r : Running L W) (t s : Nat) (ask : Ask) : Running L W :=
  { r with
    begun := r.begun + 1
    threads := Function.update r.threads t {
      active := (r.threads t).active
      caller := some ⟨r.begun, s, (r.threads t).active, .asked ask⟩ } }

/-- What is there once a caller has returned. -/
def left (r : Running L W) (t : Nat) (caller : Caller) (call : PendingCall) : Running L W :=
  { r with
    threads := Function.update r.threads t { active := (r.threads t).active, caller := none }
    reports := Function.update r.reports caller.call
      (some { before := caller.before, after := (r.threads t).active, call := call }) }

/-- What is there once a caller has taken a step. -/
def turned (r : Running L W) (t : Nat) (caller : Caller) (i : Import) (contexts : Contexts)
    (stage : Stage) : Running L W :=
  { r with
    imports := Function.update r.imports caller.service (some i)
    forest := contexts.forest
    threads := Function.update r.threads t
      { active := contexts.active, caller := some { caller with stage := stage } }
    tasks := Function.update r.tasks caller.call (stage.task?.or (r.tasks caller.call)) }

section

variable {r : Running L W} {t s u x : Nat} {ask : Ask} {caller : Caller} {call : PendingCall}
  {i : Import} {after : Contexts} {stage : Stage}

@[simp] theorem threads_asking_self : (r.asking t s ask).threads t =
    { active := (r.threads t).active
      caller := some ⟨r.begun, s, (r.threads t).active, .asked ask⟩ } :=
  Function.update_self ..

theorem threads_asking_of_ne (h : u ≠ t) : (r.asking t s ask).threads u = r.threads u :=
  Function.update_of_ne h ..

/-- Beginning to call a service activates nothing. -/
@[simp] theorem active_asking :
    ((r.asking t s ask).threads u).active = (r.threads u).active := by
  by_cases heq : u = t
  · rw [heq, threads_asking_self]
  · rw [threads_asking_of_ne heq]

@[simp] theorem threads_left_self : (r.left t caller call).threads t =
    { active := (r.threads t).active, caller := none } :=
  Function.update_self ..

theorem threads_left_of_ne (h : u ≠ t) : (r.left t caller call).threads u = r.threads u :=
  Function.update_of_ne h ..

@[simp] theorem active_left :
    ((r.left t caller call).threads u).active = (r.threads u).active := by
  by_cases heq : u = t
  · rw [heq, threads_left_self]
  · rw [threads_left_of_ne heq]

@[simp] theorem reports_left_self : (r.left t caller call).reports caller.call =
    some { before := caller.before, after := (r.threads t).active, call := call } :=
  Function.update_self ..

theorem reports_left_of_ne (h : x ≠ caller.call) :
    (r.left t caller call).reports x = r.reports x :=
  Function.update_of_ne h ..

@[simp] theorem threads_turned_self : (r.turned t caller i after stage).threads t =
    { active := after.active, caller := some { caller with stage := stage } } :=
  Function.update_self ..

theorem threads_turned_of_ne (h : u ≠ t) :
    (r.turned t caller i after stage).threads u = r.threads u :=
  Function.update_of_ne h ..

@[simp] theorem tasks_turned_self : (r.turned t caller i after stage).tasks caller.call =
    stage.task?.or (r.tasks caller.call) :=
  Function.update_self ..

theorem tasks_turned_of_ne (h : x ≠ caller.call) :
    (r.turned t caller i after stage).tasks x = r.tasks x :=
  Function.update_of_ne h ..

@[simp] theorem imports_turned_self :
    (r.turned t caller i after stage).imports caller.service = some i :=
  Function.update_self ..

theorem imports_turned_of_ne (h : x ≠ caller.service) :
    (r.turned t caller i after stage).imports x = r.imports x :=
  Function.update_of_ne h ..

@[simp] theorem contexts_asking : (r.asking t s ask).contexts t = r.contexts t := by
  rw [contexts, threads_asking_self]
  rfl

@[simp] theorem contexts_left : (r.left t caller call).contexts t = r.contexts t := by
  rw [contexts, threads_left_self]
  rfl

@[simp] theorem contexts_turned : (r.turned t caller i after stage).contexts t = after := by
  rw [contexts, threads_turned_self]
  rfl

end

variable [Locator L]

/-- What a call at work does to the network. A send or an interceptor may change all of it, and make
calls of its own; but destroying the client's locator is not for them. -/
inductive Works (network : Network L W) (link : Option Nat) : Work → Network L W → Prop where
  | locate {invocation : Invocation} {exclusions : List ServiceInstance} :
    Works network link .located (network.locate link invocation exclusions).2
  | hear {node : ServiceInstance} {outcome : Outcome} {elapsed : Elapsed} :
    Works network link .heard (network.feedback link node outcome elapsed)
  | send {after : Network L W} (used : Option.Rel (Handled 0) network.shared after.shared) :
    Works network link .sent after
  | intercept {after : Network L W} (used : Option.Rel (Handled 0) network.shared after.shared) :
    Works network link .intercepted after

/-- One step of someone. -/
inductive Step (there : Plugins → Prop) (r : Running L W) : Deed → Running L W → Prop where
  | begin {t s : Nat} {i : Import} (idle : (r.threads t).caller = none)
    (found : r.imports s = some i) (ask : Ask) :
    Step there r (.began r.begun) (r.asking t s ask)
  | turn {t : Nat} {caller : Caller} {i i' : Import} {contexts' : Contexts} {stage' : Stage}
    (busy : (r.threads t).caller = some caller) (found : r.imports caller.service = some i)
    (turn : Stage.Turn there r.client i (r.contexts t) caller.stage i' contexts' stage') :
    Step there r (caller.stage.deed caller.call) (r.turned t caller i' contexts' stage')
  | leave {t : Nat} {caller : Caller} {call : PendingCall}
    (busy : (r.threads t).caller = some caller) (answered : caller.stage = .answered call) :
    Step there r (.returned caller.call) (r.left t caller call)
  /-- A close marks the client closed. -/
  | swap {k : Nat} (idle : r.closers k = .idle) :
    Step there r (.swapped k) { r with
      client := r.client.markClosed.2
      closers := Function.update r.closers k (.swapped !r.client.markClosed.1) }
  | close {k : Nat} {deed : Deed} {closer : Closer}
    (next : Closer.Next r.client.network.shared.isSome k (r.closers k) deed closer) :
    Step there r deed { r with
      client := if deed.isDestroyed then r.client.destroyLocator else r.client
      closers := Function.update r.closers k closer }
  | work {x : Nat} {invocation : Invocation} {link : Option Nat} {work : Work}
    {network : Network L W} {forest : Forest} (task : r.tasks x = some (invocation, link))
    (works : Works r.client.network link work network) (grown : r.forest.Extends forest) :
    Step there r (.worked x work) { r with
      client := { r.client with network := network }
      forest := forest }
  /-- A thread that is not calling anything makes contexts, and activates any. -/
  | thread {t : Nat} {active : Option ContextId} {forest : Forest}
    (idle : (r.threads t).caller = none) (grown : r.forest.Extends forest) :
    Step there r .other { r with
      forest := forest
      threads := Function.update r.threads t { active := active, caller := none } }
  /-- Somebody else registers methods. -/
  | register {s : Nat} {i : Import} (found : r.imports s = some i)
    (methods : Table MethodConfig) :
    Step there r .other { r with
      imports := Function.update r.imports s
        (some { i with service := i.service.withMethods methods }) }
  | newImport {s : Nat} {name : String} {reference : ReferenceConfig} {i : Import}
    {after : Client L W} (free : r.imports s = none)
    (imported : r.client.Imports name reference i after) :
    Step there r .other { r with
      client := after
      imports := Function.update r.imports s (some i) }

/-- Steps one after the other. -/
inductive Runs (there : Plugins → Prop) (r₀ : Running L W) : List Deed → Running L W → Prop where
  | refl : Runs there r₀ [] r₀
  | tail {deeds : List Deed} {r r' : Running L W} {deed : Deed} (run : Runs there r₀ deeds r)
    (step : Step there r deed r') : Runs there r₀ (deeds ++ [deed]) r'

variable {there : Plugins → Prop} {r r' r'' : Running L W} {deeds later : List Deed} {t s : Nat}
  {i : Import} {caller : Caller}

theorem Runs.trans (first : Runs there r deeds r') (then_ : Runs there r' later r'') :
    Runs there r (deeds ++ later) r'' := by
  induction then_ with
  | refl =>
    rw [List.append_nil]
    exact first
  | tail _ step ih =>
    rw [← List.append_assoc]
    exact ih.tail step

theorem Runs.of_step {deed : Deed} (step : Step there r deed r') : Runs there r [deed] r' :=
  Runs.refl.tail step

/-! ## With no one else acting -/

/-- A caller takes its steps one after the other. -/
theorem Runs.of_turns {scene : Stage.Scene} (busy : (r.threads t).caller = some caller)
    (found : r.imports caller.service = some i)
    (turns : Stage.Turns there r.client (i, r.contexts t, caller.stage) scene) :
    ∃ deeds r', Runs there r deeds r' ∧ (∀ d ∈ deeds, d.caller? = some caller.call) ∧
      r'.client = r.client ∧ r'.imports caller.service = some scene.1 ∧
      r'.contexts t = scene.2.1 ∧
      (r'.threads t).caller = some { caller with stage := scene.2.2 } := by
  induction turns with
  | refl => exact ⟨[], r, .refl, by simp, rfl, found, rfl, busy⟩
  | @tail middle last _ turn ih =>
    obtain ⟨deeds, r', hrun, hdeeds, hclient, hfound, hcontexts, hbusy⟩ := ih
    rw [← hclient, ← hcontexts] at turn
    refine ⟨_, _, hrun.tail (.turn hbusy hfound turn), fun d hd => ?_, hclient, ?_, ?_, ?_⟩
    · rcases List.mem_append.mp hd with hd | hd
      · exact hdeeds d hd
      · rw [List.mem_singleton.mp hd]
        cases middle.2.2 <;> rfl
    · rw [imports_turned_self]
    · rw [contexts_turned]
    · rw [threads_turned_self]

/-- **Nobody holds a caller up.** It can go on to its return with nobody else acting. -/
theorem exists_report {plugins : Plugins} (used : there plugins)
    (busy : (r.threads t).caller = some caller) (found : r.imports caller.service = some i)
    (sensible : caller.stage.Sensible) :
    ∃ deeds r', Runs there r deeds r' ∧ (∀ d ∈ deeds, d.caller? = some caller.call) ∧
      ∃ report, r'.reports caller.call = some report := by
  obtain ⟨i', contexts', call, hturns⟩ :=
    Stage.exists_answered (c := r.client) used sensible i (r.contexts t)
  obtain ⟨deeds, r', hrun, hdeeds, -, -, -, hbusy⟩ := Runs.of_turns busy found hturns
  refine ⟨_, _, hrun.tail (.leave hbusy rfl), fun d hd => ?_, _, reports_left_self⟩
  rcases List.mem_append.mp hd with hd | hd
  · exact hdeeds d hd
  · rw [List.mem_singleton.mp hd]
    rfl

/-- A caller that nobody gets in the way of has its call started as a client starts it. -/
theorem start_alone (idle : (r.threads t).caller = none) (found : r.imports s = some i)
    (used : there r.client.plugins) (ask : Ask) :
    let (call, contexts', i') := r.client.start (r.contexts t) i ask
    ∃ deeds r', Runs there r deeds r' ∧ r'.client = r.client ∧ r'.imports s = some i' ∧
      r'.contexts t = contexts' ∧ r'.reports r.begun =
        some { before := (r.threads t).active, after := contexts'.active, call := call } := by
  have hturns := Stage.start_alone used i (r.contexts t) ask
  revert hturns
  generalize r.client.start (r.contexts t) i ask = outcome
  obtain ⟨call, contexts', i'⟩ := outcome
  intro hturns
  have hbegin : Step there r (.began r.begun) (r.asking t s ask) := .begin idle found ask
  have hbusy : ((r.asking t s ask).threads t).caller =
      some ⟨r.begun, s, (r.threads t).active, .asked ask⟩ := by rw [threads_asking_self]
  rw [← contexts_asking] at hturns
  obtain ⟨deeds, r', hrun, -, hclient, hfound', hcontexts, hbusy'⟩ :=
    Runs.of_turns hbusy found hturns
  refine ⟨_, _, ((Runs.of_step hbegin).trans hrun).tail (.leave hbusy' rfl), hclient, hfound',
    contexts_left.trans hcontexts, reports_left_self.trans ?_⟩
  have hactive : (r'.threads t).active = contexts'.active := congrArg Contexts.active hcontexts
  rw [hactive]

theorem Runs.then_close {k : Nat} {deed : Deed} {closer closer' : Closer}
    (run : Runs there r deeds r') (stage : r'.closers k = closer)
    (next : Closer.Next r'.client.network.shared.isSome k closer deed closer') :
    Runs there r (deeds ++ [deed]) { r' with
      client := if deed.isDestroyed then r'.client.destroyLocator else r'.client
      closers := Function.update r'.closers k closer' } := by
  subst stage
  exact run.tail (.close next)

/-- A close can always go on to its end, unless nobody waits for it any more. -/
theorem exists_closed {k : Nat} (begun : r.closers k ≠ .idle) (going : r.closers k ≠ .abandoned) :
    ∃ deeds r' first, Runs there r deeds r' ∧ r'.closers k = .closed first := by
  cases hstage : r.closers k with
  | idle => exact absurd hstage begun
  | swapped first =>
    cases first with
    | false =>
      exact ⟨_, _, false, Runs.refl.then_close hstage .late, Function.update_self ..⟩
    | true =>
      cases hlocated : r.client.network.shared.isSome with
      | false =>
        exact ⟨_, _, true, Runs.refl.then_close hstage (.bare hlocated), Function.update_self ..⟩
      | true =>
        have hdestroyed : Runs there r _ _ := Runs.refl.then_close hstage (.destroy hlocated)
        exact ⟨_, _, true, hdestroyed.then_close (Function.update_self ..) .finish,
          Function.update_self ..⟩
  | destroying => exact ⟨_, _, true, Runs.refl.then_close hstage .finish, Function.update_self ..⟩
  | closed first => exact ⟨[], r, first, .refl, hstage⟩
  | abandoned => exact absurd hstage going

/-- A close that nobody gets in the way of does what a client does to be closed. -/
theorem close_alone {k : Nat} (idle : r.closers k = .idle) :
    ∃ deeds r' first, Runs there r deeds r' ∧ r'.client = r.client.close ∧
      r'.closers k = .closed first := by
  let marked : Running L W := { r with
    client := r.client.markClosed.2
    closers := Function.update r.closers k (.swapped !r.client.closed) }
  have hswap : Runs there r [.swapped k] marked := .of_step (.swap idle)
  have hstage : marked.closers k = .swapped !r.client.closed := Function.update_self ..
  have hlocated : marked.client.network.shared.isSome = r.client.network.shared.isSome := rfl
  unfold Client.close Client.markClosed
  cases hclosed : r.client.closed with
  | true =>
    rw [hclosed] at hstage
    exact ⟨_, _, false, hswap.then_close hstage .late, rfl, Function.update_self ..⟩
  | false =>
    rw [hclosed] at hstage
    cases hshared : r.client.network.shared with
    | none =>
      rw [hshared] at hlocated
      refine ⟨_, _, true, hswap.then_close hstage (.bare hlocated), ?_, Function.update_self ..⟩
      show r.client.markClosed.2 = r.client.markClosed.2.destroyLocator
      simp only [Client.markClosed, Client.destroyLocator, hshared, Option.map_none]
      rw [← hshared]
    | some locator =>
      rw [hshared] at hlocated
      have hdestroyed := hswap.then_close hstage (.destroy hlocated)
      exact ⟨_, _, true, hdestroyed.then_close (Function.update_self ..) .finish, rfl,
        Function.update_self ..⟩

end Running

end RemoteCall
