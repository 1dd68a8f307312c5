/-
The story of a call: its record, read as connect cycles of attempts.

An `Attempt` is a look-up that found an instance, the send to it and the feedback
about it. A `Cycle` is a list of attempts, possibly one more look-up that found
nothing, and possibly a reading of the clock for the cycle after it. A story is a
list of cycles. `Story.events` says which record a story stands for; which stories
a call can have is not said here.
-/
import RemoteCall.Proofs.Call.Record

namespace RemoteCall

variable {ω : Type}

/-! ## Stories -/

/-- One send and what belongs to it. -/
structure Attempt (ω : Type) where
  lookup : Lookup ω
  node : ServiceInstance
  /-- The scene before the send. -/
  start : Scene ω
  request : Request
  answer : Except TransportError Response
  /-- The scene before the feedback. -/
  finish : Scene ω
  outcome : Outcome
  elapsed : Elapsed

namespace Attempt

/-- The events of the send and of the feedback about it. -/
def exchange (a : Attempt ω) : Record ω :=
  [.sent a.start a.node a.request a.answer, .heard a.finish a.node a.outcome a.elapsed]

/-- All events of an attempt. -/
def events (a : Attempt ω) : Record ω :=
  .located a.lookup (some a.node) :: a.exchange

/-- The instance was never reached. -/
def refused (a : Attempt ω) : Bool :=
  match a.answer with
  | .error (.connect _) => true
  | _ => false

/-- The send passed its deadline or was abandoned. -/
def timedOut (a : Attempt ω) : Bool :=
  match a.answer with
  | .error (.timeout _) => true
  | .error (.cancelled _) => true
  | _ => false

end Attempt

/-- The events of attempts and of a fruitless look-up after them. -/
def tries (attempts : List (Attempt ω)) (fruitless : Option (Lookup ω)) : Record ω :=
  attempts.flatMap Attempt.events ++ fruitless.toList.map fun l => .located l none

@[simp] theorem tries_nil (fruitless : Option (Lookup ω)) :
    tries [] fruitless = fruitless.toList.map fun l => .located l none := rfl

@[simp] theorem tries_cons (a : Attempt ω) (attempts : List (Attempt ω))
    (fruitless : Option (Lookup ω)) :
    tries (a :: attempts) fruitless =
      .located a.lookup (some a.node) :: (a.exchange ++ tries attempts fruitless) := by
  simp [tries, Attempt.events]

/-- The deadline that the context of the call carried had passed at the reading. -/
def Reading.Late (r : Reading ω) : Prop :=
  ∃ limit, Deadline.inherited? r.scene.invocation r.scene.contexts = some limit ∧ limit ≤ r.now

/-- One connect cycle. -/
structure Cycle (ω : Type) where
  attempts : List (Attempt ω)
  /-- The look-up that found nothing, if the cycle ended so. -/
  fruitless : Option (Lookup ω)
  /-- The reading by which the next cycle was to be stamped, if it had to be. -/
  reading : Option (Reading ω)

namespace Cycle

/-- The events of a cycle. -/
def events (c : Cycle ω) : Record ω :=
  tries c.attempts c.fruitless ++ c.reading.toList.map .read

/-- The instances of the first `k` attempts that could not be reached. -/
def refusedBefore (c : Cycle ω) (k : Nat) : List ServiceInstance :=
  ((c.attempts.take k).filter Attempt.refused).map Attempt.node

/-- The codes that a cycle sends to, in order. -/
def codes (c : Cycle ω) : List String :=
  c.attempts.map fun a => a.node.code

/-- All look-ups of a cycle, in order. -/
def lookups (c : Cycle ω) : List (Lookup ω) :=
  c.attempts.map Attempt.lookup ++ c.fruitless.toList

/-- The cycle ended with a send that timed out or was cancelled. -/
def TimedOut (c : Cycle ω) : Prop :=
  c.fruitless = none ∧ ∃ a, c.attempts.getLast? = some a ∧ a.timedOut = true

/-- No send of the cycle reached an instance, and the budget or the candidates ran out. -/
def Exhausted (budget : Nat) (c : Cycle ω) : Prop :=
  (∀ a ∈ c.attempts, a.refused = true) ∧
    (c.fruitless.isSome = true ∨ c.attempts.length = budget)

end Cycle

/-- The cycles of a call, in order. -/
abbrev Story (ω : Type) := List (Cycle ω)

namespace Story

/-- The record that a story stands for. -/
def events (story : Story ω) : Record ω := story.flatMap Cycle.events

/-- All attempts of a call. -/
def attempts (story : Story ω) : List (Attempt ω) := story.flatMap Cycle.attempts

@[simp] theorem events_nil : events ([] : Story ω) = [] := rfl

theorem events_cons (c : Cycle ω) (rest : Story ω) :
    events (c :: rest) =
      tries c.attempts c.fruitless ++ (c.reading.toList.map .read ++ events rest) := by
  simp [events, Cycle.events]

@[simp] theorem attempts_nil : attempts ([] : Story ω) = [] := rfl

@[simp] theorem attempts_cons (c : Cycle ω) (rest : Story ω) :
    attempts (c :: rest) = c.attempts ++ attempts rest := rfl

@[simp] theorem attempts_append (story more : Story ω) :
    attempts (story ++ more) = attempts story ++ attempts more :=
  List.flatMap_append

end Story

end RemoteCall
