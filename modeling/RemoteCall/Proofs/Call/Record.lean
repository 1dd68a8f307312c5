/-
Records of calls: what a call did to its surroundings, as data.

`Surroundings.recorded` puts a record beside the outside. Every look-up, every
send, every feedback and every reading of the wall clock is noted there with the
scene in which it happened. A call in recorded surroundings is the same program as
one in the plain ones, so the record is evidence about the program and not a second
description of it.

* `Run.Logs` — a piece of a call and its recorded form end alike: with the same
  value, in the same scene, and the record grows by the given events.
* `Run.Logs.bind` — the events of two pieces, one after the other, are appended.
  `quietly` and `noting` are the cases in which the first of them is one step.
-/
import RemoteCall.Call.Failover

namespace RemoteCall

variable {ω α β γ : Type}

/-! ## Events -/

/-- What a look-up goes by: the scene before it, and what is left out. -/
structure Lookup (ω : Type) where
  scene : Scene ω
  exclusions : List ServiceInstance

/-- A reading of the wall clock: the scene after it, and what the clock said. -/
structure Reading (ω : Type) where
  scene : Scene ω
  now : Nat

/-- Something that a call did to its surroundings. -/
inductive Event (ω : Type) where
  | located (lookup : Lookup ω) (picked : Option ServiceInstance)
  /-- A send, with the scene before it. -/
  | sent (scene : Scene ω) (node : ServiceInstance) (request : Request)
      (answer : Except TransportError Response)
  /-- A feedback, with the scene before it. -/
  | heard (scene : Scene ω) (node : ServiceInstance) (outcome : Outcome) (elapsed : Elapsed)
  | read (reading : Reading ω)

/-- The scene that an event was noted in. -/
def Event.scene : Event ω → Scene ω
  | .located lookup _ => lookup.scene
  | .sent scene _ _ _ => scene
  | .heard scene _ _ _ => scene
  | .read reading => reading.scene

/-- What a call has done so far, in order. -/
abbrev Record (ω : Type) := List (Event ω)

/-- The scene without what is noted beside it. -/
def Scene.plain (scene : Scene (ω × Record ω)) : Scene ω :=
  { invocation := scene.invocation, contexts := scene.contexts, outside := scene.outside.1 }

/-- The scene with a record beside it. -/
def Scene.noting (scene : Scene ω) (record : Record ω) : Scene (ω × Record ω) :=
  { invocation := scene.invocation, contexts := scene.contexts,
    outside := (scene.outside, record) }

/-- Notes what a piece did once it has ended. -/
def Run.recorded (piece : Run ω α) (note : Scene ω → α → Scene ω → Record ω) :
    Run (ω × Record ω) α := fun scene =>
  match piece scene.plain with
  | (.done value, after) =>
    (.done value, after.noting (scene.outside.2 ++ note scene.plain value after))
  | (.panicked, after) => (.panicked, after.noting scene.outside.2)
  | (.stalled, after) => (.stalled, after.noting scene.outside.2)

namespace Surroundings

/-- The same surroundings with a record of how they are used. -/
def recorded (s : Surroundings ω) : Surroundings (ω × Record ω) where
  plugins := s.plugins
  locate exclusions :=
    (s.locate exclusions).recorded fun before picked _ =>
      [.located ⟨before, exclusions⟩ picked]
  send node request :=
    (s.send node request).recorded fun before answer _ => [.sent before node request answer]
  feedback node outcome elapsed :=
    (s.feedback node outcome elapsed).recorded fun before _ _ =>
      [.heard before node outcome elapsed]
  clock := s.clock.recorded fun _ now after => [.read ⟨after, now⟩]
  stopwatch := s.stopwatch.recorded fun _ _ _ => []

/-- What a call that starts in a scene does. -/
def record (s : Surroundings ω) (scene : Scene ω) : Record ω :=
  (s.recorded.failover (scene.noting [])).2.outside.2

end Surroundings

/-! ## A piece and its recorded form -/

namespace Run

theorem bind_of_done {piece : Run ω α} {next : α → Run ω β} {scene middle : Scene ω} {value : α}
    (h : piece scene = (.done value, middle)) : (piece >>= next) scene = next value middle := by
  show Run.bind piece next scene = next value middle
  simp [Run.bind, h]

/-- From `scene` the piece and its recorded form end with the same value in the same scene,
whatever the record is, and the record grows by `events`. -/
structure Logs (piece : Run ω α) (recorded : Run (ω × Record ω) α) (scene : Scene ω)
    (value : α) (events : Record ω) (after : Scene ω) : Prop where
  plain : piece scene = (.done value, after)
  noted : ∀ record, recorded (scene.noting record) = (.done value, after.noting (record ++ events))

namespace Logs

theorem pure (value : α) (scene : Scene ω) :
    Logs (Pure.pure value) (Pure.pure value) scene value [] scene := by
  refine ⟨rfl, fun record => ?_⟩
  rw [List.append_nil]
  rfl

/-- One piece after the other: the record grows by the events of both. -/
theorem bind {first : Run ω α} {first' : Run (ω × Record ω) α} {next : α → Run ω β}
    {next' : α → Run (ω × Record ω) β} {scene middle after : Scene ω} {value : α} {result : β}
    {events more : Record ω} (h : Logs first first' scene value events middle)
    (hn : Logs (next value) (next' value) middle result more after) :
    Logs (first >>= next) (first' >>= next') scene result (events ++ more) after := by
  refine ⟨?_, fun record => ?_⟩
  · rw [bind_of_done h.plain]
    exact hn.plain
  · rw [bind_of_done (h.noted record), hn.noted, List.append_assoc]

theorem invocation (scene : Scene ω) :
    Logs Run.invocation Run.invocation scene scene.invocation [] scene := by
  refine ⟨rfl, fun record => ?_⟩
  rw [List.append_nil]
  rfl

theorem changeInvocation (change : Invocation → Invocation) (scene : Scene ω) :
    Logs (Run.changeInvocation change) (Run.changeInvocation change) scene ()
      [] { scene with invocation := change scene.invocation } := by
  refine ⟨rfl, fun record => ?_⟩
  rw [List.append_nil]
  rfl

/-- Nothing is noted of the first piece. -/
theorem quietly {first : Run ω α} {first' : Run (ω × Record ω) α} {next : α → Run ω β}
    {next' : α → Run (ω × Record ω) β} {scene middle after : Scene ω} {value : α} {result : β}
    {events : Record ω} (h : Logs first first' scene value [] middle)
    (hn : Logs (next value) (next' value) middle result events after) :
    Logs (first >>= next) (first' >>= next') scene result events after :=
  bind h hn

/-- One event is noted of the first piece. -/
theorem noting {first : Run ω α} {first' : Run (ω × Record ω) α} {next : α → Run ω β}
    {next' : α → Run (ω × Record ω) β} {scene middle after : Scene ω} {value : α} {result : β}
    {event : Event ω} {events : Record ω} (h : Logs first first' scene value [event] middle)
    (hn : Logs (next value) (next' value) middle result events after) :
    Logs (first >>= next) (first' >>= next') scene result (event :: events) after :=
  bind h hn

/-- A piece that looks at the scene sees the same one in both runs, but for the record. -/
theorem scene {next : Scene ω → Run ω β} {next' : Scene (ω × Record ω) → Run (ω × Record ω) β}
    {scene after : Scene ω} {result : β} {events : Record ω}
    (h : ∀ record, Logs (next scene) (next' (scene.noting record)) scene result events after) :
    Logs (Run.scene >>= next) (Run.scene >>= next') scene result events after :=
  ⟨(h []).plain, fun record => (h record).noted record⟩

/-! ### The surroundings and their recorded form -/

/-- A use of the surroundings and its recorded form. -/
theorem of_done {piece : Run ω α} {scene after : Scene ω} {value : α}
    (note : Scene ω → α → Scene ω → Record ω) (h : piece scene = (.done value, after)) :
    Logs piece (piece.recorded note) scene value (note scene value after) after := by
  refine ⟨h, fun record => ?_⟩
  have hp : (scene.noting record).plain = scene := rfl
  simp only [Run.recorded, hp, h]
  rfl

variable {s : Surroundings ω} {before after : Scene ω}

theorem locate {exclusions : List ServiceInstance} {picked : Option ServiceInstance}
    (h : s.locate exclusions before = (.done picked, after)) :
    Logs (s.locate exclusions) (s.recorded.locate exclusions) before picked
      [.located ⟨before, exclusions⟩ picked] after :=
  of_done (fun before picked _ => [.located ⟨before, exclusions⟩ picked]) h

theorem send {node : ServiceInstance} {request : Request}
    {answer : Except TransportError Response}
    (h : s.send node request before = (.done answer, after)) :
    Logs (s.send node request) (s.recorded.send node request) before answer
      [.sent before node request answer] after :=
  of_done (fun before answer _ => [.sent before node request answer]) h

theorem feedback {node : ServiceInstance} {outcome : Outcome} {elapsed : Elapsed} {u : Unit}
    (h : s.feedback node outcome elapsed before = (.done u, after)) :
    Logs (s.feedback node outcome elapsed) (s.recorded.feedback node outcome elapsed) before u
      [.heard before node outcome elapsed] after :=
  of_done (fun before _ _ => [.heard before node outcome elapsed]) h

theorem clock {now : Nat} (h : s.clock before = (.done now, after)) :
    Logs s.clock s.recorded.clock before now [.read ⟨after, now⟩] after :=
  of_done (fun _ now after => [.read ⟨after, now⟩]) h

theorem stopwatch {nanos : Nat} (h : s.stopwatch before = (.done nanos, after)) :
    Logs s.stopwatch s.recorded.stopwatch before nanos [] after :=
  of_done (fun _ _ _ => []) h

end Logs

end Run

end RemoteCall
