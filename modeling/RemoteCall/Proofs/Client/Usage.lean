/-
How calls use their locator.

* `Surroundings.Uses` — the look-ups and feedbacks of a call go to a locator outside, and
  nothing else that the call does touches its statistics.
* `Surroundings.Uses.used` — what a call records is what its locator goes through.
* `Client.uses_link`, `Client.uses_shared` — the calls of a client use the link of their
  service, or the shared locator.
-/
import RemoteCall.Proofs.Client.Surroundings
import RemoteCall.Proofs.Locator.Accounts

namespace RemoteCall

variable {ω α β W : Type} {s : Surroundings ω} {P : Scene ω → Prop}

/-! ## Recorded surroundings -/

theorem Run.recorded_of_done {piece : Run ω α} (note : Scene ω → α → Scene ω → Record ω)
    {scene : Scene (ω × Record ω)} {value : α} {after : Scene ω}
    (h : piece scene.plain = (.done value, after)) : piece.recorded note scene =
      (.done value, after.noting (scene.outside.2 ++ note scene.plain value after)) := by
  rw [Run.recorded, h]

theorem Run.Keeps.recorded {piece : Run ω α} (note : Scene ω → α → Scene ω → Record ω)
    (h : piece.Keeps P) : (piece.recorded note).Keeps fun scene => P scene.plain := by
  intro scene hscene
  obtain ⟨value, after, hrun, hafter⟩ := h scene.plain hscene
  exact ⟨value, _, recorded_of_done note hrun, hafter⟩

/-- What the surroundings maintain, they maintain with a record beside it. -/
theorem Surroundings.Maintains.recorded (h : s.Maintains P) :
    s.recorded.Maintains fun scene => P scene.plain where
  locate exclusions := (h.locate exclusions).recorded fun before picked _ =>
    [.located ⟨before, exclusions⟩ picked]
  send node request := (h.send node request).recorded fun before answer _ =>
    [.sent before node request answer]
  feedback node outcome elapsed := (h.feedback node outcome elapsed).recorded fun before _ _ =>
    [.heard before node outcome elapsed]
  clock := h.clock.recorded fun _ now after => [.read ⟨after, now⟩]
  stopwatch := h.stopwatch.recorded fun _ _ _ => []

namespace Surroundings

variable [Discovery β] {locator : ω → Option (AnyLocator β)}

/-- The look-ups and feedbacks go to a locator that is outside, and nothing else touches its
statistics. -/
structure Uses (s : Surroundings ω) (locator : ω → Option (AnyLocator β)) : Prop where
  locate : ∀ exclusions scene l, locator scene.outside = some l →
    ∃ after, s.locate exclusions scene =
        (.done (Locator.locate l scene.invocation exclusions).1, after) ∧
      locator after.outside = some (Locator.locate l scene.invocation exclusions).2
  feedback : ∀ node outcome elapsed scene l, locator scene.outside = some l →
    ∃ after, s.feedback node outcome elapsed scene = (.done (), after) ∧
      locator after.outside = some (Locator.feedback l node outcome elapsed)
  send : ∀ node request book,
    (s.send node request).Keeps fun scene => (locator scene.outside).map (·.book) = some book
  clock : ∀ book, s.clock.Keeps fun scene => (locator scene.outside).map (·.book) = some book
  stopwatch : ∀ book,
    s.stopwatch.Keeps fun scene => (locator scene.outside).map (·.book) = some book

namespace Uses

/-- What is noted so far is what the locator went through. -/
def Noted (locator : ω → Option (AnyLocator β)) (l : AnyLocator β) (outside : ω × Record ω) :
    Prop :=
  ∃ m, locator outside.1 = some m ∧ AnyLocator.Used l outside.2 m

/-- A piece that leaves the book alone, and whose note says nothing about the locator. -/
theorem keeps_noted {piece : Run ω α} {note : Scene ω → α → Scene ω → Record ω}
    (h : ∀ book, piece.Keeps fun scene => (locator scene.outside).map (·.book) = some book)
    (silent : ∀ before value after (m : AnyLocator β),
      AnyLocator.Used m (note before value after) m)
    (l : AnyLocator β) :
    (piece.recorded note).Keeps fun scene => Noted locator l scene.outside := by
  rintro scene ⟨m, hm, hused⟩
  obtain ⟨value, after, hrun, hafter⟩ := h m.book scene.plain (by simp [Scene.plain, hm])
  obtain ⟨n, hn, hbook⟩ := Option.map_eq_some_iff.mp hafter
  exact ⟨value, _, Run.recorded_of_done note hrun, n, hn,
    hused.append (.aside hbook (silent _ _ _ n))⟩

theorem maintains_noted (h : s.Uses locator) (l : AnyLocator β) :
    s.recorded.Maintains fun scene => Noted locator l scene.outside where
  locate exclusions := by
    rintro scene ⟨m, hm, hused⟩
    obtain ⟨after, hrun, hafter⟩ := h.locate exclusions scene.plain m hm
    refine ⟨_, _, Run.recorded_of_done (fun before picked _ =>
      [.located ⟨before, exclusions⟩ picked]) hrun, _, hafter, ?_⟩
    exact hused.append (.located ⟨scene.plain, exclusions⟩ (.nothing _))
  feedback node outcome elapsed := by
    rintro scene ⟨m, hm, hused⟩
    obtain ⟨after, hrun, hafter⟩ := h.feedback node outcome elapsed scene.plain m hm
    refine ⟨_, _, Run.recorded_of_done (fun before _ _ =>
      [.heard before node outcome elapsed]) hrun, _, hafter, ?_⟩
    exact hused.append (.heard scene.plain node outcome elapsed (.nothing _))
  send node request := keeps_noted (h.send node request)
    (fun before answer _ m => .sent before node request answer (.nothing m)) l
  clock := keeps_noted h.clock (fun _ now after m => .read ⟨after, now⟩ (.nothing m)) l
  stopwatch := keeps_noted h.stopwatch (fun _ _ _ m => .nothing m) l

/-- **A call is what its locator goes through**, in the order of its record. -/
theorem used (h : s.Uses locator) (hs : s.Orderly) {scene : Scene ω} {l : AnyLocator β}
    (hl : locator scene.outside = some l) :
    ∃ outcome after m, s.failover scene = (.done outcome, after) ∧
      locator after.outside = some m ∧ AnyLocator.Used l (s.record scene) m := by
  obtain ⟨outcome, after, -, hlogs⟩ :=
    failover_recorded (hs.invariant scene.invocation) (show scene.invocation.asMade = _ from rfl)
  have horderly : s.recorded.Orderly := fun call => (hs call).recorded
  have hP := (horderly.invariant scene.invocation).and_outside (h.maintains_noted l)
  have hstart : (scene.noting []).invocation.asMade = scene.invocation.asMade ∧
      Noted locator l (scene.noting []).outside := ⟨rfl, l, hl, .nothing l⟩
  obtain ⟨_, noted, ⟨-, m, hm, hused⟩, hrun⟩ := failover_recorded hP hstart
  have hnoted := hrun.plain
  rw [hlogs.noted] at hnoted
  cases hnoted
  exact ⟨outcome, after, m, hlogs.plain, hm, hused⟩

end Uses

end Surroundings

/-! ## Clients -/

/-- The link at a place of a network. -/
def Network.linkAt {L : Type} (β : Type) (place : Nat) (network : Network L W) :
    Option (AnyLocator β) :=
  (network.links[place]?).map .inl

/-- The registry locator that a network shares. -/
def Network.registry (network : Network (RegistryLocator β) W) : Option (AnyLocator β) :=
  network.shared.map .inr

namespace Client

/-- A look-up asks the network and leaves everything else as it is. -/
theorem locate_eq {L : Type} [Locator L] (c : Client L W) (link : Option Nat)
    (exclusions : List ServiceInstance) (scene : Scene (Network L W))
    (picked : Option ServiceInstance)
    (h : (scene.outside.locate link scene.invocation exclusions).1 = picked) :
    (c.surroundings link).locate exclusions scene = (.done picked, { scene with
      outside := (scene.outside.locate link scene.invocation exclusions).2 }) := by
  rw [← h]
  rfl

variable [Discovery β]

/-- Calls of a service with direct addresses use its link, if the connector and the clocks leave
its statistics alone. -/
theorem uses_link {L : Type} [Locator L] {c : Client L W} {place : Nat}
    (hsend : ∀ node request book, (c.connector node request).Keeps fun scene =>
      (scene.outside.linkAt β place).map (·.book) = some book)
    (hclock : ∀ book, c.clock.Keeps fun scene =>
      (scene.outside.linkAt β place).map (·.book) = some book)
    (hstopwatch : ∀ book, c.stopwatch.Keeps fun scene =>
      (scene.outside.linkAt β place).map (·.book) = some book) :
    (c.surroundings (some place)).Uses (Network.linkAt β place) where
  locate exclusions scene l hl := by
    obtain ⟨direct, hdirect, rfl⟩ := Option.map_eq_some_iff.mp hl
    obtain ⟨hplace, -⟩ := List.getElem?_eq_some_iff.mp hdirect
    refine ⟨_, locate_eq c _ exclusions scene _ ?_, ?_⟩
    · rw [Network.locate_link, hdirect]
      rfl
    · simp only [Network.locate, hdirect, Network.linkAt, List.getElem?_set_self hplace]
      rfl
  feedback node outcome elapsed scene l hl := by
    obtain ⟨direct, hdirect, rfl⟩ := Option.map_eq_some_iff.mp hl
    refine ⟨_, rfl, ?_⟩
    simp only [Network.feedback, Network.linkAt, List.getElem?_modify_eq, hdirect]
    rfl
  send := hsend
  clock := hclock
  stopwatch := hstopwatch

/-- Calls of a service without direct addresses use the shared locator, if the connector and the
clocks leave its statistics alone. -/
theorem uses_shared {c : Client (RegistryLocator β) W}
    (hsend : ∀ node request book, (c.connector node request).Keeps fun scene =>
      scene.outside.registry.map (·.book) = some book)
    (hclock : ∀ book, c.clock.Keeps fun scene =>
      scene.outside.registry.map (·.book) = some book)
    (hstopwatch : ∀ book, c.stopwatch.Keeps fun scene =>
      scene.outside.registry.map (·.book) = some book) :
    (c.surroundings none).Uses Network.registry where
  locate exclusions scene l hl := by
    obtain ⟨registry, hregistry, rfl⟩ := Option.map_eq_some_iff.mp hl
    refine ⟨_, locate_eq c _ exclusions scene _ ?_, ?_⟩
    · rw [Network.locate_shared, hregistry]
      rfl
    · simp only [Network.locate, hregistry, Network.registry]
      rfl
  feedback node outcome elapsed scene l hl := by
    obtain ⟨registry, hregistry, rfl⟩ := Option.map_eq_some_iff.mp hl
    refine ⟨_, rfl, ?_⟩
    simp only [Network.feedback, hregistry, Network.registry]
    rfl
  send := hsend
  clock := hclock
  stopwatch := hstopwatch

end Client

/-- Calls with scripted sends use the link of their service. -/
theorem Script.uses_link (β : Type) [Discovery β] {L : Type} [Locator L]
    (network : Network L Script) (place : Nat) :
    ((client network).surroundings (some place)).Uses (Network.linkAt β place) :=
  Client.uses_link (fun node request _ => connector_keeps node request fun _ _ h => h)
    (fun _ scene h => ⟨0, scene, rfl, h⟩) fun _ scene h => ⟨0, scene, rfl, h⟩

end RemoteCall
