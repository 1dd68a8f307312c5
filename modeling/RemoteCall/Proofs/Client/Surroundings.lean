/-
What the surroundings of a client's calls live up to.

* `Surroundings.LocatesThrough` — look-ups ask a locator, in whatever state it is.
* `Client.surroundings_orderly` — a client whose connector and clocks answer gives
  orderly surroundings to its calls, and discreet ones (`Client.surroundings_discreet`)
  if these leave the attributes of a call alone.
* `Client.surroundings_keep_instances` — nothing that a call does to a direct link
  changes the list of its instances.

`Script` is a connector that hands out answers from a list, and a client with it: the
surroundings in which single calls are run.
-/
import RemoteCall.Client.Invoke
import RemoteCall.Proofs.Call.Course
import RemoteCall.Proofs.Locator.Selection

namespace RemoteCall

variable {ω α β L M W : Type}

/-! ## Pieces that keep a property -/

namespace Run

variable {P : Scene ω → Prop}

theorem Keeps.bind {first : Run ω α} {next : α → Run ω β} (h : first.Keeps P)
    (hn : ∀ value, (next value).Keeps P) : (first >>= next).Keeps P := by
  intro scene hscene
  obtain ⟨value, middle, hfirst, hmiddle⟩ := h scene hscene
  obtain ⟨result, after, hnext, hafter⟩ := hn value middle hmiddle
  exact ⟨result, after, by rw [bind_of_done hfirst, hnext], hafter⟩

theorem Keeps.and {Q : Scene ω → Prop} {piece : Run ω α} (hp : piece.Keeps P)
    (hq : piece.Keeps Q) : piece.Keeps fun scene => P scene ∧ Q scene := by
  intro scene ⟨hP, hQ⟩
  obtain ⟨value, after, hrun, hafter⟩ := hp scene hP
  obtain ⟨_, _, hrun', hafter'⟩ := hq scene hQ
  rw [hrun] at hrun'
  cases hrun'
  exact ⟨value, after, hrun, hafter, hafter'⟩

theorem keeps_invocation : (Run.invocation : Run ω Invocation).Keeps P :=
  fun scene h => ⟨scene.invocation, scene, rfl, h⟩

theorem keeps_outside {act : ω → α × ω}
    (h : ∀ scene, P scene → P { scene with outside := (act scene.outside).2 }) :
    (Run.outside act).Keeps P :=
  fun scene hscene => ⟨(act scene.outside).1, _, rfl, h scene hscene⟩

end Run

/-- Two properties that the surroundings maintain are maintained together. -/
theorem Surroundings.Maintains.and {s : Surroundings ω} {P Q : Scene ω → Prop}
    (hP : s.Maintains P) (hQ : s.Maintains Q) : s.Maintains fun scene => P scene ∧ Q scene where
  locate exclusions := (hP.locate exclusions).and (hQ.locate exclusions)
  send node request := (hP.send node request).and (hQ.send node request)
  feedback node outcome elapsed :=
    (hP.feedback node outcome elapsed).and (hQ.feedback node outcome elapsed)
  clock := hP.clock.and hQ.clock
  stopwatch := hP.stopwatch.and hQ.stopwatch

/-- What only the outside has a say in can be carried along with the call. -/
theorem Surroundings.Invariant.and_outside {s : Surroundings ω} {call : Invocation}
    {P : Scene ω → Prop} {Q : ω → Prop} (hP : s.Invariant call P)
    (hQ : s.Maintains fun scene => Q scene.outside) :
    s.Invariant call fun scene => P scene ∧ Q scene.outside where
  toMaintains := hP.toMaintains.and hQ
  asMade scene h := hP.asMade scene h.1
  relabel scene invocation h hi := ⟨hP.relabel scene invocation h.1 hi, h.2⟩

/-! ## Look-ups -/

namespace Surroundings

/-- Every look-up asks the locator that is outside, in the state in which it is by then.
Between two look-ups it may change in any way. -/
def LocatesThrough [Locator L] (s : Surroundings ω) (locator : ω → Option L) : Prop :=
  ∀ exclusions scene, (s.locate exclusions scene).1 =
    .done ((locator scene.outside).bind fun l =>
      (Locator.locate l scene.invocation exclusions).1)

variable {s : Surroundings ω} [Locator L] [Locator M]

theorem LocatesThrough.inl {locator : ω → Option L} (h : s.LocatesThrough locator) :
    s.LocatesThrough fun outside => (locator outside).map (Sum.inl : L → L ⊕ M) := by
  intro exclusions scene
  simp only [h exclusions scene, Option.bind_map]
  rfl

theorem LocatesThrough.inr {locator : ω → Option M} (h : s.LocatesThrough locator) :
    s.LocatesThrough fun outside => (locator outside).map (Sum.inr : M → L ⊕ M) := by
  intro exclusions scene
  simp only [h exclusions scene, Option.bind_map]
  rfl

end Surroundings

/-! ## Networks -/

namespace Network

variable [Locator L] (network : Network L W) (invocation : Invocation)
  (exclusions : List ServiceInstance)

theorem locate_shared : (network.locate none invocation exclusions).1 =
    network.shared.bind fun l => (Locator.locate l invocation exclusions).1 := by
  cases h : network.shared <;> simp [locate, h]

theorem locate_link (place : Nat) : (network.locate (some place) invocation exclusions).1 =
    (network.links[place]?).bind fun l => (Locator.locate l invocation exclusions).1 := by
  cases h : network.links[place]? <;> simp [locate, h]

/-- A look-up moves the balancer of a direct link, never its instances. -/
theorem instances_locate (place : Nat) :
    ((network.locate (some place) invocation exclusions).2.links[place]?).map (·.instances) =
      (network.links[place]?).map (·.instances) := by
  unfold locate
  cases h : network.links[place]? with
  | none => simp [h]
  | some direct =>
    obtain ⟨hplace, hdirect⟩ := List.getElem?_eq_some_iff.mp h
    simp [hplace, hdirect, Locator.locate, DirectLocator.locate]

/-- A feedback moves the statistics of a direct link, never its instances. -/
theorem instances_feedback (place : Nat) (node : ServiceInstance) (outcome : Outcome)
    (elapsed : Elapsed) :
    ((network.feedback (some place) node outcome elapsed).links[place]?).map (·.instances) =
      (network.links[place]?).map (·.instances) := by
  simp only [feedback, List.getElem?_modify_eq]
  cases network.links[place]? <;> rfl

end Network

/-! ## Clients -/

namespace Client

variable [Locator L] {c : Client L W} {link : Option Nat}

/-- The look-ups of a service without direct addresses ask the shared locator. -/
theorem surroundings_shared (c : Client L W) :
    (c.surroundings none).LocatesThrough Network.shared := fun exclusions scene =>
  congrArg Ending.done (scene.outside.locate_shared scene.invocation exclusions)

/-- The look-ups of a service with direct addresses ask its link. -/
theorem surroundings_link (c : Client L W) (place : Nat) :
    (c.surroundings (some place)).LocatesThrough fun network => network.links[place]? :=
  fun exclusions scene =>
    congrArg Ending.done (scene.outside.locate_link scene.invocation exclusions place)

/-- A property survives a client's calls if its connector, its clocks and its locators keep it. -/
theorem surroundings_maintains {P : Scene (Network L W) → Prop}
    (hsend : ∀ node request, (c.connector node request).Keeps P) (hclock : c.clock.Keeps P)
    (hstopwatch : c.stopwatch.Keeps P)
    (hlocate : ∀ scene invocation exclusions, P scene →
      P { scene with outside := (scene.outside.locate link invocation exclusions).2 })
    (hfeedback : ∀ scene node outcome elapsed, P scene →
      P { scene with outside := scene.outside.feedback link node outcome elapsed }) :
    (c.surroundings link).Maintains P := by
  refine ⟨fun exclusions => ?_, hsend, fun node outcome elapsed => ?_, hclock, hstopwatch⟩
  · exact Run.keeps_invocation.bind fun invocation =>
      Run.keeps_outside fun scene => hlocate scene invocation exclusions
  · exact fun scene h => ⟨(), _, rfl, hfeedback scene node outcome elapsed h⟩

/-- **Orderly surroundings.** The locators of a client always answer, so its calls have orderly
surroundings if its connector and its clocks answer and leave the call as it was made. -/
theorem surroundings_orderly
    (hsend : ∀ call node request,
      (c.connector node request).Keeps fun scene => scene.invocation.asMade = call)
    (hclock : ∀ call, c.clock.Keeps fun scene => scene.invocation.asMade = call)
    (hstopwatch : ∀ call, c.stopwatch.Keeps fun scene => scene.invocation.asMade = call) :
    (c.surroundings link).Orderly := fun call =>
  surroundings_maintains (hsend call) (hclock call) (hstopwatch call) (fun _ _ _ h => h)
    fun _ _ _ _ h => h

/-- The locators of a client leave the attributes of a call alone, so its calls have discreet
surroundings if its connector and its clocks do so, too. -/
theorem surroundings_discreet
    (hsend : ∀ call attributes node request, (c.connector node request).Keeps fun scene =>
      scene.invocation.asMade = call ∧ scene.invocation.attributes = attributes)
    (hclock : ∀ call attributes, c.clock.Keeps fun scene =>
      scene.invocation.asMade = call ∧ scene.invocation.attributes = attributes)
    (hstopwatch : ∀ call attributes, c.stopwatch.Keeps fun scene =>
      scene.invocation.asMade = call ∧ scene.invocation.attributes = attributes) :
    (c.surroundings link).Discreet := fun call attributes =>
  surroundings_maintains (hsend call attributes) (hclock call attributes)
    (hstopwatch call attributes) (fun _ _ _ h => h) fun _ _ _ _ h => h

/-- **Links are fixed.** Calls through a direct link never change the list of its instances. -/
theorem surroundings_keep_instances {place : Nat} {instances : List ServiceInstance}
    (hsend : ∀ node request, (c.connector node request).Keeps fun scene =>
      (scene.outside.links[place]?).map (·.instances) = some instances)
    (hclock : c.clock.Keeps fun scene =>
      (scene.outside.links[place]?).map (·.instances) = some instances)
    (hstopwatch : c.stopwatch.Keeps fun scene =>
      (scene.outside.links[place]?).map (·.instances) = some instances) :
    (c.surroundings (some place)).Maintains fun scene =>
      (scene.outside.links[place]?).map (·.instances) = some instances := by
  refine surroundings_maintains hsend hclock hstopwatch ?_ ?_
  · intro scene invocation exclusions h
    exact (scene.outside.instances_locate invocation exclusions place).trans h
  · intro scene node outcome elapsed h
    exact (scene.outside.instances_feedback place node outcome elapsed).trans h

end Client

/-! ## Scripted sends -/

/-- What the sends of a client are going to come to, in order. -/
abbrev Script := List (Except TransportError Response)

namespace Script

/-- Answers every send by the script, whoever it goes to. Past the end of the script no
instance can be reached. -/
def connector : Connector (Network L Script) := fun _ _ =>
  Run.world fun
    | [] => (.error (.connect "the script is over"), [])
    | answer :: rest => (answer, rest)

/-- A client whose sends go by a script and whose clocks stand still. -/
def client (network : Network L Script) : Client L Script where
  config := {}
  references := ∅
  plugins := .builtIn
  connector := connector
  interceptors := []
  clock := pure 0
  stopwatch := pure 0
  closed := false
  network := network

/-- Two instances of the service `greeter`. -/
def greeters : List ServiceInstance :=
  [.ofHostPort "greeter" "left" 80, .ofHostPort "greeter" "right" 80]

/-- A network with a direct link to the greeters, and sends that go by a script. -/
def linked (script : Script) : Network (RegistryLocator MemoryDiscovery) Script where
  shared := none
  links := [{ instances := greeters }]
  world := script

/-- A network with a registry that knows the greeters, and sends that go by a script. -/
def registered (script : Script) : Network (RegistryLocator MemoryDiscovery) Script where
  shared := some { backend := greeters.foldl MemoryDiscovery.register ∅ }
  links := []
  world := script

/-- A call of the method `greet` with two budgets, in a scene without contexts. -/
def greeting (connectRetry timeoutRetry : UInt32) (network : Network L Script) :
    Scene (Network L Script) :=
  let codec := CodecOptions.plain .json
  let service : Service :=
    { name := "greeter", client := {}, reference := {}, codec := codec,
      connectRetry := connectRetry, timeoutRetry := timeoutRetry, methods := ∅ }
  let method : MethodConfig :=
    { name := "greet", param := none, returns := .value, async := false, timeoutMillis := 3000,
      timeoutRetry := timeoutRetry, connectRetry := connectRetry, codec := codec }
  { invocation := .ofMethod service method none none, contexts := {}, outside := network }

/-- A scripted send changes nothing but what is left of the script. -/
theorem connector_keeps {P : Scene (Network L Script) → Prop} (node : ServiceInstance)
    (request : Request)
    (h : ∀ scene rest, P scene →
      P { scene with outside := { scene.outside with world := rest } }) :
    (connector node request).Keeps P := by
  intro scene hscene
  exact ⟨_, _, rfl, h scene _ hscene⟩

variable [Locator L]

theorem orderly (network : Network L Script) (link : Option Nat) :
    ((client network).surroundings link).Orderly :=
  Client.surroundings_orderly
    (fun _ node request => connector_keeps node request fun _ _ h => h)
    (fun _ scene h => ⟨0, scene, rfl, h⟩) (fun _ scene h => ⟨0, scene, rfl, h⟩)

theorem discreet (network : Network L Script) (link : Option Nat) :
    ((client network).surroundings link).Discreet :=
  Client.surroundings_discreet
    (fun _ _ node request => connector_keeps node request fun _ _ h => h)
    (fun _ _ scene h => ⟨0, scene, rfl, h⟩) (fun _ _ scene h => ⟨0, scene, rfl, h⟩)

theorem keeps_instances (network : Network L Script) (place : Nat)
    (instances : List ServiceInstance) :
    ((client network).surroundings (some place)).Maintains fun scene =>
      (scene.outside.links[place]?).map (·.instances) = some instances :=
  Client.surroundings_keep_instances
    (fun node request => connector_keeps node request fun _ _ h => h)
    (fun scene h => ⟨0, scene, rfl, h⟩) (fun scene h => ⟨0, scene, rfl, h⟩)

end Script

end RemoteCall
