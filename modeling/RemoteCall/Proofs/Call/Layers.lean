/-
How a chain wraps its terminal handler.

An interceptor may do anything with the rest of its chain: run it once, several times or not at
all, on an invocation that it has changed, and answer something else. What holds of every chain is
how its layers lie.

* `Chain.nested_iff` — they lie one in the other, the first interceptor outermost.
* `Chain.buildChain_append` — a chain of two parts is the first part around the second one.
* `Chain.Adds.chain` — marks on the way in stand in order, and those on the way out in reverse.
* `Chain.Hands.short_circuit` — behind an interceptor that answers by itself, nothing matters.
* `Chain.first_interceptor_is_outermost` — all of this, for every terminal handler and every list.
-/
import Mathlib.Data.List.Forall2
import RemoteCall.Call.Run

namespace RemoteCall.Chain

variable {ω : Type}

/-! ## Layers -/

/-- A terminal handler inside of interceptors, each of which has those behind it for its rest. -/
inductive Nested (terminal : Handler ω) : List (Interceptor ω) → Handler ω → Prop where
  | bare : Nested terminal [] terminal
  | layer {interceptors : List (Interceptor ω)} {rest : Handler ω} (i : Interceptor ω)
      (inner : Nested terminal interceptors rest) : Nested terminal (i :: interceptors) (i rest)

variable {terminal handler : Handler ω} {interceptors : List (Interceptor ω)}

theorem nested_iff : Nested terminal interceptors handler ↔
    handler = buildChain terminal interceptors := by
  constructor
  · intro h
    induction h with
    | bare => rfl
    | layer i inner ih =>
      subst ih
      rfl
  · rintro rfl
    induction interceptors with
    | nil => exact .bare
    | cons i interceptors ih => exact .layer i ih

/-- The layers can be put around the terminal handler one at a time, from the last one on. -/
theorem buildChain_eq_foldl (terminal : Handler ω) (interceptors : List (Interceptor ω)) :
    buildChain terminal interceptors =
      interceptors.reverse.foldl (fun inner interceptor => interceptor inner) terminal :=
  List.foldl_reverse.symm

theorem buildChain_append (terminal : Handler ω) (first second : List (Interceptor ω)) :
    buildChain terminal (first ++ second) = buildChain (buildChain terminal second) first :=
  List.foldr_append

/-! ## Marks -/

/-- What is left behind on the way through a chain. -/
inductive Mark where
  | entered (name : String)
  | handled
  | left (name : String)
deriving DecidableEq, Repr

variable {trace : Scene ω → List Mark} {names : List String} {marks : List Mark}

/-- The handler completes every call, and leaves these marks. -/
def Adds (trace : Scene ω → List Mark) (marks : List Mark) (handler : Handler ω) : Prop :=
  ∀ scene, ∃ outcome after, handler scene = (.done outcome, after) ∧
    trace after = trace scene ++ marks

/-- The interceptor runs its rest exactly once, between a mark at the entry and one at the exit.
Apart from the marks, it may change the scene on both ways as it likes, and the outcome, too. -/
def Brackets (trace : Scene ω → List Mark) (name : String) (i : Interceptor ω) : Prop :=
  ∃ (enter : Scene ω → Scene ω) (leave : Scene ω → Outcome → Scene ω → Outcome × Scene ω),
    (∀ scene, trace (enter scene) = trace scene ++ [.entered name]) ∧
    (∀ scene outcome after, trace (leave scene outcome after).2 = trace after ++ [.left name]) ∧
    ∀ rest scene outcome after, rest (enter scene) = (.done outcome, after) →
      i rest scene = (.done (leave scene outcome after).1, (leave scene outcome after).2)

theorem Brackets.adds {name : String} {i : Interceptor ω} (h : Brackets trace name i)
    (inner : Adds trace marks handler) :
    Adds trace (.entered name :: marks ++ [.left name]) (i handler) := by
  obtain ⟨enter, leave, hentered, hleft, hruns⟩ := h
  intro scene
  obtain ⟨outcome, after, hinner, hmarks⟩ := inner (enter scene)
  refine ⟨_, _, hruns handler scene outcome after hinner, ?_⟩
  rw [hleft, hmarks, hentered]
  simp

/-- **The marks of a chain**: the entries in the order of the interceptors, then the marks from
inside, then the exits in the reverse order. -/
theorem Adds.chain (h : List.Forall₂ (Brackets trace) names interceptors)
    (inner : Adds trace marks terminal) :
    Adds trace (names.map .entered ++ marks ++ names.reverse.map .left)
      (buildChain terminal interceptors) := by
  induction h with
  | nil => simpa [buildChain] using inner
  | cons hfirst _ ih => simpa [buildChain] using hfirst.adds ih

/-! ## Short circuits -/

/-- When it gets this scene, the interceptor runs its rest on such scenes only, if at all. So a rest
that does the same on them makes no difference. Every interceptor hands on scenes that satisfy
`True`. -/
def Hands (i : Interceptor ω) (P : Scene ω → Prop) (scene : Scene ω) : Prop :=
  ∀ rest other : Handler ω, (∀ s, P s → rest s = other s) → i rest scene = i other scene

/-- When it gets this scene, the interceptor does not run its rest. -/
def Answers (i : Interceptor ω) (scene : Scene ω) : Prop :=
  Hands i (fun _ => False) scene

variable {P Q : Scene ω → Prop} {scene : Scene ω} {i j : Interceptor ω}

/-- Of two interceptors, the inner one gets what the outer one hands on. -/
theorem Hands.comp (outer : Hands i P scene) (inner : ∀ s, P s → Hands j Q s) :
    Hands (fun rest => i (j rest)) Q scene :=
  fun rest other h => outer (j rest) (j other) fun s hs => inner s hs rest other h

/-- **Behind an interceptor that answers by itself, nothing matters**: neither the terminal handler
nor any interceptor there. -/
theorem Hands.short_circuit {before : List (Interceptor ω)}
    (outer : Hands (buildChain · before) P scene) (answers : ∀ s, P s → Answers i s)
    (terminal other : Handler ω) (behind changed : List (Interceptor ω)) :
    buildChain terminal (before ++ i :: behind) scene =
      buildChain other (before ++ i :: changed) scene := by
  rw [buildChain_append, buildChain_append]
  exact (outer.comp answers) (buildChain terminal behind)
    (buildChain other changed) fun _ h => h.elim

/-- **The first interceptor is the outermost.** For every terminal handler and every list of
interceptors, whatever they do:

* the chain is the nested application, built up from the last interceptor on;
* the chain of two lists is the chain of the first one around that of the second one;
* if every interceptor marks its entry and its exit and runs its rest exactly once, then the marks
  are the entries in the order of the list, the marks of the terminal handler, and the exits in the
  reverse order;
* if an interceptor does not run its rest on the scenes that the ones before it hand on, then
  neither the terminal handler nor the interceptors behind it have a say in how the call ends and
  in what becomes of the invocation, the contexts and the outside. -/
theorem first_interceptor_is_outermost (terminal : Handler ω)
    (interceptors : List (Interceptor ω)) :
    (∀ handler, Nested terminal interceptors handler ↔ handler = buildChain terminal interceptors) ∧
    buildChain terminal interceptors =
      interceptors.reverse.foldl (fun inner interceptor => interceptor inner) terminal ∧
    (∀ second, buildChain terminal (interceptors ++ second) =
      buildChain (buildChain terminal second) interceptors) ∧
    (∀ trace names marks, List.Forall₂ (Brackets trace) names interceptors →
      Adds trace marks terminal →
        Adds trace (names.map .entered ++ marks ++ names.reverse.map .left)
          (buildChain terminal interceptors)) ∧
    ∀ before i behind, interceptors = before ++ i :: behind → ∀ scene P,
      Hands (buildChain · before) P scene → (∀ s, P s → Answers i s) → ∀ other changed,
        buildChain terminal interceptors scene =
          buildChain other (before ++ i :: changed) scene := by
  refine ⟨fun _ => nested_iff, buildChain_eq_foldl _ _, fun _ => buildChain_append _ _ _,
    fun trace names marks h inner => inner.chain h, ?_⟩
  rintro before i behind rfl scene P outer answers other changed
  exact outer.short_circuit answers terminal other behind changed

/-! ## Recorders around a handler -/

/-- Leaves a mark outside of the call. -/
def note (mark : Mark) : Run (List Mark) Unit :=
  Run.changeOutside (· ++ [mark])

/-- Records when it is entered and when it is left. -/
def recorder (name : String) : Interceptor (List Mark) := fun rest => do
  note (.entered name)
  let outcome ← rest
  note (.left name)
  return outcome

theorem recorder_brackets (name : String) : Brackets Scene.outside name (recorder name) := by
  refine ⟨fun scene => { scene with outside := scene.outside ++ [.entered name] },
    fun _ outcome after => (outcome, { after with outside := after.outside ++ [.left name] }),
    fun _ => rfl, fun _ _ _ => rfl, fun rest scene outcome after hrest => ?_⟩
  show Run.bind rest _ _ = _
  rw [Run.bind, hrest]
  rfl

theorem recorder_hands (name : String) (scene : Scene (List Mark)) :
    Hands (recorder name) (· = { scene with outside := scene.outside ++ [.entered name] })
      scene := by
  intro rest other h
  show Run.bind rest _ _ = Run.bind other _ _
  rw [Run.bind, Run.bind, h _ rfl]

/-- Handles a call, and answers that there is no value. -/
def answering : Run (List Mark) Outcome := do
  note .handled
  return .ok (Reply.value none)

theorem answering_adds : Adds Scene.outside [.handled] answering :=
  fun _ => ⟨_, _, rfl, rfl⟩

/-- Runs its rest only if a call says whose it is. -/
def tenantsOnly (rest : Run (List Mark) Outcome) : Run (List Mark) Outcome := do
  let invocation ← Run.invocation
  match invocation.attributes["tenant"]? with
  | some _ => rest
  | none => return .error (.invoke "refused")

theorem tenantsOnly_answers {scene : Scene (List Mark)}
    (h : scene.invocation.attributes["tenant"]? = none) : Answers tenantsOnly scene := by
  intro rest other _
  have hrefused (rest : Run (List Mark) Outcome) :
      tenantsOnly rest scene = (.done (.error (.invoke "refused")), scene) := by
    show (match scene.invocation.attributes["tenant"]? with
      | some _ => rest
      | none => return .error (.invoke "refused")) scene = _
    rw [h]
    rfl
  rw [hrefused, hrefused]

/-- A call that does not say whose it is. -/
def nobodysCall : Invocation :=
  let codec := CodecOptions.plain .json
  let service : Service :=
    { name := "greeter", client := {}, reference := {}, codec := codec, connectRetry := 1,
      timeoutRetry := 1, methods := ∅ }
  let method : MethodConfig :=
    { name := "greet", param := none, returns := .value, async := false, timeoutMillis := 250,
      timeoutRetry := 1, connectRetry := 1, codec := codec }
  .ofMethod service method none none

/-- Two recorders around a handler, and with a refusal between them. -/
theorem recorders_lie_in_each_other :
    let scene : Scene (List Mark) := { invocation := nobodysCall, contexts := {}, outside := [] }
    (∃ outcome after,
      buildChain answering [recorder "a", recorder "b"] scene = (.done outcome, after) ∧
        after.outside = [.entered "a", .entered "b", .handled, .left "b", .left "a"]) ∧
    buildChain answering [recorder "a", tenantsOnly, recorder "b"] scene =
      buildChain (fun s => (.panicked, s)) [recorder "a", tenantsOnly] scene := by
  intro scene
  constructor
  · obtain ⟨-, -, -, hmarks, -⟩ :=
      first_interceptor_is_outermost answering [recorder "a", recorder "b"]
    exact hmarks Scene.outside ["a", "b"] [.handled]
      (.cons (recorder_brackets "a") (.cons (recorder_brackets "b") .nil)) answering_adds scene
  · obtain ⟨-, -, -, -, hshort⟩ :=
      first_interceptor_is_outermost answering [recorder "a", tenantsOnly, recorder "b"]
    refine hshort [recorder "a"] tenantsOnly [recorder "b"] rfl scene _
      (recorder_hands "a" scene) ?_ (fun s => (.panicked, s)) []
    rintro s rfl
    exact tenantsOnly_answers rfl

end RemoteCall.Chain
