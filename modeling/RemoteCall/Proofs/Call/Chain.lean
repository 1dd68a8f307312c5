/-
Chains of the built-in interceptors around a call.

Tracing leaves the call alone, baggage adds attributes, and a stamp reads the clock and
either adds attributes or ends the call. So what a chain does is to read the clock some
times, and then what the call inside of it does (`Surroundings.chain_noted`). Readings are
no sends, and so a chain sends what the call sends (`Surroundings.chain_sends`).
-/
import RemoteCall.Call.Baggage
import RemoteCall.Proofs.Call.Budgets

namespace RemoteCall

variable {ω : Type}

/-- The interceptors that are there from the start. -/
inductive BuiltIn where
  | tracing
  | deadline
  | baggage (start : String)
deriving DecidableEq, Repr

/-- What the interceptor does, by a clock. -/
def BuiltIn.interceptor (clock : Run ω Nat) : BuiltIn → Interceptor ω
  | tracing => RemoteCall.tracing
  | deadline => Deadline.interceptor clock
  | baggage start => Baggage.interceptor start

namespace Surroundings

variable {s : Surroundings ω} {call : Invocation} {P : Scene ω → Prop}

/-- A call inside of interceptors. -/
def chain (s : Surroundings ω) (filters : List BuiltIn) : Handler ω :=
  buildChain s.failover (filters.map (BuiltIn.interceptor s.clock))

/-- What a call inside of interceptors does. -/
def chainRecord (s : Surroundings ω) (filters : List BuiltIn) (scene : Scene ω) : Record ω :=
  (s.recorded.chain filters (scene.noting [])).2.outside.2

theorem chain_cons (s : Surroundings ω) (filter : BuiltIn) (filters : List BuiltIn) :
    s.chain (filter :: filters) = filter.interceptor s.clock (s.chain filters) := rfl

open Run

/-- A chain ends. What it notes are readings of the clock, and then a story that the rules
allow, or nothing. -/
theorem chain_noted (hP : s.Invariant call P) (filters : List BuiltIn) :
    ∀ scene, P scene → ∃ (readings : List (Reading ω)) (story : Story ω) (outcome : Outcome)
        (after : Scene ω),
      (story = [] ∧ (∃ e, outcome = .error e) ∨
        Unfolds s call P (call.method.timeoutRetry.toNat - 1) story outcome) ∧
      Logs (s.chain filters) (s.recorded.chain filters) scene outcome
        (readings.map .read ++ Story.events story) after := by
  -- An interceptor hands the rest of the chain a scene with other attributes.
  induction filters with
  | nil =>
    intro scene h
    obtain ⟨story, outcome, after, hstory, -, hlogs⟩ := failover_noted hP h
    refine ⟨[], story, outcome, after, hstory.imp_left fun hnone => ?_, hlogs⟩
    obtain ⟨hnil, fault, houtcome⟩ := hnone
    exact ⟨hnil, _, houtcome⟩
  | cons filter filters ih =>
    intro scene h
    rw [chain_cons, chain_cons]
    cases filter with
    | tracing => exact ih scene h
    | deadline =>
      obtain ⟨r, hr, ⟨-, hstamp⟩ | ⟨deadline, -, hstamp⟩⟩ := stamp_logs hP.steady h
      · refine ⟨[r], [], .error (Deadline.exceeded call), r.scene, .inl ⟨rfl, _, rfl⟩, ?_⟩
        exact Logs.noting hstamp (Logs.pure _ r.scene)
      · obtain ⟨readings, story, outcome, after, hstory, hlogs⟩ :=
          ih _ (hP.relabel r.scene (Deadline.label r.scene.invocation deadline) hr rfl)
        exact ⟨r :: readings, story, outcome, after, hstory, Logs.noting hstamp hlogs⟩
    | baggage start =>
      cases hcontext : scene.invocation.context with
      | none =>
        obtain ⟨readings, story, outcome, after, hstory, hlogs⟩ := ih scene h
        refine ⟨readings, story, outcome, after, hstory, Logs.scene fun record => ?_⟩
        simp only [Scene.noting, hcontext]
        exact hlogs
      | some id =>
        let added : Invocation → Invocation := fun i => { i with
          attributes := Baggage.add start (scene.contexts.forest.entries id) i.attributes }
        obtain ⟨readings, story, outcome, after, hstory, hlogs⟩ :=
          ih { scene with invocation := added scene.invocation } (hP.relabel scene _ h rfl)
        refine ⟨readings, story, outcome, after, hstory, Logs.scene fun record => ?_⟩
        simp only [Scene.noting, hcontext]
        exact Logs.quietly (Logs.changeInvocation added scene) hlogs

theorem chainRecord_of_logs {filters : List BuiltIn} {scene after : Scene ω} {outcome : Outcome}
    {events : Record ω}
    (h : Logs (s.chain filters) (s.recorded.chain filters) scene outcome events after) :
    s.chainRecord filters scene = events := by
  rw [chainRecord, h.noted]
  rfl

/-- A chain ends, and what it sends are the attempts of a story that the rules allow. -/
theorem chain_sends (hP : s.Invariant call P) (filters : List BuiltIn) (scene : Scene ω)
    (h : P scene) : ∃ (story : Story ω) (outcome : Outcome) (after : Scene ω),
      s.chain filters scene = (.done outcome, after) ∧
      (s.chainRecord filters scene).filter Event.isSent = story.attempts.map Attempt.sending ∧
      ∀ a ∈ story.attempts,
        Unfolds s call P (call.method.timeoutRetry.toNat - 1) story outcome := by
  obtain ⟨readings, story, outcome, after, hstory, hlogs⟩ := chain_noted hP filters scene h
  refine ⟨story, outcome, after, hlogs.plain, ?_, fun a ha => hstory.resolve_left fun hnone => ?_⟩
  · have hreadings : (readings.map Event.read).filter Event.isSent = [] := by
      simp [List.filter_map, Function.comp_def, Event.isSent]
    rw [chainRecord_of_logs hlogs, List.filter_append, hreadings, List.nil_append,
      Story.filter_isSent_events]
  · rw [hnone.1] at ha
    cases ha

end Surroundings

end RemoteCall
