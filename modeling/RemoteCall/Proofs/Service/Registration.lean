/-
Registering methods while others register methods.

A registration looks its name up, builds a configuration if the name is not there, and inserts
what it has built unless someone else was faster; between any two of these steps others take
theirs. Callers register one method, or a batch of declared ones, or the method of an untyped
call; a batch goes on to the next method until one of them fails. The plugins may change all the
while, so what is known of a configuration is that it was built with some table of plugins that
there was.

* `Registration.registerAll_alone` — with no one acting in between, these steps are what a
  service does.
* `Registration.exists_ended` — nobody waits for anybody: a caller can go on to its end alone.
-/
import Mathlib.Logic.Function.Basic
import Mathlib.Logic.Relation
import RemoteCall.Proofs.Service.Batch

namespace RemoteCall

/-- What a caller wants with the methods of a service. -/
inductive Demand where
  | register (d : MethodDescriptor)
  | registerAll (ds : List MethodDescriptor)
  /-- An untyped call, which registers its method first. -/
  | call (method : String)

namespace Registration

/-- What a registration came to. -/
structure Answer where
  descriptor : MethodDescriptor
  result : Except CallError MethodConfig

/-- How far a caller has come. -/
inductive Stage where
  | idle
  /-- The first of these is to be looked up. -/
  | asking (todo : List MethodDescriptor)
  /-- The name was not in the table. -/
  | missing (d : MethodDescriptor) (todo : List MethodDescriptor)
  | built (d : MethodDescriptor) (config : MethodConfig) (todo : List MethodDescriptor)
  | ended

namespace Stage

/-- Where a caller begins. A batch with a repeated name is over at once. -/
def first : Demand → Stage
  | .register d => asking [d]
  | .registerAll ds =>
    match Service.firstRepeated? [] (ds.map (·.name)) with
    | some _ => ended
    | none => asking ds
  | .call method => asking [.generic method]

/-- What was looked up in vain and is not answered yet. -/
def sought? : Stage → Option MethodDescriptor
  | missing d _ => some d
  | built d _ _ => some d
  | _ => none

theorem sought?_first (demand : Demand) : (first demand).sought? = none := by
  cases demand with
  | registerAll ds =>
    simp only [first]
    split <;> rfl
  | _ => rfl

/-- What is yet to be answered. -/
def unanswered : Stage → List MethodDescriptor
  | asking todo => todo
  | missing d todo => d :: todo
  | built d _ todo => d :: todo
  | _ => []

/-- How many steps are left at most. -/
def left : Stage → Nat
  | asking todo => 3 * todo.length + 1
  | missing _ todo => 3 * todo.length + 3
  | built _ _ todo => 3 * todo.length + 2
  | _ => 0

end Stage

end Registration

open Registration in
/-- A service with everyone who registers methods, and what they were told. -/
structure Registrations where
  service : Service
  stages : Nat → Stage
  answers : Nat → List Answer

namespace Registration

/-! ## Steps -/

/-- Nobody has registered anything yet. -/
def start (service : Service) : Registrations :=
  { service := service, stages := fun _ => .idle, answers := fun _ => [] }

/-- Which step a caller can take, and what comes of it: the service, what the caller is told, and
where it is then. -/
inductive Turn (there : Plugins → Prop) (s : Service) :
    Stage → Service → List Answer → Stage → Prop where
  | found {d : MethodDescriptor} {todo : List MethodDescriptor} {config : MethodConfig}
    (found : s.method? d.name = some config) :
    Turn there s (.asking (d :: todo)) s [⟨d, .ok config⟩] (.asking todo)
  | miss {d : MethodDescriptor} {todo : List MethodDescriptor} (absent : s.method? d.name = none) :
    Turn there s (.asking (d :: todo)) s [] (.missing d todo)
  | build {d : MethodDescriptor} {todo : List MethodDescriptor} {plugins : Plugins}
    {config : MethodConfig} (used : there plugins) (built : s.configure plugins d = .ok config) :
    Turn there s (.missing d todo) s [] (.built d config todo)
  /-- The caller gives up, with all that it had left. -/
  | fail {d : MethodDescriptor} {todo : List MethodDescriptor} {plugins : Plugins} {e : CallError}
    (used : there plugins) (fails : s.configure plugins d = .error e) :
    Turn there s (.missing d todo) s [⟨d, .error e⟩] .ended
  | insert {d : MethodDescriptor} {config : MethodConfig} {todo : List MethodDescriptor} :
    Turn there s (.built d config todo) (s.insertIfAbsent config).2
      [⟨d, .ok (s.insertIfAbsent config).1⟩] (.asking todo)
  | finish : Turn there s (.asking []) s [] .ended

/-- What is there once a caller has moved on. -/
def moved (r : Registrations) (n : Nat) (service : Service) (told : List Answer) (stage : Stage) :
    Registrations where
  service := service
  stages := Function.update r.stages n stage
  answers := Function.update r.answers n (r.answers n ++ told)

/-- One step of someone. -/
inductive Step (there : Plugins → Prop) (r : Registrations) : Registrations → Prop where
  | begin {n : Nat} (idle : r.stages n = .idle) (demand : Demand) :
    Step there r (moved r n r.service [] (.first demand))
  | turn {n : Nat} {service : Service} {told : List Answer} {stage : Stage}
    (turn : Turn there r.service (r.stages n) service told stage) :
    Step there r (moved r n service told stage)

/-- Steps one after the other, while these are the plugins that there may be. -/
abbrev Runs (there : Plugins → Prop) : Registrations → Registrations → Prop :=
  Relation.ReflTransGen (Step there)

variable {there : Plugins → Prop} {r r' : Registrations} {n m : Nat} {s service : Service}
  {told : List Answer} {stage stage' : Stage} {plugins : Plugins}

theorem stages_moved :
    (moved r n service told stage).stages m = if m = n then stage else r.stages m := by
  simp [moved, Function.update_apply]

theorem answers_moved : (moved r n service told stage).answers m =
    if m = n then r.answers n ++ told else r.answers m := by
  simp [moved, Function.update_apply]

@[simp] theorem stages_moved_self : (moved r n service told stage).stages n = stage := by
  simp [stages_moved]

@[simp] theorem moved_moved {service' : Service} {told' : List Answer} :
    moved (moved r n service told stage) n service' told' stage' =
      moved r n service' (told ++ told') stage' := by
  simp [moved]

/-- Whoever has been told something remembers it. -/
theorem mem_answers_moved {a : Answer} :
    a ∈ (moved r n service told stage).answers m ↔ a ∈ r.answers m ∨ m = n ∧ a ∈ told := by
  rw [answers_moved]
  split
  · next h => simp [h]
  · next h => simp [h]

/-! ## With no one acting in between -/

/-- A caller that moves on may have moved before. -/
theorem Runs.of_turn {more : List Answer} {service' : Service}
    (turn : Turn there r.service (r.stages n) service told stage)
    (rest : Runs there (moved r n service told stage)
      (moved (moved r n service told stage) n service' more stage')) :
    Runs there r (moved r n service' (told ++ more) stage') := by
  rw [moved_moved] at rest
  exact rest.head (.turn turn)

/-- A service registers a method by the steps of a registration. -/
theorem register_alone {d : MethodDescriptor} {todo : List MethodDescriptor}
    (asking : r.stages n = .asking (d :: todo)) :
    (∃ config after, r.service.register plugins d = .ok (config, after) ∧
      Runs (· = plugins) r (moved r n after [⟨d, .ok config⟩] (.asking todo))) ∨
    ∃ e, r.service.register plugins d = .error e ∧
      Runs (· = plugins) r (moved r n r.service [⟨d, .error e⟩] .ended) := by
  rw [Service.register_eq]
  cases hfound : r.service.method? d.name with
  | some config =>
    exact .inl ⟨config, r.service, rfl, .single (.turn (asking ▸ .found hfound))⟩
  | none =>
    have hmiss : Turn (· = plugins) r.service (r.stages n) r.service [] (.missing d todo) :=
      asking ▸ .miss hfound
    let missed : Registrations := moved r n r.service [] (.missing d todo)
    have hstage : missed.stages n = .missing d todo := stages_moved_self
    cases hconfigure : r.service.configure plugins d with
    | error e =>
      have hfail : Turn (· = plugins) missed.service (missed.stages n) r.service
          [⟨d, .error e⟩] .ended := hstage ▸ .fail rfl hconfigure
      exact .inr ⟨e, rfl, Runs.of_turn hmiss (.single (.turn hfail))⟩
    | ok config =>
      have hbuild : Turn (· = plugins) missed.service (missed.stages n) r.service []
          (.built d config todo) := hstage ▸ .build rfl hconfigure
      let built : Registrations := moved missed n r.service [] (.built d config todo)
      have hinsert : Turn (· = plugins) built.service (built.stages n)
          (r.service.insertIfAbsent config).2
          [⟨d, .ok (r.service.insertIfAbsent config).1⟩] (.asking todo) :=
        (show built.stages n = .built d config todo from stages_moved_self) ▸ .insert
      exact .inl ⟨_, _, rfl, Runs.of_turn hmiss (Runs.of_turn hbuild (.single (.turn hinsert)))⟩

/-- A service registers methods one after the other by these steps. -/
theorem registerEach_alone {ds : List MethodDescriptor} (asking : r.stages n = .asking ds) :
    ∃ told, Runs (· = plugins) r
        (moved r n (r.service.registerEach plugins ds).2 told .ended) ∧
      ∀ e, (r.service.registerEach plugins ds).1 = .error e →
        ∃ a ∈ told, a.result = .error e := by
  induction ds generalizing r with
  | nil =>
    have hfinish : Turn (· = plugins) r.service (r.stages n) r.service [] .ended :=
      asking ▸ .finish
    exact ⟨[], .single (.turn hfinish), fun e h => by cases h⟩
  | cons d ds ih =>
    unfold Service.registerEach
    have hfirst := @register_alone r n plugins d ds asking
    rcases hfirst with ⟨config, after, hregister, hrun⟩ | ⟨e, hregister, hrun⟩
    · rw [hregister]
      obtain ⟨told, hrest, hfails⟩ := ih (r := moved r n after [⟨d, .ok config⟩] (.asking ds))
        stages_moved_self
      rw [moved_moved] at hrest
      refine ⟨_, hrun.trans hrest, fun e he => ?_⟩
      obtain ⟨a, ha, hresult⟩ := hfails e he
      exact ⟨a, List.mem_append_right _ ha, hresult⟩
    · rw [hregister]
      refine ⟨_, hrun, fun e' he => ?_⟩
      cases he
      exact ⟨_, List.mem_singleton_self _, rfl⟩

/-- A service registers a batch by the steps of a caller that asks for it. -/
theorem registerAll_alone (idle : r.stages n = .idle) (ds : List MethodDescriptor) :
    ∃ told, Runs (· = plugins) r (moved r n (r.service.registerAll plugins ds).2 told .ended) := by
  have hbegin : Step (· = plugins) r (moved r n r.service [] (.first (.registerAll ds))) :=
    .begin idle _
  cases hrepeated : Service.firstRepeated? [] (ds.map (·.name)) with
  | some name =>
    simp only [Stage.first, hrepeated] at hbegin
    refine ⟨[], ?_⟩
    simp only [Service.registerAll, hrepeated]
    exact .single hbegin
  | none =>
    simp only [Stage.first, hrepeated] at hbegin
    let asking : Registrations := moved r n r.service [] (.asking ds)
    have heach := @registerEach_alone asking n plugins ds stages_moved_self
    obtain ⟨told, hrun, -⟩ := heach
    rw [moved_moved] at hrun
    refine ⟨told, ?_⟩
    simp only [Service.registerAll, hrepeated]
    exact hrun.head hbegin

/-! ## On to the end -/

/-- Whoever has begun and is not done can take a step. -/
theorem exists_turn (s : Service) (used : there plugins) (begun : stage ≠ .idle)
    (open_ : stage ≠ .ended) : ∃ service told stage', Turn there s stage service told stage' := by
  cases stage with
  | idle => exact absurd rfl begun
  | asking todo =>
    cases todo with
    | nil => exact ⟨_, _, _, .finish⟩
    | cons d todo =>
      cases hfound : s.method? d.name with
      | none => exact ⟨_, _, _, .miss hfound⟩
      | some config => exact ⟨_, _, _, .found hfound⟩
  | missing d todo =>
    cases hconfigure : s.configure plugins d with
    | error e => exact ⟨_, _, _, .fail used hconfigure⟩
    | ok config => exact ⟨_, _, _, .build used hconfigure⟩
  | built d config todo => exact ⟨_, _, _, .insert⟩
  | ended => exact absurd rfl open_

theorem Turn.left_lt (turn : Turn there s stage service told stage') :
    stage'.left < stage.left := by
  cases turn <;> simp only [Stage.left, List.length_cons] <;> omega

/-- One step answers at most one question. -/
theorem Turn.told_cases (turn : Turn there s stage service told stage') :
    told = [] ∨ ∃ d result, told = [⟨d, result⟩] := by
  cases turn with
  | found _ => exact .inr ⟨_, _, rfl⟩
  | fail _ _ => exact .inr ⟨_, _, rfl⟩
  | insert => exact .inr ⟨_, _, rfl⟩
  | _ => exact .inl rfl

theorem Turn.stage_ne_idle (turn : Turn there s stage service told stage') : stage' ≠ .idle := by
  cases turn <;> intro h <;> cases h

/-- A caller is answered in the order of its demand, until it is told a failure. -/
theorem Turn.unanswered_eq (turn : Turn there s stage service told stage') :
    stage.unanswered = told.map (·.descriptor) ++ stage'.unanswered ∨
      stage' = .ended ∧ told.map (·.descriptor) <+: stage.unanswered ∧
        ∃ a ∈ told, ∃ e, a.result = .error e := by
  cases turn with
  | fail _ _ => exact .inr ⟨rfl, ⟨_, rfl⟩, _, List.mem_singleton_self _, _, rfl⟩
  | _ => exact .inl rfl

theorem Turn.unanswered_of_nil (turn : Turn there s stage service [] stage') :
    stage'.unanswered = stage.unanswered := by
  rcases turn.unanswered_eq with heq | ⟨-, -, a, ha, -⟩
  · exact heq.symm
  · cases ha

/-- What a caller was told on its way to the end: an answer for all that it had left, or for the
methods up to one that failed. -/
def Answers (told : List Answer) (todo : List MethodDescriptor) : Prop :=
  told.map (·.descriptor) = todo ∨
    told.map (·.descriptor) <+: todo ∧ ∃ a ∈ told, ∃ e, a.result = .error e

theorem Answers.append {more : List Answer} {todo rest : List MethodDescriptor}
    (first : todo = told.map (·.descriptor) ++ rest) (then_ : Answers more rest) :
    Answers (told ++ more) todo := by
  subst first
  rcases then_ with hall | ⟨hpart, a, ha, hfails⟩
  · exact .inl (by rw [List.map_append, hall])
  · refine .inr ⟨?_, a, List.mem_append_right _ ha, hfails⟩
    rw [List.map_append]
    exact (List.prefix_append_right_inj _).mpr hpart

/-- A caller that has begun can go on to its end with nobody else acting. -/
theorem exists_ended (used : there plugins) (begun : r.stages n ≠ .idle) :
    ∃ service told, Runs there r (moved r n service told .ended) ∧
      Answers told (r.stages n).unanswered := by
  generalize hleft : (r.stages n).left = left
  induction left using Nat.strongRecOn generalizing r with
  | ind left ih =>
    by_cases hended : r.stages n = .ended
    · refine ⟨r.service, [], ?_, .inl ?_⟩
      · have hsame : moved r n r.service [] .ended = r := by
          rw [← hended]
          simp [moved]
        rw [hsame]
      · rw [hended]
        rfl
    · obtain ⟨service, told, stage, hturn⟩ := exists_turn r.service used begun hended
      rcases hturn.unanswered_eq with htodo | ⟨rfl, hpart, hfails⟩
      · have hnext : (moved r n service told stage).stages n = stage := stages_moved_self
        have hbegun : (moved r n service told stage).stages n ≠ .idle := by
          rw [hnext]
          exact hturn.stage_ne_idle
        obtain ⟨service', more, hrest, hanswers⟩ :=
          ih stage.left (hleft ▸ hturn.left_lt) hbegun (by rw [hnext])
        rw [hnext] at hanswers
        exact ⟨service', told ++ more, Runs.of_turn hturn hrest, .append htodo hanswers⟩
      · exact ⟨service, told, .single (.turn hturn), .inr ⟨hpart, hfails⟩⟩

end Registration

end RemoteCall
