/-
What becomes of the name of a method while callers register it.

The table is the only thing that callers have in common. It is changed by one step only, the last
of a registration, and that step gives way to what is there; so the first caller that comes to
insert a configuration settles the name for everyone. What a caller has seen before that step may
be out of date: it has looked for a name in vain, and the configuration that it then builds is
dropped if the name is there by now. It is also the only one that can still fail.

* `Registration.Sound` — whatever stands in the table was built for its name, and whoever was
  told a configuration finds it there.
* `Registration.Settled` — how everyone fares with a name that is registered.
* `Registration.same_in_any_order` — callers that register different names do not see each other.
* `Registration.methods_are_settled_once` — all of it, for every way in which callers take turns.
* `Registration.registered_name_is_refused` — a caller that was overtaken and fails.
-/
import RemoteCall.Proofs.Service.Registration

namespace RemoteCall.Registration

variable {there : Plugins → Prop} {r r' : Registrations} {n : Nat} {s service : Service}
  {told : List Answer} {stage stage' : Stage} {plugins : Plugins} {d : MethodDescriptor}
  {config : MethodConfig} {todo : List MethodDescriptor}

/-! ## What one step does -/

theorem Turn.frame (turn : Turn there s stage service told stage') :
    service = s.withMethods service.methods := by
  cases turn with
  | insert => exact Service.insertIfAbsent_snd ..
  | _ => rfl

/-- What is registered stays. -/
theorem Turn.keeps (turn : Turn there s stage service told stage') {name : String}
    (found : s.method? name = some config) : service.method? name = some config := by
  cases turn with
  | insert => rw [Service.method?_insertIfAbsent, found, Option.some_or]
  | _ => exact found

/-- What is new was built by the caller that inserts it, and is what it is told. -/
theorem Turn.of_method? (turn : Turn there s stage service told stage') {name : String}
    (found : service.method? name = some config) :
    s.method? name = some config ∨
      config.name = name ∧ ∃ d todo, stage = .built d config todo ∧ ⟨d, .ok config⟩ ∈ told := by
  cases turn with
  | @insert d built todo =>
    rw [Service.method?_insertIfAbsent] at found
    cases hold : s.method? name with
    | some registered =>
      rw [hold, Option.some_or] at found
      exact .inl found
    | none =>
      rw [hold, Option.none_or] at found
      split at found
      · next hname =>
        cases found
        refine .inr ⟨hname.symm, d, todo, rfl, ?_⟩
        rw [Service.insertIfAbsent_fst, ← hname, hold]
        exact List.mem_singleton_self _
      · cases found
  | _ => exact .inl found

/-- Whoever is told a configuration finds it in the table. -/
theorem Turn.method?_of_told (turn : Turn there s stage service told stage')
    (named : ∀ d config todo, stage = .built d config todo → config.name = d.name)
    (answer : ⟨d, .ok config⟩ ∈ told) : service.method? d.name = some config := by
  cases turn with
  | found hfound =>
    cases List.mem_singleton.mp answer
    exact hfound
  | @insert d built todo =>
    cases List.mem_singleton.mp answer
    rw [← named d built todo rfl]
    exact Service.method?_insertIfAbsent_self ..
  | fail _ _ => cases List.mem_singleton.mp answer
  | _ => cases answer

/-- Only a caller that has looked in vain fails, and only with its own configuration. -/
theorem Turn.of_error (turn : Turn there s stage service told stage') {e : CallError}
    (answer : ⟨d, .error e⟩ ∈ told) :
    (∃ todo, stage = .missing d todo) ∧
      ∃ used, there used ∧ s.configure used d = .error e := by
  cases turn with
  | @fail d todo used _ hused hfails =>
    cases List.mem_singleton.mp answer
    exact ⟨⟨todo, rfl⟩, used, hused, hfails⟩
  | found _ => cases List.mem_singleton.mp answer
  | insert => cases List.mem_singleton.mp answer
  | _ => cases answer

theorem Turn.absent_of_missing (turn : Turn there s stage service told (.missing d todo)) :
    s.method? d.name = none := by
  cases turn with
  | miss absent => exact absent

theorem Turn.of_built (turn : Turn there s stage service told (.built d config todo)) :
    stage = .missing d todo ∧ ∃ used, there used ∧ s.configure used d = .ok config := by
  cases turn with
  | build used built => exact ⟨rfl, _, used, built⟩

/-! ## What is true at any time -/

/-- Somebody was told this of a method. -/
def Told (r : Registrations) (d : MethodDescriptor) (result : Except CallError MethodConfig) :
    Prop :=
  ∃ n, ⟨d, result⟩ ∈ r.answers n

theorem told_moved {result : Except CallError MethodConfig} :
    Told (moved r n service told stage) d result ↔ Told r d result ∨ ⟨d, result⟩ ∈ told := by
  simp only [Told, mem_answers_moved, exists_or, exists_eq_left]

/-- What holds at any time of a service on which methods are registered. -/
structure Sound (there : Plugins → Prop) (s : Service) (r : Registrations) : Prop where
  frame : r.service = s.withMethods r.service.methods
  keeps : ∀ name config, s.method? name = some config → r.service.method? name = some config
  /-- What is registered was built for its name, and its builder was told so. -/
  registered : ∀ name config, r.service.method? name = some config →
    s.method? name = some config ∨
      ∃ d used, Told r d (.ok config) ∧ d.name = name ∧ there used ∧
        s.configure used d = .ok config
  answered : ∀ d config, Told r d (.ok config) → r.service.method? d.name = some config
  /-- Whoever was refused had not found the name, and what it brought leads to no configuration. -/
  refused : ∀ d e, Told r d (.error e) →
    s.method? d.name = none ∧ ∃ used, there used ∧ s.configure used d = .error e
  missing : ∀ n d todo, r.stages n = .missing d todo → s.method? d.name = none
  built : ∀ n d config todo, r.stages n = .built d config todo →
    ∃ used, there used ∧ s.configure used d = .ok config

namespace Sound

theorem start (there : Plugins → Prop) (s : Service) : Sound there s (start s) where
  frame := rfl
  keeps _ _ h := h
  registered _ _ h := .inl h
  answered _ _ h := nomatch h
  refused _ _ h := nomatch h
  missing _ _ _ h := nomatch h
  built _ _ _ _ h := nomatch h

theorem configure_eq (h : Sound there s r) : r.service.configure = s.configure := by
  rw [h.frame, Service.configure_withMethods]

theorem begin {demand : Demand} (h : Sound there s r) :
    Sound there s (moved r n r.service [] (.first demand)) where
  frame := h.frame
  keeps := h.keeps
  registered name config found := by
    rcases h.registered name config found with hold | ⟨d, used, htold, hrest⟩
    · exact .inl hold
    · exact .inr ⟨d, used, told_moved.mpr (.inl htold), hrest⟩
  answered d config answer := by
    rcases told_moved.mp answer with htold | hnone
    · exact h.answered d config htold
    · cases hnone
  refused d e answer := by
    rcases told_moved.mp answer with htold | hnone
    · exact h.refused d e htold
    · cases hnone
  missing m d todo stage := by
    rw [stages_moved] at stage
    split at stage
    · have hsought := congrArg Stage.sought? stage
      rw [Stage.sought?_first] at hsought
      cases hsought
    · exact h.missing m d todo stage
  built m d config todo stage := by
    rw [stages_moved] at stage
    split at stage
    · have hsought := congrArg Stage.sought? stage
      rw [Stage.sought?_first] at hsought
      cases hsought
    · exact h.built m d config todo stage

/-- The configuration that a caller has built bears the name that it was built for. -/
theorem name_of_built (h : Sound there s r) (stage : r.stages n = .built d config todo) :
    config.name = d.name := by
  obtain ⟨used, -, hconfigure⟩ := h.built n d config todo stage
  exact (Service.configure_eq_ok_iff.mp hconfigure).name

theorem turn (h : Sound there s r)
    (turn : Turn there r.service (r.stages n) service told stage) :
    Sound there s (moved r n service told stage) where
  frame := by
    show service = _
    rw [turn.frame, h.frame]
    rfl
  keeps name config old := turn.keeps (h.keeps name config old)
  registered name config found := by
    rcases turn.of_method? found with hold | ⟨hname, d, todo, hbuilt, hanswer⟩
    · rcases h.registered name config hold with hold | ⟨d, used, htold, hrest⟩
      · exact .inl hold
      · exact .inr ⟨d, used, told_moved.mpr (.inl htold), hrest⟩
    · obtain ⟨used, hused, hconfigure⟩ := h.built n d config todo hbuilt
      have hd : d.name = name := by rw [← hname, h.name_of_built hbuilt]
      exact .inr ⟨d, used, told_moved.mpr (.inr hanswer), hd, hused, hconfigure⟩
  answered d config answer := by
    rcases told_moved.mp answer with htold | hnew
    · exact turn.keeps (h.answered d config htold)
    · exact turn.method?_of_told (fun _ _ _ hbuilt => h.name_of_built hbuilt) hnew
  refused d e answer := by
    rcases told_moved.mp answer with htold | hnew
    · exact h.refused d e htold
    · obtain ⟨⟨todo, hmissing⟩, used, hused, hfails⟩ := turn.of_error hnew
      rw [h.configure_eq] at hfails
      exact ⟨h.missing n d todo hmissing, used, hused, hfails⟩
  missing m d todo stage := by
    rw [stages_moved] at stage
    split at stage
    · subst stage
      have habsent := turn.absent_of_missing
      cases hold : s.method? d.name with
      | none => rfl
      | some config => rw [h.keeps d.name config hold] at habsent; cases habsent
    · exact h.missing m d todo stage
  built m d config todo stage := by
    rw [stages_moved] at stage
    split at stage
    · subst stage
      obtain ⟨-, used, hused, hconfigure⟩ := turn.of_built
      rw [h.configure_eq] at hconfigure
      exact ⟨used, hused, hconfigure⟩
    · exact h.built m d config todo stage

theorem step (h : Sound there s r) (step : Step there r r') : Sound there s r' := by
  cases step with
  | begin idle demand => exact h.begin
  | turn turn => exact h.turn turn

theorem runs (h : Sound there s r) (run : Runs there r r') : Sound there s r' := by
  induction run with
  | refl => exact h
  | tail _ step ih => exact ih.step step

end Sound

/-! ## A name that is registered -/

/-- How everyone has fared, from one moment to a later one, with a name that was registered by
then. -/
structure Settled (there : Plugins → Prop) (service : Service) (name : String)
    (config : MethodConfig) (r r' : Registrations) : Prop where
  kept : r'.service.method? name = some config
  /-- Whoever has still not found it had looked for it before. -/
  missing : ∀ n d todo, r'.stages n = .missing d todo → d.name = name →
    r.stages n = .missing d todo ∧ r'.answers n = r.answers n
  /-- Whoever asks for the name is told its configuration. Only a caller that had looked for it
  before can fail, with what it is the first to be told from then on, and by its own
  configuration. -/
  since : ∀ n, ∃ since, r'.answers n = r.answers n ++ since ∧
    ∀ a ∈ since, a.descriptor.name = name → a.result = .ok config ∨
      since.head? = some a ∧ (∃ todo, r.stages n = .missing a.descriptor todo) ∧
        ∃ e used, a.result = .error e ∧ there used ∧
          service.configure used a.descriptor = .error e

namespace Settled

variable {name : String}

theorem refl (found : r.service.method? name = some config) :
    Settled there s name config r r where
  kept := found
  missing _ _ _ stage _ := ⟨stage, rfl⟩
  since _ := ⟨[], (List.append_nil _).symm, fun _ h => nomatch h⟩

theorem begin {r₁ : Registrations} {demand : Demand} (h : Settled there s name config r₁ r) :
    Settled there s name config r₁ (moved r n r.service [] (.first demand)) where
  kept := h.kept
  missing m d todo stage named := by
    rw [stages_moved] at stage
    split at stage
    · have hsought := congrArg Stage.sought? stage
      rw [Stage.sought?_first] at hsought
      cases hsought
    · next hother =>
      rw [answers_moved, if_neg hother]
      exact h.missing m d todo stage named
  since m := by
    rw [answers_moved]
    split
    · next hm =>
      rw [List.append_nil, ← hm]
      exact h.since m
    · exact h.since m

theorem turn {r₁ : Registrations} (h : Settled there s name config r₁ r) (sound : Sound there s r)
    (turn : Turn there r.service (r.stages n) service told stage) :
    Settled there s name config r₁ (moved r n service told stage) where
  kept := turn.keeps h.kept
  missing m d todo stage named := by
    rw [stages_moved] at stage
    split at stage
    · subst stage
      have habsent := turn.absent_of_missing
      rw [named, h.kept] at habsent
      cases habsent
    · next hother =>
      rw [answers_moved, if_neg hother]
      exact h.missing m d todo stage named
  since m := by
    rw [answers_moved]
    split
    · next hm =>
      subst hm
      obtain ⟨since, hsince, hall⟩ := h.since m
      refine ⟨since ++ told, by rw [hsince, List.append_assoc], fun a ha named => ?_⟩
      rcases List.mem_append.mp ha with hold | hnew
      · rcases hall a hold named with hok | ⟨hhead, hrest⟩
        · exact .inl hok
        · refine .inr ⟨?_, hrest⟩
          rw [List.head?_append, hhead, Option.some_or]
      · obtain ⟨d, result⟩ := a
        cases result with
        | ok told =>
          have hfound := turn.method?_of_told (fun _ _ _ hb => sound.name_of_built hb) hnew
          rw [show d.name = name from named, turn.keeps h.kept] at hfound
          cases hfound
          exact .inl rfl
        | error e =>
          obtain ⟨⟨todo, hmissing⟩, used, hused, hfails⟩ := turn.of_error hnew
          obtain ⟨hbefore, hanswers⟩ := h.missing m d todo hmissing named
          have hnone : since = [] := by
            rw [hsince] at hanswers
            exact List.append_right_eq_self.mp hanswers
          have htold : told.head? = some ⟨d, .error e⟩ := by
            rw [hmissing] at turn
            cases turn with
            | build _ _ => cases hnew
            | fail _ _ => exact congrArg some (List.mem_singleton.mp hnew).symm
          rw [sound.configure_eq] at hfails
          refine .inr ⟨?_, ⟨todo, hbefore⟩, e, used, rfl, hused, hfails⟩
          rw [hnone, List.nil_append, htold]
    · exact h.since m

theorem runs (sound : Sound there s r) (found : r.service.method? name = some config)
    (run : Runs there r r') : Settled there s name config r r' := by
  induction run with
  | refl => exact refl found
  | tail before step ih =>
    cases step with
    | begin idle demand => exact ih.begin
    | turn turn => exact ih.turn (sound.runs before) turn

end Settled

/-! ## The order -/

/-- Somebody was answered about a method. -/
def Answered (r : Registrations) (d : MethodDescriptor) : Prop :=
  ∃ result, Told r d result

/-- No two of the methods that were answered share a name. -/
def Distinct (r : Registrations) : Prop :=
  ∀ d d', Answered r d → Answered r d' → d.name = d'.name → d = d'

/-- Among different names a registration comes to what it would have come to first of all. -/
theorem Sound.result_eq {result : Except CallError MethodConfig} (h : Sound (· = plugins) s r)
    (distinct : Distinct r) (told : Told r d result) :
    result = (s.register plugins d).map Prod.fst := by
  rw [Service.register_eq]
  cases hfound : s.method? d.name with
  | some registered =>
    cases result with
    | error e =>
      have hnone := (h.refused d e told).1
      rw [hfound] at hnone
      cases hnone
    | ok config =>
      have hnow := h.answered d config told
      rw [h.keeps d.name registered hfound] at hnow
      cases hnow
      rfl
  | none =>
    cases result with
    | error e =>
      obtain ⟨-, used, rfl, hfails⟩ := h.refused d e told
      rw [hfails]
      rfl
    | ok config =>
      rcases h.registered d.name config (h.answered d config told) with
        hold | ⟨d', used, htold, hname, rfl, hconfigure⟩
      · rw [hfound] at hold
        cases hold
      · cases distinct d' d ⟨_, htold⟩ ⟨_, told⟩ hname
        rw [hconfigure]
        show Except.ok config = .ok (s.insertIfAbsent config).1
        rw [Service.insertIfAbsent_fst, (Service.configure_eq_ok_iff.mp hconfigure).name, hfound]
        rfl

theorem Sound.method?_of_answered (h : Sound (· = plugins) s r) (h' : Sound (· = plugins) s r')
    (distinct : Distinct r) (distinct' : Distinct r') (same : ∀ d, Answered r d → Answered r' d)
    {name : String} (found : r.service.method? name = some config) :
    r'.service.method? name = some config := by
  rcases h.registered name config found with hold | ⟨d, used, htold, rfl, -, -⟩
  · exact h'.keeps name config hold
  · obtain ⟨result, htold'⟩ := same d ⟨_, htold⟩
    have hresult : result = .ok config :=
      (h'.result_eq distinct' htold').trans (h.result_eq distinct htold).symm
    exact h'.answered d config (hresult ▸ htold')

/-- Callers that register methods of different names end with the same service, and each with the
same result, in whatever order they take their steps. -/
theorem same_in_any_order (run : Runs (· = plugins) (start s) r)
    (run' : Runs (· = plugins) (start s) r') (distinct : Distinct r)
    (same : ∀ d, Answered r d ↔ Answered r' d) :
    r.service = r'.service ∧ ∀ d result, Told r d result ∨ Told r' d result →
      result = (s.register plugins d).map Prod.fst := by
  have hsound : Sound (· = plugins) s r := (Sound.start _ s).runs run
  have hsound' : Sound (· = plugins) s r' := (Sound.start _ s).runs run'
  have hdistinct : Distinct r' := fun d d' hd hd' =>
    distinct d d' ((same d).mpr hd) ((same d').mpr hd')
  refine ⟨?_, fun d result htold => ?_⟩
  · rw [hsound.frame, hsound'.frame]
    refine congrArg s.withMethods (Service.methods_eq_of_method? fun name => ?_)
    refine Option.ext fun config => ⟨?_, ?_⟩
    · exact hsound.method?_of_answered hsound' distinct hdistinct fun d => (same d).mp
    · exact hsound'.method?_of_answered hsound hdistinct distinct fun d => (same d).mpr
  · rcases htold with htold | htold
    · exact hsound.result_eq distinct htold
    · exact hsound'.result_eq hdistinct htold

/-! ## All of it -/

/-- **Methods are settled once.** Callers register methods of an imported service, typed, in
batches and by untyped calls, and take their steps in any order; some of them may fail. A name
that is registered keeps its configuration, everyone that is told one is told this one, and
whoever asks from then on is told it whatever its descriptor. A caller that had already looked in
vain may fail instead, by its own configuration; and a batch that repeats a name is refused, be
its names registered or not. What is registered is of the shape that one of the callers asked
for, with the options in effect for its name, which allow for some time and at least one attempt.
A caller that has begun can always go on to its end. And as long as the plugins stay the same,
callers that register different names come to the same results and the same table in whatever
order they go. -/
theorem methods_are_settled_once {name : String} {client : ClientConfig}
    {reference : ReferenceConfig}
    (imported : Service.ofReference plugins name client reference = .ok service)
    (past : Runs there (start service) r) (future : Runs there r r') :
    r'.service = service.withMethods r'.service.methods ∧
    (∀ method config, r.service.method? method = some config →
      Settled there service method config r r' ∧
      (∀ d other, Told r' d (.ok other) → d.name = method → other = config) ∧
      config.name = method ∧ 1 ≤ config.timeoutMillis ∧ 1 ≤ config.timeoutRetry ∧
      1 ≤ config.connectRetry ∧
      ∃ d used, Told r d (.ok config) ∧ d.name = method ∧ there used ∧
        service.Configures used d config) ∧
    (∀ used ds, (∀ d ∈ ds, (r'.service.method? d.name).isSome = true) → ∃ result,
      r'.service.registerAll used ds = (result, r'.service) ∧
        (result = .ok () ↔ (ds.map (·.name)).Nodup)) ∧
    (∀ method, service.optionsFor method =
      .resolve (reference.methodOptions? method) reference.options client) ∧
    (∀ n, r.stages n ≠ .idle → (∃ used, there used) → ∃ after told,
      Runs there r (moved r n after told .ended) ∧ Answers told (r.stages n).unanswered) ∧
    ∀ methods used r₁ r₂, Runs (· = used) (start (service.withMethods methods)) r₁ →
      Runs (· = used) (start (service.withMethods methods)) r₂ → Distinct r₁ →
      (∀ d, Answered r₁ d ↔ Answered r₂ d) →
      r₁.service = r₂.service ∧ ∀ d result, Told r₁ d result ∨ Told r₂ d result →
        result = ((service.withMethods methods).register used d).map Prod.fst := by
  obtain ⟨-, hclient, hreference, hempty⟩ := Service.of_ofReference imported
  have hsound : Sound there service r := (Sound.start there service).runs past
  have hsound' : Sound there service r' := hsound.runs future
  refine ⟨hsound'.frame, fun method config found => ?_,
    fun used ds => Service.registerAll_of_registered, fun method => ?_,
    fun n begun ⟨used, hused⟩ => exists_ended hused begun,
    fun methods used r₁ r₂ => same_in_any_order⟩
  · have hsettled : Settled there service method config r r' := .runs hsound found future
    refine ⟨hsettled, fun d other told named => ?_, ?_⟩
    · have hnow := hsound'.answered d other told
      rw [named, hsettled.kept] at hnow
      exact (Option.some.inj hnow).symm
    · rcases hsound.registered method config found with
        hold | ⟨d, used, htold, rfl, hused, hconfigure⟩
      · rw [hempty] at hold
        cases hold
      · have hconfigures := Service.configure_eq_ok_iff.mp hconfigure
        refine ⟨hconfigures.name, ?_, ?_, ?_, d, used, htold, rfl, hused, hconfigures⟩
        · rw [hconfigures.timeoutMillis]
          exact ResolvedOptions.one_le_timeoutMillis ..
        · rw [hconfigures.timeoutRetry]
          exact ResolvedOptions.one_le_timeoutRetry ..
        · rw [hconfigures.connectRetry]
          exact ResolvedOptions.one_le_connectRetry ..
  · rw [Service.optionsFor, hreference, hclient]

/-- What an untyped call makes of a method. -/
def untyped (name : String) : MethodConfig :=
  { Service.resetConfig with name := name, param := some .value, returns := .value }

/-- Two callers have looked for one method in vain; the untyped call was faster. -/
def overtaken (d : MethodDescriptor) : Registrations :=
  let both := moved (moved (start .calculator) 0 .calculator [] (.asking [d]))
    1 .calculator [] (.asking [.generic d.name])
  let missing := moved (moved both 0 .calculator [] (.missing d []))
    1 .calculator [] (.missing (.generic d.name) [])
  let built := moved missing 1 .calculator [] (.built (.generic d.name) (untyped d.name) [])
  moved built 1 (Service.calculator.insertIfAbsent (untyped d.name)).2
    [⟨.generic d.name, .ok (untyped d.name)⟩] (.asking [])

theorem runs_overtaken
    (built : Service.calculator.configure .builtIn (.generic d.name) = .ok (untyped d.name)) :
    Runs (· = .builtIn) (start .calculator) (overtaken d) := by
  have absent : Service.calculator.method? d.name = none := Std.ExtTreeMap.getElem?_empty
  exact Relation.ReflTransGen.refl
    |>.tail (.begin rfl (.register d))
    |>.tail (.begin rfl (.call d.name))
    |>.tail (.turn (n := 0) (.miss absent))
    |>.tail (.turn (n := 1) (.miss (d := .generic d.name) absent))
    |>.tail (.turn (n := 1) (.build rfl built))
    |>.tail (.turn (n := 1) .insert)

/-- The other caller has built its own configuration meanwhile, and comes to insert it. -/
def outdone : Registrations :=
  let before := overtaken Service.reset
  let built := moved before 0 before.service [] (.built Service.reset Service.resetConfig [])
  moved built 0 before.service [⟨Service.reset, .ok (untyped "reset")⟩] (.asking [])

theorem slower_caller_gets_what_is_there :
    Service.ofReference .builtIn "demo.Calculator" {} {} = .ok .calculator ∧
      Runs (· = .builtIn) (start .calculator) (overtaken Service.reset) ∧
      Runs (· = .builtIn) (overtaken Service.reset) outdone ∧
      Settled (· = .builtIn) .calculator "reset" (untyped "reset") (overtaken Service.reset)
        outdone ∧
      Told outdone Service.reset (.ok (untyped "reset")) ∧
      Service.calculator.configure .builtIn Service.reset = .ok Service.resetConfig := by
  have past : Runs (· = .builtIn) (start .calculator) (overtaken Service.reset) :=
    runs_overtaken rfl
  have future : Runs (· = .builtIn) (overtaken Service.reset) outdone :=
    (Relation.ReflTransGen.refl.tail (.turn (n := 0) (.build rfl rfl))).tail
      (.turn (n := 0) .insert)
  have imported : Service.ofReference .builtIn "demo.Calculator" {} {} = .ok .calculator := rfl
  have hall := methods_are_settled_once imported past future
  obtain ⟨hsettled, -⟩ := hall.2.1 "reset" (untyped "reset") rfl
  exact ⟨imported, past, future, hsettled, ⟨0, List.mem_singleton_self _⟩, rfl⟩

/-- The other caller brings a method that cannot be configured. -/
def refused : Registrations :=
  let before := overtaken Service.add
  moved before 0 before.service [⟨Service.add, .error Service.tooMany⟩] .ended

/-- **A registered name can be refused.** The one caller had looked for the method in vain before
the other registered it, and is told of its own second parameter; what it would be told from then
on is the configuration of the other. A batch that names a registered method twice is refused as
well. -/
theorem registered_name_is_refused :
    Service.ofReference .builtIn "demo.Calculator" {} {} = .ok .calculator ∧
      Runs (· = .builtIn) (start .calculator) (overtaken Service.add) ∧
      Runs (· = .builtIn) (overtaken Service.add) refused ∧
      (overtaken Service.add).service.method? "add" = some (untyped "add") ∧
      (overtaken Service.add).answers 0 = [] ∧
      refused.answers 0 = [⟨Service.add, .error Service.tooMany⟩] ∧
      refused.service.register .builtIn Service.add = .ok (untyped "add", refused.service) ∧
      Service.resettable.method? "reset" = some Service.resetConfig ∧
      Service.resettable.registerAll .builtIn [Service.reset, Service.reset] =
        (.error (.config
          "method 'reset' of service 'demo.Calculator' is declared more than once"),
          Service.resettable) :=
  ⟨rfl, runs_overtaken rfl, .single (.turn (n := 0) (.fail rfl rfl)), rfl, rfl, rfl, rfl,
    rfl, rfl⟩

end RemoteCall.Registration
