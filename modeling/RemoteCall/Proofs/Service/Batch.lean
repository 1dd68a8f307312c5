/-
Batches: registering the declared methods of a service.

A batch is looked through for repeated names before anything is registered. From then on its
descriptors are registered one after the other, and the first one that leads to no configuration
ends the batch. What was registered before that stays, since methods are never taken out of the
table again.

* `Service.registerEach_spec` — a batch that gets through, and one that does not.
* `Service.failed_batch_keeps_what_came_before` — what a failed batch leaves.
* `Service.failed_batch_is_kept_in_part` — a batch of which one half is registered.
-/
import RemoteCall.Proofs.Service.Methods

namespace RemoteCall.Service

variable {plugins : Plugins} {s s' : Service}

/-! ## Repeated names -/

theorem firstRepeated?_eq_none_iff {seen names : List String} :
    firstRepeated? seen names = none ↔ names.Nodup ∧ ∀ name ∈ names, name ∉ seen := by
  induction names generalizing seen with
  | nil => simp [firstRepeated?]
  | cons name rest ih =>
    unfold firstRepeated?
    split
    · next hseen => simp [hseen]
    · next hseen =>
      rw [ih]
      simp only [List.nodup_cons, List.mem_cons, not_or, forall_eq_or_imp]
      constructor
      · rintro ⟨hnodup, hfresh⟩
        exact ⟨⟨fun hmem => (hfresh name hmem).1 rfl, hnodup⟩, hseen,
          fun other hother => (hfresh other hother).2⟩
      · rintro ⟨⟨hnew, hnodup⟩, -, hfresh⟩
        exact ⟨hnodup, fun other hother =>
          ⟨fun heq => hnew (heq ▸ hother), hfresh other hother⟩⟩

/-! ## One after the other -/

/-- The configuration that a batch has for a name: that of the first descriptor of the name, if
it leads to one. -/
def inBatch (s : Service) (plugins : Plugins) (ds : List MethodDescriptor) (name : String) :
    Option MethodConfig :=
  (ds.find? (·.name == name)).bind fun d => (s.configure plugins d).toOption

/-- The service once a batch is registered: its methods stand behind those that were there. -/
structure Holds (s : Service) (plugins : Plugins) (ds : List MethodDescriptor) (s' : Service) :
    Prop where
  frame : s' = s.withMethods s'.methods
  method? : ∀ name, s'.method? name = (s.method? name).or (s.inBatch plugins ds name)
  all : ∀ d ∈ ds, (s'.method? d.name).isSome = true

theorem Holds.nil (s : Service) : s.Holds plugins [] s where
  frame := rfl
  method? name := by simp [inBatch]
  all := by simp

/-- A descriptor whose name is taken adds nothing to a batch. -/
theorem Holds.cons_registered {d : MethodDescriptor} {ds : List MethodDescriptor}
    {registered : MethodConfig} (found : s.method? d.name = some registered)
    (h : s.Holds plugins ds s') : s.Holds plugins (d :: ds) s' := by
  refine ⟨h.frame, fun name => ?_, fun b hb => ?_⟩
  · rw [h.method?]
    by_cases hname : d.name = name
    · rw [← hname, found, Option.some_or, Option.some_or]
    · simp [inBatch, hname]
  · rcases List.mem_cons.mp hb with rfl | hb
    · simp [h.method?, found]
    · exact h.all b hb

/-- A descriptor whose name is new comes before the rest of its batch. -/
theorem Holds.cons_configured {d : MethodDescriptor} {ds : List MethodDescriptor}
    {config : MethodConfig} (configured : s.configure plugins d = .ok config)
    (h : (s.insertIfAbsent config).2.Holds plugins ds s') : s.Holds plugins (d :: ds) s' := by
  have hname : config.name = d.name := (configure_eq_ok_iff.mp configured).name
  have hframe := h.frame
  rw [insertIfAbsent_snd, withMethods_withMethods] at hframe
  have hrest : ∀ name, (s.insertIfAbsent config).2.inBatch plugins ds name =
      s.inBatch plugins ds name := by
    intro name
    rw [insertIfAbsent_snd]
    rfl
  refine ⟨hframe, fun name => ?_, fun b hb => ?_⟩
  · rw [h.method?, method?_insertIfAbsent, hrest, Option.or_assoc, hname]
    by_cases heq : d.name = name
    · simp [inBatch, heq, configured, Except.toOption]
    · simp [inBatch, heq, Ne.symm heq]
  · rcases List.mem_cons.mp hb with rfl | hb
    · rw [h.method?, ← hname, method?_insertIfAbsent_self]
      rfl
    · exact h.all b hb

/-- Registering one after the other gets through, or it ends at the first descriptor that has a
new name and leads to no configuration. -/
theorem registerEach_spec (s : Service) (plugins : Plugins) (ds : List MethodDescriptor) :
    (∃ s', s.registerEach plugins ds = (.ok (), s') ∧ s.Holds plugins ds s') ∨
    ∃ before d after e s', ds = before ++ d :: after ∧
      s.registerEach plugins ds = (.error e, s') ∧ s.Holds plugins before s' ∧
      s'.method? d.name = none ∧ s.configure plugins d = .error e := by
  induction ds generalizing s with
  | nil => exact .inl ⟨s, rfl, .nil s⟩
  | cons d ds ih =>
    unfold registerEach
    rw [register_eq]
    cases hfound : s.method? d.name with
    | some registered =>
      rcases ih s with ⟨s', hrun, hholds⟩ | ⟨before, d', after, e, s', rfl, hrun, hholds, hrest⟩
      · exact .inl ⟨s', hrun, hholds.cons_registered hfound⟩
      · exact .inr ⟨d :: before, d', after, e, s', rfl, hrun, hholds.cons_registered hfound, hrest⟩
    | none =>
      cases hconfigure : s.configure plugins d with
      | error e => exact .inr ⟨[], d, ds, e, s, rfl, rfl, .nil s, hfound, hconfigure⟩
      | ok config =>
        have hsame : (s.insertIfAbsent config).2.configure = s.configure := by
          rw [insertIfAbsent_snd, configure_withMethods]
        rcases ih (s.insertIfAbsent config).2 with
          ⟨s', hrun, hholds⟩ | ⟨before, d', after, e, s', rfl, hrun, hholds, hnew, hfails⟩
        · exact .inl ⟨s', hrun, hholds.cons_configured hconfigure⟩
        · exact .inr ⟨d :: before, d', after, e, s', rfl, hrun,
            hholds.cons_configured hconfigure, hnew, hsame ▸ hfails⟩

/-! ## Batches that fail -/

theorem registerAll_eq (s : Service) (plugins : Plugins) (ds : List MethodDescriptor) :
    (∃ e, ¬(ds.map (·.name)).Nodup ∧ s.registerAll plugins ds = (.error e, s)) ∨
      (ds.map (·.name)).Nodup ∧ s.registerAll plugins ds = s.registerEach plugins ds := by
  unfold registerAll
  cases hrepeated : firstRepeated? [] (ds.map (·.name)) with
  | some name =>
    refine .inl ⟨_, fun hnodup => ?_, rfl⟩
    rw [firstRepeated?_eq_none_iff.mpr ⟨hnodup, by simp⟩] at hrepeated
    cases hrepeated
  | none => exact .inr ⟨(firstRepeated?_eq_none_iff.mp hrepeated).1, rfl⟩

theorem registerEach_of_registered {ds : List MethodDescriptor}
    (taken : ∀ d ∈ ds, (s.method? d.name).isSome = true) :
    s.registerEach plugins ds = (.ok (), s) := by
  induction ds with
  | nil => rfl
  | cons d ds ih =>
    obtain ⟨hd, hds⟩ := List.forall_mem_cons.mp taken
    obtain ⟨registered, hfound⟩ := Option.isSome_iff_exists.mp hd
    unfold registerEach
    rw [register_eq, hfound]
    exact ih hds

/-- Nothing comes of a batch whose names are all taken, and it fails only if one of them repeats. -/
theorem registerAll_of_registered {ds : List MethodDescriptor}
    (taken : ∀ d ∈ ds, (s.method? d.name).isSome = true) :
    ∃ result, s.registerAll plugins ds = (result, s) ∧
      (result = .ok () ↔ (ds.map (·.name)).Nodup) := by
  rcases s.registerAll_eq plugins ds with ⟨e, hrepeated, hrun⟩ | ⟨hnodup, hrun⟩
  · refine ⟨.error e, hrun, fun h => ?_, fun hnodup => absurd hnodup hrepeated⟩
    cases h
  · rw [registerEach_of_registered taken] at hrun
    exact ⟨.ok (), hrun, fun _ => hnodup, fun _ => rfl⟩

/-- A batch changes nothing but the methods. -/
theorem registerAll_snd (s : Service) (plugins : Plugins) (ds : List MethodDescriptor) :
    (s.registerAll plugins ds).2 = s.withMethods (s.registerAll plugins ds).2.methods := by
  rcases s.registerAll_eq plugins ds with ⟨e, -, hrun⟩ | ⟨-, hrun⟩
  · rw [hrun]
    rfl
  · rw [hrun]
    rcases s.registerEach_spec plugins ds with
      ⟨after, hdone, hholds⟩ | ⟨before, d, rest, e, after, -, hdone, hholds, -⟩
    · rw [hdone]
      exact hholds.frame
    · rw [hdone]
      exact hholds.frame

/-- A batch leaves the service as it was if, and only if, all of its names were taken. -/
theorem Holds.eq_iff {ds : List MethodDescriptor} (h : s.Holds plugins ds s') :
    s' = s ↔ ∀ d ∈ ds, (s.method? d.name).isSome = true := by
  constructor
  · rintro rfl
    exact h.all
  · intro htaken
    rw [h.frame]
    refine congrArg s.withMethods (methods_eq_of_method? fun name => ?_) |>.trans
      (withMethods_self s)
    rw [h.method?]
    cases hfind : ds.find? (·.name == name) with
    | none => simp [inBatch, hfind]
    | some d =>
      have hname : d.name = name := by simpa using List.find?_some hfind
      obtain ⟨config, hconfig⟩ := Option.isSome_iff_exists.mp
        (htaken d (List.mem_of_find?_eq_some hfind))
      rw [← hname, hconfig, Option.some_or]

/-- **What a failed batch leaves.** Repeated names are refused before anything is registered. Any
other batch that fails does so at a descriptor that leads to no configuration; the descriptors
before that one are registered, and nothing else changes. So the methods are what they were
exactly if all names before that one were taken. -/
theorem failed_batch_keeps_what_came_before {ds : List MethodDescriptor} {e : CallError}
    (failed : s.registerAll plugins ds = (.error e, s')) :
    (¬(ds.map (·.name)).Nodup ∧ s' = s) ∨
    ∃ before d after, ds = before ++ d :: after ∧ (ds.map (·.name)).Nodup ∧
      s'.method? d.name = none ∧ s.configure plugins d = .error e ∧
      s.Holds plugins before s' ∧
      (s' = s ↔ ∀ b ∈ before, (s.method? b.name).isSome = true) := by
  rcases s.registerAll_eq plugins ds with ⟨_, hrepeated, hrun⟩ | ⟨hnodup, hrun⟩
  · rw [hrun] at failed
    exact .inl ⟨hrepeated, (Prod.mk.inj failed).2.symm⟩
  · rw [hrun] at failed
    rcases s.registerEach_spec plugins ds with
      ⟨after, hdone, -⟩ | ⟨before, d, after, e', left, hds, hdone, hholds, hnew, hfails⟩
    · rw [hdone] at failed
      cases failed
    · rw [hdone] at failed
      cases failed
      exact .inr ⟨before, d, after, hds, hnodup, hnew, hfails, hholds, hholds.eq_iff⟩

/-- A service without methods. -/
def calculator : Service where
  name := "demo.Calculator"
  client := {}
  reference := {}
  codec := .plain .json
  connectRetry := 1
  timeoutRetry := 1
  methods := ∅

def reset : MethodDescriptor := .plain "reset"

/-- A method with one parameter too many. -/
def add : MethodDescriptor := ((MethodDescriptor.plain "add").param .int32).param .int32

/-- What the first of the two methods leads to. -/
def resetConfig : MethodConfig where
  name := "reset"
  param := none
  returns := .unit
  async := false
  timeoutMillis := 3000
  timeoutRetry := 1
  connectRetry := 1
  codec := .plain .json

/-- The calculator with its first method. -/
def resettable : Service := (calculator.insertIfAbsent resetConfig).2

/-- What the caller of the batch is told. -/
def tooMany : CallError :=
  .config "method 'add' declares 2 parameters, at most one is supported"

/-- The first method was registered before the second one failed. -/
theorem reset_came_before :
    calculator.registerAll .builtIn [reset, add] = (.error tooMany, resettable) ∧
      ∃ before d after, [reset, add] = before ++ d :: after ∧
        calculator.configure .builtIn d = .error tooMany ∧
        calculator.Holds .builtIn before resettable ∧
        ¬∀ b ∈ before, (calculator.method? b.name).isSome = true := by
  have failed : calculator.registerAll .builtIn [reset, add] = (.error tooMany, resettable) := rfl
  rcases failed_batch_keeps_what_came_before failed with
    ⟨hrepeated, -⟩ | ⟨before, d, after, hds, -, -, hfails, hholds, hiff⟩
  · exact absurd (by decide) hrepeated
  · refine ⟨failed, before, d, after, hds, hfails, hholds, fun htaken => ?_⟩
    have hsame := congrArg (·.method? "reset") (hiff.mpr htaken)
    cases hsame

/-- **A failed batch is kept in part.** The first method stays in the table. -/
theorem failed_batch_is_kept_in_part :
    Service.ofReference .builtIn "demo.Calculator" {} {} = .ok calculator ∧
      calculator.registerAll .builtIn [reset, add] = (.error tooMany, resettable) ∧
      calculator.method? "reset" = none ∧ resettable.method? "reset" = some resetConfig :=
  ⟨rfl, rfl, rfl, rfl⟩

end RemoteCall.Service
