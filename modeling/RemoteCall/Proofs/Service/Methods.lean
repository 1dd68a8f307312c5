/-
The methods of a service: what a descriptor leads to, and what registering it does.

The table of methods is the only thing about a service that changes, and it only grows. What is
said here of the single operations is all that the modules on batches and on registrations that
cross each other go by.

* `Service.configure_eq_ok_iff` — the configuration that a descriptor leads to, field by field.
* `Service.method?_insertIfAbsent` — the first configuration of a name stays.
* `Service.register_eq` — a registered name wins over the descriptor.
-/
import RemoteCall.Proofs.Config.Resolution
import RemoteCall.Service

namespace RemoteCall.Service

variable {plugins : Plugins} {s : Service} {d : MethodDescriptor} {config : MethodConfig}

/-! ## Configuring -/

/-- The options in effect for a method: those of the reference for its name, over those for the
service, over those of the client. -/
def optionsFor (s : Service) (name : String) : ResolvedOptions :=
  .resolve (s.reference.methodOptions? name) s.reference.options s.client

/-- What a descriptor leads to: a configuration of its shape, with the options in effect. -/
structure Configures (s : Service) (plugins : Plugins) (d : MethodDescriptor)
    (config : MethodConfig) : Prop where
  name : config.name = d.name
  params : d.params = config.param.toList
  returns : config.returns = d.returns
  async : config.async = d.async
  timeoutMillis : config.timeoutMillis = (s.optionsFor d.name).timeoutMillis
  timeoutRetry : config.timeoutRetry = (s.optionsFor d.name).timeoutRetry
  connectRetry : config.connectRetry = (s.optionsFor d.name).connectRetry
  codec : (s.optionsFor d.name).codec plugins = .ok config.codec

theorem max_one_eq {n : Int64} (h : 1 ≤ n) : max n 1 = n := by
  show (if n ≤ 1 then 1 else n) = n
  split
  · next hle => exact Int64.le_antisymm h hle
  · rfl

theorem max_one_eq_word {n : UInt32} (h : 1 ≤ n) : max n 1 = n := by
  show (if n ≤ 1 then 1 else n) = n
  split
  · next hle => exact UInt32.le_antisymm h hle
  · rfl

/-- The plugins are looked up before the parameters are counted. -/
theorem configure_eq (s : Service) (plugins : Plugins) (d : MethodDescriptor) :
    s.configure plugins d =
      match (s.optionsFor d.name).codec plugins with
      | .error e => .error e
      | .ok codec =>
        if 1 < d.params.length then
          .error (.config ("method '" ++ d.name ++ "' declares " ++ toString d.params.length
            ++ " parameters, at most one is supported"))
        else .ok {
          name := d.name
          param := d.params.head?
          returns := d.returns
          async := d.async
          timeoutMillis := (s.optionsFor d.name).timeoutMillis
          timeoutRetry := (s.optionsFor d.name).timeoutRetry
          connectRetry := (s.optionsFor d.name).connectRetry
          codec := codec } := by
  have htimeout : 1 ≤ (s.optionsFor d.name).timeoutMillis :=
    ResolvedOptions.one_le_timeoutMillis ..
  have hcycles : 1 ≤ (s.optionsFor d.name).timeoutRetry := ResolvedOptions.one_le_timeoutRetry ..
  have hsends : 1 ≤ (s.optionsFor d.name).connectRetry := ResolvedOptions.one_le_connectRetry ..
  show MethodDraft.withOptions _ plugins (s.optionsFor d.name) >>= (·.build plugins) = _
  cases hcodec : (s.optionsFor d.name).codec plugins with
  | error e => simp [MethodDraft.withOptions, hcodec, bind, Except.bind]
  | ok codec =>
    simp only [MethodDraft.withOptions, MethodDraft.build, MethodDraft.codecOrDefault, hcodec,
      bind, Except.bind, pure, Except.pure, max_one_eq htimeout, max_one_eq_word hcycles,
      max_one_eq_word hsends]

theorem toList_head?_of_length_le {α : Type} {l : List α} (h : ¬1 < l.length) :
    l = l.head?.toList := by
  match l with
  | [] => rfl
  | [_] => rfl
  | _ :: _ :: _ => simp at h

theorem configure_eq_ok_iff :
    s.configure plugins d = .ok config ↔ s.Configures plugins d config := by
  rw [configure_eq]
  constructor
  · intro h
    split at h
    · cases h
    · next codec hcodec =>
      split at h
      · cases h
      · next hparams =>
        cases h
        exact ⟨rfl, toList_head?_of_length_le hparams, rfl, rfl, rfl, rfl, rfl, hcodec⟩
  · intro h
    have hlength : ¬1 < d.params.length := by
      rw [h.params]
      cases config.param <;> simp
    have hhead : d.params.head? = config.param := by
      rw [h.params]
      cases config.param <;> rfl
    obtain ⟨name, param, returns, async, timeoutMillis, timeoutRetry, connectRetry, codec⟩ := config
    obtain ⟨rfl, -, rfl, rfl, rfl, rfl, rfl, hcodec⟩ := h
    simp only [hcodec, if_neg hlength, hhead]

/-! ## The table -/

/-- The service with other methods. -/
def withMethods (s : Service) (methods : Table MethodConfig) : Service :=
  { s with methods := methods }

@[simp] theorem withMethods_self (s : Service) : s.withMethods s.methods = s := rfl

@[simp] theorem withMethods_withMethods (s : Service) (first second : Table MethodConfig) :
    (s.withMethods first).withMethods second = s.withMethods second := rfl

/-- What is registered already has no part in what a descriptor leads to. -/
@[simp] theorem configure_withMethods (s : Service) (methods : Table MethodConfig) :
    (s.withMethods methods).configure = s.configure := rfl

theorem methods_eq_of_method? {s t : Service} (h : ∀ name, s.method? name = t.method? name) :
    s.methods = t.methods :=
  Std.ExtTreeMap.ext_getElem? h

theorem insertIfAbsent_fst (s : Service) (config : MethodConfig) :
    (s.insertIfAbsent config).1 = (s.method? config.name).getD config := by
  unfold insertIfAbsent method?
  cases s.methods[config.name]? <;> rfl

theorem insertIfAbsent_snd (s : Service) (config : MethodConfig) :
    (s.insertIfAbsent config).2 = s.withMethods (s.insertIfAbsent config).2.methods := by
  unfold insertIfAbsent
  cases s.methods[config.name]? <;> rfl

/-- What is registered stays, and only the one name can be new. -/
theorem method?_insertIfAbsent (s : Service) (config : MethodConfig) (name : String) :
    (s.insertIfAbsent config).2.method? name =
      (s.method? name).or (if name = config.name then some config else none) := by
  unfold insertIfAbsent
  cases hfound : s.methods[config.name]? with
  | some registered =>
    show s.method? name = _
    by_cases hname : name = config.name
    · subst hname
      simp [method?, hfound]
    · simp [hname]
  | none =>
    show (s.methods.insert config.name config)[name]? = _
    rw [Table.getElem?_insert_eq]
    by_cases hname : name = config.name
    · subst hname
      simp [method?, hfound]
    · simp [hname, method?]

/-- Whoever inserts gets what then stands in the table. -/
theorem method?_insertIfAbsent_self (s : Service) (config : MethodConfig) :
    (s.insertIfAbsent config).2.method? config.name = some (s.insertIfAbsent config).1 := by
  rw [method?_insertIfAbsent, insertIfAbsent_fst]
  cases s.method? config.name <;> simp

/-- An imported service starts with no methods. -/
theorem of_ofReference {name : String} {client : ClientConfig} {reference : ReferenceConfig}
    (imported : ofReference plugins name client reference = .ok s) :
    s.name = name ∧ s.client = client ∧ s.reference = reference ∧
      ∀ method, s.method? method = none := by
  simp only [ofReference, bind, Except.bind, pure, Except.pure] at imported
  split at imported
  · cases imported
  · cases imported
    exact ⟨rfl, rfl, rfl, fun method => Std.ExtTreeMap.getElem?_empty⟩

/-! ## Registering -/

/-- A name that is registered is all that a descriptor is asked for. -/
theorem register_eq (s : Service) (plugins : Plugins) (d : MethodDescriptor) :
    s.register plugins d =
      match s.method? d.name with
      | some registered => .ok (registered, s)
      | none => (s.configure plugins d).map s.insertIfAbsent := by
  unfold register
  cases s.method? d.name with
  | some registered => rfl
  | none => cases s.configure plugins d <;> rfl

end RemoteCall.Service
