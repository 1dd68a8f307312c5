/-
A remote call looks to its caller like a call of the provider's function.

* `Import.Generic.named` — a service that is imported without declarations calls every
  method by the name it was asked for.
* `Provider.Behind` — what it means that a function answers at the other end.
* `Provider.Behind.delivered` — what is delivered reaches the caller as it was stated.
-/
import RemoteCall.Proofs.Call.Chain
import RemoteCall.Proofs.Call.Verdict
import RemoteCall.Proofs.Client.Importing
import RemoteCall.Proofs.Codec.RoundTrip

namespace RemoteCall

/-! ## Generic imports -/

/-- The import of a service without declared methods, after any number of calls of it. -/
inductive Import.Generic (plugins : Plugins) (name : String) : Import → Prop where
  | imported {L W : Type} {c after : Client L W} {application : String} {i : Import}
    (same : c.plugins = plugins) (imported : c.importGeneric application name = .ok (i, after)) :
    Generic plugins name i
  | registered {i after : Import} {method : String} {config : MethodConfig}
    (before : Generic plugins name i)
    (registered : i.registerGeneric plugins method = .ok (config, after)) :
    Generic plugins name after

namespace Service

variable {plugins : Plugins} {s after : Service} {d : MethodDescriptor} {config : MethodConfig}

/-- Every method stands in the table under its own name. -/
def Named (s : Service) : Prop :=
  ∀ (name : String) (config : MethodConfig), s.methods[name]? = some config → config.name = name

/-- A name that is taken keeps its method; a new one gets one of that name. -/
theorem Named.register (h : s.Named) (hr : s.register plugins d = .ok (config, after)) :
    config.name = d.name ∧ after.name = s.name ∧ after.Named := by
  rw [register_eq] at hr
  cases hfound : s.method? d.name with
  | some registered =>
    rw [hfound] at hr
    cases hr
    exact ⟨h _ _ hfound, rfl, h⟩
  | none =>
    rw [hfound] at hr
    cases hconfigure : s.configure plugins d with
    | error e =>
      rw [hconfigure] at hr
      cases hr
    | ok made =>
      rw [hconfigure] at hr
      have hname : made.name = d.name := (configure_eq_ok_iff.mp hconfigure).name
      obtain ⟨rfl, rfl⟩ : (s.insertIfAbsent made).1 = config ∧
          (s.insertIfAbsent made).2 = after := Prod.ext_iff.mp (Except.ok.inj hr)
      refine ⟨?_, ?_, fun name other hother => ?_⟩
      · rw [insertIfAbsent_fst, hname, hfound]
        exact hname
      · rw [insertIfAbsent_snd]
        rfl
      · have hnow := s.method?_insertIfAbsent made name
        rw [show (s.insertIfAbsent made).2.method? name = some other from hother] at hnow
        rcases Option.or_eq_some_iff.mp hnow.symm with hold | ⟨-, hnew⟩
        · exact h name other hold
        · split at hnew
          · next heq =>
            cases hnew
            exact heq.symm
          · cases hnew

end Service

namespace Import.Generic

variable {plugins : Plugins} {name method : String} {i after : Import} {config : MethodConfig}

theorem register_of_registerGeneric
    (h : i.registerGeneric plugins method = .ok (config, after)) :
    i.service.register plugins (.generic method) = .ok (config, after.service) := by
  simp only [Import.registerGeneric, bind, Except.bind, pure, Except.pure] at h
  split at h
  · cases h
  · next hregister =>
    cases h
    exact hregister

/-- A generic import keeps the name that it was imported by. -/
theorem named (h : i.Generic plugins name) : i.service.name = name ∧ i.service.Named := by
  induction h with
  | imported _ imported =>
    obtain ⟨-, -, hservice⟩ := Client.importBare_eq_ok imported
    obtain ⟨hname, -, -, hempty⟩ := Service.of_ofReference hservice
    refine ⟨hname, fun method config hconfig => ?_⟩
    cases hconfig.symm.trans (hempty method)
  | registered _ registered ih =>
    obtain ⟨-, hname, hnamed⟩ := ih.2.register (register_of_registerGeneric registered)
    exact ⟨hname.trans ih.1, hnamed⟩

end Import.Generic

/-! ## Providers -/

/-- The other end of a call: its plugins decode requests, and a function answers the calls. -/
structure Provider where
  plugins : Plugins
  answer : DecodedCall → Reply

/-- What the caller of a method should get to see of a reply. -/
def Reply.told (reply : Reply) : CallResult :=
  match reply.outcome with
  | .ok data => .ok data
  | .error d =>
    if d.code = 500 then .error (.business d.code d.message d.trace)
    else .error (.remote d.code d.message d.trace)

theorem Reply.result_eq_told {reply seen : Reply} (h : seen.outcome = reply.outcome) :
    seen.result = reply.told := by
  rw [result, told, h]
  cases reply.outcome with
  | ok data => rfl
  | error d =>
    have herror : Except.mapError ErrorDescriptor.toError (.error d : Except _ (Option Json)) =
        .error d.toError := rfl
    by_cases hcode : d.code = 500
    · simp [herror, ErrorDescriptor.toError, d.isBusiness_iff, hcode]
    · simp [herror, ErrorDescriptor.toError, d.isBusiness_iff, hcode]

namespace Provider

variable {ω : Type} {p : Provider} {s : Surroundings ω} {call : Invocation} {P : Scene ω → Prop}

/-- A send fails on its way, or delivers what the provider answers to the request. The provider
may encode every reply in its own way, as long as the caller's plugins restore it. -/
def Behind (p : Provider) (connector : Connector ω) (caller : Plugins) : Prop :=
  ∀ node request scene response, (connector node request scene).1 = .done (.ok response) →
    ∃ decoded options, p.plugins.decodeCall request = .ok decoded ∧
      (p.answer decoded).encode options = .ok response ∧
      caller.Restores options (p.answer decoded).payload

/-- The provider decodes the call as it was made. -/
def Understands (p : Provider) (call : Invocation) (request : Request) : Prop :=
  ∃ decoded, p.plugins.decodeCall request = .ok decoded ∧
    decoded.header.service = call.service.name ∧ decoded.header.method = call.method.name ∧
    decoded.parameter = call.parameter

theorem understands (h : p.plugins.Restores call.method.codec call.parameter) {request : Request}
    (he : call.Encodes request) : p.Understands call request := by
  obtain ⟨i, labelled, hmade, hencode⟩ := he
  have hmethod := Invocation.method_of_asMade hmade
  have hparameter := Invocation.parameter_of_asMade hmade
  have hservice := Invocation.service_of_asMade hmade
  rw [← hmethod, ← hparameter] at h
  have hdecoded := Plugins.decodeCall_encode h hencode
  obtain ⟨-, hheader, -⟩ := Invocation.encode_eq_ok hencode
  refine ⟨_, hdecoded, ?_, ?_, hparameter⟩
  · rw [hheader, ← hservice]
    rfl
  · rw [hheader, ← hmethod]
    rfl

/-- **What is delivered is the last word**, and the caller sees it as the provider stated it. -/
theorem Behind.delivered (hp : p.Behind s.send s.plugins) {more : Nat} {story : Story ω}
    {outcome : Outcome} (h : Unfolds s call P more story outcome) {a : Attempt ω}
    (ha : a ∈ story.attempts) {response : Response} (answer : a.answer = .ok response) :
    story.attempts.getLast? = some a ∧
      ∃ decoded seen, p.plugins.decodeCall a.request = .ok decoded ∧ outcome = .ok seen ∧
        seen.result = (p.answer decoded).told := by
  obtain ⟨request, hgenuine⟩ := h.genuine_of_mem a ha
  have hsent := hgenuine.answer
  rw [answer] at hsent
  obtain ⟨decoded, options, hdecoded, hencoded, hrestores⟩ := hp _ _ _ _ hsent
  have hseen := Plugins.decodeReply_encode hrestores hencoded call.method.codec.serializer
  have ho : a.outcome =
      .ok { outcome := (p.answer decoded).outcome, attachments := response.attributes } := by
    rw [hgenuine.outcome, answer, Surroundings.outcome, hseen]
    rfl
  obtain ⟨hlast, hcall⟩ := h.of_conclusive ha (by rw [ho]; rfl)
  exact ⟨hlast, decoded, _, hdecoded, hcall.trans ho, Reply.result_eq_told rfl⟩

end Provider

/-! ## A provider on a script -/

namespace Provider

/-- What the provider sends back for a request. -/
def respond (p : Provider) (options : CodecOptions) (request : Request) :
    Except TransportError Response :=
  match p.plugins.decodeCall request with
  | .error e => .error (.other e.message)
  | .ok decoded => ((p.answer decoded).encode options).mapError fun e => .other e.message

/-- Sends fail as a script says, and get through to the provider once it is over. -/
def connector {L : Type} (p : Provider) (options : CodecOptions) :
    Connector (Network L (List TransportError)) := fun _ request =>
  Run.world fun
    | [] => (p.respond options request, [])
    | fault :: rest => (.error fault, rest)

theorem connector_behind {L : Type} {p : Provider} {options : CodecOptions} {caller : Plugins}
    (h : ∀ decoded, caller.Restores options (p.answer decoded).payload) :
    p.Behind (p.connector (L := L) options) caller := by
  intro node request scene response hsent
  cases hscript : scene.outside.world with
  | cons fault rest => simp [connector, Run.world, Run.outside, hscript] at hsent
  | nil =>
    simp only [connector, Run.world, Run.outside, hscript, Ending.done.injEq, respond] at hsent
    cases hdecoded : p.plugins.decodeCall request with
    | error e => simp [hdecoded] at hsent
    | ok decoded =>
      simp only [hdecoded] at hsent
      cases hencoded : (p.answer decoded).encode options with
      | error e =>
        rw [hencoded] at hsent
        cases hsent
      | ok made =>
        rw [hencoded] at hsent
        cases hsent
        exact ⟨decoded, options, rfl, hencoded, h decoded⟩

/-- A compressor that can be undone at a glance. -/
def reversal : Compressor := .ofCodec "reversal" List.reverse fun bytes => some bytes.reverse

/-- Tells whether a call came without a parameter. -/
def examiner : Provider where
  plugins := (Plugins.builtIn.registerCompressor reversal).2
  answer decoded := .value (some (.bool decoded.parameter.isNone))

/-- A client of the examiner, whose first send is refused. -/
def candidate : Client (RegistryLocator MemoryDiscovery) (List TransportError) where
  config := { connectRetry := 2, compressor := some "reversal", compressThreshold := 1 }
  references := ∅
  plugins := examiner.plugins
  connector := examiner.connector ⟨.json, some reversal, 0⟩
  interceptors := [BuiltIn.tracing, .baggage "baggage.", .deadline].map
    (BuiltIn.interceptor (pure 0))
  clock := pure 0
  stopwatch := pure 0
  closed := false
  network := { shared := some { backend := Script.greeters.foldl MemoryDiscovery.register ∅ },
               links := [], world := [.connect "refused"] }

theorem reversal_restores {body small : Bytes} (h : reversal.compress body = .ok small) :
    reversal.decompress small = .ok body := by
  obtain rfl : body.reverse = small := Except.ok.inj h
  simp [reversal, Compressor.ofCodec]

theorem json_restores {value : Json} {body : Bytes} (hne : Bytes.ofString value.render ≠ [])
    (hread : Serializer.json.deserialize (Bytes.ofString value.render) = .ok value)
    (h : Serializer.json.serialize value = .ok body) :
    body ≠ [] ∧ Serializer.json.deserialize body = .ok value := by
  obtain rfl : Bytes.ofString value.render = body := Except.ok.inj h
  exact ⟨hne, hread⟩

theorem examiner_serializer : examiner.plugins.serializer? "json" = some .json := rfl

theorem examiner_compressor : examiner.plugins.compressor? "reversal" = some reversal := rfl

/-- Both codecs restore the few values that the examiner and its candidate exchange. -/
theorem examiner_restores {threshold : Nat} {value : Json}
    (h : value = .null ∨ value = .bool true ∨ value = .bool false) :
    examiner.plugins.Restores ⟨.json, some reversal, threshold⟩ (some value) where
  serializer := examiner_serializer
  compressor c hc := by
    obtain rfl : reversal = c := Option.some.inj hc
    exact examiner_compressor
  written v body hv hbody := by
    obtain rfl : value = v := Option.some.inj hv
    rcases h with rfl | rfl | rfl
    · exact json_restores (by decide) rfl hbody
    · exact json_restores (by decide) rfl hbody
    · exact json_restores (by decide) rfl hbody
  compressed c body small hc hsmall := by
    obtain rfl : reversal = c := Option.some.inj hc
    exact reversal_restores hsmall

theorem examiner_behind : examiner.Behind candidate.connector candidate.plugins :=
  connector_behind fun decoded => examiner_restores (by cases decoded.parameter <;> simp)

theorem candidate_orderly (link : Option Nat) : (candidate.surroundings link).Orderly :=
  Client.surroundings_orderly (fun _ _ _ _ h => ⟨_, _, rfl, h⟩)
    (fun _ scene h => ⟨0, scene, rfl, h⟩) fun _ scene h => ⟨0, scene, rfl, h⟩

end Provider

/-! ## Calls -/

namespace Client

variable {L W : Type} [Locator L] {c : Client L W}

theorem handler_eq_chain {filters : List BuiltIn}
    (h : c.interceptors = filters.map (BuiltIn.interceptor c.clock)) (link : Option Nat) :
    c.handler link = (c.surroundings link).chain filters := by
  rw [handler, h]
  rfl

omit [Locator L] in
/-- The caller of a generic call gets an error at once, or the call starts as it was asked for. -/
theorem invokeGeneric_cases (hopen : c.closed = false) {name : String} {imported : Import}
    (himported : imported.Generic c.plugins name) (contexts : Contexts) (method : String)
    (parameter : Option Json) :
    (∃ e, imported.registerGeneric c.plugins method = .error e ∧
      (c.invokeGeneric contexts imported method parameter).1 = .failed e) ∨
    ∃ config after invocation link,
      imported.registerGeneric c.plugins method = .ok (config, after) ∧
      (c.invokeGeneric contexts imported method parameter).1 = .started invocation link ∧
      invocation.service.name = name ∧ invocation.method = config ∧ config.name = method ∧
      invocation.parameter = parameter := by
  unfold invokeGeneric
  cases hr : imported.registerGeneric c.plugins method with
  | error e => exact .inl ⟨e, rfl, rfl⟩
  | ok pair =>
    obtain ⟨config, after⟩ := pair
    have hregister := Import.Generic.register_of_registerGeneric hr
    obtain ⟨hname, hservice, -⟩ := himported.named.2.register hregister
    refine .inr ⟨config, after, .ofMethod after.service config parameter (some contexts.create.1),
      after.link, rfl, ?_, hservice.trans himported.named.1, rfl, hname, rfl⟩
    simp only [invoke, hopen, Bool.false_eq_true, if_false]

/-- Who waits for a call gets what its chain comes to, in its own context. -/
theorem wait_of_done {running : Contexts} {invocation : Invocation} {link : Option Nat}
    {outcome : Outcome} {ended : Scene (Network L W)} (aborted : Bool)
    (h : c.handler link ⟨invocation, (running.swap invocation.context).2, c.network⟩ =
      (.done outcome, ended)) :
    (c.wait running aborted (.started invocation link)).1 = some (result outcome) := by
  simp only [wait, run, Contexts.runParked, handle, h, conclude]

/-- **A remote call is transparent.** A generic call on an open client fails at once, because
its method cannot be configured, or it starts. Whenever it is waited for, with built-in
interceptors or none, and whatever has become of the network by then: every request that it
sends is decoded by the provider to the service, the method and the parameter of the caller. If
a reply is delivered, then that was the last send, and the caller gets what the reply says. -/
theorem generic_call_is_transparent (hopen : c.closed = false) {filters : List BuiltIn}
    (hfilters : c.interceptors = filters.map (BuiltIn.interceptor c.clock))
    (hs : ∀ link, (c.surroundings link).Orderly) {p : Provider}
    (hp : p.Behind c.connector c.plugins) {name : String} {imported : Import}
    (himported : imported.Generic c.plugins name) (method : String) (parameter : Option Json)
    (hcodec : ∀ config after, imported.registerGeneric c.plugins method = .ok (config, after) →
      p.plugins.Restores config.codec parameter) (contexts : Contexts) :
    (∃ e, imported.registerGeneric c.plugins method = .error e ∧
      (c.invokeGeneric contexts imported method parameter).1 = .failed e) ∨
    ∃ invocation link,
      (c.invokeGeneric contexts imported method parameter).1 = .started invocation link ∧
      ∀ (network : Network L W) (closed : Bool) (running : Contexts) (aborted : Bool),
        let later : Client L W := { c with network := network, closed := closed }
        let record := (later.surroundings link).chainRecord filters
          ⟨invocation, (running.swap invocation.context).2, network⟩
        (∀ before node request answer, .sent before node request answer ∈ record →
          ∃ decoded, p.plugins.decodeCall request = .ok decoded ∧
            decoded.header.service = name ∧ decoded.header.method = method ∧
            decoded.parameter = parameter) ∧
        ∀ before node request response, .sent before node request (.ok response) ∈ record →
          (record.filter Event.isSent).getLast? =
            some (.sent before node request (.ok response)) ∧
          ∃ decoded, p.plugins.decodeCall request = .ok decoded ∧
            (later.wait running aborted (.started invocation link)).1 =
              some (p.answer decoded).told := by
  refine (c.invokeGeneric_cases hopen himported contexts method parameter).imp_right ?_
  rintro ⟨config, after, invocation, link, hregister, hstarted, hname, rfl, hmethod, rfl⟩
  refine ⟨invocation, link, hstarted, fun network closed running aborted => ?_⟩
  intro later record
  obtain ⟨story, outcome, ended, hrun, hsends, hunfolds⟩ :=
    Surroundings.chain_sends ((hs link).invariant invocation) filters
      ⟨invocation, (running.swap invocation.context).2, network⟩ rfl
  -- nothing of what has changed since is in the surroundings of the call
  change record.filter Event.isSent = _ at hsends
  have hresult : (later.wait running aborted (.started invocation link)).1 =
      some (result outcome) := by
    have hhandler : later.handler link = (c.surroundings link).chain filters :=
      later.handler_eq_chain hfilters link
    rw [← hhandler] at hrun
    exact later.wait_of_done aborted hrun
  have hattempt : ∀ before node request answer, .sent before node request answer ∈ record →
      ∃ a ∈ story.attempts, a.sending = .sent before node request answer := by
    intro before node request answer hmem
    have hsent := List.mem_filter.mpr ⟨hmem, (rfl : Event.isSent _ = true)⟩
    rw [hsends] at hsent
    exact List.mem_map.mp hsent
  constructor
  · intro before node request answer hmem
    obtain ⟨a, ha, hsending⟩ := hattempt before node request answer hmem
    cases hsending
    obtain ⟨_, hgenuine⟩ := (hunfolds a ha).genuine_of_mem a ha
    obtain ⟨decoded, hdecoded, hservice, hcalled, hparameter⟩ :=
      Provider.understands (hcodec _ _ hregister) hgenuine.encodes
    exact ⟨decoded, hdecoded, hservice.trans hname, hcalled.trans hmethod, hparameter⟩
  · intro before node request response hmem
    obtain ⟨a, ha, hsending⟩ := hattempt before node request (.ok response) hmem
    simp only [Attempt.sending, Event.sent.injEq] at hsending
    obtain ⟨rfl, rfl, rfl, hanswer⟩ := hsending
    obtain ⟨hlast, decoded, seen, hdecoded, rfl, htold⟩ :=
      Provider.Behind.delivered hp (hunfolds a ha) ha hanswer
    refine ⟨?_, decoded, hdecoded, ?_⟩
    · rw [hsends, List.getLast?_map, hlast, Option.map_some, Attempt.sending, hanswer]
    · rw [hresult, ← htold]
      rfl

/-- A call with `null` for its parameter. -/
theorem candidate_call_is_transparent :
    ∃ imported after invocation link,
      Provider.candidate.importGeneric "" "greeter" = .ok (imported, after) ∧
      (Provider.candidate.invokeGeneric {} imported "greet" (some .null)).1 =
        .started invocation link ∧
      ∀ (running : Contexts) (aborted : Bool),
        let record := (Provider.candidate.surroundings link).chainRecord
          [.tracing, .baggage "baggage.", .deadline]
          ⟨invocation, (running.swap invocation.context).2, Provider.candidate.network⟩
        (∀ before node request answer, .sent before node request answer ∈ record →
          ∃ decoded, Provider.examiner.plugins.decodeCall request = .ok decoded ∧
            decoded.header.service = "greeter" ∧ decoded.header.method = "greet" ∧
            decoded.parameter = some .null) ∧
        ∀ before node request response, .sent before node request (.ok response) ∈ record →
          (Provider.candidate.wait running aborted (.started invocation link)).1 =
            some (.ok (some (.bool false))) := by
  obtain ⟨imported, after, config, registered, himported, hregister, hcodec⟩ :
      ∃ imported after config registered,
        Provider.candidate.importGeneric "" "greeter" = .ok (imported, after) ∧
        imported.registerGeneric Provider.examiner.plugins "greet" = .ok (config, registered) ∧
        config.codec = ⟨.json, some Provider.reversal, 1⟩ :=
    ⟨_, _, _, _, rfl, rfl, rfl⟩
  have hgeneric : imported.Generic Provider.candidate.plugins "greeter" :=
    .imported rfl himported
  have hrestores : ∀ config after, imported.registerGeneric Provider.candidate.plugins "greet" =
      .ok (config, after) → Provider.examiner.plugins.Restores config.codec (some .null) := by
    intro config' after' hregister'
    obtain ⟨rfl, -⟩ : config = config' ∧ registered = after' := by
      simpa using hregister.symm.trans hregister'
    rw [hcodec]
    exact Provider.examiner_restores (.inl rfl)
  rcases generic_call_is_transparent (c := Provider.candidate) rfl rfl Provider.candidate_orderly
      Provider.examiner_behind hgeneric "greet" (some .null) hrestores {} with
    ⟨e, herror, -⟩ | ⟨invocation, link, hstarted, hcall⟩
  · have hok := hregister.symm.trans herror
    cases hok
  · refine ⟨imported, after, invocation, link, himported, hstarted, fun running aborted => ?_⟩
    obtain ⟨hsent, hdelivered⟩ := hcall Provider.candidate.network false running aborted
    refine ⟨hsent, fun before node request response hmem => ?_⟩
    obtain ⟨-, decoded, hdecoded, htold⟩ := hdelivered before node request response hmem
    obtain ⟨decoded', hdecoded', -, -, hparameter⟩ := hsent before node request _ hmem
    obtain rfl : decoded = decoded' := by simpa using hdecoded.symm.trans hdecoded'
    have hanswer : (Provider.examiner.answer decoded).told =
        .ok (some (.bool decoded.parameter.isNone)) := rfl
    refine htold.trans ?_
    rw [hanswer, hparameter]
    rfl

end Client

end RemoteCall
