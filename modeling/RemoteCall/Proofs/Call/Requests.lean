/-
What the sends of a call have in common.

A call is encoded before its first cycle. It is encoded again before another one only
if it carries a deadline, after this was stamped anew. So what it was encoded to is what
it would be encoded to at any time: its labels are in place already, and a stamp moves
nothing but the two attributes of its own.

* `Invocation.StandsFor` — the call would be encoded to the request, and is labelled so
  already.
* `Surroundings.Invariant.follows_requests` — the call stands for the request of the
  cycle that it is in, and the next request is the same one, or the same but stamped.
* `failover_resends_the_call` — what this says about whole calls: their requests are
  one and the same but for timeout and deadline, encoding never fails later on, and no
  other attribute changes.
-/
import RemoteCall.Proofs.Call.Budgets
import RemoteCall.Proofs.Codec.RoundTrip

namespace RemoteCall

variable {ω : Type}

/-! ## Stamps -/

namespace Deadline

/-- Attributes with a timeout and a deadline. -/
def stamped (attributes : Attributes) (timeoutMillis : Int64) (deadline : Nat) : Attributes :=
  (attributes.insert timeoutKey (toString timeoutMillis)).insert deadlineKey (toString deadline)

theorem label_eq (i : Invocation) (deadline : Nat) :
    label i deadline = { i with attributes := stamped i.attributes i.timeoutMillis deadline } := rfl

/-- A stamp leaves all attributes alone but two. -/
theorem getElem?_stamped (attributes : Attributes) (timeoutMillis : Int64) (deadline : Nat)
    (key : String) :
    (stamped attributes timeoutMillis deadline)[key]? =
      if key = deadlineKey then some (toString deadline)
      else if key = timeoutKey then some (toString timeoutMillis)
      else attributes[key]? := by
  simp only [stamped, Table.getElem?_insert_eq]

end Deadline

namespace CodecOptions

variable (options : CodecOptions) (used : Option String) (attributes : Attributes)

/-- Labels that are in place already stay as they are. -/
theorem label_label :
    options.label used (options.label used attributes) = options.label used attributes := by
  refine Std.ExtTreeMap.ext_getElem? fun key => ?_
  simp only [getElem?_label]
  split <;> simp_all

/-- A stamp does not move the labels. -/
theorem label_stamped (timeoutMillis : Int64) (deadline : Nat) :
    options.label used (Deadline.stamped attributes timeoutMillis deadline) =
      Deadline.stamped (options.label used attributes) timeoutMillis deadline := by
  have hserializer : serializerKey ≠ deadlineKey ∧ serializerKey ≠ timeoutKey := by decide
  have hcompressor : compressorKey ≠ deadlineKey ∧ compressorKey ≠ timeoutKey := by decide
  refine Std.ExtTreeMap.ext_getElem? fun key => ?_
  simp only [getElem?_label, Deadline.getElem?_stamped]
  by_cases hs : key = serializerKey
  · simp only [hs, if_neg hserializer.1, if_neg hserializer.2, if_true]
  · by_cases hc : key = compressorKey
    · simp only [hc, if_neg hcompressor.1, if_neg hcompressor.2, if_neg compressorKey_ne, if_true]
    · simp only [if_neg hs, if_neg hc]

end CodecOptions

/-! ## Calls that stand for a request -/

namespace Invocation

variable {i j labelled : Invocation} {request : Request}

/-- The call would be encoded to the request, and is labelled so already. -/
def StandsFor (i : Invocation) (request : Request) : Prop :=
  i.encode = .ok (request, i)

theorem encode_eq_ok_iff :
    i.encode = .ok (request, labelled) ↔
      ∃ body used, i.method.codec.writeBody i.parameter >>= i.method.codec.compressBody =
          .ok (body, used) ∧
        labelled = { i with attributes := i.method.codec.label used i.attributes } ∧
        request = { header := labelled.header, body := body } := by
  rw [encode_eq]
  cases i.method.codec.writeBody i.parameter >>= i.method.codec.compressBody with
  | error e => simp [Except.map]
  | ok pair =>
    obtain ⟨body, used⟩ := pair
    simp only [Except.map, Except.ok.injEq, Prod.mk.injEq]
    constructor
    · rintro ⟨rfl, rfl⟩
      exact ⟨body, used, ⟨rfl, rfl⟩, rfl, rfl⟩
    · rintro ⟨_, _, ⟨rfl, rfl⟩, rfl, rfl⟩
      exact ⟨rfl, rfl⟩

theorem standsFor_iff :
    i.StandsFor request ↔
      ∃ body used, i.method.codec.writeBody i.parameter >>= i.method.codec.compressBody =
          .ok (body, used) ∧
        i.method.codec.label used i.attributes = i.attributes ∧
        request = { header := i.header, body := body } := by
  rw [StandsFor, encode_eq_ok_iff]
  constructor
  · rintro ⟨body, used, hbody, hi, hrequest⟩
    exact ⟨body, used, hbody, (congrArg Invocation.attributes hi).symm, hrequest⟩
  · rintro ⟨body, used, hbody, hlabel, hrequest⟩
    exact ⟨body, used, hbody, by rw [hlabel], hrequest⟩

namespace StandsFor

theorem header (h : i.StandsFor request) : request.header = i.header := by
  obtain ⟨_, _, _, _, rfl⟩ := standsFor_iff.mp h
  rfl

theorem attributes (h : i.StandsFor request) : request.header.attributes = i.attributes := by
  rw [h.header]
  rfl

/-- Once it is encoded the call stands for its request. -/
theorem of_encode (h : i.encode = .ok (request, labelled)) : labelled.StandsFor request := by
  obtain ⟨body, used, hbody, rfl, hrequest⟩ := encode_eq_ok_iff.mp h
  exact standsFor_iff.mpr ⟨body, used, hbody, CodecOptions.label_label .., hrequest⟩

/-- The addresses of the call have no say in what it stands for. -/
theorem of_asMade (h : i.StandsFor request) (hasMade : j.asMade = i.asMade)
    (hattributes : j.attributes = i.attributes) : j.StandsFor request := by
  obtain ⟨body, used, hbody, hlabel, hrequest⟩ := standsFor_iff.mp h
  have hmethod := method_of_asMade hasMade
  have hheader : j.header = i.header := by
    simp only [Invocation.header, timeoutMillis, service_of_asMade hasMade, hmethod, hattributes]
  refine standsFor_iff.mpr ⟨body, used, ?_, ?_, ?_⟩
  · rw [hmethod, parameter_of_asMade hasMade]
    exact hbody
  · rw [hmethod, hattributes]
    exact hlabel
  · rw [hheader]
    exact hrequest

end StandsFor

end Invocation

/-- The request with another deadline. -/
def Request.stamped (request : Request) (deadline : Nat) : Request :=
  { request with header := { request.header with
      attributes := Deadline.stamped request.header.attributes request.header.timeoutMillis
        deadline } }

/-- A stamp on the call is a stamp on the request that it stands for. -/
theorem Invocation.StandsFor.label {i : Invocation} {request : Request} (h : i.StandsFor request)
    (deadline : Nat) : (Deadline.label i deadline).StandsFor (request.stamped deadline) := by
  obtain ⟨body, used, hbody, hlabel, rfl⟩ := standsFor_iff.mp h
  refine standsFor_iff.mpr ⟨body, used, hbody, ?_, rfl⟩
  rw [Deadline.label_eq, CodecOptions.label_stamped, hlabel]

/-! ## From one request to the next -/

/-- How the request of a cycle follows from that of the one before. -/
inductive Request.Renewed (request : Request) : Option (Reading ω) → Request → Prop where
  /-- Without a deadline it is the same one. -/
  | kept (absent : request.header.attributes.contains deadlineKey = false) :
    Renewed request none request
  | stamped {r : Reading ω} {deadline : Nat}
    (present : request.header.attributes.contains deadlineKey = true)
    (timely : r.deadline? = some deadline) :
    Renewed request (some r) (request.stamped deadline)

namespace Surroundings

open Run

variable {s : Surroundings ω} {call : Invocation} {P : Scene ω → Prop}

/-- What the addresses of a call have no say in survives in discreet surroundings. -/
theorem Discreet.maintains (hs : s.Discreet) {Q : Invocation → Prop}
    (hQ : ∀ i j, Q i → j.asMade = i.asMade → j.attributes = i.attributes → Q j) :
    s.Maintains fun scene => Q scene.invocation := by
  have hkeeps : ∀ {α : Type} {piece : Run ω α},
      (∀ call attributes, piece.Keeps fun scene =>
        scene.invocation.asMade = call ∧ scene.invocation.attributes = attributes) →
      piece.Keeps fun scene => Q scene.invocation := by
    intro α piece hpiece scene hscene
    obtain ⟨value, after, hrun, hasMade, hattributes⟩ := hpiece _ _ scene ⟨rfl, rfl⟩
    exact ⟨value, after, hrun, hQ _ _ hscene hasMade hattributes⟩
  exact
    { locate := fun exclusions => hkeeps fun call attributes => (hs call attributes).locate _
      send := fun node request => hkeeps fun call attributes => (hs call attributes).send _ _
      feedback := fun node outcome elapsed =>
        hkeeps fun call attributes => (hs call attributes).feedback _ _ _
      clock := hkeeps fun call attributes => (hs call attributes).clock
      stopwatch := hkeeps fun call attributes => (hs call attributes).stopwatch }

theorem Discreet.orderly (hs : s.Discreet) : s.Orderly := fun _ =>
  hs.maintains fun _ _ hi hasMade _ => hasMade.trans hi

/-- Besides what is invariant, what the addresses have no say in holds all along a cycle. -/
theorem Invariant.steady_and (hP : s.Invariant call P) (hs : s.Discreet) {Q : Invocation → Prop}
    (hQ : ∀ i j, Q i → j.asMade = i.asMade → j.attributes = i.attributes → Q j) :
    s.Steady call fun scene => P scene ∧ Q scene.invocation where
  toMaintains := hP.toMaintains.and (hs.maintains hQ)
  asMade scene h := hP.asMade scene h.1
  readdress scene _ h := ⟨hP.relabel scene _ h.1 rfl, hQ _ _ h.2 rfl rfl⟩

/-- **A call stands for the request of the cycle that it is in**, and the requests of the cycles
follow from each other. -/
theorem Invariant.follows_requests (hP : s.Invariant call P) (hs : s.Discreet) :
    s.Follows call (fun request scene => P scene ∧ scene.invocation.StandsFor request)
      Request.Renewed := by
  have hsteady : ∀ request,
      s.Steady call fun scene => P scene ∧ scene.invocation.StandsFor request := fun _ =>
    hP.steady_and hs fun _ _ => Invocation.StandsFor.of_asMade
  refine ⟨hsteady, fun request scene hrequest h => ?_⟩
  rcases renew_logs (hsteady request) request h with
    ⟨habsent, hkept⟩ | ⟨hpresent, r, hr, ⟨hlate, hlogs⟩ | ⟨deadline, hdeadline, hlogs⟩⟩
  · rw [← h.2.attributes] at habsent
    exact ⟨none, _, scene, .next (fun _ h => nomatch h) hrequest (.kept habsent) h, hkept⟩
  · exact ⟨some r, _, r.scene, .expired hr hlate hr, hlogs⟩
  · rw [← h.2.attributes] at hpresent
    let stamped := Deadline.label r.scene.invocation deadline
    have hstands : stamped.StandsFor (request.stamped deadline) := hr.2.label deadline
    have hasMade : stamped.asMade = call.asMade := hP.asMade r.scene hr.1
    refine ⟨some r, _, _, .next ?_ ⟨stamped, stamped, hasMade, hstands⟩
      (.stamped hpresent hdeadline) ⟨hP.relabel r.scene stamped hr.1 rfl, hstands⟩,
      hlogs _ stamped hstands⟩
    rintro _ ⟨⟩
    exact ⟨hr, Reading.not_late hdeadline⟩

end Surroundings

/-! ## What all requests of a call share -/

/-- The attributes went over into others without losing any, and nothing but the time that is left
was written anew. -/
def Attributes.Refreshed (before after : Attributes) : Prop :=
  ∀ key, after[key]? = before[key]? ∨
    (key = timeoutKey ∨ key = deadlineKey) ∧ after[key]?.isSome = true

namespace Attributes.Refreshed

variable {first second third : Attributes}

theorem refl (attributes : Attributes) : attributes.Refreshed attributes := fun _ => .inl rfl

theorem trans (h : first.Refreshed second) (h' : second.Refreshed third) :
    first.Refreshed third := by
  intro key
  rcases h' key with hsame | hnew
  · rw [hsame]
    exact h key
  · exact .inr hnew

theorem stamped (attributes : Attributes) (timeoutMillis : Int64) (deadline : Nat) :
    attributes.Refreshed (Deadline.stamped attributes timeoutMillis deadline) := by
  intro key
  rw [Deadline.getElem?_stamped]
  split
  · next h => exact .inr ⟨.inr h, rfl⟩
  · split
    · next h => exact .inr ⟨.inl h, rfl⟩
    · exact .inl rfl

/-- Attributes that are all the same come before any that they go over into. -/
theorem pairwise_append {same others : List Attributes} (hsame : ∀ a ∈ same, a = first)
    (hothers : (first :: others).Pairwise Attributes.Refreshed) :
    (same ++ others).Pairwise Attributes.Refreshed := by
  obtain ⟨hfirst, hpairwise⟩ := List.pairwise_cons.mp hothers
  refine List.pairwise_append.mpr ⟨?_, hpairwise, fun a ha b hb => ?_⟩
  · refine List.pairwise_of_forall_mem_list fun a ha b hb => ?_
    rw [hsame a ha, hsame b hb]
    exact refl first
  · rw [hsame a ha]
    exact hfirst b hb

end Attributes.Refreshed

/-- The two requests are of the same call, at different times. -/
structure Request.Resends (request other : Request) : Prop where
  body : other.body = request.body
  service : other.header.service = request.header.service
  method : other.header.method = request.header.method
  consumer : other.header.consumer = request.header.consumer
  provider : other.header.provider = request.header.provider
  timeoutMillis : other.header.timeoutMillis = request.header.timeoutMillis
  attributes : ∀ key, key ≠ timeoutKey → key ≠ deadlineKey →
    other.header.attributes[key]? = request.header.attributes[key]?

namespace Request.Resends

variable {first second third : Request}

theorem refl (request : Request) : request.Resends request :=
  ⟨rfl, rfl, rfl, rfl, rfl, rfl, fun _ _ _ => rfl⟩

theorem symm (h : first.Resends second) : second.Resends first :=
  ⟨h.body.symm, h.service.symm, h.method.symm, h.consumer.symm, h.provider.symm,
    h.timeoutMillis.symm, fun key ht hd => (h.attributes key ht hd).symm⟩

theorem trans (h : first.Resends second) (h' : second.Resends third) : first.Resends third :=
  ⟨h'.body.trans h.body, h'.service.trans h.service, h'.method.trans h.method,
    h'.consumer.trans h.consumer, h'.provider.trans h.provider,
    h'.timeoutMillis.trans h.timeoutMillis,
    fun key ht hd => (h'.attributes key ht hd).trans (h.attributes key ht hd)⟩

theorem stamped (request : Request) (deadline : Nat) :
    request.Resends (request.stamped deadline) := by
  refine ⟨rfl, rfl, rfl, rfl, rfl, rfl, fun key ht hd => ?_⟩
  simp only [Request.stamped, Deadline.getElem?_stamped, if_neg ht, if_neg hd]

end Request.Resends

namespace Request.Renewed

variable {request next : Request} {reading : Option (Reading ω)}

theorem resends (h : request.Renewed reading next) : request.Resends next := by
  cases h with
  | kept => exact .refl request
  | stamped => exact .stamped request _

theorem refreshed (h : request.Renewed reading next) :
    request.header.attributes.Refreshed next.header.attributes := by
  cases h with
  | kept => exact .refl _
  | stamped => exact .stamped _ _ _

theorem eq_of_absent (h : request.Renewed reading next)
    (absent : request.header.attributes.contains deadlineKey = false) : next = request := by
  cases h with
  | kept => rfl
  | stamped present =>
    rw [absent] at present
    cases present

end Request.Renewed

namespace Story.Carried

variable {K : Request → Scene ω → Prop} {R : Request → Option (Reading ω) → Request → Prop}
  {first last : Request} {story : Story ω}

/-- What carries over from each request to the next holds between the first one and all others. -/
theorem requests_of_mem {S : Request → Request → Prop} (refl : ∀ q, S q q)
    (trans : ∀ {p q r}, S p q → S q r → S p r)
    (step : ∀ {request reading next}, R request reading next → S request next)
    (h : Story.Carried K R first story last) :
    ∀ c ∈ story, ∃ request, S first request ∧ c.Carries K request := by
  induction h with
  | last cycle => exact List.forall_mem_singleton.mpr ⟨_, refl _, cycle⟩
  | again cycle renewed _ ih =>
    refine List.forall_mem_cons.mpr ⟨⟨_, refl _, cycle⟩, fun c hc => ?_⟩
    obtain ⟨request, hrequest, hcycle⟩ := ih c hc
    exact ⟨request, trans (step renewed) hrequest, hcycle⟩

/-- Without a deadline all cycles were run with the first request. -/
theorem carries_of_absent (h : Story.Carried K Request.Renewed first story last)
    (absent : first.header.attributes.contains deadlineKey = false) :
    ∀ c ∈ story, c.Carries K first := by
  induction h with
  | last cycle => exact List.forall_mem_singleton.mpr cycle
  | again cycle renewed _ ih =>
    obtain rfl := renewed.eq_of_absent absent
    exact List.forall_mem_cons.mpr ⟨cycle, ih absent⟩

/-- All along a call the attributes go over into those of later on. -/
theorem refreshed (hK : ∀ request scene, K request scene →
      scene.invocation.attributes = request.header.attributes)
    (h : Story.Carried K Request.Renewed first story last) :
    (first.header.attributes :: (story.events.map (fun e => e.scene.invocation.attributes) ++
      [last.header.attributes])).Pairwise Attributes.Refreshed := by
  have hcycle : ∀ {c : Cycle ω} {request : Request}, c.Carries K request →
      ∀ attributes ∈ request.header.attributes :: c.events.map fun e =>
        e.scene.invocation.attributes, attributes = request.header.attributes := by
    intro c request hc
    refine List.forall_mem_cons.mpr ⟨rfl, List.forall_mem_map.mpr fun e he => ?_⟩
    exact hK request e.scene (hc.scenes e he)
  induction h with
  | @last request c cycle =>
    have hevents : Story.events [c] = c.events := List.append_nil _
    rw [hevents]
    refine Attributes.Refreshed.pairwise_append (hcycle cycle) ?_
    simpa using Attributes.Refreshed.refl request.header.attributes
  | @again request next last c story cycle renewed _ ih =>
    have hevents : Story.events (c :: story) = c.events ++ Story.events story := rfl
    rw [hevents, List.map_append, List.append_assoc]
    refine Attributes.Refreshed.pairwise_append (hcycle cycle) ?_
    obtain ⟨hnext, hpairwise⟩ := List.pairwise_cons.mp ih
    exact List.pairwise_cons.mpr ⟨fun b hb => renewed.refreshed.trans (hnext b hb), hpairwise⟩

end Story.Carried

/-! ## Going on -/

/-- A call with `allowed` cycles goes on after each one that timed out, as long as there may be
another one and the inherited deadline has not passed. -/
def Story.GoesOn (call : Invocation) (allowed : Nat) (story : Story ω) (outcome : Outcome) : Prop :=
  ∀ k c, story[k]? = some c → c.TimedOut → k + 1 < allowed →
    k + 1 < story.length ∨
      ∃ r, c.reading = some r ∧ r.Late ∧ outcome = .error (Deadline.exceeded call)

variable {s : Surroundings ω} {call : Invocation} {P : Scene ω → Prop}

theorem Cycle.Tried.isTimeout {c : Cycle ω} {outcome : Outcome} (h : c.Tried s call P outcome)
    (timedOut : c.TimedOut) : ∃ e, outcome = .error e ∧ e.isTimeout = true := by
  obtain ⟨request, htries⟩ := h
  obtain ⟨-, a, ha, ht⟩ := timedOut
  rcases htries.ended with ⟨hrefused, -, -⟩ | ⟨-, b, hb, -, hgenuine, rfl⟩
  · have hreached := Attempt.refused_of_timedOut ht
    rw [hrefused a (List.mem_of_getLast? ha)] at hreached
    cases hreached
  · rw [hb, Option.some.injEq] at ha
    subst ha
    exact (Attempt.timedOut_iff hgenuine.outcome).mp ht

theorem Unfolds.goesOn {more : Nat} {story : Story ω} {outcome : Outcome}
    (h : Unfolds s call P more story outcome) : story.GoesOn call (more + 1) outcome := by
  induction h with
  | settled tried _ final =>
    intro k c hc htimedOut hk
    obtain ⟨rfl, rfl⟩ : k = 0 ∧ _ = c := by simpa [List.getElem?_singleton] using hc
    obtain ⟨e, houtcome, he⟩ := tried.isTimeout htimedOut
    rcases final with hmore | hfinal
    · omega
    · rw [hfinal e houtcome] at he
      cases he
  | expired _ _ reading _ late =>
    intro k c hc _ _
    obtain ⟨rfl, rfl⟩ : k = 0 ∧ _ = c := by simpa [List.getElem?_singleton] using hc
    exact .inr ⟨_, reading, late, rfl⟩
  | @again more c e story outcome _ _ _ rest ih =>
    intro k c' hc htimedOut hk
    rw [List.length_cons]
    cases k with
    | zero =>
      have hpos := List.length_pos_iff.mpr rest.ne_nil
      exact .inl (by omega)
    | succ k =>
      rw [List.getElem?_cons_succ] at hc
      exact (ih k c' hc htimedOut (by omega)).imp_left fun hlt => by omega

/-! ## The same call -/

/-- Encoding sets the labels and leaves all other attributes alone. -/
theorem Invocation.getElem?_of_encode {i labelled : Invocation} {request : Request}
    (h : i.encode = .ok (request, labelled)) {key : String} (hserializer : key ≠ serializerKey)
    (hcompressor : key ≠ compressorKey) :
    request.header.attributes[key]? = i.attributes[key]? := by
  obtain ⟨body, used, -, rfl, rfl⟩ := encode_eq_ok_iff.mp h
  simp only [Invocation.header, CodecOptions.getElem?_label, if_neg hserializer, if_neg hcompressor]

theorem Invocation.contains_deadline_of_encode {i labelled : Invocation} {request : Request}
    (h : i.encode = .ok (request, labelled)) :
    request.header.attributes.contains deadlineKey = i.attributes.contains deadlineKey := by
  rw [Std.ExtTreeMap.contains_eq_isSome_getElem?, Std.ExtTreeMap.contains_eq_isSome_getElem?,
    getElem?_of_encode h (by decide) (by decide)]

/-- **Retries resend the same call.** In discreet surroundings all requests of a cycle are equal.
All requests of the call have the same body, service, method, consumer, provider and timeout, and
the same attributes but for the two that a stamp writes. They are all equal if the call came
without a deadline. Once it has been encoded it follows the rules: it can be encoded at any time, to
the request of the cycle that it is in, and goes on after every cycle that timed out if only the
budget and the inherited deadline allow it. From then on no attribute is lost, and only those two
ever change. -/
theorem failover_resends_the_call (hs : s.Discreet) (scene : Scene ω) :
    ∃ (outcome : Outcome) (after : Scene ω) (story : Story ω),
      s.failover scene = (.done outcome, after) ∧ s.record scene = story.events ∧
      (∀ c ∈ story, ∀ a ∈ c.attempts, ∀ b ∈ c.attempts, a.request = b.request) ∧
      (∀ a ∈ story.attempts, ∀ b ∈ story.attempts, a.request.Resends b.request) ∧
      (scene.invocation.attributes.contains deadlineKey = false →
        ∀ a ∈ story.attempts, ∀ b ∈ story.attempts, a.request = b.request) ∧
      ∀ first labelled, scene.invocation.encode = .ok (first, labelled) →
        Unfolds s scene.invocation (fun now => now.invocation.asMade = scene.invocation.asMade)
          (scene.invocation.method.timeoutRetry.toNat - 1) story outcome ∧
        (∀ c ∈ story, ∃ request, first.Resends request ∧
          (∀ a ∈ c.attempts, a.request = request) ∧
          ∀ e ∈ c.events, e.scene.invocation.encode = .ok (request, e.scene.invocation)) ∧
        story.GoesOn scene.invocation scene.invocation.method.timeoutRetry.toNat outcome ∧
        (labelled.attributes :: (story.events.map (fun e => e.scene.invocation.attributes) ++
          [after.invocation.attributes])).Pairwise Attributes.Refreshed := by
  cases he : scene.invocation.encode with
  | error fault =>
    have hlogs := failover_logs_of_encode_error (s := s) he
    exact ⟨_, _, [], hlogs.plain, record_of_logs hlogs, by simp, by simp, by simp,
      fun _ _ h => nomatch h⟩
  | ok pair =>
    obtain ⟨first, labelled⟩ := pair
    have hP := hs.orderly.invariant scene.invocation
    obtain ⟨story, outcome, after, last, hunfolds, hcarried, hafter, hlogs⟩ :=
      failover_carry (hP.follows_requests hs) (fun _ _ h => h.1) he ⟨_, _, rfl, he⟩
        ⟨Invocation.asMade_of_encode he, .of_encode he⟩
    have hcycles := hcarried.requests_of_mem Request.Resends.refl Request.Resends.trans
      Request.Renewed.resends
    have hattempts : ∀ a ∈ story.attempts, first.Resends a.request := by
      intro a ha
      obtain ⟨c, hc, hac⟩ := List.mem_flatMap.mp ha
      obtain ⟨request, hrequest, hcarries⟩ := hcycles c hc
      rwa [hcarries.requests a hac]
    refine ⟨outcome, after, story, hlogs.plain, record_of_logs hlogs, ?_, ?_, ?_, ?_⟩
    · intro c hc a ha b hb
      obtain ⟨request, -, hcarries⟩ := hcycles c hc
      rw [hcarries.requests a ha, hcarries.requests b hb]
    · exact fun a ha b hb => (hattempts a ha).symm.trans (hattempts b hb)
    · intro habsent
      rw [← Invocation.contains_deadline_of_encode he] at habsent
      have hfirst : ∀ a ∈ story.attempts, a.request = first := by
        intro a ha
        obtain ⟨c, hc, hac⟩ := List.mem_flatMap.mp ha
        exact (hcarried.carries_of_absent habsent c hc).requests a hac
      exact fun a ha b hb => (hfirst a ha).trans (hfirst b hb).symm
    · rintro _ _ ⟨⟩
      refine ⟨hunfolds, fun c hc => ?_, ?_, ?_⟩
      · obtain ⟨request, hrequest, hcarries⟩ := hcycles c hc
        exact ⟨request, hrequest, hcarries.requests, fun e he => (hcarries.scenes e he).2⟩
      · intro k c hc htimedOut hk
        exact hunfolds.goesOn k c hc htimedOut (by omega)
      · have hpairwise := hcarried.refreshed fun request scene h => h.2.attributes.symm
        have hlabelled := Invocation.StandsFor.of_encode he
        rwa [← hafter.2.attributes, ← hlabelled.attributes]

/-- A call with a deadline, through a link to two instances. The first of them refuses and the
second comes too late, so it is stamped and encoded anew. -/
theorem overdue_greeting_resends_the_call :
    let network := Script.linked [.error (.connect "refused"), .error (.timeout "too late")]
    let s := (Script.client network).surroundings (some 0)
    let greeting := Script.greeting 2 3 network
    let scene := { greeting with
      invocation := greeting.invocation.setAttribute deadlineKey "3000" }
    s.Discreet ∧ ∃ (outcome : Outcome) (after : Scene _) (story : Story _),
      s.failover scene = (.done outcome, after) ∧ s.record scene = story.events ∧
      (∀ a ∈ story.attempts, ∀ b ∈ story.attempts, a.request.Resends b.request) ∧
      story.GoesOn scene.invocation 3 outcome := by
  intro network s greeting scene
  have hs : s.Discreet := Script.discreet network (some 0)
  obtain ⟨outcome, after, story, hrun, hrecord, -, hresends, -, hencoded⟩ :=
    failover_resends_the_call hs scene
  have hok : scene.invocation.encode.isOk = true := rfl
  obtain ⟨first, labelled, he⟩ := Invocation.encode_of_isOk hok
  obtain ⟨-, -, hgoesOn, -⟩ := hencoded first labelled he
  exact ⟨hs, outcome, after, story, hrun, hrecord, hresends, hgoesOn⟩

end RemoteCall
