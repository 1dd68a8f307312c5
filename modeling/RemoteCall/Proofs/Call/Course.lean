/-
The course of a call, rule by rule.

* `Tries` — how a connect cycle goes: one rule for each way in which an attempt or
  the cycle can end.
* `Unfolds` — how a whole call goes, cycle by cycle.
* `Story.Carried` — with which requests its cycles were run, and how each of these
  follows from the one before.
* `failover_carry` — a call whose first request is encoded comes to an end, and its
  record is that of a story which unfolds by these rules; its requests follow from each
  other as `Surroundings.Follows` says.
* `failover_unfolds` — the same where nothing is asked of the requests.

What holds of every call is proved of the rules, by induction over them. Only this
file looks into the retry loops. It carries what is known of the scene along: an
invariant `P` all along the call, so that what is known of the outside at the start is
known at every look-up, or a property `K request` all along the cycles of one request.
-/
import RemoteCall.Proofs.Call.Attempt
import RemoteCall.Proofs.Codec.RoundTrip

namespace RemoteCall

variable {ω α : Type}

/-! ## What stays of a call -/

/-- The call as it was made, without attributes and addresses. -/
def Invocation.asMade (i : Invocation) : Invocation :=
  .ofMethod i.service i.method i.parameter i.context

namespace Invocation

variable {i j : Invocation}

theorem service_of_asMade (h : i.asMade = j.asMade) : i.service = j.service := by
  have hf := congrArg Invocation.service h
  exact hf

theorem method_of_asMade (h : i.asMade = j.asMade) : i.method = j.method := by
  have hf := congrArg Invocation.method h
  exact hf

theorem parameter_of_asMade (h : i.asMade = j.asMade) : i.parameter = j.parameter := by
  have hf := congrArg Invocation.parameter h
  exact hf

/-- Encoding goes by what was fixed when the call was made; the attributes have no say in
whether it succeeds. -/
theorem encode_eq (i : Invocation) :
    i.encode = (i.method.codec.writeBody i.parameter >>= i.method.codec.compressBody).map
      fun (body, used) =>
        let labelled :=
          { i with attributes := i.method.codec.label used i.attributes }
        ({ header := labelled.header, body := body }, labelled) := by
  rw [encode, CodecOptions.encode_eq]
  cases i.method.codec.writeBody i.parameter >>= i.method.codec.compressBody <;> rfl

theorem encode_isOk_of_asMade (h : i.asMade = j.asMade) :
    i.encode.isOk = j.encode.isOk := by
  rw [encode_eq, encode_eq, method_of_asMade h, parameter_of_asMade h]
  cases j.method.codec.writeBody j.parameter >>= j.method.codec.compressBody <;> rfl

/-- Encoding changes nothing but attributes. -/
theorem asMade_of_encode {request : Request} {labelled : Invocation}
    (h : i.encode = .ok (request, labelled)) : labelled.asMade = i.asMade := by
  rw [encode_eq] at h
  cases hb : i.method.codec.writeBody i.parameter >>= i.method.codec.compressBody with
  | error e => simp [hb, Except.map] at h
  | ok pair =>
    simp only [hb, Except.map, Except.ok.injEq, Prod.mk.injEq] at h
    rw [← h.2]
    rfl

/-- The request is an encoding of the call, with whatever attributes it had by then. -/
def Encodes (call : Invocation) (request : Request) : Prop :=
  ∃ i labelled : Invocation, i.asMade = call.asMade ∧ i.encode = .ok (request, labelled)

end Invocation

/-! ## Invariants -/

/-- From every scene with the property the piece ends with a value, in a scene with the
property. -/
def Run.Keeps (piece : Run ω α) (P : Scene ω → Prop) : Prop :=
  ∀ scene, P scene → ∃ value after, piece scene = (.done value, after) ∧ P after

namespace Surroundings

/-- The surroundings answer whatever they are asked, and a property of the scene survives. -/
structure Maintains (s : Surroundings ω) (P : Scene ω → Prop) : Prop where
  locate : ∀ exclusions, (s.locate exclusions).Keeps P
  send : ∀ node request, (s.send node request).Keeps P
  feedback : ∀ node outcome elapsed, (s.feedback node outcome elapsed).Keeps P
  clock : s.clock.Keeps P
  stopwatch : s.stopwatch.Keeps P

/-- The surroundings answer whatever they are asked. Of the call they change nothing but its
attributes and addresses. -/
def Orderly (s : Surroundings ω) : Prop :=
  ∀ call, s.Maintains fun scene => scene.invocation.asMade = call

/-- The surroundings answer whatever they are asked. Of the call they change nothing but its
addresses. -/
def Discreet (s : Surroundings ω) : Prop :=
  ∀ call attributes, s.Maintains fun scene =>
    scene.invocation.asMade = call ∧ scene.invocation.attributes = attributes

/-- A property that holds all along a call: the surroundings maintain it, it tells which call
it is, and attributes and addresses do not matter for it. -/
structure Invariant (s : Surroundings ω) (call : Invocation) (P : Scene ω → Prop) : Prop
    extends s.Maintains P where
  asMade : ∀ scene, P scene → scene.invocation.asMade = call.asMade
  relabel : ∀ scene invocation, P scene → invocation.asMade = scene.invocation.asMade →
    P { scene with invocation := invocation }

/-- A property that holds all along a connect cycle: the surroundings maintain it, it tells which
call it is, and the instance that the call is addressed to does not matter for it. -/
structure Steady (s : Surroundings ω) (call : Invocation) (P : Scene ω → Prop) : Prop
    extends s.Maintains P where
  asMade : ∀ scene, P scene → scene.invocation.asMade = call.asMade
  readdress : ∀ scene address, P scene →
    P { scene with invocation := { scene.invocation with remoteAddress := some address } }

theorem Invariant.steady {s : Surroundings ω} {call : Invocation} {P : Scene ω → Prop}
    (h : s.Invariant call P) : s.Steady call P where
  toMaintains := h.toMaintains
  asMade := h.asMade
  readdress scene _ hscene := h.relabel scene _ hscene rfl

theorem Orderly.invariant {s : Surroundings ω} (hs : s.Orderly) (call : Invocation) :
    s.Invariant call fun scene => scene.invocation.asMade = call.asMade where
  toMaintains := hs call.asMade
  asMade _ h := h
  relabel _ _ h hi := hi.trans h

end Surroundings

/-! ## The rules -/

/-- The attempt is one that the surroundings made possible. -/
structure Attempt.Genuine (s : Surroundings ω) (call : Invocation) (P : Scene ω → Prop)
    (request : Request) (a : Attempt ω) : Prop where
  lookup : P a.lookup.scene
  located : (s.locate a.lookup.exclusions a.lookup.scene).1 = .done (some a.node)
  start : P a.start
  /-- Between addressing the call and the send only the stopwatch is read. -/
  addressed : ∃ scene, scene.invocation.remoteAddress = some a.node.address ∧
    (s.stopwatch scene).2 = a.start
  request : a.request = request
  encodes : call.Encodes a.request
  answer : (s.send a.node a.request a.start).1 = .done a.answer
  finish : P a.finish
  outcome : a.outcome = s.outcome call a.node a.answer

open Surroundings (unreachable)

/-- How a connect cycle goes on when `failed` could not be reached so far, for the reason
`last` in the end: the further attempts, a fruitless look-up, and the outcome. -/
inductive Tries (s : Surroundings ω) (call : Invocation) (P : Scene ω → Prop)
    (request : Request) : Nat → List ServiceInstance → Option CallError →
    List (Attempt ω) → Option (Lookup ω) → Outcome → Prop where
  /-- The budget is used up. -/
  | spent {failed : List ServiceInstance} {last : Option CallError} :
    Tries s call P request 0 failed last [] none (.error (unreachable call failed last))
  /-- There is no candidate left. -/
  | starved {budget : Nat} {last : Option CallError} {l : Lookup ω} (lookup : P l.scene)
    (located : (s.locate l.exclusions l.scene).1 = .done none) :
    Tries s call P request (budget + 1) l.exclusions last [] (some l)
      (.error (unreachable call l.exclusions last))
  /-- The instance could not be reached. -/
  | refused {budget : Nat} {last : Option CallError} {a : Attempt ω} {message : String}
    {attempts : List (Attempt ω)} {fruitless : Option (Lookup ω)} {outcome : Outcome}
    (genuine : a.Genuine s call P request) (answer : a.answer = .error (.connect message))
    (rest : Tries s call P request budget (a.lookup.exclusions ++ [a.node])
      (some (.connect a.node.address message)) attempts fruitless outcome) :
    Tries s call P request (budget + 1) a.lookup.exclusions last (a :: attempts) fruitless outcome
  /-- The send came to something else, which is the end of the cycle. -/
  | settled {budget : Nat} {last : Option CallError} {a : Attempt ω}
    (genuine : a.Genuine s call P request) (reached : a.refused = false) :
    Tries s call P request (budget + 1) a.lookup.exclusions last [a] none a.outcome

/-- A whole cycle of the call, with its outcome. -/
def Cycle.Tried (s : Surroundings ω) (call : Invocation) (P : Scene ω → Prop) (c : Cycle ω)
    (outcome : Outcome) : Prop :=
  ∃ request, Tries s call P request call.method.connectRetry.toNat [] none c.attempts
    c.fruitless outcome

/-- How a call goes when it may run `more` further cycles after the one to come. -/
inductive Unfolds (s : Surroundings ω) (call : Invocation) (P : Scene ω → Prop) :
    Nat → Story ω → Outcome → Prop where
  /-- The cycle is the last one, whatever it came to or because of that. -/
  | settled {more : Nat} {c : Cycle ω} {outcome : Outcome} (tried : c.Tried s call P outcome)
    (reading : c.reading = none)
    (final : more = 0 ∨ ∀ e, outcome = .error e → e.isTimeout = false) :
    Unfolds s call P more [c] outcome
  /-- The cycle timed out, but the inherited deadline has passed by now. -/
  | expired {more : Nat} {c : Cycle ω} {e : CallError} {r : Reading ω}
    (tried : c.Tried s call P (.error e)) (timeout : e.isTimeout = true)
    (reading : c.reading = some r) (scene : P r.scene) (late : r.Late) :
    Unfolds s call P (more + 1) [c] (.error (Deadline.exceeded call))
  /-- The cycle timed out, and there is another one. -/
  | again {more : Nat} {c : Cycle ω} {e : CallError} {story : Story ω} {outcome : Outcome}
    (tried : c.Tried s call P (.error e)) (timeout : e.isTimeout = true)
    (reading : ∀ r, c.reading = some r → P r.scene ∧ ¬ r.Late)
    (rest : Unfolds s call P more story outcome) :
    Unfolds s call P (more + 1) (c :: story) outcome

/-! ## The program follows the rules -/

open Run

variable {s : Surroundings ω} {call : Invocation} {P : Scene ω → Prop}

theorem unreachable_of_asMade {i j : Invocation} (h : i.asMade = j.asMade)
    (failed : List ServiceInstance) (last : Option CallError) :
    unreachable i failed last = unreachable j failed last := by
  simp only [unreachable, Invocation.service_of_asMade h]

theorem outcome_of_asMade (s : Surroundings ω) {i j : Invocation} (h : i.asMade = j.asMade)
    (node : ServiceInstance) (answer : Except TransportError Response) :
    s.outcome i node answer = s.outcome j node answer := by
  unfold Surroundings.outcome
  rw [Invocation.method_of_asMade h]

theorem attempt_logs (hP : s.Steady call P) {request : Request}
    (hrequest : call.Encodes request) {l : Lookup ω} {node : ServiceInstance} {scene : Scene ω}
    (hl : P l.scene) (located : s.locate l.exclusions l.scene = (.done (some node), scene))
    (h : P scene) :
    ∃ (a : Attempt ω) (after : Scene ω), a.Genuine s call P request ∧ a.lookup = l ∧
      a.node = node ∧ P after ∧
      Logs (s.attempt request node) (s.recorded.attempt request node) scene a.outcome
        a.exchange after := by
  have hset : P { scene with
      invocation := { scene.invocation with remoteAddress := some node.address } } :=
    hP.readdress scene _ h
  obtain ⟨began, start, hbegan, hstart⟩ := hP.stopwatch _ hset
  obtain ⟨answer, sent, hsend, hsent⟩ := hP.send node request start hstart
  obtain ⟨ended, finish, hended, hfinish⟩ := hP.stopwatch sent hsent
  obtain ⟨_, after, hfeedback, hafter⟩ := hP.feedback node
    (s.outcome finish.invocation node answer) ⟨ended - began⟩ finish hfinish
  refine ⟨⟨l, node, start, request, answer, finish, s.outcome finish.invocation node answer,
    ⟨ended - began⟩⟩, after, ?_, rfl, rfl, hafter, ?_⟩
  · have houtcome := outcome_of_asMade s (hP.asMade finish hfinish) node answer
    exact ⟨hl, by rw [located], hstart, ⟨_, rfl, by rw [hbegan]⟩, rfl, hrequest,
      by rw [hsend], hfinish, houtcome⟩
  · refine Logs.quietly (Logs.changeInvocation _ scene) ?_
    refine Logs.quietly (Logs.stopwatch hbegan) ?_
    refine Logs.noting (Logs.send hsend) ?_
    refine Logs.quietly (Logs.stopwatch hended) ?_
    refine Logs.quietly (Logs.invocation finish) ?_
    exact Logs.noting (Logs.feedback hfeedback) (Logs.pure _ after)

theorem connectCycle_logs (hP : s.Steady call P) {request : Request}
    (hrequest : call.Encodes request) (budget : Nat) :
    ∀ (failed : List ServiceInstance) (last : Option CallError) (scene : Scene ω), P scene →
      ∃ attempts fruitless outcome after,
        Tries s call P request budget failed last attempts fruitless outcome ∧ P after ∧
        Logs (s.connectCycle request budget failed last)
          (s.recorded.connectCycle request budget failed last) scene outcome
          (tries attempts fruitless) after := by
  -- What was refused so far, the reason and the scene are new after every refusal.
  induction budget with
  | zero =>
    intro failed last scene h
    refine ⟨[], none, _, scene, .spent, h, ?_⟩
    rw [← unreachable_of_asMade (hP.asMade scene h)]
    exact Logs.quietly (Logs.invocation scene) (Logs.pure _ scene)
  | succ budget ih =>
    intro failed last scene h
    obtain ⟨picked, found, hlocate, hfound⟩ := hP.locate failed scene h
    cases picked with
    | none =>
      have hnone : (s.locate failed scene).1 = .done none := by rw [hlocate]
      refine ⟨[], some ⟨scene, failed⟩, _, found,
        .starved (l := ⟨scene, failed⟩) h hnone, hfound, ?_⟩
      rw [← unreachable_of_asMade (hP.asMade found hfound)]
      refine Logs.noting (Logs.locate hlocate) ?_
      exact Logs.quietly (Logs.invocation found) (Logs.pure _ found)
    | some node =>
      obtain ⟨a, settled, hgenuine, hlookup, rfl, hsettled, hattempt⟩ :=
        attempt_logs hP hrequest (l := ⟨scene, failed⟩) h hlocate hfound
      obtain rfl : a.lookup.exclusions = failed := by rw [hlookup]
      cases hr : a.refused with
      | true =>
        obtain ⟨message, hanswer, houtcome⟩ := Attempt.outcome_of_refused hgenuine.outcome hr
        obtain ⟨attempts, fruitless, outcome, after, htries, hafter, hrest⟩ :=
          ih (a.lookup.exclusions ++ [a.node]) (some (.connect a.node.address message)) settled
            hsettled
        refine ⟨a :: attempts, fruitless, outcome, after, .refused hgenuine hanswer htries,
          hafter, ?_⟩
        rw [houtcome] at hattempt
        rw [tries_cons, hlookup]
        exact Logs.noting (Logs.locate hlocate) (Logs.bind hattempt hrest)
      | false =>
        refine ⟨[a], none, a.outcome, settled, .settled hgenuine hr, hsettled, ?_⟩
        rw [tries_cons, hlookup]
        refine Logs.noting (Logs.locate hlocate) (Logs.bind hattempt ?_)
        cases ho : a.outcome with
        | ok reply => exact Logs.pure _ settled
        | error e =>
          have hconnect := Attempt.isConnect_of_reached hgenuine.outcome hr ho
          simp only [hconnect, Bool.false_eq_true, if_false]
          exact Logs.pure _ settled

theorem cycle_logs (hP : s.Steady call P) {request : Request}
    (hrequest : call.Encodes request) {scene : Scene ω} (h : P scene) :
    ∃ attempts fruitless outcome after,
      Tries s call P request call.method.connectRetry.toNat [] none attempts fruitless outcome ∧
      P after ∧ Logs (s.cycle request) (s.recorded.cycle request) scene outcome
        (tries attempts fruitless) after := by
  obtain ⟨attempts, fruitless, outcome, after, htries, hafter, hcycle⟩ :=
    connectCycle_logs hP hrequest call.method.connectRetry.toNat [] none scene h
  refine ⟨attempts, fruitless, outcome, after, htries, hafter, ?_⟩
  refine Logs.quietly (Logs.invocation scene) ?_
  rw [Invocation.method_of_asMade (hP.asMade scene h)]
  exact hcycle

/-! ### Getting the next request -/

theorem Deadline.at?_eq_none_iff {now : Nat} {timeoutMillis : Int64} {inherited : Option Nat} :
    Deadline.at? now timeoutMillis inherited = none ↔
      ∃ limit, inherited = some limit ∧ limit ≤ now := by
  unfold Deadline.at?
  cases inherited with
  | none => simp
  | some limit =>
    by_cases h : limit ≤ now <;> simp [h]

/-- The deadline that a stamp gives at the reading. -/
def Reading.deadline? (r : Reading ω) : Option Nat :=
  Deadline.at? r.now r.scene.invocation.timeoutMillis
    (Deadline.inherited? r.scene.invocation r.scene.contexts)

theorem Reading.late_iff {r : Reading ω} : r.Late ↔ r.deadline? = none :=
  Deadline.at?_eq_none_iff.symm

theorem Reading.not_late {r : Reading ω} {deadline : Nat} (h : r.deadline? = some deadline) :
    ¬ r.Late := by
  rw [late_iff, h]
  exact Option.some_ne_none deadline

theorem exceeded_of_asMade {i j : Invocation} (h : i.asMade = j.asMade) :
    Deadline.exceeded i = Deadline.exceeded j := by
  simp only [Deadline.exceeded, Invocation.service_of_asMade h, Invocation.method_of_asMade h]

section Stamps

variable {scene read : Scene ω} {now : Nat} {request : Request} {labelled : Invocation}

theorem encode_logs (h : scene.invocation.encode = .ok (request, labelled)) :
    Logs Surroundings.encode Surroundings.encode scene (.ok request) []
      { scene with invocation := labelled } := by
  refine Logs.quietly (Logs.invocation scene) ?_
  simp only [h]
  exact Logs.quietly (Logs.changeInvocation _ scene) (Logs.pure _ _)

/-- A stamp leaves the call alone once the inherited deadline has passed. -/
theorem stamp_late (hclock : s.clock scene = (.done now, read)) (late : Reading.Late ⟨read, now⟩) :
    Logs (Deadline.stamp s.clock) (Deadline.stamp s.recorded.clock) scene
      (.error (Deadline.exceeded read.invocation)) [.read ⟨read, now⟩] read := by
  have hat := Reading.late_iff.mp late
  rw [Reading.deadline?] at hat
  refine Logs.noting (Logs.clock hclock) (Logs.scene fun record => ?_)
  simp only [Scene.noting, hat]
  exact Logs.pure _ read

/-- Before that it writes the deadline into the attributes. -/
theorem stamp_timely {deadline : Nat} (hclock : s.clock scene = (.done now, read))
    (timely : Reading.deadline? ⟨read, now⟩ = some deadline) :
    Logs (Deadline.stamp s.clock) (Deadline.stamp s.recorded.clock) scene (.ok ())
      [.read ⟨read, now⟩] { read with invocation := Deadline.label read.invocation deadline } := by
  rw [Reading.deadline?] at timely
  refine Logs.noting (Logs.clock hclock) (Logs.scene fun record => ?_)
  simp only [Scene.noting, timely]
  exact Logs.quietly (Logs.changeInvocation _ read) (Logs.pure _ _)

end Stamps

/-- A stamp reads the clock once, and the reading decides what comes of it. -/
theorem stamp_logs (hP : s.Steady call P) {scene : Scene ω} (h : P scene) :
    ∃ r : Reading ω, P r.scene ∧
      (r.Late ∧ Logs (Deadline.stamp s.clock) (Deadline.stamp s.recorded.clock) scene
          (.error (Deadline.exceeded call)) [.read r] r.scene ∨
        ∃ deadline, r.deadline? = some deadline ∧
          Logs (Deadline.stamp s.clock) (Deadline.stamp s.recorded.clock) scene (.ok ()) [.read r]
            { r.scene with invocation := Deadline.label r.scene.invocation deadline }) := by
  obtain ⟨now, read, hclock, hread⟩ := hP.clock scene h
  refine ⟨⟨read, now⟩, hread, ?_⟩
  cases hat : Reading.deadline? ⟨read, now⟩ with
  | none =>
    have hlate := Reading.late_iff.mpr hat
    have hlogs := stamp_late hclock hlate
    rw [exceeded_of_asMade (hP.asMade read hread)] at hlogs
    exact .inl ⟨hlate, hlogs⟩
  | some deadline => exact .inr ⟨deadline, rfl, stamp_timely hclock hat⟩

/-- The request stays the same without a deadline among the attributes. With one, the call is
stamped, and encoded if it is not late. -/
theorem renew_logs (hP : s.Steady call P) (request : Request) {scene : Scene ω} (h : P scene) :
    scene.invocation.attributes.contains deadlineKey = false ∧
        Logs (s.renew request) (s.recorded.renew request) scene (.ok request) [] scene ∨
      scene.invocation.attributes.contains deadlineKey = true ∧ ∃ r : Reading ω, P r.scene ∧
        (r.Late ∧ Logs (s.renew request) (s.recorded.renew request) scene
            (.error (Deadline.exceeded call)) [.read r] r.scene ∨
          ∃ deadline, r.deadline? = some deadline ∧ ∀ next labelled,
            (Deadline.label r.scene.invocation deadline).encode = .ok (next, labelled) →
            Logs (s.renew request) (s.recorded.renew request) scene (.ok next) [.read r]
              { r.scene with invocation := labelled }) := by
  cases hd : scene.invocation.attributes.contains deadlineKey with
  | false =>
    refine .inl ⟨rfl, Logs.quietly (Logs.invocation scene) ?_⟩
    simp only [hd, Bool.false_eq_true, if_false]
    exact Logs.pure _ scene
  | true =>
    obtain ⟨r, hr, ⟨hlate, hstamp⟩ | ⟨deadline, hdeadline, hstamp⟩⟩ := stamp_logs hP h
    · refine .inr ⟨rfl, r, hr, .inl ⟨hlate, Logs.quietly (Logs.invocation scene) ?_⟩⟩
      simp only [hd, if_true]
      exact Logs.noting hstamp (Logs.pure _ r.scene)
    · refine .inr ⟨rfl, r, hr, .inr ⟨deadline, hdeadline, fun next labelled hencode => ?_⟩⟩
      refine Logs.quietly (Logs.invocation scene) ?_
      simp only [hd, if_true]
      exact Logs.noting hstamp (encode_logs hencode)

/-! ### From cycle to cycle -/

theorem Attempt.Genuine.mono {Q : Scene ω → Prop} {request : Request} {a : Attempt ω}
    (h : a.Genuine s call P request) (hPQ : ∀ scene, P scene → Q scene) :
    a.Genuine s call Q request :=
  { h with lookup := hPQ _ h.lookup, start := hPQ _ h.start, finish := hPQ _ h.finish }

namespace Tries

variable {Q : Scene ω → Prop} {request : Request} {budget : Nat} {failed : List ServiceInstance}
  {last : Option CallError} {attempts : List (Attempt ω)} {fruitless : Option (Lookup ω)}
  {outcome : Outcome}

theorem mono (h : Tries s call P request budget failed last attempts fruitless outcome)
    (hPQ : ∀ scene, P scene → Q scene) :
    Tries s call Q request budget failed last attempts fruitless outcome := by
  induction h with
  | spent => exact .spent
  | starved lookup located => exact .starved (hPQ _ lookup) located
  | refused genuine answer _ ih => exact .refused (genuine.mono hPQ) answer ih
  | settled genuine reached => exact .settled (genuine.mono hPQ) reached

/-- What is steady holds in every scene that is noted of a cycle. -/
theorem scenes (h : Tries s call P request budget failed last attempts fruitless outcome) :
    ∀ e ∈ tries attempts fruitless, P e.scene := by
  induction h with
  | spent => simp
  | starved lookup _ => simpa [Event.scene] using lookup
  | refused genuine _ _ ih =>
    rw [tries_cons, Attempt.exchange]
    simp only [List.cons_append, List.nil_append, List.forall_mem_cons]
    exact ⟨genuine.lookup, genuine.start, genuine.finish, ih⟩
  | settled genuine _ =>
    simpa [Attempt.exchange, Event.scene] using ⟨genuine.lookup, genuine.start, genuine.finish⟩

theorem requests (h : Tries s call P request budget failed last attempts fruitless outcome) :
    ∀ a ∈ attempts, a.request = request := by
  induction h with
  | spent => simp
  | starved => simp
  | refused genuine _ _ ih => exact List.forall_mem_cons.mpr ⟨genuine.request, ih⟩
  | settled genuine _ => exact List.forall_mem_singleton.mpr genuine.request

end Tries

/-- The cycle was run with the request, and what is known of the scenes of such cycles holds. -/
structure Cycle.Carries (K : Request → Scene ω → Prop) (request : Request) (c : Cycle ω) :
    Prop where
  requests : ∀ a ∈ c.attempts, a.request = request
  scenes : ∀ e ∈ c.events, K request e.scene

theorem Tries.carries {K : Request → Scene ω → Prop} {request : Request} {budget : Nat}
    {failed : List ServiceInstance} {last : Option CallError} {attempts : List (Attempt ω)}
    {fruitless : Option (Lookup ω)} {outcome : Outcome}
    (h : Tries s call (K request) request budget failed last attempts fruitless outcome)
    {reading : Option (Reading ω)} (hreading : ∀ r, reading = some r → K request r.scene) :
    Cycle.Carries K request ⟨attempts, fruitless, reading⟩ where
  requests := h.requests
  scenes := by
    simp only [Cycle.events, List.forall_mem_append, List.forall_mem_map, Option.mem_toList]
    exact ⟨h.scenes, hreading⟩

/-- The requests that the cycles of a story were run with, from the first to the last: each
follows by `R` from the one before, given the reading of the clock between them. -/
inductive Story.Carried (K : Request → Scene ω → Prop)
    (R : Request → Option (Reading ω) → Request → Prop) : Request → Story ω → Request → Prop where
  | last {request : Request} {c : Cycle ω} (cycle : c.Carries K request) :
    Carried K R request [c] request
  | again {request next last : Request} {c : Cycle ω} {story : Story ω}
    (cycle : c.Carries K request) (renewed : R request c.reading next)
    (rest : Carried K R next story last) :
    Carried K R request (c :: story) last

/-- What comes of getting a request for the next cycle: the inherited deadline has passed by now,
or there is one that follows from the old one. -/
inductive Renewal (call : Invocation) (K : Request → Scene ω → Prop)
    (R : Request → Option (Reading ω) → Request → Prop) (request : Request) :
    Option (Reading ω) → Except CallError Request → Scene ω → Prop where
  | expired {r : Reading ω} {after : Scene ω} (scene : K request r.scene) (late : r.Late)
    (known : K request after) :
    Renewal call K R request (some r) (.error (Deadline.exceeded call)) after
  | next {reading : Option (Reading ω)} {next : Request} {after : Scene ω}
    (timely : ∀ r, reading = some r → K request r.scene ∧ ¬ r.Late)
    (encodes : call.Encodes next) (follows : R request reading next) (known : K next after) :
    Renewal call K R request reading (.ok next) after

/-- What is known in a cycle with some request holds all along the cycle, and getting the next
request leads on to what is known with that one. -/
structure Surroundings.Follows (s : Surroundings ω) (call : Invocation)
    (K : Request → Scene ω → Prop) (R : Request → Option (Reading ω) → Request → Prop) :
    Prop where
  steady : ∀ request, s.Steady call (K request)
  renew : ∀ request scene, call.Encodes request → K request scene →
    ∃ reading renewed after, Renewal call K R request reading renewed after ∧
      Logs (s.renew request) (s.recorded.renew request) scene renewed
        (reading.toList.map .read) after

/-- What is invariant says nothing about requests, so any encoding of the call may follow. -/
theorem Surroundings.Invariant.follows (hP : s.Invariant call P)
    (hencode : call.encode.isOk = true) :
    s.Follows call (fun _ => P) fun _ _ _ => True where
  steady _ := hP.steady
  renew request scene hrequest h := by
    rcases renew_logs hP.steady request h with
      ⟨-, hkept⟩ | ⟨-, r, hr, ⟨hlate, hlogs⟩ | ⟨deadline, hdeadline, hlogs⟩⟩
    · exact ⟨none, _, scene, .next (fun _ h => nomatch h) hrequest trivial h, hkept⟩
    · exact ⟨some r, _, r.scene, .expired hr hlate hr, hlogs⟩
    · let stamped := Deadline.label r.scene.invocation deadline
      have hasMade : stamped.asMade = call.asMade := hP.asMade r.scene hr
      obtain ⟨next, labelled, hnext⟩ := Invocation.encode_of_isOk
        ((Invocation.encode_isOk_of_asMade hasMade).trans hencode)
      have hlabelled := Invocation.asMade_of_encode hnext
      refine ⟨some r, _, _, .next ?_ ⟨_, _, hasMade, hnext⟩ trivial
        (hP.relabel r.scene labelled hr hlabelled), hlogs next labelled hnext⟩
      rintro _ ⟨⟩
      exact ⟨hr, Reading.not_late hdeadline⟩

/-- Cycles follow the rules, and their requests follow from each other. -/
theorem cycles_carry {K : Request → Scene ω → Prop}
    {R : Request → Option (Reading ω) → Request → Prop} (hK : s.Follows call K R)
    (hP : ∀ request scene, K request scene → P scene) (more : Nat) :
    ∀ (request : Request) (scene : Scene ω), call.Encodes request → K request scene →
      ∃ story outcome after last, Unfolds s call P more story outcome ∧
        Story.Carried K R request story last ∧ K last after ∧
        Logs (s.cycles more request) (s.recorded.cycles more request) scene outcome
          (Story.events story) after := by
  -- The request and the scene are new in every cycle.
  induction more with
  | zero =>
    intro request scene hrequest h
    obtain ⟨attempts, fruitless, outcome, after, htries, hafter, hcycle⟩ :=
      cycle_logs (hK.steady request) hrequest h
    refine ⟨[⟨attempts, fruitless, none⟩], outcome, after, request,
      .settled ⟨request, htries.mono (hP request)⟩ rfl (.inl rfl),
      .last (htries.carries fun _ h => nomatch h), hafter, ?_⟩
    rw [Story.events_cons, Story.events_nil, Option.toList_none, List.map_nil, List.append_nil,
      List.append_nil]
    exact hcycle
  | succ more ih =>
    intro request scene hrequest h
    obtain ⟨attempts, fruitless, outcome, tried, htries, htried, hcycle⟩ :=
      cycle_logs (hK.steady request) hrequest h
    have hmono := htries.mono (hP request)
    cases outcome with
    | ok reply =>
      refine ⟨[⟨attempts, fruitless, none⟩], .ok reply, tried, request,
        .settled ⟨request, hmono⟩ rfl (.inr nofun),
        .last (htries.carries fun _ h => nomatch h), htried, ?_⟩
      rw [Story.events_cons]
      exact Logs.bind hcycle (Logs.pure _ tried)
    | error e =>
      cases ht : e.isTimeout with
      | false =>
        refine ⟨[⟨attempts, fruitless, none⟩], .error e, tried, request,
          .settled ⟨request, hmono⟩ rfl (.inr ?_),
          .last (htries.carries fun _ h => nomatch h), htried, ?_⟩
        · intro e' he'
          cases he'
          exact ht
        · rw [Story.events_cons]
          refine Logs.bind hcycle ?_
          simp only [ht, Bool.false_eq_true, if_false]
          exact Logs.pure _ tried
      | true =>
        obtain ⟨reading, renewed, after, hrenewal, hrenew⟩ :=
          hK.renew request tried hrequest htried
        cases hrenewal with
        | @expired r _ hr hlate hafter =>
          refine ⟨[⟨attempts, fruitless, some r⟩], .error (Deadline.exceeded call), after, request,
            .expired ⟨request, hmono⟩ ht rfl (hP request _ hr) hlate,
            .last (htries.carries ?_), hafter, ?_⟩
          · rintro r' ⟨⟩
            exact hr
          · rw [Story.events_cons]
            refine Logs.bind hcycle ?_
            simp only [ht, if_true]
            exact Logs.bind hrenew (Logs.pure _ after)
        | @next _ next _ hreading hnext hfollows hafter =>
          obtain ⟨story, outcome, final, last, hunfolds, hcarried, hfinal, hrest⟩ :=
            ih next after hnext hafter
          refine ⟨⟨attempts, fruitless, reading⟩ :: story, outcome, final, last,
            .again ⟨request, hmono⟩ ht ?_ hunfolds,
            .again (htries.carries fun r hr => (hreading r hr).1) hfollows hcarried, hfinal, ?_⟩
          · exact fun r hr => ⟨hP request _ (hreading r hr).1, (hreading r hr).2⟩
          · rw [Story.events_cons]
            refine Logs.bind hcycle ?_
            simp only [ht, if_true]
            exact Logs.bind hrenew hrest

/-- A call whose first request is encoded follows the rules, and its requests follow from each
other. -/
theorem failover_carry {K : Request → Scene ω → Prop}
    {R : Request → Option (Reading ω) → Request → Prop} (hK : s.Follows call K R)
    (hP : ∀ request scene, K request scene → P scene) {scene : Scene ω} {first : Request}
    {labelled : Invocation} (hencode : scene.invocation.encode = .ok (first, labelled))
    (hfirst : call.Encodes first) (h : K first { scene with invocation := labelled }) :
    ∃ story outcome after last,
      Unfolds s call P (call.method.timeoutRetry.toNat - 1) story outcome ∧
      Story.Carried K R first story last ∧ K last after ∧
      Logs s.failover s.recorded.failover scene outcome (Story.events story) after := by
  obtain ⟨story, outcome, after, last, hunfolds, hcarried, hafter, hcycles⟩ :=
    cycles_carry hK hP (call.method.timeoutRetry.toNat - 1) first _ hfirst h
  refine ⟨story, outcome, after, last, hunfolds, hcarried, hafter, ?_⟩
  refine Logs.quietly (encode_logs hencode) (Logs.quietly (Logs.invocation _) ?_)
  have hmethod := Invocation.method_of_asMade ((hK.steady first).asMade _ h)
  simp only at hmethod
  rw [hmethod]
  exact hcycles

/-- The record of a call is what it notes. -/
theorem record_of_logs {scene after : Scene ω} {outcome : Outcome} {events : Record ω}
    (h : Logs s.failover s.recorded.failover scene outcome events after) :
    s.record scene = events := by
  rw [Surroundings.record, h.noted]
  rfl

/-- Once its first request is encoded a call ends, what is invariant holds at its end, and what
is noted of it is a story that the rules allow. -/
theorem failover_logs (hP : s.Invariant call P) (hencode : call.encode.isOk = true)
    {scene : Scene ω} (h : P scene) :
    ∃ story outcome after,
      Unfolds s call P (call.method.timeoutRetry.toNat - 1) story outcome ∧ P after ∧
      Logs s.failover s.recorded.failover scene outcome (Story.events story) after := by
  have hasMade := hP.asMade scene h
  obtain ⟨first, labelled, hfirst⟩ := Invocation.encode_of_isOk
    ((Invocation.encode_isOk_of_asMade hasMade).trans hencode)
  obtain ⟨story, outcome, after, -, hunfolds, -, hafter, hlogs⟩ :=
    failover_carry (hP.follows hencode) (fun _ _ h => h) hfirst ⟨_, _, hasMade, hfirst⟩
      (hP.relabel scene labelled h (Invocation.asMade_of_encode hfirst))
  exact ⟨story, outcome, after, hunfolds, hafter, hlogs⟩

/-- **A call follows the rules.** Once its first request is encoded it ends, with an outcome
and a story that the rules allow, and the story is what the record shows. -/
theorem failover_unfolds (hP : s.Invariant call P) (hencode : call.encode.isOk = true)
    (scene : Scene ω) (h : P scene) :
    ∃ story outcome after,
      Unfolds s call P (call.method.timeoutRetry.toNat - 1) story outcome ∧
      s.failover scene = (.done outcome, after) ∧ s.record scene = Story.events story := by
  obtain ⟨story, outcome, after, hunfolds, -, hlogs⟩ := failover_logs hP hencode h
  exact ⟨story, outcome, after, hunfolds, hlogs.plain, record_of_logs hlogs⟩

/-- A call that cannot be encoded ends at once, and notes nothing. -/
theorem failover_logs_of_encode_error {scene : Scene ω} {fault : CodecError}
    (h : scene.invocation.encode = .error fault) :
    Logs s.failover s.recorded.failover scene (.error (.codec fault)) [] scene := by
  have hencode : Logs Surroundings.encode Surroundings.encode scene
      (.error (.codec fault) : Except CallError Request) [] scene := by
    refine Logs.quietly (Logs.invocation scene) ?_
    simp only [h]
    exact Logs.pure _ scene
  exact Logs.quietly hencode (Logs.pure _ scene)

/-- Every call ends, whether it can be encoded or not; what is invariant holds at its end, and
what is noted of it is a story that the rules allow, or nothing. -/
theorem failover_noted (hP : s.Invariant call P) {scene : Scene ω} (h : P scene) :
    ∃ story outcome after,
      (story = [] ∧ (∃ fault, outcome = .error (.codec fault)) ∨
        Unfolds s call P (call.method.timeoutRetry.toNat - 1) story outcome) ∧ P after ∧
      Logs s.failover s.recorded.failover scene outcome (Story.events story) after := by
  cases he : scene.invocation.encode with
  | error fault =>
    exact ⟨[], _, scene, .inl ⟨rfl, fault, rfl⟩, h, failover_logs_of_encode_error he⟩
  | ok pair =>
    have hencode : call.encode.isOk = true := by
      rw [← Invocation.encode_isOk_of_asMade (hP.asMade scene h), he]
      rfl
    obtain ⟨story, outcome, after, hunfolds, hafter, hlogs⟩ := failover_logs hP hencode h
    exact ⟨story, outcome, after, .inr hunfolds, hafter, hlogs⟩

/-- Whatever was recorded before, a call adds its record to that. -/
theorem failover_recorded (hP : s.Invariant call P) {scene : Scene ω} (h : P scene) :
    ∃ outcome after, P after ∧
      Logs s.failover s.recorded.failover scene outcome (s.record scene) after := by
  obtain ⟨story, outcome, after, -, hafter, hlogs⟩ := failover_noted hP h
  exact ⟨outcome, after, hafter, by rwa [record_of_logs hlogs]⟩

/-- Every call ends, whether it can be encoded or not. -/
theorem failover_ends (hP : s.Invariant call P) (scene : Scene ω) (h : P scene) :
    ∃ story outcome after,
      (story = [] ∧ (∃ fault, outcome = .error (.codec fault)) ∨
        Unfolds s call P (call.method.timeoutRetry.toNat - 1) story outcome) ∧
      s.failover scene = (.done outcome, after) ∧ s.record scene = Story.events story := by
  obtain ⟨story, outcome, after, hstory, -, hlogs⟩ := failover_noted hP h
  exact ⟨story, outcome, after, hstory, hlogs.plain, record_of_logs hlogs⟩

end RemoteCall
