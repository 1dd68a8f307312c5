/-
Every cycle of a call has a deadline of its own.

The interceptor reads the clock before the first cycle, and the retry loop reads it
between two cycles. `Story.stampOf` says by which reading a cycle is stamped.

* `Deadline.Stamps` — what a stamp leaves in attributes: the timeout of the call, and a
  deadline that keeps both to it and to the one that the context carries.
* `Story.Carried.stamps` — each cycle was stamped at the time of its reading
  (`Cycle.StampedAt`).
* `Unfolds.ends_late` — a reading after the inherited deadline is the end of the call.
* `chain_bounds_every_cycle` — both, for the calls behind the interceptor. The sums that
  the deadlines are made of fit into words of 128 bits, as far as a clock can count.
-/
import RemoteCall.Proofs.Call.Chain
import RemoteCall.Proofs.Call.Requests

namespace RemoteCall

open Run

variable {ω : Type}

/-! ## The deadline of a stamp -/

namespace Deadline

/-- The deadline that is due at a time: after the timeout, or the inherited one if that is
earlier. -/
def due (now : Nat) (timeoutMillis : Int64) (inherited : Option Nat) : Nat :=
  let own := now + timeoutMillis.toInt.toNat
  inherited.elim own (min own)

theorem at?_eq_some_iff {now deadline : Nat} {timeoutMillis : Int64} {inherited : Option Nat} :
    at? now timeoutMillis inherited = some deadline ↔
      (∀ limit, inherited = some limit → now < limit) ∧
        deadline = due now timeoutMillis inherited := by
  unfold at? due
  cases inherited with
  | none => simp [eq_comm]
  | some limit =>
    by_cases h : limit ≤ now
    · simp [h, Nat.not_lt.mpr h]
    · simp [h, Nat.lt_of_not_le h, eq_comm]

/-- As long as the inherited deadline has not passed, the one that is due is still to come. -/
theorem lt_due {now : Nat} {timeoutMillis : Int64} {inherited : Option Nat}
    (ht : 1 ≤ timeoutMillis) (timely : ∀ limit, inherited = some limit → now < limit) :
    now < due now timeoutMillis inherited := by
  have hpos : 1 ≤ timeoutMillis.toInt := Int64.le_iff_toInt_le.mp ht
  have hown : now < now + timeoutMillis.toInt.toNat := by omega
  cases inherited with
  | none => exact hown
  | some limit => exact Nat.lt_min.mpr ⟨hown, timely limit rfl⟩

example : due 1000 3000 none = 4000 ∧ due 1000 3000 (some 2500) = 2500 := by decide

/-- What a stamp leaves in the attributes of a call that is not late. -/
structure Stamps (timeoutMillis : Int64) (inherited : Option Nat) (now : Nat)
    (attributes : Attributes) : Prop where
  timeout : attributes[timeoutKey]? = some (toString timeoutMillis)
  deadline : attributes[deadlineKey]? = some (toString (due now timeoutMillis inherited))
  ahead : now < due now timeoutMillis inherited

theorem stamps_stamped {now deadline : Nat} {timeoutMillis : Int64} {inherited : Option Nat}
    (ht : 1 ≤ timeoutMillis) (h : at? now timeoutMillis inherited = some deadline)
    (attributes : Attributes) :
    Stamps timeoutMillis inherited now (stamped attributes timeoutMillis deadline) := by
  obtain ⟨htimely, rfl⟩ := at?_eq_some_iff.mp h
  have hkeys : timeoutKey ≠ deadlineKey := by decide
  refine ⟨?_, ?_, lt_due ht htimely⟩
  · rw [getElem?_stamped, if_neg hkeys, if_pos rfl]
  · rw [getElem?_stamped, if_pos rfl]

end Deadline

/-! ## Durations -/

/-- A time span, in whole seconds and the nanoseconds beyond them. -/
structure Duration where
  seconds : UInt64
  nanos : UInt32
  nanos_lt : nanos.toNat < 1000000000

namespace Duration

/-- The whole milliseconds of a time span. -/
def millis (d : Duration) : Nat :=
  d.seconds.toNat * 1000 + d.nanos.toNat / 1000000

/-- **Deadlines do not overflow.** The sum in words of 128 bits is the sum. -/
theorem toNat_add_timeout (d : Duration) (timeoutMillis : Int64) :
    (BitVec.ofNat 128 d.millis + BitVec.ofNat 128 timeoutMillis.toInt.toNat).toNat =
      d.millis + timeoutMillis.toInt.toNat := by
  have hseconds := d.seconds.toNat_lt
  have hnanos := d.nanos_lt
  have htimeout := timeoutMillis.toInt_lt
  rw [BitVec.toNat_add, BitVec.toNat_ofNat, BitVec.toNat_ofNat, millis]
  omega

end Duration

/-! ## Which reading stamps which cycle -/

/-- The reading that a cycle is stamped by: before the first cycle the one of the interceptor, and
before each other one the one that ended the cycle before. -/
def Story.stampOf (first : Reading ω) (story : Story ω) : Nat → Option (Reading ω)
  | 0 => some first
  | k + 1 => story[k]?.bind Cycle.reading

theorem Story.stampOf_cons {first next : Reading ω} {c : Cycle ω} {story : Story ω}
    (h : c.reading = some next) (k : Nat) :
    Story.stampOf first (c :: story) (k + 1) = Story.stampOf next story k := by
  cases k with
  | zero => simp [stampOf, h]
  | succ k => rfl

/-- The cycle was stamped at a time: it was run with a request that has the attributes which the
stamp left, and the call has them in every scene of the cycle. -/
def Cycle.StampedAt (timeoutMillis : Int64) (inherited : Option Nat) (now : Nat) (c : Cycle ω) :
    Prop :=
  ∃ request, Deadline.Stamps timeoutMillis inherited now request.header.attributes ∧
    (∀ a ∈ c.attempts, a.request = request) ∧
    ∀ e ∈ c.events, e.scene.invocation.attributes = request.header.attributes

theorem Invocation.timeoutMillis_of_asMade {i j : Invocation} (h : i.asMade = j.asMade) :
    i.timeoutMillis = j.timeoutMillis :=
  congrArg MethodConfig.timeoutMillis (method_of_asMade h)

theorem Deadline.inherited?_of_asMade {i j : Invocation} (h : i.asMade = j.asMade)
    (contexts : Contexts) : Deadline.inherited? i contexts = Deadline.inherited? j contexts := by
  have hcontext := congrArg Invocation.context h
  simp only [Invocation.asMade, Invocation.ofMethod] at hcontext
  rw [Deadline.inherited?, hcontext]
  rfl

theorem Cycle.read_mem_events {c : Cycle ω} {r : Reading ω} (h : c.reading = some r) :
    Event.read r ∈ c.events := by
  simp [Cycle.events, h]

namespace Surroundings

/-- The deadline that the context of the call carries stays, whatever the surroundings are
asked. -/
def KeepsInherited (s : Surroundings ω) : Prop :=
  ∀ limit, s.Maintains fun scene => Deadline.inherited? scene.invocation scene.contexts = limit

end Surroundings

/-- The scene is one of the call, in a context that carries the deadline. -/
def Scene.BoundBy (call : Invocation) (limit : Option Nat) (scene : Scene ω) : Prop :=
  scene.invocation.asMade = call.asMade ∧
    Deadline.inherited? scene.invocation scene.contexts = limit

section Cycles

variable {s : Surroundings ω} {call : Invocation} {limit : Option Nat} {P : Scene ω → Prop}

theorem Surroundings.Discreet.invariant (hs : s.Discreet) (hD : s.KeepsInherited)
    (call : Invocation) (limit : Option Nat) : s.Invariant call (Scene.BoundBy call limit) where
  toMaintains := (hs.orderly call.asMade).and (hD limit)
  asMade _ h := h.1
  relabel _ _ h hi := ⟨hi.trans h.1, (Deadline.inherited?_of_asMade hi _).trans h.2⟩

/-- The deadline of a reading that was made along the call. -/
theorem Scene.BoundBy.deadline? {r : Reading ω} (h : r.scene.BoundBy call limit) :
    r.deadline? = Deadline.at? r.now call.timeoutMillis limit := by
  rw [Reading.deadline?, h.2, Invocation.timeoutMillis_of_asMade h.1]

theorem Scene.BoundBy.late_iff {r : Reading ω} (h : r.scene.BoundBy call limit) :
    r.Late ↔ ∃ l, limit = some l ∧ l ≤ r.now := by
  rw [Reading.Late, h.2]

/-- A renewed request has the attributes that the stamp left. -/
theorem Request.Renewed.stamps {request next : Request} {reading : Option (Reading ω)}
    (ht : 1 ≤ call.timeoutMillis) (h : request.Renewed reading next)
    (present : request.header.attributes.contains deadlineKey = true)
    (htimeout : request.header.timeoutMillis = call.timeoutMillis)
    (hscene : ∀ r, reading = some r → r.scene.BoundBy call limit) :
    ∃ r, reading = some r ∧
      Deadline.Stamps call.timeoutMillis limit r.now next.header.attributes := by
  cases h with
  | kept absent =>
    rw [absent] at present
    cases present
  | @stamped r deadline _ timely =>
    rw [(hscene r rfl).deadline?] at timely
    refine ⟨r, rfl, ?_⟩
    rw [Request.stamped, htimeout]
    exact Deadline.stamps_stamped ht timely _

/-- **Each cycle has its own stamp.** If the first request was stamped by a reading, every cycle
was run with a request that was stamped by the reading before it. -/
theorem Story.Carried.stamps {first last : Request} {story : Story ω}
    (ht : 1 ≤ call.timeoutMillis)
    (h : Story.Carried (fun request scene => scene.BoundBy call limit ∧
      scene.invocation.StandsFor request) Request.Renewed first story last)
    (htimeout : first.header.timeoutMillis = call.timeoutMillis) :
    ∀ start : Reading ω,
      Deadline.Stamps call.timeoutMillis limit start.now first.header.attributes →
      ∀ k c, story[k]? = some c → ∃ r, Story.stampOf start story k = some r ∧
        c.StampedAt call.timeoutMillis limit r.now := by
  induction h with
  | last cycle =>
    intro start hstart k c hc
    obtain ⟨rfl, rfl⟩ : k = 0 ∧ _ = c := by simpa [List.getElem?_singleton] using hc
    exact ⟨start, rfl, _, hstart, cycle.requests,
      fun e he => (cycle.scenes e he).2.attributes.symm⟩
  | @again request next last c story cycle renewed _ ih =>
    intro start hstart k c' hc
    cases k with
    | zero =>
      obtain rfl : c = c' := by simpa using hc
      exact ⟨start, rfl, _, hstart, cycle.requests,
        fun e he => (cycle.scenes e he).2.attributes.symm⟩
    | succ k =>
      have hpresent : request.header.attributes.contains deadlineKey = true := by
        rw [Std.ExtTreeMap.contains_eq_isSome_getElem?, hstart.deadline]
        rfl
      obtain ⟨r, hr, hnext⟩ := renewed.stamps ht hpresent htimeout
        fun r hr => (cycle.scenes (.read r) (Cycle.read_mem_events hr)).1
      rw [Story.stampOf_cons hr]
      exact ih (renewed.resends.timeoutMillis.trans htimeout) r hnext k c' hc

/-- A reading after the inherited deadline is the end of the call. -/
theorem Unfolds.ends_late {more : Nat} {story : Story ω} {outcome : Outcome}
    (h : Unfolds s call P more story outcome) :
    ∀ k c r, story[k]? = some c → c.reading = some r → r.Late →
      story.length = k + 1 ∧ outcome = .error (Deadline.exceeded call) := by
  induction h with
  | settled _ reading _ =>
    intro k c r hc hr _
    obtain ⟨rfl, rfl⟩ : k = 0 ∧ _ = c := by simpa [List.getElem?_singleton] using hc
    rw [reading] at hr
    cases hr
  | expired =>
    intro k c r hc _ _
    obtain ⟨rfl, -⟩ : k = 0 ∧ _ = c := by simpa [List.getElem?_singleton] using hc
    exact ⟨rfl, rfl⟩
  | @again _ c _ story _ _ _ timely _ ih =>
    intro k c' r hc hr hlate
    cases k with
    | zero =>
      obtain rfl : c = c' := by simpa using hc
      exact absurd hlate (timely r hr).2
    | succ k =>
      obtain ⟨hlength, houtcome⟩ := ih k c' r hc hr hlate
      exact ⟨by rw [List.length_cons, hlength], houtcome⟩

/-- The last cycle was run with the last request. -/
theorem Story.Carried.carries_last {K : Request → Scene ω → Prop}
    {R : Request → Option (Reading ω) → Request → Prop} {first last : Request} {story : Story ω}
    (h : Story.Carried K R first story last) :
    ∀ k c, story[k]? = some c → story.length = k + 1 → c.Carries K last := by
  induction h with
  | last cycle =>
    intro k c hc _
    obtain ⟨-, rfl⟩ : k = 0 ∧ _ = c := by simpa [List.getElem?_singleton] using hc
    exact cycle
  | @again _ _ _ c story _ _ rest ih =>
    intro k c' hc hlength
    cases k with
    | zero =>
      have hnil : story = [] := by simpa using hlength
      rw [hnil] at rest
      cases rest
    | succ k => exact ih k c' hc (by simpa using hlength)

theorem Deadline.Stamps.of_encode {now : Nat} {i labelled : Invocation} {request : Request}
    (h : Deadline.Stamps call.timeoutMillis limit now i.attributes)
    (he : i.encode = .ok (request, labelled)) :
    Deadline.Stamps call.timeoutMillis limit now request.header.attributes := by
  refine ⟨?_, ?_, h.ahead⟩
  · rw [Invocation.getElem?_of_encode he (by decide) (by decide), h.timeout]
  · rw [Invocation.getElem?_of_encode he (by decide) (by decide), h.deadline]

/-- A call that is stamped when it comes to the retry loop stays so until a reading comes too
late. -/
theorem failover_stamped (hs : s.Discreet) (hD : s.KeepsInherited) (ht : 1 ≤ call.timeoutMillis)
    {scene : Scene ω} (h : scene.BoundBy call limit) (start : Reading ω)
    (hstart : Deadline.Stamps call.timeoutMillis limit start.now scene.invocation.attributes) :
    ∃ (story : Story ω) (outcome : Outcome) (after : Scene ω),
      Logs s.failover s.recorded.failover scene outcome story.events after ∧
      (call.encode.isOk = true → Unfolds s call (Scene.BoundBy call limit)
        (call.method.timeoutRetry.toNat - 1) story outcome) ∧
      (∀ k c, story[k]? = some c → ∃ r, Story.stampOf start story k = some r ∧
        c.StampedAt call.timeoutMillis limit r.now) ∧
      ∀ k c r, story[k]? = some c → c.reading = some r → (∃ l, limit = some l ∧ l ≤ r.now) →
        story.length = k + 1 ∧ outcome = .error (Deadline.exceeded call) ∧
        after.invocation.attributes = r.scene.invocation.attributes := by
  cases he : scene.invocation.encode with
  | error fault =>
    refine ⟨[], _, scene, failover_logs_of_encode_error he, fun hok => ?_, by simp, by simp⟩
    rw [← Invocation.encode_isOk_of_asMade h.1, he] at hok
    cases hok
  | ok pair =>
    obtain ⟨first, labelled⟩ := pair
    have hP := hs.invariant hD call limit
    have hlabelled := Invocation.asMade_of_encode he
    obtain ⟨story, outcome, after, last, hunfolds, hcarried, hafter, hlogs⟩ :=
      failover_carry (hP.follows_requests hs) (fun _ _ h => h.1) he ⟨_, _, h.1, he⟩
        ⟨hP.relabel scene labelled h hlabelled, .of_encode he⟩
    have htimeout : first.header.timeoutMillis = call.timeoutMillis := by
      rw [(Invocation.StandsFor.of_encode he).header]
      exact Invocation.timeoutMillis_of_asMade (hlabelled.trans h.1)
    refine ⟨story, outcome, after, hlogs, fun _ => hunfolds,
      hcarried.stamps ht htimeout start (hstart.of_encode he), fun k c r hc hr hpassed => ?_⟩
    obtain ⟨_, -, hcycle⟩ := hcarried.requests_of_mem Request.Resends.refl
      Request.Resends.trans Request.Renewed.resends c (List.mem_of_getElem? hc)
    have hread := hcycle.scenes (.read r) (Cycle.read_mem_events hr)
    obtain ⟨hlength, houtcome⟩ := hunfolds.ends_late k c r hc hr (hread.1.late_iff.mpr hpassed)
    -- The reading was noted in the last cycle, and nothing was changed after it.
    have hlast := (hcarried.carries_last k c hc hlength).scenes (.read r)
      (Cycle.read_mem_events hr)
    exact ⟨hlength, houtcome, hafter.2.attributes.symm.trans hlast.2.attributes⟩

end Cycles

/-- **Every cycle has a deadline of its own.** The interceptor in front of the retry loop may be
inside of any others. Surroundings leave the attributes and the inherited deadline alone. Then the
call, if it can be encoded and is not late from the start, follows the rules, and each cycle is
stamped by a reading of the clock: its requests carry the timeout of the call and the deadline that
is due at that reading, which is ahead of it. A reading after the inherited deadline ends the call
with a time-out: there is no further cycle, and the attributes stay as they are. As far as a clock
can count, no sum overflows. -/
theorem chain_bounds_every_cycle {s : Surroundings ω} (hs : s.Discreet) (hD : s.KeepsInherited)
    (scene : Scene ω) (ht : 1 ≤ scene.invocation.timeoutMillis) :
    let timeout := scene.invocation.timeoutMillis
    let inherited := Deadline.inherited? scene.invocation scene.contexts
    (∀ outer : List (Interceptor ω),
      buildChain s.failover (outer ++ [Deadline.interceptor s.clock]) =
        buildChain (s.chain [.deadline]) outer) ∧
    ∃ (first : Reading ω) (story : Story ω) (outcome : Outcome) (after : Scene ω),
      s.chain [.deadline] scene = (.done outcome, after) ∧
      s.chainRecord [.deadline] scene = .read first :: story.events ∧
      first.scene.invocation.attributes = scene.invocation.attributes ∧
      (scene.invocation.encode.isOk = true → ¬ first.Late →
        Unfolds s scene.invocation (Scene.BoundBy scene.invocation inherited)
          (scene.invocation.method.timeoutRetry.toNat - 1) story outcome) ∧
      (∀ k c, story[k]? = some c → ∃ r, Story.stampOf first story k = some r ∧
        c.StampedAt timeout inherited r.now) ∧
      ∀ k r, Story.stampOf first story k = some r →
        (∀ limit, inherited = some limit → limit ≤ r.now →
          story.length = k ∧ outcome = .error (Deadline.exceeded scene.invocation) ∧
          after.invocation.attributes = r.scene.invocation.attributes) ∧
        ∀ d : Duration, r.now = d.millis →
          (BitVec.ofNat 128 r.now + BitVec.ofNat 128 timeout.toInt.toNat).toNat =
            r.now + timeout.toInt.toNat := by
  intro timeout inherited
  refine ⟨fun outer => List.foldr_append, ?_⟩
  have hsteady := (hs.invariant hD scene.invocation inherited).steady_and hs
    (Q := fun i => i.attributes = scene.invocation.attributes) fun _ _ hi _ hj => hj.trans hi
  have hsum : ∀ (r : Reading ω) (d : Duration), r.now = d.millis →
      (BitVec.ofNat 128 r.now + BitVec.ofNat 128 timeout.toInt.toNat).toNat =
        r.now + timeout.toInt.toNat := by
    intro r d hr
    rw [hr]
    exact d.toNat_add_timeout timeout
  obtain ⟨first, ⟨hfirst, hattributes⟩, ⟨hlate, hstamp⟩ | ⟨deadline, hdeadline, hstamp⟩⟩ :=
    stamp_logs hsteady ⟨⟨rfl, rfl⟩, rfl⟩
  · have hchain : Logs (s.chain [.deadline]) (s.recorded.chain [.deadline]) scene
        (.error (Deadline.exceeded scene.invocation)) [.read first] first.scene :=
      Logs.noting hstamp (Logs.pure _ first.scene)
    refine ⟨first, [], _, _, hchain.plain, Surroundings.chainRecord_of_logs hchain, hattributes,
      fun _ htimely => absurd hlate htimely, by simp, fun k r hr => ⟨fun _ _ _ => ?_, hsum r⟩⟩
    cases k with
    | zero =>
      obtain rfl : first = r := Option.some.inj hr
      exact ⟨rfl, rfl, rfl⟩
    | succ k => cases hr
  · rw [hfirst.deadline?] at hdeadline
    have hstamps : Deadline.Stamps timeout inherited first.now
        (Deadline.label first.scene.invocation deadline).attributes := by
      rw [Deadline.label_eq, Invocation.timeoutMillis_of_asMade hfirst.1]
      exact Deadline.stamps_stamped ht hdeadline _
    have hstamped : Scene.BoundBy scene.invocation inherited { first.scene with
        invocation := Deadline.label first.scene.invocation deadline } := hfirst
    obtain ⟨story, outcome, after, hlogs, hunfolds, hcycles, hpassed⟩ :=
      failover_stamped hs hD ht hstamped first hstamps
    have hchain : Logs (s.chain [.deadline]) (s.recorded.chain [.deadline]) scene outcome
        (.read first :: story.events) after := Logs.noting hstamp hlogs
    refine ⟨first, story, outcome, after, hchain.plain, Surroundings.chainRecord_of_logs hchain,
      hattributes, fun hok _ => hunfolds hok, hcycles,
      fun k r hr => ⟨fun limit hlimit hle => ?_, hsum r⟩⟩
    cases k with
    | zero =>
      obtain rfl : first = r := Option.some.inj hr
      have htimely := (Deadline.at?_eq_some_iff.mp hdeadline).1 limit hlimit
      exact absurd hle (Nat.not_le.mpr htimely)
    | succ k =>
      obtain ⟨c, hc, hreading⟩ := Option.bind_eq_some_iff.mp hr
      exact hpassed k c r hc hreading ⟨limit, hlimit, hle⟩

theorem Script.keepsInherited {L : Type} [Locator L] (network : Network L Script)
    (link : Option Nat) : ((client network).surroundings link).KeepsInherited := fun _ =>
  Client.surroundings_maintains
    (fun node request => connector_keeps node request fun _ _ h => h)
    (fun scene h => ⟨0, scene, rfl, h⟩) (fun scene h => ⟨0, scene, rfl, h⟩) (fun _ _ _ h => h)
    fun _ _ _ _ h => h

/-- A call with a timeout of three seconds, in a context whose parent allows for two. The sends
come too late, so it is stamped for one cycle after the other. -/
theorem hurried_greeting_bounds_every_cycle :
    let network := Script.linked [.error (.timeout "too late"), .error (.timeout "too late")]
    let s := (Script.client network).surroundings (some 0)
    let greeting := Script.greeting 2 3 network
    let scene : Scene _ :=
      { greeting with
        invocation := { greeting.invocation with context := some 1 }
        contexts :=
          { forest := [⟨some 0, ∅⟩, ⟨none, (∅ : Attributes).insert deadlineKey "2000"⟩] } }
    s.Discreet ∧ s.KeepsInherited ∧ 1 ≤ scene.invocation.timeoutMillis ∧
    ∃ (first : Reading _) (story : Story _) (outcome : Outcome) (after : Scene _),
      s.chain [.deadline] scene = (.done outcome, after) ∧
      s.chainRecord [.deadline] scene = .read first :: story.events ∧
      ∀ k c, story[k]? = some c → ∃ r, Story.stampOf first story k = some r ∧
        c.StampedAt 3000 (some 2000) r.now := by
  intro network s greeting scene
  have hs : s.Discreet := Script.discreet network (some 0)
  have hD : s.KeepsInherited := Script.keepsInherited network (some 0)
  have ht : 1 ≤ scene.invocation.timeoutMillis := by decide
  have hinherited : Deadline.inherited? scene.invocation scene.contexts = some 2000 := rfl
  obtain ⟨-, first, story, outcome, after, hrun, hrecord, -, -, hcycles, -⟩ :=
    chain_bounds_every_cycle hs hD scene ht
  rw [hinherited] at hcycles
  exact ⟨hs, hD, ht, first, story, outcome, after, hrun, hrecord, hcycles⟩

end RemoteCall
