/-
Why a call ends the way it does.

* `Verdict` — the three ways in which the last cycle decides about a call.
* `Unfolds.verdict` — the last cycle of every call decides about it in one of them.
* `Story.Decides` — what an outcome says about the story that led to it.
* `Unfolds.decides` — every call that follows the rules is decided so.
-/
import RemoteCall.Proofs.Call.Budgets

namespace RemoteCall

open Surroundings (unreachable)

variable {ω : Type} {s : Surroundings ω} {call : Invocation} {P : Scene ω → Prop}

/-! ## The last send -/

theorem lastReason_of_getLast? {attempts : List (Attempt ω)} {a : Attempt ω} {message : String}
    (last : attempts.getLast? = some a) (answer : a.answer = .error (.connect message))
    (reason : Option CallError) :
    lastReason reason attempts = some (.connect a.node.address message) := by
  simp only [lastReason, last, answer]

/-- The last send of a call is the last of its last cycle. If there is none in that cycle, it
timed out or was cancelled. -/
theorem Story.getLast?_attempts {earlier : Story ω} {c : Cycle ω} {a : Attempt ω}
    (again : ∀ c ∈ earlier, c.TimedOut) (h : (attempts (earlier ++ [c])).getLast? = some a) :
    c.attempts.getLast? = some a ∨ a.timedOut = true := by
  rw [attempts_append, attempts_cons, attempts_nil, List.append_nil, List.getLast?_append] at h
  cases hc : c.attempts.getLast? with
  | some b =>
    rw [hc, Option.some_or] at h
    exact .inl h
  | none =>
    rw [hc, Option.none_or] at h
    rcases List.eq_nil_or_concat earlier with rfl | ⟨before, d, rfl⟩
    · cases h
    · obtain ⟨-, b, hb, ht⟩ := again d (by simp)
      rw [List.concat_eq_append, attempts_append, attempts_cons, attempts_nil, List.append_nil,
        List.getLast?_append, hb, Option.some_or, Option.some.injEq] at h
      exact .inr (h ▸ ht)

/-- An attempt that reached its instance is the last of its cycle, and what it came to is what
the cycle came to. -/
theorem Tries.of_reached {request : Request} {budget : Nat} {failed : List ServiceInstance}
    {last : Option CallError} {attempts : List (Attempt ω)} {fruitless : Option (Lookup ω)}
    {outcome : Outcome} (h : Tries s call P request budget failed last attempts fruitless outcome)
    {a : Attempt ω} (ha : a ∈ attempts) (reached : a.refused = false) :
    attempts.getLast? = some a ∧ outcome = a.outcome := by
  induction h with
  | spent => cases ha
  | starved => cases ha
  | @refused _ _ b _ attempts _ _ _ answer _ ih =>
    rcases List.mem_cons.mp ha with rfl | hrest
    · rw [Attempt.refused_iff.mpr ⟨_, answer⟩] at reached
      cases reached
    · obtain ⟨hlast, houtcome⟩ := ih hrest
      exact ⟨by rw [List.getLast?_cons, hlast]; rfl, houtcome⟩
  | settled => exact ⟨by rw [List.mem_singleton.mp ha]; rfl, by rw [List.mem_singleton.mp ha]⟩

/-- A send with a conclusive outcome is the last of the call, which comes to the same. -/
theorem Unfolds.of_conclusive {more : Nat} {story : Story ω} {outcome : Outcome}
    (h : Unfolds s call P more story outcome) {a : Attempt ω} (ha : a ∈ story.attempts)
    (final : conclusive a.outcome = true) :
    story.attempts.getLast? = some a ∧ outcome = a.outcome := by
  -- In its cycle the attempt is the last one, because it was not refused.
  have hcycle : ∀ {c : Cycle ω} {o : Outcome}, c.Tried s call P o → a ∈ c.attempts →
      c.attempts.getLast? = some a ∧ o = a.outcome := by
    rintro c o ⟨request, htries⟩ hmem
    refine htries.of_reached hmem ?_
    have houtcome := (htries.genuine_of_mem a hmem).outcome
    rcases Attempt.outcome_cases houtcome with ⟨_, -, ho⟩ | ⟨hr, -⟩ | ⟨hr, -⟩
    · rw [ho] at final
      cases final
    · exact hr
    · exact hr
  induction h with
  | settled tried =>
    rw [Story.attempts_cons, Story.attempts_nil, List.append_nil] at ha ⊢
    exact hcycle tried ha
  | expired tried timeout =>
    rw [Story.attempts_cons, Story.attempts_nil, List.append_nil] at ha
    rw [← (hcycle tried ha).2] at final
    rw [(conclusive_error final).2] at timeout
    cases timeout
  | again tried timeout _ _ ih =>
    rw [Story.attempts_cons, List.mem_append] at ha
    rcases ha with hfirst | hrest
    · rw [← (hcycle tried hfirst).2] at final
      rw [(conclusive_error final).2] at timeout
      cases timeout
    · obtain ⟨hlast, houtcome⟩ := ih hrest
      exact ⟨by rw [Story.attempts_cons, List.getLast?_append, hlast, Option.some_or], houtcome⟩

/-! ## The last cycle -/

/-- How the last cycle of a call decides about it, when `spare` more cycles were allowed. -/
inductive Verdict (s : Surroundings ω) (call : Invocation) (spare : Nat) (c : Cycle ω) :
    Outcome → Prop where
  /-- No instance could be reached. -/
  | exhausted (exhausted : c.Exhausted call.method.connectRetry.toNat)
    (reading : c.reading = none) :
    Verdict s call spare c
      (.error (unreachable call (c.attempts.map Attempt.node) (lastReason none c.attempts)))
  /-- The last send came to something, and there is no reason or no room for another cycle. -/
  | settled {a : Attempt ω} (last : c.attempts.getLast? = some a) (reached : a.refused = false)
    (reading : c.reading = none) (final : spare = 0 ∨ a.timedOut = false) :
    Verdict s call spare c a.outcome
  /-- There would have been another cycle, but the inherited deadline had passed. -/
  | expired {a : Attempt ω} {r : Reading ω} (last : c.attempts.getLast? = some a)
    (timedOut : a.timedOut = true) (room : 0 < spare) (reading : c.reading = some r)
    (late : r.Late) :
    Verdict s call spare c (.error (Deadline.exceeded call))

/-- The cycle in which nobody was reached, and nothing else, comes to an access error. -/
theorem Cycle.Tried.exhausted_or_settled {c : Cycle ω} {outcome : Outcome}
    (h : c.Tried s call P outcome) :
    (c.Exhausted call.method.connectRetry.toNat ∧ outcome =
      .error (unreachable call (c.attempts.map Attempt.node) (lastReason none c.attempts))) ∨
    ∃ a, c.attempts.getLast? = some a ∧ a.refused = false ∧
      a.outcome = s.outcome call a.node a.answer ∧ outcome = a.outcome := by
  obtain ⟨request, htries⟩ := h
  rcases htries.ended with ⟨hrefused, hover, houtcome⟩ | ⟨-, a, ha, hr, hgenuine, houtcome⟩
  · exact .inl ⟨⟨hrefused, hover⟩, houtcome⟩
  · exact .inr ⟨a, ha, hr, hgenuine.outcome, houtcome⟩

namespace Unfolds

variable {more : Nat} {story : Story ω} {outcome : Outcome}

/-- Each attempt came to what the answer to its send means. -/
theorem outcome_of_mem (h : Unfolds s call P more story outcome) :
    ∀ a ∈ story.attempts, a.outcome = s.outcome call a.node a.answer := by
  intro a ha
  obtain ⟨request, hgenuine⟩ := h.genuine_of_mem a ha
  exact hgenuine.outcome

/-- **The last cycle decides.** The cycles before it have no say in the outcome. -/
theorem verdict (h : Unfolds s call P more story outcome) :
    ∃ earlier c spare, story = earlier ++ [c] ∧ story.length + spare = more + 1 ∧
      Verdict s call spare c outcome := by
  induction h with
  | @settled more c outcome tried reading final =>
    refine ⟨[], c, more, rfl, Nat.add_comm 1 more, ?_⟩
    rcases tried.exhausted_or_settled with ⟨hexhausted, rfl⟩ | ⟨a, ha, hr, ho, rfl⟩
    · exact .exhausted hexhausted reading
    · refine .settled ha hr reading (final.imp_right fun hfinal => ?_)
      rw [← Bool.not_eq_true, Attempt.timedOut_iff ho]
      rintro ⟨e, he, htimeout⟩
      rw [hfinal e he] at htimeout
      cases htimeout
  | @expired more c e r tried timeout reading _ late =>
    obtain ⟨-, a, ha, ht⟩ := tried.timedOut timeout
    exact ⟨[], c, more + 1, rfl, Nat.add_comm 1 (more + 1),
      .expired ha ht (Nat.succ_pos more) reading late⟩
  | @again more c e story outcome _ _ _ _ ih =>
    obtain ⟨earlier, last, spare, rfl, hlength, hverdict⟩ := ih
    refine ⟨c :: earlier, last, spare, rfl, ?_, hverdict⟩
    rw [List.length_cons]
    omega

end Unfolds

/-! ## What the outcome says about the story -/

/-- The outcome of a call with `allowed` cycles is the one that its last cycle led to. -/
structure Story.Decides (s : Surroundings ω) (call : Invocation) (allowed : Nat)
    (story : Story ω) (outcome : Outcome) : Prop where
  /-- Each send came to what its answer means. -/
  outcomes : ∀ a ∈ story.attempts, a.outcome = s.outcome call a.node a.answer
  /-- The outcome is conclusive, a time-out or an access error. -/
  kinds : conclusive outcome = true ∨ (∃ e, outcome = .error e ∧ e.isTimeout = true) ∨
    ∃ provider service attempts cause,
      outcome = .error (.access provider service attempts cause)
  noConnect : ∀ address message, outcome ≠ .error (.connect address message)
  /-- A conclusive outcome is that of the last send. -/
  conclusive : ∀ o, conclusive o = true →
    (outcome = o ↔ ∃ a, story.attempts.getLast? = some a ∧ a.outcome = o)
  /-- A time-out is that of the last send in the last cycle there may be, or a retried cycle
  was not stamped because the inherited deadline had passed. -/
  timeout : ∀ e, e.isTimeout = true →
    (outcome = .error e ↔
      (story.length = allowed ∧ ∃ c a, story.getLast? = some c ∧
        c.attempts.getLast? = some a ∧ a.outcome = .error e) ∨
      (e = Deadline.exceeded call ∧ ∃ c r, story.getLast? = some c ∧ c.reading = some r ∧ r.Late))
  /-- An access error comes of a last cycle that ran out of budget or candidates. -/
  access : (∃ provider service attempts cause,
      outcome = .error (.access provider service attempts cause)) ↔
    ∃ c, story.getLast? = some c ∧ c.Exhausted call.method.connectRetry.toNat
  /-- The access error counts the sends of the last cycle and quotes the last of them. -/
  report : ∀ c provider service attempts cause, story.getLast? = some c →
    outcome = .error (.access provider service attempts cause) →
      provider = call.service.provider ∧ service = call.service.name ∧
      attempts.toNat = c.attempts.length ∧ (cause = none ↔ attempts = 0) ∧
      ∀ a, c.attempts.getLast? = some a →
        ∃ e, a.outcome = .error e ∧ e.isConnect = true ∧ cause = some e.message

namespace Verdict

variable {spare : Nat} {c : Cycle ω} {outcome : Outcome} {earlier : Story ω}

theorem kinds (h : Verdict s call spare c outcome)
    (outcomes : ∀ a ∈ c.attempts, a.outcome = s.outcome call a.node a.answer) :
    conclusive outcome = true ∨ (∃ e, outcome = .error e ∧ e.isTimeout = true) ∨
      ∃ provider service attempts cause,
        outcome = .error (.access provider service attempts cause) := by
  cases h with
  | exhausted => exact .inr (.inr ⟨_, _, _, _, rfl⟩)
  | @settled a last reached =>
    have houtcome := outcomes a (List.mem_of_getLast? last)
    rcases Attempt.outcome_of_reached houtcome reached with ⟨-, htimeout⟩ | ⟨-, hconclusive⟩
    · exact .inr (.inl htimeout)
    · exact .inl hconclusive
  | expired => exact .inr (.inl ⟨_, rfl, rfl⟩)

theorem noConnect (h : Verdict s call spare c outcome)
    (outcomes : ∀ a ∈ c.attempts, a.outcome = s.outcome call a.node a.answer)
    (address message : String) : outcome ≠ .error (.connect address message) := by
  intro ho
  rcases h.kinds outcomes with hconclusive | ⟨e, he, ht⟩ | ⟨_, _, _, _, haccess⟩
  · rw [ho] at hconclusive
    cases hconclusive
  · rw [ho] at he
    cases he
    cases ht
  · rw [ho] at haccess
    cases haccess

theorem conclusive_iff (h : Verdict s call spare c outcome)
    (outcomes : ∀ a ∈ Story.attempts (earlier ++ [c]),
      a.outcome = s.outcome call a.node a.answer)
    (again : ∀ c ∈ earlier, c.TimedOut) {o : Outcome} (ho : conclusive o = true) :
    outcome = o ↔
      ∃ a, (Story.attempts (earlier ++ [c])).getLast? = some a ∧ a.outcome = o := by
  constructor
  · rintro rfl
    cases h with
    | exhausted => cases ho
    | @settled a last =>
      refine ⟨a, ?_, rfl⟩
      rw [Story.attempts_append, Story.attempts_cons, Story.attempts_nil, List.append_nil,
        List.getLast?_append, last, Option.some_or]
    | expired => cases ho
  · rintro ⟨a, ha, rfl⟩
    have houtcome := outcomes a (List.mem_of_getLast? ha)
    have htimedOut := Attempt.timedOut_of_conclusive houtcome ho
    -- The last send need not be one of the last cycle, but then it timed out.
    have hlast : c.attempts.getLast? = some a := by
      rcases Story.getLast?_attempts again ha with hlast | ht
      · exact hlast
      · rw [htimedOut] at ht
        cases ht
    cases h with
    | exhausted exhausted =>
      obtain ⟨message, -, hm⟩ :=
        Attempt.outcome_of_refused houtcome (exhausted.1 a (List.mem_of_getLast? hlast))
      rw [hm] at ho
      cases ho
    | settled last =>
      rw [last] at hlast
      cases hlast
      rfl
    | expired last timedOut =>
      rw [last] at hlast
      cases hlast
      rw [timedOut] at htimedOut
      cases htimedOut

theorem timeout_iff (h : Verdict s call spare c outcome)
    (outcomes : ∀ a ∈ c.attempts, a.outcome = s.outcome call a.node a.answer)
    {e : CallError} (he : e.isTimeout = true) :
    outcome = .error e ↔
      (spare = 0 ∧ ∃ a, c.attempts.getLast? = some a ∧ a.outcome = .error e) ∨
      (e = Deadline.exceeded call ∧ ∃ r, c.reading = some r ∧ r.Late) := by
  constructor
  · intro ho
    cases h with
    | exhausted =>
      cases ho
      cases he
    | @settled a last _ _ final =>
      refine .inl ⟨final.resolve_right fun htimedOut => ?_, a, last, ho⟩
      have houtcome := outcomes a (List.mem_of_getLast? last)
      rw [(Attempt.timedOut_iff houtcome).mpr ⟨e, ho, he⟩] at htimedOut
      cases htimedOut
    | expired _ _ _ reading late =>
      cases ho
      exact .inr ⟨rfl, _, reading, late⟩
  · rintro (⟨hspare, a, ha, ho⟩ | ⟨rfl, r, hr, -⟩)
    · cases h with
      | exhausted exhausted =>
        have hmem := List.mem_of_getLast? ha
        obtain ⟨message, -, hm⟩ := Attempt.outcome_of_refused (outcomes a hmem)
          (exhausted.1 a hmem)
        rw [hm] at ho
        cases ho
        cases he
      | settled last =>
        rw [last] at ha
        cases ha
        exact ho
      | expired _ _ room => omega
    · cases h with
      | exhausted _ reading =>
        rw [reading] at hr
        cases hr
      | settled _ _ reading =>
        rw [reading] at hr
        cases hr
      | expired => rfl

/-- Nothing but the sends of the cycle is told to the caller when none was reached. -/
theorem eq_unreachable (h : Verdict s call spare c outcome)
    (exhausted : c.Exhausted call.method.connectRetry.toNat) :
    outcome =
      .error (unreachable call (c.attempts.map Attempt.node) (lastReason none c.attempts)) := by
  cases h with
  | exhausted => rfl
  | @settled a last reached =>
    rw [exhausted.1 a (List.mem_of_getLast? last)] at reached
    cases reached
  | @expired a _ last timedOut =>
    have hrefused := exhausted.1 a (List.mem_of_getLast? last)
    rw [Attempt.refused_of_timedOut timedOut] at hrefused
    cases hrefused

theorem access_iff (h : Verdict s call spare c outcome)
    (outcomes : ∀ a ∈ c.attempts, a.outcome = s.outcome call a.node a.answer) :
    (∃ provider service attempts cause,
      outcome = .error (.access provider service attempts cause)) ↔
    c.Exhausted call.method.connectRetry.toNat := by
  constructor
  · rintro ⟨provider, service, attempts, cause, ho⟩
    cases h with
    | exhausted exhausted => exact exhausted
    | @settled a last reached =>
      have houtcome := outcomes a (List.mem_of_getLast? last)
      rcases Attempt.outcome_of_reached houtcome reached with ⟨-, e, he, ht⟩ | ⟨-, hconclusive⟩
      · rw [he] at ho
        cases ho
        cases ht
      · rw [ho] at hconclusive
        cases hconclusive
    | expired => cases ho
  · intro hexhausted
    exact ⟨_, _, _, _, h.eq_unreachable hexhausted⟩

theorem report (h : Verdict s call spare c outcome)
    (outcomes : ∀ a ∈ c.attempts, a.outcome = s.outcome call a.node a.answer)
    (length_le : c.attempts.length ≤ call.method.connectRetry.toNat)
    {provider service : String} {attempts : UInt32} {cause : Option String}
    (ho : outcome = .error (.access provider service attempts cause)) :
    provider = call.service.provider ∧ service = call.service.name ∧
      attempts.toNat = c.attempts.length ∧ (cause = none ↔ attempts = 0) ∧
      ∀ a, c.attempts.getLast? = some a →
        ∃ e, a.outcome = .error e ∧ e.isConnect = true ∧ cause = some e.message := by
  have hexhausted := (h.access_iff outcomes).mp ⟨provider, service, attempts, cause, ho⟩
  rw [h.eq_unreachable hexhausted] at ho
  simp only [unreachable, Except.error.injEq, CallError.access.injEq, List.length_map] at ho
  obtain ⟨rfl, rfl, rfl, rfl⟩ := ho
  have hcount : (UInt32.ofNat c.attempts.length).toNat = c.attempts.length :=
    toNat_ofNat_of_le length_le
  have hreason : ∀ a, c.attempts.getLast? = some a →
      ∃ e, a.outcome = .error e ∧ e.isConnect = true ∧ lastReason none c.attempts = some e := by
    intro a ha
    have hmem := List.mem_of_getLast? ha
    obtain ⟨message, hanswer, houtcome⟩ :=
      Attempt.outcome_of_refused (outcomes a hmem) (hexhausted.1 a hmem)
    exact ⟨_, houtcome, rfl, lastReason_of_getLast? ha hanswer none⟩
  refine ⟨rfl, rfl, hcount, ?_, fun a ha => ?_⟩
  · rw [← UInt32.toNat_inj, hcount]
    cases ha : c.attempts.getLast? with
    | none =>
      rw [List.getLast?_eq_none_iff] at ha
      simp [ha, lastReason]
    | some a =>
      obtain ⟨e, -, -, he⟩ := hreason a ha
      have hpos : 0 < c.attempts.length := List.length_pos_of_mem (List.mem_of_getLast? ha)
      simp only [he, Option.map_some, reduceCtorEq, UInt32.toNat_zero, false_iff]
      omega
  · obtain ⟨e, he, hconnect, hlast⟩ := hreason a ha
    exact ⟨e, he, hconnect, by rw [hlast, Option.map_some]⟩

end Verdict

theorem Unfolds.decides {more : Nat} {story : Story ω} {outcome : Outcome}
    (h : Unfolds s call P more story outcome) : story.Decides s call (more + 1) outcome := by
  have hregular := h.regular
  have houtcomes := h.outcome_of_mem
  obtain ⟨earlier, c, spare, rfl, hlength, hverdict⟩ := h.verdict
  have hagain : ∀ c ∈ earlier, c.TimedOut := by
    have hagain := hregular.again
    rwa [List.dropLast_concat] at hagain
  have hlast : List.getLast? (earlier ++ [c]) = some c := List.getLast?_concat
  have hcycle : ∀ a ∈ c.attempts, a.outcome = s.outcome call a.node a.answer :=
    fun a ha => houtcomes a (by simp [ha])
  refine ⟨houtcomes, hverdict.kinds hcycle, hverdict.noConnect hcycle,
    fun o ho => hverdict.conclusive_iff houtcomes hagain ho, fun e he => ?_, ?_, ?_⟩
  · have hspare : spare = 0 ↔ List.length (earlier ++ [c]) = more + 1 := by omega
    rw [hverdict.timeout_iff hcycle he, hspare, hlast]
    simp
  · rw [hverdict.access_iff hcycle, hlast]
    simp
  · intro d provider service attempts cause hd ho
    obtain rfl : c = d := by rwa [hlast, Option.some.injEq] at hd
    exact hverdict.report hcycle (hregular.cycle c (by simp)).length_le ho

/-- **The last cycle decides about a call.** Of a call whose first request can be encoded, the
outcome is that of the last send in the last cycle, unless this one was refused or there was
none: then it is an access error about that cycle. A send that timed out or was cancelled is the
last word only if no cycle was left, or the inherited deadline had passed. -/
theorem failover_is_decided (hs : s.Orderly) (scene : Scene ω)
    (he : scene.invocation.encode.isOk = true) :
    ∃ (outcome : Outcome) (after : Scene ω) (story : Story ω),
      s.failover scene = (.done outcome, after) ∧ s.record scene = story.events ∧
      story.Regular scene.invocation.method.connectRetry.toNat
        (max 1 scene.invocation.method.timeoutRetry.toNat) ∧
      story.Decides s scene.invocation (max 1 scene.invocation.method.timeoutRetry.toNat)
        outcome := by
  obtain ⟨story, outcome, after, hunfolds, hrun, hrecord⟩ :=
    failover_unfolds (hs.invariant scene.invocation) he scene rfl
  have hcycles : scene.invocation.method.timeoutRetry.toNat - 1 + 1 =
      max 1 scene.invocation.method.timeoutRetry.toNat := by omega
  refine ⟨outcome, after, story, hrun, hrecord, ?_, ?_⟩
  · rw [← hcycles]
    exact hunfolds.regular
  · rw [← hcycles]
    exact hunfolds.decides

/-- A call of two cycles through a link to two instances, neither of which can be reached. -/
theorem greeting_is_decided :
    let network := Script.linked []
    let s := (Script.client network).surroundings (some 0)
    let scene := Script.greeting 2 2 network
    scene.invocation.encode.isOk = true ∧
    ∃ (outcome : Outcome) (after : Scene _) (story : Story _),
      s.failover scene = (.done outcome, after) ∧ s.record scene = story.events ∧
      story.Regular 2 2 ∧ story.Decides s scene.invocation 2 outcome := by
  intro network s scene
  have he : scene.invocation.encode.isOk = true := by rfl
  exact ⟨he, failover_is_decided (Script.orderly network (some 0)) scene he⟩

end RemoteCall
